import VideoSurveillance.Library.Runs
import VideoSurveillance.Server.SocketWriter

namespace VideoSurveillance

inductive Callback (A : Type) where
  | socketSetMode
  | other (a : A)
  deriving DecidableEq

def Callback.updatesWriter {A : Type} : Callback A → Bool
  | .socketSetMode => true
  | .other _ => false

structure Call (A : Type) where
  callback : Callback A
  newMode : Mode
  motionDetected : Int32
  deriving DecidableEq

structure ModeHandler (A : Type) where
  mode : Mode
  callbackList : List (Callback A)
  writer : SocketWriter
  calls : List (Call A)
  deriving DecidableEq

namespace ModeHandler
variable {A : Type}

def loaded : ModeHandler A := ⟨.idle,[],.start,[]⟩

def initModeHandler (s : ModeHandler A) : ModeHandler A :=
  { s with mode := .idle, callbackList := [] }

def callback (newMode : Mode) (motionDetected : Int32) (c : Callback A) (s : ModeHandler A) :
    ModeHandler A :=
  let s := { s with calls := s.calls ++ [⟨c,newMode,motionDetected⟩] }
  match c with
  | .socketSetMode => { s with writer := s.writer.socketSetMode newMode motionDetected }
  | .other _ => s

def callbackWalk (newMode : Mode) (motionDetected : Int32) :
    List (Callback A) → ModeHandler A → ModeHandler A
  | [], s => s
  | current :: next, s =>
    callbackWalk newMode motionDetected next (callback newMode motionDetected current s)

def setMode (newMode : Mode) (motionDetected : Int32) (s : ModeHandler A) : ModeHandler A :=
  if s.mode ≠ newMode then
    callbackWalk newMode motionDetected s.callbackList { s with mode := newMode }
  else s

def registerOnChangeCallback (c : Callback A) (allocated : Bool) (s : ModeHandler A) :
    ModeHandler A :=
  if allocated then { s with callbackList := c :: s.callbackList } else s

inductive Event (A : Type) where
  | registerOnChangeCallback (c : Callback A) (allocated : Bool)
  | setMode (newMode : Mode) (motionDetected : Int32)
  deriving DecidableEq

def step (s : ModeHandler A) : Event A → Option (ModeHandler A)
  | .registerOnChangeCallback c allocated => some (s.registerOnChangeCallback c allocated)
  | .setMode newMode motionDetected => some (s.setMode newMode motionDetected)

def system (A : Type) : Runs.System (ModeHandler A) (Event A) where
  init := loaded.initModeHandler
  step := step

def recordMotion (s : ModeHandler A) (e : Event A) (last : Int32) : Int32 :=
  match e with
  | .setMode .movie motionDetected => if s.mode = .idle then motionDetected else last
  | _ => last

def tracked (A : Type) : Runs.System (ModeHandler A × Int32) (Event A) :=
  (system A).track 0 recordMotion

def registration : Event A → Option (Callback A)
  | .registerOnChangeCallback c true => some c
  | _ => none

def registrations (events : List (Event A)) : List (Callback A) := events.filterMap registration

theorem callback_spec (m : Mode) (f : Int32) (c : Callback A) (s : ModeHandler A) :
    callback m f c s = { s with
      calls := s.calls ++ [⟨c,m,f⟩]
      writer := if c.updatesWriter then s.writer.socketSetMode m f else s.writer } := by
  cases c with
  | socketSetMode => rfl
  | other a => rfl

theorem callbackWalk_spec (m : Mode) (f : Int32) (cs : List (Callback A)) (s : ModeHandler A) :
    callbackWalk m f cs s = { s with
      calls := s.calls ++ cs.map (fun c => ⟨c,m,f⟩)
      writer := if cs.any Callback.updatesWriter then s.writer.socketSetMode m f
        else s.writer } := by
  induction cs generalizing s with
  | nil => simp [callbackWalk]
  | cons c cs ih =>
    rw [callbackWalk,ih,callback_spec]
    cases c with
    | socketSetMode => simp [Callback.updatesWriter,SocketWriter.socketSetMode_again]
    | other a => simp [Callback.updatesWriter]

theorem setMode_same {s : ModeHandler A} {m : Mode} (f : Int32) (h : s.mode = m) :
    s.setMode m f = s := if_neg (not_not_intro h)

theorem setMode_changed {s : ModeHandler A} {m : Mode} (f : Int32) (h : s.mode ≠ m) :
    s.setMode m f = { s with
      mode := m
      calls := s.calls ++ s.callbackList.map (fun c => ⟨c,m,f⟩)
      writer := if s.callbackList.any Callback.updatesWriter then s.writer.socketSetMode m f
        else s.writer } := by
  rw [setMode,if_pos h,callbackWalk_spec]

theorem setMode_callbackList (s : ModeHandler A) (m : Mode) (f : Int32) :
    (s.setMode m f).callbackList = s.callbackList := by
  rcases eq_or_ne s.mode m with h | h
  · rw [setMode_same f h]
  · rw [setMode_changed f h]

theorem callbackList_run {events : List (Event A)} {s : ModeHandler A}
    (hrun : (system A).run events = some s) : s.callbackList = (registrations events).reverse := by
  induction events using List.reverseRecOn generalizing s with
  | nil =>
    cases hrun
    rfl
  | append_singleton events e ih =>
    obtain ⟨t,ht,hs⟩ := (system A).run_snoc_some.mp hrun
    rw [registrations,List.filterMap_append,List.reverse_append,← registrations.eq_1 events,← ih ht]
    cases e with
    | registerOnChangeCallback c allocated =>
      cases hs
      cases allocated <;> rfl
    | setMode m f =>
      cases hs
      exact t.setMode_callbackList m f

structure Mirrored (x : ModeHandler A × Int32) : Prop where
  mode : x.1.writer.mode = x.1.mode
  motionBit : x.1.writer.motionBit = if x.1.mode = .movie ∧ x.2 ≠ 0 then 2 else 0

def WriterRegistered (x : ModeHandler A × Int32) (e : Event A) : Prop :=
  ∀ m f, e = .setMode m f → x.1.callbackList.any Callback.updatesWriter = true

theorem mirrored_setMode {x : ModeHandler A × Int32} (h : Mirrored x)
    (hreg : x.1.callbackList.any Callback.updatesWriter = true) (m : Mode) (f : Int32) :
    Mirrored (x.1.setMode m f,recordMotion x.1 (.setMode m f) x.2) := by
  obtain ⟨s,last⟩ := x
  rcases eq_or_ne s.mode m with hm | hm
  · have hlast : recordMotion s (.setMode m f) last = last := by
      subst hm
      cases hs : s.mode <;> simp [recordMotion,hs]
    rw [setMode_same f hm,hlast]
    exact h
  · have hw : s.writer.mode ≠ m := h.mode ▸ hm
    have hbit := h.motionBit
    rw [setMode_changed f hm,if_pos hreg,SocketWriter.socketSetMode_changed f hw]
    refine ⟨rfl,?_⟩
    cases m with
    | idle => simp
    | movie =>
      have hidle := Mode.eq_idle_of_ne_movie hm
      simp only [hidle] at hbit
      simp [recordMotion,hidle,hbit]

theorem mirrored_step {x y : ModeHandler A × Int32} {e : Event A} (h : Mirrored x)
    (hreg : WriterRegistered x e) (hs : (tracked A).step x e = some y) : Mirrored y := by
  obtain ⟨hstep,hlast⟩ := (system A).track_step.mp hs
  obtain ⟨t,last⟩ := y
  simp only at hstep hlast
  subst hlast
  cases e with
  | registerOnChangeCallback c allocated =>
    cases hstep
    cases allocated <;> exact ⟨h.mode,h.motionBit⟩
  | setMode m f =>
    cases hstep
    exact mirrored_setMode h (hreg m f rfl) m f

def setupEvents (setup : List (Callback A × Bool)) : List (Event A) :=
  setup.map (fun r => .registerOnChangeCallback r.1 r.2)

theorem setup_before_setMode {setup : List (Callback A × Bool)} {events past : List (Event A)}
    {m : Mode} {f : Int32} (h : past ++ [.setMode m f] <+: setupEvents setup ++ events) :
    setupEvents setup <+: past := by
  have hnot : .setMode m f ∉ setupEvents setup := by simp [setupEvents]
  rcases List.prefix_or_prefix_of_prefix h (List.prefix_append _ _) with hpre | hpre
  · exact absurd (hpre.subset (by simp)) hnot
  · rcases List.prefix_concat_iff.mp hpre with heq | hpast
    · exact absurd (by simp [heq]) hnot
    · exact hpast

theorem registered_of_setup {setup : List (Callback A × Bool)} {past : List (Event A)}
    {s : ModeHandler A} (hsetup : (.socketSetMode,true) ∈ setup) (hpast : setupEvents setup <+: past)
    (hrun : (system A).run past = some s) :
    s.callbackList.any Callback.updatesWriter = true := by
  have hmem : .socketSetMode ∈ s.callbackList := by
    rw [callbackList_run hrun,List.mem_reverse,registrations,List.mem_filterMap]
    exact ⟨_,hpast.subset (List.mem_map_of_mem hsetup),rfl⟩
  exact List.any_eq_true.mpr ⟨_,hmem,rfl⟩

theorem mode_changes_delivered (setup : List (Callback A × Bool)) (events : List (Event A))
    (x : ModeHandler A × Int32) (hsetup : (.socketSetMode,true) ∈ setup)
    (hrun : (tracked A).run (setupEvents setup ++ events) = some x) :
    (∀ m f, m ≠ x.1.mode → (x.1.setMode m f).calls =
      x.1.calls ++ (registrations (setupEvents setup ++ events)).reverse.map (fun c => ⟨c,m,f⟩)) ∧
    (∀ m f, m = x.1.mode → (x.1.setMode m f).calls = x.1.calls) ∧
    x.1.writer.mode = x.1.mode ∧
    x.1.writer.motionBit = if x.1.mode = .movie ∧ x.2 ≠ 0 then 2 else 0 := by
  have hplain : ∀ past (z : ModeHandler A × Int32), (tracked A).run past = some z →
      (system A).run past = some z.1 := by
    intro past z hz
    rw [← (system A).track_run 0 recordMotion past,← tracked,hz]
    rfl
  have hmeets : (tracked A).Meets WriterRegistered (setupEvents setup ++ events) := by
    rintro past _ z hpast hz m f rfl
    exact registered_of_setup hsetup (setup_before_setMode hpast) (hplain past z hz)
  have hmirror : Mirrored x :=
    (tracked A).invariant_of_meets ⟨rfl,rfl⟩ (fun _ _ _ => mirrored_step) hmeets hrun
  refine ⟨?_,?_,hmirror.mode,hmirror.motionBit⟩
  · intro m f hm
    rw [setMode_changed f hm.symm,callbackList_run (hplain _ x hrun)]
  · intro m f hm
    rw [setMode_same f hm.symm]

def motionThenIdle : List (Event Unit) :=
  [.setMode .movie 1,.registerOnChangeCallback (.other ()) true,.setMode .idle 0]

def afterMotionThenIdle : ModeHandler Unit where
  mode := .idle
  callbackList := [.other (),.socketSetMode]
  writer := ⟨.idle,0⟩
  calls := [⟨.socketSetMode,.movie,1⟩,⟨.other (),.idle,0⟩,⟨.socketSetMode,.idle,0⟩]

theorem mode_changes_delivered_motionThenIdle :
    (afterMotionThenIdle.setMode .movie 0).calls =
      afterMotionThenIdle.calls ++ [⟨.other (),.movie,0⟩,⟨.socketSetMode,.movie,0⟩] := by
  have h := mode_changes_delivered [(.socketSetMode,true)] motionThenIdle (afterMotionThenIdle,1)
    (by simp) (by decide)
  exact h.1 .movie 0 (by decide)

end ModeHandler

end VideoSurveillance
