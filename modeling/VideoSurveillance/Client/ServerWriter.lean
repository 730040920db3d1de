import VideoSurveillance.Client.CameraModes

namespace VideoSurveillance.ServerWriter

def MODE_IDLE : UInt8 := 0x30
def MODE_MOVIE : UInt8 := 0x31

def modeByte : Mode → UInt8
  | .idle => MODE_IDLE
  | .movie => MODE_MOVIE

theorem modeByte_injective {m n : Mode} (h : modeByte m = modeByte n) : m = n := by
  cases m <;> cases n <;> first | rfl | exact absurd h (by decide)

inductive Place where
  | outside
  | waiting (oldMode : Mode)
  | writing (nextMode : Mode)
  deriving DecidableEq, Repr

structure State where
  client : Client
  place : Place
  written : List UInt8
  deriving DecidableEq

inductive Event where
  | changeMode (server : Int32) (mode : Mode)
  | assignMovieMode (j : Camera) (movie : Bool)
  | updateGui (j : Camera)
  | enterNextMode
  | wake
  | write
  deriving DecidableEq, Repr

def nextModeLoop (k : Camera) (c : Client) (oldMode : Mode) : Place :=
  if c.mode k = oldMode then .waiting oldMode else .writing (c.mode k)

def step (k : Camera) (s : State) : Event → Option State
  | .changeMode server mode => some { s with client := s.client.changeMode server mode }
  | .assignMovieMode j movie => some { s with client := s.client.assignMovieMode j movie }
  | .updateGui j => some { s with client := s.client.notify (.camera j) }
  | .enterNextMode =>
    match s.place with
    | .outside => some { s with place := nextModeLoop k s.client (s.client.mode k) }
    | _ => none
  | .wake =>
    match s.place with
    | .waiting oldMode => some { s with place := nextModeLoop k s.client oldMode }
    | _ => none
  | .write =>
    match s.place with
    | .writing nextMode =>
      some { s with place := .outside, written := s.written ++ [modeByte nextMode] }
    | _ => none

def system (k : Camera) : Runs.System State Event where
  init := ⟨.start,.outside,[]⟩
  step := step k

def lastWritten (s : State) : UInt8 := s.written.getLast?.getD MODE_IDLE

def Delivered (k : Camera) (s : State) : Prop :=
  ∀ oldMode, s.place = .waiting oldMode → s.client.mode k = oldMode →
    lastWritten s = modeByte (s.client.mode k)

def recordLeft (k : Camera) (s : State) (e : Event) (left : Mode) : Mode :=
  match e, s.place with
  | .wake, .waiting oldMode => if s.client.mode k = oldMode then left else s.client.mode k
  | _, _ => left

def tracked (k : Camera) : Runs.System (State × Mode) Event :=
  (system k).track .idle (recordLeft k)

def ChangesCancel (k : Camera) (x : State × Mode) (e : Event) : Prop :=
  e = .enterNextMode → x.1.client.mode k = x.2

def Faithful (x : State × Mode) : Prop :=
  match x.1.place with
  | .outside => lastWritten x.1 = modeByte x.2
  | .waiting oldMode => lastWritten x.1 = modeByte x.2 ∧ oldMode = x.2
  | .writing nextMode => nextMode = x.2

theorem lastWritten_write (s : State) (p : Place) (m : Mode) :
    lastWritten { s with place := p, written := s.written ++ [modeByte m] } = modeByte m := by
  simp [lastWritten]

theorem enter_waits (k : Camera) (s : State) :
    nextModeLoop k s.client (s.client.mode k) = .waiting (s.client.mode k) := if_pos rfl

theorem faithful_step {k : Camera} {x y : State × Mode} {e : Event} (h : Faithful x)
    (hok : ChangesCancel k x e) (hs : (tracked k).step x e = some y) : Faithful y := by
  obtain ⟨⟨c,p,w⟩,left⟩ := x
  obtain ⟨t,left'⟩ := y
  obtain ⟨ht,hl⟩ := ((system k).track_step).mp hs
  simp only at ht hl
  cases e with
  | changeMode | assignMovieMode | updateGui =>
    simp only [system,step,Option.some.injEq] at ht
    subst ht hl
    cases p <;> exact h
  | enterNextMode =>
    cases p with
    | outside =>
      simp only [system,step,Option.some.injEq] at ht
      subst ht hl
      rw [Faithful,enter_waits k ⟨c,.outside,w⟩]
      exact ⟨h,hok rfl⟩
    | waiting | writing => simp [system,step] at ht
  | wake =>
    cases p with
    | waiting old =>
      simp only [system,step,nextModeLoop,Option.some.injEq] at ht
      subst ht hl
      rcases eq_or_ne (c.mode k) old with hm | hm
      · simpa [Faithful,recordLeft,hm,lastWritten] using h
      · simp [Faithful,recordLeft,hm]
    | outside | writing => simp [system,step] at ht
  | write =>
    cases p with
    | writing m =>
      simp only [system,step,Option.some.injEq] at ht
      subst ht hl
      obtain rfl : m = left' := h
      exact lastWritten_write ⟨c,.writing m,w⟩ .outside m
    | outside | waiting => simp [system,step] at ht

theorem delivered_of_faithful {k : Camera} {x : State × Mode} (h : Faithful x) :
    Delivered k x.1 := by
  intro old hp hm
  rw [Faithful,hp] at h
  rw [h.1,hm,h.2]

theorem lost_of_change {k : Camera} {x y : State × Mode} {e : Event} (h : Faithful x)
    (hbad : ¬ ChangesCancel k x e) (hs : (tracked k).step x e = some y) : ¬ Delivered k y.1 := by
  obtain ⟨⟨c,p,w⟩,left⟩ := x
  obtain ⟨ht,-⟩ := ((system k).track_step).mp hs
  simp only [ChangesCancel,Classical.not_imp] at hbad
  obtain ⟨rfl,hne⟩ := hbad
  cases p with
  | outside =>
    simp only [system,step,Option.some.injEq] at ht
    intro hd
    rw [← ht,enter_waits k ⟨c,.outside,w⟩] at hd
    have hlast : lastWritten ⟨c,.outside,w⟩ = modeByte left := h
    exact hne (modeByte_injective ((hd _ rfl rfl).symm.trans hlast))
  | waiting | writing => simp [system,step] at ht

theorem no_lost_mode_update_iff (k : Camera) (events : List Event) (x : State × Mode)
    (hrun : (tracked k).run events = some x) :
    (tracked k).Always (fun y => Delivered k y.1) events ↔
      (tracked k).Meets (ChangesCancel k) events :=
  (tracked k).always_iff_meets (I := Faithful) rfl (fun _ _ _ => faithful_step)
    (fun _ => delivered_of_faithful) (fun _ _ _ => lost_of_change) hrun

theorem no_lost_mode_update_iff_click :
    (tracked .one).Always (fun y => Delivered .one y.1)
        [.enterNextMode,.assignMovieMode .one true,.updateGui .one,.wake,.write,.enterNextMode] ↔
      (tracked .one).Meets (ChangesCancel .one)
        [.enterNextMode,.assignMovieMode .one true,.updateGui .one,.wake,.write,.enterNextMode] :=
  no_lost_mode_update_iff .one _
    (⟨(Client.start.assignMovieMode .one true).setMode .one .movie,.waiting .movie,[modeByte .movie]⟩,
      .movie) (by decide)

theorem early_mode_update_lost :
    ¬ ∀ (k : Camera) (events : List Event) (s : State),
      (system k).run events = some s → Delivered k s := by
  intro h
  have hd := h .one [.changeMode 1 .movie,.enterNextMode] _ rfl
  exact absurd (hd .movie (by decide) (by decide)) (by decide)

end VideoSurveillance.ServerWriter
