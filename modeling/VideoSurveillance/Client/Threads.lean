import VideoSurveillance.Library.WaitSet
import VideoSurveillance.Client.ServerWriter
import VideoSurveillance.Client.Update

namespace VideoSurveillance.Client

-- the nested setMotionDetected(false) comes before the same notifyAll()
def updateGuiNotifies (k : Camera) (c : Client) : Bool :=
  if (c.model k).movieModeOn ∧ c.mode k ≠ .movie then true
  else if ¬ (c.model k).movieModeOn ∧ c.mode k ≠ .idle then true
  else false

def showFrameNotifies (frame : ServerFrame) (c : Client) : Bool :=
  match Camera.ofNumber frame.server with
  | some k =>
    (c.assignImage k frame.image).updateGuiNotifies k ||
      ((c.setNewImage k frame.image).assignDelayTime k
        (frame.received - frame.sent).toInt32).updateGuiNotifies k
  | none => false

theorem notify_quiet {k : Camera} {c : Client} (h : c.updateGuiNotifies k = false) :
    notify (.camera k) c = c := by
  unfold updateGuiNotifies at h
  split_ifs at h with hmovie hidle
  rcases notify_camera_cases k c with ⟨hon,hn⟩ | ⟨-,-,hn⟩ | ⟨hoff,hm,-⟩
  · have hm : c.mode k = .movie := by
      by_contra hne
      exact hmovie ⟨hon,hne⟩
    rw [hn,← hm,setMode,mode,PerCamera.set_get]
  · exact hn
  · exact absurd ⟨by simp [hoff],hm⟩ hidle

theorem modes_settings (c : Client) :
    (notify .settings c).currentCameraMode = c.currentCameraMode := by
  rcases eq_or_ne c.settings.syncModeOn c.currentState with hs | hs
  · rw [notify_settings_agrees hs]
  · rw [notify_settings_differs hs]

theorem modes_setSyncMode (sync : Bool) (c : Client) :
    (c.setSyncMode sync).currentCameraMode = c.currentCameraMode := modes_settings _

theorem modes_clickAuto (c : Client) : c.clickAuto.currentCameraMode = c.currentCameraMode :=
  modes_settings _

theorem modes_adaptSyncTime (c : Client) :
    c.adaptSyncTime.currentCameraMode = c.currentCameraMode := by
  unfold adaptSyncTime
  split_ifs <;> rfl

theorem modes_autoSynchronous (c : Client) :
    c.autoSynchronous.currentCameraMode = c.currentCameraMode := by
  unfold autoSynchronous
  split_ifs
  · exact modes_setSyncMode true _
  · rfl

theorem modes_autoAsynchronous (c : Client) :
    c.autoAsynchronous.currentCameraMode = c.currentCameraMode := by
  unfold autoAsynchronous
  split_ifs
  · exact modes_setSyncMode false _
  · rfl

theorem modes_showFrame {frame : ServerFrame} {c : Client}
    (h : c.showFrameNotifies frame = false) :
    (c.showFrame frame).currentCameraMode = c.currentCameraMode := by
  unfold showFrameNotifies at h
  unfold showFrame
  cases hserver : Camera.ofNumber frame.server with
  | none => rfl
  | some k =>
    simp only [hserver] at h
    obtain ⟨himage,hdelay⟩ := Bool.or_eq_false_iff.mp h
    simp only [setDelayTime]
    rw [notify_quiet hdelay,setNewImage,notify_quiet himage]
    rfl

end VideoSurveillance.Client

namespace VideoSurveillance.Updater

def asynchronousBranchNotifies (s : State) : Bool :=
  match s.client.frames.pop with
  | none => false
  | some (frameToShow,rest) =>
    { s.client with frames := rest }.autoSynchronous.showFrameNotifies frameToShow

def synchronousPopNotifies (s : State) : Bool :=
  let c := s.client.autoAsynchronous
  match c.frames.pop with
  | none => false
  | some (frameToShow,rest) => { c with frames := rest }.showFrameNotifies frameToShow

def synchronousBranchNotifies (t₁ t₂ : Int64) (s : State) : Bool :=
  let s := { s with client := s.client.adaptSyncTime }
  match s.client.frames.peek with
  | none => false
  | some head =>
    let nextDispTime := head.sent + s.client.currentSyncTimeMs
    if nextDispTime > t₁ ∧ nextDispTime > t₂ then false else synchronousPopNotifies s

def afterTimedWaitNotifies (t₁ : Int64) (s : State) : Bool :=
  match s.client.frames.peek with
  | none => false
  | some head =>
    let nextDispTime := head.sent + s.client.currentSyncTimeMs
    if nextDispTime > t₁ then false else synchronousPopNotifies s

def updateNotifies (t₁ t₂ : Int64) (s : State) : Bool :=
  if 0 = s.client.frames.size then false
  else if s.client.currentState = Client.ASYNCHRONOUS_MODE then asynchronousBranchNotifies s
  else synchronousBranchNotifies t₁ t₂ s

theorem modes_asynchronousBranch {s : State} (h : asynchronousBranchNotifies s = false) :
    (asynchronousBranch s).client.currentCameraMode = s.client.currentCameraMode := by
  unfold asynchronousBranchNotifies at h
  unfold asynchronousBranch
  cases hpop : s.client.frames.pop with
  | none => rfl
  | some p =>
    simp only [hpop] at h
    exact (Client.modes_showFrame h).trans (Client.modes_autoSynchronous _)

theorem modes_synchronousPop {s : State} (reading : Int64) (h : synchronousPopNotifies s = false) :
    (synchronousPop reading s).client.currentCameraMode = s.client.currentCameraMode := by
  simp only [synchronousPopNotifies] at h
  simp only [synchronousPop]
  cases hpop : s.client.autoAsynchronous.frames.pop with
  | none => exact Client.modes_autoAsynchronous s.client
  | some p =>
    simp only [hpop] at h
    exact (Client.modes_showFrame h).trans (Client.modes_autoAsynchronous s.client)

theorem modes_synchronousBranch {s : State} {t₁ t₂ : Int64} (t₃ : Int64)
    (h : synchronousBranchNotifies t₁ t₂ s = false) :
    (synchronousBranch t₁ t₂ t₃ s).client.currentCameraMode = s.client.currentCameraMode := by
  have hadapt := Client.modes_adaptSyncTime s.client
  simp only [synchronousBranchNotifies] at h
  simp only [synchronousBranch]
  cases hpeek : s.client.adaptSyncTime.frames.peek with
  | none => exact hadapt
  | some head =>
    simp only [hpeek] at h
    simp only
    split_ifs with hlater hstill
    · exact hadapt
    · rw [if_neg (fun hboth => hstill hboth.2)] at h
      exact (modes_synchronousPop t₃ h).trans hadapt
    · rw [if_neg (fun hboth => hlater hboth.1)] at h
      exact (modes_synchronousPop t₁ h).trans hadapt

theorem modes_afterTimedWait {s : State} {t₁ : Int64} (t₂ : Int64)
    (h : afterTimedWaitNotifies t₁ s = false) :
    (afterTimedWait t₁ t₂ s).client.currentCameraMode = s.client.currentCameraMode := by
  unfold afterTimedWaitNotifies at h
  unfold afterTimedWait
  cases hpeek : s.client.frames.peek with
  | none => rfl
  | some head =>
    simp only [hpeek] at h
    simp only
    split_ifs with hlater
    · rfl
    · rw [if_neg hlater] at h
      exact modes_synchronousPop t₂ h

theorem modes_update {s : State} {t₁ t₂ : Int64} (t₃ : Int64)
    (h : updateNotifies t₁ t₂ s = false) :
    (update t₁ t₂ t₃ s).client.currentCameraMode = s.client.currentCameraMode := by
  unfold updateNotifies at h
  unfold update
  split_ifs at h ⊢
  · rfl
  · exact modes_asynchronousBranch h
  · exact modes_synchronousBranch t₃ h

end VideoSurveillance.Updater

namespace VideoSurveillance.Threads
open Runs (Monitor)

inductive Thread where
  | updater
  | writer (k : Camera)
  deriving DecidableEq

structure Writer where
  place : ServerWriter.Place
  written : List UInt8
  deriving DecidableEq

structure State where
  updater : Updater.State
  waitedFrom : Int64
  writers : PerCamera Writer
  deriving DecidableEq

def State.client (s : State) : Client := s.updater.client

def State.setClient (s : State) (c : Client) : State :=
  { s with updater := { s.updater with client := c } }

def State.writer (s : State) (k : Camera) : Writer := s.writers.get k

def State.setWriter (s : State) (k : Camera) (w : Writer) : State :=
  { s with writers := s.writers.set k w }

@[simp] theorem writer_setWriter (s : State) (k : Camera) (w : Writer) :
    (s.setWriter k w).writer k = w := s.writers.get_set k w

theorem writer_setWriter_ne (s : State) {j k : Camera} (h : j ≠ k) (w : Writer) :
    (s.setWriter k w).writer j = s.writer j := s.writers.get_set_ne h w

inductive Event where
  | changeMode (server : Int32) (mode : Mode)
  | assignMovieMode (j : Camera) (movie : Bool)
  | updateGui (j : Camera)
  | playout (e : Updater.Event)
  | enterNextMode (k : Camera)
  | wake (k : Camera)
  | write (k : Camera)
  deriving DecidableEq

-- the reading of getTime() that a timed wait's timeout is counted from
def waitedFrom (s : State) : Updater.Event → Int64
  | .update _ t₂ _ => t₂
  | .wake t₁ t₂ _ =>
    match s.updater.place with
    | .timedWait _ => t₁
    | _ => t₂
  | _ => s.waitedFrom

def writerStep (k : Camera) (e : ServerWriter.Event) (s : State) : Option State :=
  (ServerWriter.step k ⟨s.client,(s.writer k).place,(s.writer k).written⟩ e).map
    (fun t => s.setWriter k ⟨t.place,t.written⟩)

def step (filter : Int64 → Int64 → Int64) (s : State) : Event → Option State
  | .changeMode server mode => some (s.setClient (s.client.changeMode server mode))
  | .assignMovieMode j movie => some (s.setClient (s.client.assignMovieMode j movie))
  | .updateGui j => some (s.setClient (s.client.notify (.camera j)))
  | .playout e => (Updater.step filter s.updater e).map
      (fun u => { s with updater := u, waitedFrom := waitedFrom s e })
  | .enterNextMode k => writerStep k .enterNextMode s
  | .wake k => writerStep k .wake s
  | .write k => writerStep k .write s

def actor : Event → Option Thread
  | .playout (.update _ _ _) => some .updater
  | .playout (.wake _ _ _) => some .updater
  | .enterNextMode k => some (.writer k)
  | .wake k => some (.writer k)
  | .write k => some (.writer k)
  | _ => none

def waits : Thread → State → Bool
  | .updater, s =>
    match s.updater.place with
    | .awaitFrame => true
    | .timedWait _ => true
    | _ => false
  | .writer k, s =>
    match (s.writer k).place with
    | .waiting _ => true
    | _ => false

def notifies (s : State) : Event → Bool
  | .changeMode _ _ => true
  | .updateGui j => s.client.updateGuiNotifies j
  | .playout (.addFrame _ _) => true
  | .playout (.update t₁ t₂ _) => Updater.updateNotifies t₁ t₂ s.updater
  | .playout (.wake t₁ t₂ _) =>
    match s.updater.place with
    | .timedWait _ => Updater.afterTimedWaitNotifies t₁ s.updater
    | _ => Updater.updateNotifies t₁ t₂ s.updater
  | _ => false

def due (s : State) : Event → Bool
  | .playout (.wake t₁ _ _) =>
    match s.updater.place with
    | .timedWait timeout => decide (s.waitedFrom + timeout ≤ t₁)
    | _ => false
  | _ => false

def monitor (filter : Int64 → Int64 → Int64) : Monitor State Thread Event where
  init := ⟨⟨.start,.outside,[]⟩,0,⟨⟨.outside,[]⟩,⟨.outside,[]⟩⟩⟩
  step := step filter
  actor := actor
  waits := waits
  notifies := notifies
  due := due

def Idle : Thread → State → Prop
  | .updater, s => (s.updater.place = .awaitFrame ∧ s.client.frames.size = 0) ∨
      ∃ timeout head, s.updater.place = .timedWait timeout ∧ s.client.frames.peek = some head ∧
        s.waitedFrom + timeout = head.sent + s.client.currentSyncTimeMs
  | .writer k, s => (s.writer k).place = .waiting (s.client.mode k)

def forgetPlace : Updater.Place → Updater.Place
  | .timedWait _ => .timedWait 0
  | p => p

def forgetUpdater (u : Updater.State) : Updater.State := { u with place := forgetPlace u.place }

def forgetTimeout (s : State) : State :=
  { s with updater := forgetUpdater s.updater, waitedFrom := 0 }

theorem writerStep_some {k : Camera} {e : ServerWriter.Event} {s t : State}
    (h : writerStep k e s = some t) :
    ∃ w, ServerWriter.step k ⟨s.client,(s.writer k).place,(s.writer k).written⟩ e = some w ∧
      t = s.setWriter k ⟨w.place,w.written⟩ := by
  obtain ⟨w,hw,rfl⟩ := Option.map_eq_some_iff.mp h
  exact ⟨w,hw,rfl⟩

theorem idle_setClient {s : State} {c : Client} {t : Thread}
    (hplayout : Client.SamePlayout s.client c)
    (hmodes : c.currentCameraMode = s.client.currentCameraMode) (h : Idle t s) :
    Idle t (s.setClient c) := by
  cases t with
  | updater =>
    rcases h with ⟨hplace,hempty⟩ | ⟨timeout,head,hplace,hpeek,hdeadline⟩
    · refine .inl ⟨hplace,?_⟩
      rw [← hempty]
      exact congrArg FrameBuffer.size hplayout.frames
    · refine .inr ⟨timeout,head,hplace,?_,?_⟩
      · rw [← hpeek]
        exact congrArg FrameBuffer.peek hplayout.frames
      · rw [← hplayout.currentSyncTimeMs] at hdeadline
        exact hdeadline
  | writer k =>
    have hmode : c.mode k = s.client.mode k := by rw [Client.mode,hmodes,← Client.mode]
    rw [Idle] at h ⊢
    exact h.trans (congrArg ServerWriter.Place.waiting hmode.symm)

theorem idle_writerStep {k : Camera} {e : ServerWriter.Event} {s s' : State} {t : Thread}
    (hstep : writerStep k e s = some s') (hother : some (Thread.writer k) ≠ some t)
    (h : Idle t s) : Idle t s' := by
  obtain ⟨w,-,rfl⟩ := writerStep_some hstep
  cases t with
  | updater => exact h
  | writer j =>
    have hj : j ≠ k := fun hj => hother (by rw [hj])
    rw [Idle] at h ⊢
    rw [writer_setWriter_ne s hj,h]
    rfl

theorem idle_nextModeLoop {k : Camera} {s : State} {oldMode : Mode} {w : List UInt8}
    (h : waits (.writer k)
      (s.setWriter k ⟨ServerWriter.nextModeLoop k s.client oldMode,w⟩) = true) :
    Idle (.writer k) (s.setWriter k ⟨ServerWriter.nextModeLoop k s.client oldMode,w⟩) := by
  rw [Idle,writer_setWriter]
  rw [waits,writer_setWriter] at h
  unfold ServerWriter.nextModeLoop at h ⊢
  split_ifs at h ⊢ with hm
  · rw [← hm]
    rfl

theorem enter_writer {k : Camera} {e : ServerWriter.Event} {s s' : State}
    (he : e = .enterNextMode ∨ e = .wake ∨ e = .write) (hstep : writerStep k e s = some s')
    (h : waits (.writer k) s' = true) : Idle (.writer k) s' := by
  obtain ⟨w,hw,rfl⟩ := writerStep_some hstep
  rcases he with rfl | rfl | rfl
  · simp only [ServerWriter.step] at hw
    split at hw
    · cases hw
      exact idle_nextModeLoop h
    · cases hw
  · simp only [ServerWriter.step] at hw
    split at hw
    · cases hw
      exact idle_nextModeLoop h
    · cases hw
  · simp only [ServerWriter.step] at hw
    split at hw
    · cases hw
      rw [waits,writer_setWriter] at h
      cases h
    · cases hw

-- what the updater's own step leaves behind when it ends in wait()
def Slept (u : Updater.State) (from' : Int64) : Prop :=
  (u.place = .awaitFrame → u.client.frames.size = 0) ∧
  ∀ timeout, u.place = .timedWait timeout → ∃ head, u.client.frames.peek = some head ∧
    from' + timeout = head.sent + u.client.currentSyncTimeMs

theorem slept_of_place {u : Updater.State} {from' : Int64}
    (h : u.place = .outside ∨ u.place = .dead) : Slept u from' := by
  constructor
  · intro hplace
    rcases h with h | h <;> cases h.symm.trans hplace
  · intro timeout hplace
    rcases h with h | h <;> cases h.symm.trans hplace

theorem add_timeout (a t : Int64) : t + (a - t) = a := by
  rw [Int64.add_comm,Int64.sub_add_cancel]

theorem slept_synchronousPop (reading from' : Int64) (s : Updater.State) :
    Slept (Updater.synchronousPop reading s) from' := by
  apply slept_of_place
  simp only [Updater.synchronousPop]
  split
  · exact .inr rfl
  · exact .inl rfl

theorem slept_asynchronousBranch (from' : Int64) (s : Updater.State) :
    Slept (Updater.asynchronousBranch s) from' := by
  apply slept_of_place
  unfold Updater.asynchronousBranch
  split
  · exact .inr rfl
  · exact .inl rfl

theorem slept_timedWait {u : Updater.State} {head : ServerFrame} {a t : Int64}
    (hplace : u.place = .timedWait (a - t)) (hpeek : u.client.frames.peek = some head)
    (ha : a = head.sent + u.client.currentSyncTimeMs) : Slept u t := by
  constructor
  · intro h
    cases hplace.symm.trans h
  · intro timeout h
    cases hplace.symm.trans h
    exact ⟨head,hpeek,(add_timeout a t).trans ha⟩

theorem slept_synchronousBranch (t₁ t₂ t₃ : Int64) (s : Updater.State) :
    Slept (Updater.synchronousBranch t₁ t₂ t₃ s) t₂ := by
  simp only [Updater.synchronousBranch]
  split
  · exact slept_of_place (.inr rfl)
  · next head hpeek =>
    split_ifs
    · exact slept_timedWait rfl hpeek rfl
    · exact slept_synchronousPop t₃ t₂ _
    · exact slept_synchronousPop t₁ t₂ _

theorem slept_update (t₁ t₂ t₃ : Int64) (s : Updater.State) :
    Slept (Updater.update t₁ t₂ t₃ s) t₂ := by
  unfold Updater.update
  split_ifs with hsize
  · exact ⟨fun _ => hsize.symm,nofun⟩
  · exact slept_asynchronousBranch t₂ s
  · exact slept_synchronousBranch t₁ t₂ t₃ s

theorem slept_afterTimedWait (t₁ t₂ : Int64) (s : Updater.State) :
    Slept (Updater.afterTimedWait t₁ t₂ s) t₁ := by
  unfold Updater.afterTimedWait
  split
  · exact slept_of_place (.inr rfl)
  · next head hpeek =>
    simp only
    split_ifs
    · exact slept_timedWait rfl hpeek rfl
    · exact slept_synchronousPop t₂ t₁ s

theorem idle_of_slept {s : State} (hslept : Slept s.updater s.waitedFrom)
    (h : waits .updater s = true) : Idle .updater s := by
  simp only [waits] at h
  split at h
  · next hplace => exact .inl ⟨hplace,hslept.1 hplace⟩
  · next timeout hplace =>
    obtain ⟨head,hpeek,hdeadline⟩ := hslept.2 timeout hplace
    exact .inr ⟨timeout,head,hplace,hpeek,hdeadline⟩
  · cases h

theorem enter_idle {filter : Int64 → Int64 → Int64} {s s' : State} {e : Event} {t : Thread}
    (hstep : step filter s e = some s') (hactor : actor e = some t) (h : waits t s' = true) :
    Idle t s' := by
  cases e with
  | changeMode | assignMovieMode | updateGui => cases hactor
  | enterNextMode k =>
    cases hactor
    exact enter_writer (.inl rfl) hstep h
  | wake k =>
    cases hactor
    exact enter_writer (.inr (.inl rfl)) hstep h
  | write k =>
    cases hactor
    exact enter_writer (.inr (.inr rfl)) hstep h
  | playout e =>
    obtain ⟨u,hu,rfl⟩ := Option.map_eq_some_iff.mp hstep
    cases Updater.stepped hu with
    | addFrame | clickSyncMode | clickAuto => cases hactor
    | update t₁ t₂ t₃ =>
      cases hactor
      exact idle_of_slept (slept_update t₁ t₂ t₃ s.updater) h
    | resumed t₁ t₂ t₃ hplace =>
      cases hactor
      refine idle_of_slept ?_ h
      rw [waitedFrom,hplace]
      exact slept_update t₁ t₂ t₃ s.updater
    | woken t₁ t₂ t₃ hplace =>
      cases hactor
      refine idle_of_slept ?_ h
      rw [waitedFrom,hplace]
      exact slept_afterTimedWait t₁ t₂ s.updater

theorem idle_playout {s : State} {u : Updater.State} {from' : Int64} {k : Camera}
    (hmodes : u.client.currentCameraMode = s.client.currentCameraMode)
    (h : Idle (.writer k) s) : Idle (.writer k) { s with updater := u, waitedFrom := from' } := by
  have hmode : u.client.mode k = s.client.mode k := by rw [Client.mode,hmodes,← Client.mode]
  rw [Idle] at h ⊢
  exact h.trans (congrArg ServerWriter.Place.waiting hmode.symm)

theorem frame_idle {filter : Int64 → Int64 → Int64} {s s' : State} {e : Event} {t : Thread}
    (hstep : step filter s e = some s') (hactor : actor e ≠ some t)
    (hquiet : notifies s e = false) (h : Idle t s) : Idle t s' := by
  cases e with
  | changeMode => cases hquiet
  | assignMovieMode j movie =>
    cases hstep
    exact idle_setClient ⟨rfl,rfl,rfl⟩ rfl h
  | updateGui j =>
    cases hstep
    rw [Client.notify_quiet hquiet]
    exact h
  | enterNextMode k | wake k | write k => exact idle_writerStep hstep hactor h
  | playout e =>
    obtain ⟨u,hu,rfl⟩ := Option.map_eq_some_iff.mp hstep
    cases Updater.stepped hu with
    | addFrame => cases hquiet
    | clickSyncMode sync =>
      exact idle_setClient (Client.samePlayout_setSyncMode sync _)
        (Client.modes_setSyncMode sync _) h
    | clickAuto => exact idle_setClient (Client.samePlayout_clickAuto _) (Client.modes_clickAuto _) h
    | update t₁ t₂ t₃ =>
      cases t with
      | updater => exact absurd rfl hactor
      | writer k => exact idle_playout (Updater.modes_update t₃ hquiet) h
    | resumed t₁ t₂ t₃ hplace =>
      rw [notifies,hplace] at hquiet
      cases t with
      | updater => exact absurd rfl hactor
      | writer k => exact idle_playout (Updater.modes_update t₃ hquiet) h
    | woken t₁ t₂ t₃ hplace =>
      rw [notifies,hplace] at hquiet
      cases t with
      | updater => exact absurd rfl hactor
      | writer k => exact idle_playout (Updater.modes_afterTimedWait t₂ hquiet) h

theorem signals (filter : Int64 → Int64 → Int64) : (monitor filter).Signals Idle where
  enter := enter_idle
  frame := frame_idle

theorem no_lost_wakeup (filter : Int64 → Int64 → Int64) (events : List Event)
    (x : Monitor.Guarded State Thread) (hrun : (monitor filter).guarded.run events = some x) :
    (∀ k, x.asleep (.writer k) = true →
      (x.state.writer k).place = .waiting (x.state.client.mode k)) ∧
    (x.state.updater.place = .awaitFrame → x.asleep .updater = true →
      x.state.client.frames.size = 0) ∧
    ∀ timeout, x.state.updater.place = .timedWait timeout → x.asleep .updater = true →
      ∃ head, x.state.client.frames.peek = some head ∧
        x.state.waitedFrom + timeout = head.sent + x.state.client.currentSyncTimeMs := by
  have hidle := (signals filter).run hrun
  refine ⟨fun k hk => hidle (.writer k) hk,fun hplace hasleep => ?_,fun timeout hplace hasleep => ?_⟩
  · rcases hidle .updater hasleep with ⟨-,hempty⟩ | ⟨timeout,head,htimed,-⟩
    · exact hempty
    · cases hplace.symm.trans htimed
  · rcases hidle .updater hasleep with ⟨hawait,-⟩ | ⟨timeout',head,htimed,hpeek,hdeadline⟩
    · cases hplace.symm.trans hawait
    · cases hplace.symm.trans htimed
      exact ⟨head,hpeek,hdeadline⟩

def sleepingThreads : List Event :=
  [.enterNextMode .one,.playout (.update 0 0 0),.changeMode 1 .movie,.wake .one,.write .one,
    .playout (.clickSyncMode true),.playout (.addFrame 7 ⟨[1],5,7,2⟩),.playout (.wake 8 9 9),
    .enterNextMode .one]

theorem no_lost_wakeup_sleepingThreads :
    ∃ x, (monitor Client.exactFilter).guarded.run sleepingThreads = some x ∧
      x.asleep (.writer .one) = true ∧ (x.state.writer .one).place = .waiting .movie ∧
      x.asleep .updater = true ∧ x.state.updater.place = .timedWait 496 ∧
      ∃ head, x.state.client.frames.peek = some head ∧ head.sent = 5 ∧
        x.state.waitedFrom + 496 = head.sent + x.state.client.currentSyncTimeMs := by
  have hplace : ((monitor Client.exactFilter).guarded.run sleepingThreads).map
      (fun x => x.state.updater.place) = some (.timedWait 496) := by decide
  obtain ⟨x,hx,hp⟩ := Option.map_eq_some_iff.mp hplace
  have hrun := no_lost_wakeup Client.exactFilter sleepingThreads x hx
  cases hx
  obtain ⟨head,hpeek,hdeadline⟩ := hrun.2.2 496 hp rfl
  refine ⟨_,rfl,rfl,hrun.1 .one rfl,rfl,hp,head,hpeek,?_,hdeadline⟩
  cases hpeek
  rfl

theorem playout_forget (filter : Int64 → Int64 → Int64) (u : Updater.State) (e : Updater.Event) :
    (Updater.step filter (forgetUpdater u) e).map forgetUpdater =
      (Updater.step filter u e).map forgetUpdater := by
  obtain ⟨c,place,popped⟩ := u
  cases e with
  | addFrame | clickSyncMode | clickAuto => cases place <;> rfl
  | update => cases place <;> rfl
  | wake => cases place <;> rfl

theorem forgetPlace_idem (p : Updater.Place) : forgetPlace (forgetPlace p) = forgetPlace p := by
  cases p <;> rfl

theorem forget_setClient (s : State) (c : Client) :
    forgetTimeout ((forgetTimeout s).setClient c) = forgetTimeout (s.setClient c) := by
  simp only [forgetTimeout,forgetUpdater,State.setClient,forgetPlace_idem]

theorem forget_setWriter (s : State) (k : Camera) (w : Writer) :
    forgetTimeout ((forgetTimeout s).setWriter k w) = forgetTimeout (s.setWriter k w) := by
  simp only [forgetTimeout,forgetUpdater,State.setWriter,forgetPlace_idem]

theorem writerStep_forget (k : Camera) (e : ServerWriter.Event) (s : State) :
    (writerStep k e (forgetTimeout s)).map forgetTimeout =
      (writerStep k e s).map forgetTimeout := by
  rw [writerStep,writerStep,Option.map_map,Option.map_map]
  congr 1
  funext w
  exact forget_setWriter s k _

theorem step_forget (filter : Int64 → Int64 → Int64) (s : State) (e : Event) :
    (step filter (forgetTimeout s) e).map forgetTimeout =
      (step filter s e).map forgetTimeout := by
  cases e with
  | changeMode | assignMovieMode | updateGui => exact congrArg some (forget_setClient s _)
  | enterNextMode k | wake k | write k => exact writerStep_forget k _ s
  | playout e =>
    have hplayout := playout_forget filter s.updater e
    have hmap := congrArg (Option.map (fun u => (⟨u,0,s.writers⟩ : State))) hplayout
    simp only [Option.map_map] at hmap
    simp only [step,Option.map_map]
    exact hmap

theorem step_of_forget {filter : Int64 → Int64 → Int64} {s s' u : State} {e : Event}
    (h : forgetTimeout u = forgetTimeout s) (hstep : step filter s e = some s') :
    ∃ u', step filter u e = some u' ∧ forgetTimeout u' = forgetTimeout s' := by
  have hmap : (step filter u e).map forgetTimeout = some (forgetTimeout s') := by
    rw [← step_forget,h,step_forget,hstep,Option.map_some]
  exact Option.map_eq_some_iff.mp hmap

theorem still_writer {k : Camera} {e : ServerWriter.Event} {u u' : State}
    (he : e = .enterNextMode ∨ e = .wake ∨ e = .write) (h : Idle (.writer k) u)
    (hstep : writerStep k e u = some u') : u' = u := by
  obtain ⟨w,hw,rfl⟩ := writerStep_some hstep
  rw [Idle] at h
  rw [h] at hw
  rcases he with rfl | rfl | rfl
  · cases hw
  · cases hw
    have hwriter : (⟨.waiting (u.client.mode k),(u.writer k).written⟩ : Writer) = u.writer k := by
      rw [← h]
    rw [ServerWriter.enter_waits k ⟨u.client,.outside,[]⟩,hwriter]
    exact congrArg (fun w => { u with writers := w }) (u.writers.set_get k)
  · cases hw

theorem still_updater {filter : Int64 → Int64 → Int64} {e : Updater.Event} {s : State}
    {u : Updater.State} (hactor : actor (.playout e) = some .updater) (h : Idle .updater s)
    (hdue : due s (.playout e) = false) (hstep : Updater.step filter s.updater e = some u) :
    forgetUpdater u = forgetUpdater s.updater := by
  cases Updater.stepped hstep with
  | addFrame | clickSyncMode | clickAuto => cases hactor
  | update t₁ t₂ t₃ hplace =>
    rcases h with ⟨hawait,-⟩ | ⟨timeout,head,htimed,-,-⟩
    · cases hplace.symm.trans hawait
    · cases hplace.symm.trans htimed
  | resumed t₁ t₂ t₃ hplace =>
    rcases h with ⟨hawait,hempty⟩ | ⟨timeout,head,htimed,-,-⟩
    · have hempty' : 0 = s.updater.client.frames.size := hempty.symm
      rw [Updater.update,if_pos hempty',← hplace]
    · cases hplace.symm.trans htimed
  | woken t₁ t₂ t₃ hplace =>
    rcases h with ⟨hawait,-⟩ | ⟨timeout,head,htimed,hpeek,hdeadline⟩
    · cases hplace.symm.trans hawait
    · have hlater : head.sent + s.updater.client.currentSyncTimeMs > t₁ := by
        simp only [due,htimed,decide_eq_false_iff_not] at hdue
        rw [hdeadline] at hdue
        exact Int64.not_le.mp hdue
      have hpeek' : s.updater.client.frames.peek = some head := hpeek
      simp only [Updater.afterTimedWait,hpeek',if_pos hlater,forgetUpdater,htimed,forgetPlace]

theorem forgets (filter : Int64 → Int64 → Int64) :
    (monitor filter).Forgets Idle forgetTimeout where
  step := step_of_forget
  idle := by
    intro s s' e t hactor hidle hdue hstep
    cases e with
    | changeMode | assignMovieMode | updateGui => cases hactor
    | enterNextMode k =>
      cases hactor
      rw [still_writer (.inl rfl) hidle hstep]
    | wake k =>
      cases hactor
      rw [still_writer (.inr (.inl rfl)) hidle hstep]
    | write k =>
      cases hactor
      rw [still_writer (.inr (.inr rfl)) hidle hstep]
    | playout e =>
      obtain ⟨u,hu,rfl⟩ := Option.map_eq_some_iff.mp hstep
      have hupdater : t = .updater := by
        cases e <;> cases hactor <;> rfl
      subst hupdater
      rw [forgetTimeout,still_updater hactor hidle hdue hu,forgetTimeout]

theorem notifications_suffice (filter : Int64 → Int64 → Int64) (events : List Event) (s : State)
    (hrun : (monitor filter).run events = some s) :
    ∃ needed x, needed.Sublist events ∧ (monitor filter).guarded.run needed = some x ∧
      (monitor filter).run needed = some x.state ∧ forgetTimeout x.state = forgetTimeout s := by
  obtain ⟨needed,x,hsub,hguarded,hforget⟩ := (forgets filter).run (signals filter) hrun
  exact ⟨needed,x,hsub,hguarded,(monitor filter).run_of_guarded hguarded,hforget⟩

def uselessWakes : List Event :=
  [.enterNextMode .one,.wake .one,.playout (.update 0 0 0),.playout (.wake 1 1 1),
    .changeMode 1 .movie,.wake .one]

theorem notifications_suffice_uselessWakes :
    ∃ s needed x, (monitor Client.exactFilter).run uselessWakes = some s ∧
      (monitor Client.exactFilter).guarded.run uselessWakes = none ∧
      needed.Sublist uselessWakes ∧ (monitor Client.exactFilter).guarded.run needed = some x ∧
      (x.state.writer .one).place = .writing .movie ∧ forgetTimeout x.state = forgetTimeout s := by
  obtain ⟨needed,x,hsub,hrun,-,hforget⟩ :=
    notifications_suffice Client.exactFilter uselessWakes _ rfl
  refine ⟨_,needed,x,rfl,rfl,hsub,hrun,?_,hforget⟩
  have hwriters := congrArg State.writers hforget
  exact congrArg (fun writers => (writers.get Camera.one).place) hwriters

end VideoSurveillance.Threads
