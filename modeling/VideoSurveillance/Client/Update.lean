import VideoSurveillance.Client.CameraModes

namespace VideoSurveillance.Client

def setSyncMode (sync : Bool) (c : Client) : Client := notify .settings (c.assignSyncMode sync)

def setAutoMode (auto : Bool) (c : Client) : Client := notify .settings (c.assignAutoMode auto)

def clickAuto (c : Client) : Client :=
  let c := { c with autoButton := !c.autoButton }
  c.setAutoMode c.autoButton

def addFrame (filter : Int64 → Int64 → Int64) (frame : ServerFrame) (c : Client) : Client :=
  let c := { c with frames := c.frames.add frame }
  let delay := frame.received - frame.sent
  match Camera.ofNumber frame.server with
  | some k =>
    { c with movingAverageServer :=
        c.movingAverageServer.set k (filter (c.movingAverageServer.get k) delay) }
  | none => c

def exactFilter (average delay : Int64) : Int64 :=
  Int64.ofInt ((4 * average.toInt + delay.toInt).tdiv 5)

def averageGap (c : Client) : Int64 :=
  (c.movingAverageServer.one - c.movingAverageServer.two).abs

def adaptSyncTime (c : Client) : Client :=
  if c.currentSyncTimeMs * 2 < max c.movingAverageServer.one c.movingAverageServer.one then
    { c with currentSyncTimeMs := 4 * c.currentSyncTimeMs }
  else c

def autoSynchronous (c : Client) : Client :=
  if c.syncAuto ∧ c.averageGap < SYNC_TIME_MS - SYNC_TIME_HYSTERESIS_MS then
    { c with currentState := SYNCHRONOUS_MODE }.setSyncMode true
  else c

def autoAsynchronous (c : Client) : Client :=
  if c.syncAuto ∧ c.averageGap > SYNC_TIME_MS + SYNC_TIME_HYSTERESIS_MS then
    { c with currentState := ASYNCHRONOUS_MODE }.setSyncMode false
  else c

def showFrame (frame : ServerFrame) (c : Client) : Client :=
  match Camera.ofNumber frame.server with
  | some k =>
    (c.setNewImage k frame.image).setDelayTime k (frame.received - frame.sent).toInt32
  | none => c

structure SamePlayout (c d : Client) : Prop where
  frames : d.frames = c.frames
  currentSyncTimeMs : d.currentSyncTimeMs = c.currentSyncTimeMs
  movingAverageServer : d.movingAverageServer = c.movingAverageServer

theorem SamePlayout.refl (c : Client) : SamePlayout c c := ⟨rfl,rfl,rfl⟩

theorem SamePlayout.trans {c d e : Client} (h : SamePlayout c d) (k : SamePlayout d e) :
    SamePlayout c e :=
  ⟨k.frames.trans h.frames,k.currentSyncTimeMs.trans h.currentSyncTimeMs,
    k.movingAverageServer.trans h.movingAverageServer⟩

theorem samePlayout_notify (o : Observable) (c : Client) : SamePlayout c (notify o c) := by
  cases o with
  | camera k =>
    rcases notify_camera_cases k c with ⟨-,hn⟩ | ⟨-,-,hn⟩ | ⟨-,-,hn⟩
    · rw [hn]
      exact ⟨rfl,rfl,rfl⟩
    · rw [hn]
      exact .refl c
    · rw [hn]
      exact ⟨rfl,rfl,rfl⟩
  | settings =>
    rcases eq_or_ne c.settings.syncModeOn c.currentState with hs | hs
    · rw [notify_settings_agrees hs]
      exact ⟨rfl,rfl,rfl⟩
    · rw [notify_settings_differs hs]
      exact ⟨rfl,rfl,rfl⟩

theorem SamePlayout.notified {c d : Client} (h : SamePlayout c d) (o : Observable) :
    SamePlayout c (notify o d) := h.trans (samePlayout_notify o d)

theorem samePlayout_setSyncMode (sync : Bool) (c : Client) : SamePlayout c (c.setSyncMode sync) := by
  have h : SamePlayout c (c.assignSyncMode sync) := ⟨rfl,rfl,rfl⟩
  exact h.notified .settings

theorem samePlayout_clickAuto (c : Client) : SamePlayout c c.clickAuto := by
  have h : SamePlayout c ({ c with autoButton := !c.autoButton }.assignAutoMode !c.autoButton) :=
    ⟨rfl,rfl,rfl⟩
  exact h.notified .settings

theorem samePlayout_autoSynchronous (c : Client) : SamePlayout c c.autoSynchronous := by
  unfold autoSynchronous
  split_ifs
  · have h : SamePlayout c { c with currentState := SYNCHRONOUS_MODE } := ⟨rfl,rfl,rfl⟩
    exact h.trans (samePlayout_setSyncMode true _)
  · exact .refl c

theorem samePlayout_autoAsynchronous (c : Client) : SamePlayout c c.autoAsynchronous := by
  unfold autoAsynchronous
  split_ifs
  · have h : SamePlayout c { c with currentState := ASYNCHRONOUS_MODE } := ⟨rfl,rfl,rfl⟩
    exact h.trans (samePlayout_setSyncMode false _)
  · exact .refl c

theorem samePlayout_setNewImage (k : Camera) (image : List UInt8) (c : Client) :
    SamePlayout c (c.setNewImage k image) := by
  have h : SamePlayout c (c.assignImage k image) := ⟨rfl,rfl,rfl⟩
  exact h.notified (.camera k)

theorem samePlayout_setDelayTime (k : Camera) (time : Int32) (c : Client) :
    SamePlayout c (c.setDelayTime k time) := by
  have h : SamePlayout c (c.assignDelayTime k time) := ⟨rfl,rfl,rfl⟩
  exact h.notified (.camera k)

theorem samePlayout_showFrame (frame : ServerFrame) (c : Client) :
    SamePlayout c (c.showFrame frame) := by
  unfold showFrame
  split
  · exact (samePlayout_setNewImage _ _ c).trans (samePlayout_setDelayTime _ _ _)
  · exact .refl c

theorem addFrame_frames (filter : Int64 → Int64 → Int64) (frame : ServerFrame) (c : Client) :
    (c.addFrame filter frame).frames = c.frames.add frame := by
  unfold addFrame
  cases Camera.ofNumber frame.server <;> rfl

theorem addFrame_syncTime (filter : Int64 → Int64 → Int64) (frame : ServerFrame) (c : Client) :
    (c.addFrame filter frame).currentSyncTimeMs = c.currentSyncTimeMs := by
  unfold addFrame
  cases Camera.ofNumber frame.server <;> rfl

theorem adaptSyncTime_frames (c : Client) : c.adaptSyncTime.frames = c.frames := by
  unfold adaptSyncTime
  split_ifs <;> rfl

end VideoSurveillance.Client

namespace VideoSurveillance.Updater

inductive Place where
  | outside
  | awaitFrame
  | timedWait (timeout : Int64)
  | dead
  deriving DecidableEq

structure Popped where
  frame : ServerFrame
  reading : Option Int64
  deriving DecidableEq

structure State where
  client : Client
  place : Place
  popped : List Popped
  deriving DecidableEq

def finish (c : Client) (frame : ServerFrame) (reading : Option Int64) (popped : List Popped) :
    State :=
  ⟨c.showFrame frame,.outside,popped ++ [⟨frame,reading⟩]⟩

def asynchronousBranch (s : State) : State :=
  match s.client.frames.pop with
  | none => { s with place := .dead }
  | some (frameToShow,rest) =>
    finish { s.client with frames := rest }.autoSynchronous frameToShow none s.popped

def synchronousPop (reading : Int64) (s : State) : State :=
  let c := s.client.autoAsynchronous
  match c.frames.pop with
  | none => { s with client := c, place := .dead }
  | some (frameToShow,rest) => finish { c with frames := rest } frameToShow (some reading) s.popped

def synchronousBranch (t₁ t₂ t₃ : Int64) (s : State) : State :=
  let s := { s with client := s.client.adaptSyncTime }
  match s.client.frames.peek with
  | none => { s with place := .dead }
  | some head =>
    let nextDispTime := head.sent + s.client.currentSyncTimeMs
    if nextDispTime > t₁ then
      if nextDispTime > t₂ then { s with place := .timedWait (nextDispTime - t₂) }
      else synchronousPop t₃ s
    else synchronousPop t₁ s

def afterTimedWait (t₁ t₂ : Int64) (s : State) : State :=
  match s.client.frames.peek with
  | none => { s with place := .dead }
  | some head =>
    let nextDispTime := head.sent + s.client.currentSyncTimeMs
    if nextDispTime > t₁ then { s with place := .timedWait (nextDispTime - t₁) }
    else synchronousPop t₂ s

def update (t₁ t₂ t₃ : Int64) (s : State) : State :=
  if 0 = s.client.frames.size then { s with place := .awaitFrame }
  else if s.client.currentState = Client.ASYNCHRONOUS_MODE then asynchronousBranch s
  else synchronousBranch t₁ t₂ t₃ s

inductive Event where
  | addFrame (now : Int64) (frame : ServerFrame)
  | update (t₁ t₂ t₃ : Int64)
  | wake (t₁ t₂ t₃ : Int64)
  | clickSyncMode (sync : Bool)
  | clickAuto
  deriving DecidableEq

def step (filter : Int64 → Int64 → Int64) (s : State) : Event → Option State
  | .addFrame _ frame => some { s with client := s.client.addFrame filter frame }
  | .update t₁ t₂ t₃ =>
    match s.place with
    | .outside => some (update t₁ t₂ t₃ s)
    | _ => none
  | .wake t₁ t₂ t₃ =>
    match s.place with
    | .awaitFrame => some (update t₁ t₂ t₃ s)
    | .timedWait _ => some (afterTimedWait t₁ t₂ s)
    | _ => none
  | .clickSyncMode sync => some { s with client := s.client.setSyncMode sync }
  | .clickAuto => some { s with client := s.client.clickAuto }

def system (filter : Int64 → Int64 → Int64) : Runs.System State Event where
  init := ⟨.start,.outside,[]⟩
  step := step filter

inductive Stepped (filter : Int64 → Int64 → Int64) (s : State) : Event → State → Prop
  | addFrame (now : Int64) (frame : ServerFrame) :
      Stepped filter s (.addFrame now frame) { s with client := s.client.addFrame filter frame }
  | update (t₁ t₂ t₃ : Int64) : s.place = .outside →
      Stepped filter s (.update t₁ t₂ t₃) (update t₁ t₂ t₃ s)
  | resumed (t₁ t₂ t₃ : Int64) : s.place = .awaitFrame →
      Stepped filter s (.wake t₁ t₂ t₃) (update t₁ t₂ t₃ s)
  | woken (t₁ t₂ t₃ : Int64) {n : Int64} : s.place = .timedWait n →
      Stepped filter s (.wake t₁ t₂ t₃) (afterTimedWait t₁ t₂ s)
  | clickSyncMode (sync : Bool) :
      Stepped filter s (.clickSyncMode sync) { s with client := s.client.setSyncMode sync }
  | clickAuto : Stepped filter s .clickAuto { s with client := s.client.clickAuto }

theorem stepped {filter : Int64 → Int64 → Int64} {s t : State} {e : Event}
    (h : step filter s e = some t) : Stepped filter s e t := by
  cases e with
  | addFrame now frame =>
    cases h
    exact .addFrame now frame
  | update t₁ t₂ t₃ =>
    simp only [step] at h
    split at h
    · next hplace =>
      cases h
      exact .update t₁ t₂ t₃ hplace
    · cases h
  | wake t₁ t₂ t₃ =>
    simp only [step] at h
    split at h
    · next hplace =>
      cases h
      exact .resumed t₁ t₂ t₃ hplace
    · next n hplace =>
      cases h
      exact .woken t₁ t₂ t₃ hplace
    · cases h
  | clickSyncMode sync =>
    cases h
    exact .clickSyncMode sync
  | clickAuto =>
    cases h
    exact .clickAuto

inductive Clicked : Event → Prop
  | sync (sync : Bool) : Clicked (.clickSyncMode sync)
  | auto : Clicked .clickAuto

structure Kept (R : Client → Client → Prop) : Prop where
  refl : ∀ c, R c c
  trans : ∀ {c d e}, R c d → R d e → R c e
  frames : ∀ c rest, R c { c with frames := rest }
  adaptSyncTime : ∀ c, R c c.adaptSyncTime
  autoSynchronous : ∀ c, R c c.autoSynchronous
  autoAsynchronous : ∀ c, R c c.autoAsynchronous
  showFrame : ∀ frame c, R c (c.showFrame frame)

namespace Kept
variable {R : Client → Client → Prop} (h : Kept R)
include h

theorem asynchronousBranch (s : State) : R s.client (asynchronousBranch s).client := by
  unfold Updater.asynchronousBranch
  split
  · exact h.refl _
  · next frame rest _ =>
    have hpop := h.frames s.client rest
    exact h.trans (h.trans hpop (h.autoSynchronous _)) (h.showFrame frame _)

theorem synchronousPop (reading : Int64) (s : State) :
    R s.client (synchronousPop reading s).client := by
  have hauto := h.autoAsynchronous s.client
  simp only [Updater.synchronousPop]
  split
  · exact hauto
  · next frame rest _ => exact h.trans (h.trans hauto (h.frames _ rest)) (h.showFrame frame _)

theorem synchronousBranch (t₁ t₂ t₃ : Int64) (s : State) :
    R s.client (synchronousBranch t₁ t₂ t₃ s).client := by
  have hadapt := h.adaptSyncTime s.client
  simp only [Updater.synchronousBranch]
  split
  · exact hadapt
  · split_ifs
    · exact hadapt
    · exact h.trans hadapt (h.synchronousPop t₃ { s with client := s.client.adaptSyncTime })
    · exact h.trans hadapt (h.synchronousPop t₁ { s with client := s.client.adaptSyncTime })

theorem afterTimedWait (t₁ t₂ : Int64) (s : State) :
    R s.client (afterTimedWait t₁ t₂ s).client := by
  unfold Updater.afterTimedWait
  split
  · exact h.refl _
  · simp only
    split_ifs
    · exact h.refl _
    · exact h.synchronousPop _ _

theorem update (t₁ t₂ t₃ : Int64) (s : State) : R s.client (update t₁ t₂ t₃ s).client := by
  unfold Updater.update
  split_ifs
  · exact h.refl _
  · exact h.asynchronousBranch s
  · exact h.synchronousBranch t₁ t₂ t₃ s

theorem step {filter : Int64 → Int64 → Int64} {s t : State} {e : Event} (he : ¬ Clicked e)
    (hadd : ∀ now frame, e = .addFrame now frame → R s.client (s.client.addFrame filter frame))
    (hstep : step filter s e = some t) : R s.client t.client := by
  cases stepped hstep with
  | addFrame now frame => exact hadd now frame rfl
  | update t₁ t₂ t₃ => exact h.update t₁ t₂ t₃ s
  | resumed t₁ t₂ t₃ => exact h.update t₁ t₂ t₃ s
  | woken t₁ t₂ => exact h.afterTimedWait t₁ t₂ s
  | clickSyncMode sync => exact absurd (.sync sync) he
  | clickAuto => exact absurd .auto he

end Kept

end VideoSurveillance.Updater
