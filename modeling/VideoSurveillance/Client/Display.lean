import VideoSurveillance.Client.ArrivalOrder

namespace VideoSurveillance.Client

structure Untouched (c d : Client) : Prop where
  frames : d.frames = c.frames
  image : ∀ k, (d.model k).image = (c.model k).image
  delayTime : ∀ k, (d.model k).delayTime = (c.model k).delayTime

theorem Untouched.refl (c : Client) : Untouched c c := ⟨rfl,fun _ => rfl,fun _ => rfl⟩

theorem Untouched.trans {c d e : Client} (h : Untouched c d) (k : Untouched d e) : Untouched c e :=
  ⟨k.frames.trans h.frames,fun j => (k.image j).trans (h.image j),
    fun j => (k.delayTime j).trans (h.delayTime j)⟩

theorem untouched_of_camera {c d : Client} (hframes : d.frames = c.frames)
    (hcamera : d.camera = c.camera) : Untouched c d := by
  refine ⟨hframes,fun k => ?_,fun k => ?_⟩
  · rw [model,hcamera,← model]
  · rw [model,hcamera,← model]

theorem untouched_setModel {c : Client} {k : Camera} {m : CameraControlModel}
    (himage : m.image = (c.model k).image) (hdelay : m.delayTime = (c.model k).delayTime) :
    Untouched c (c.setModel k m) := by
  refine ⟨rfl,fun j => ?_,fun j => ?_⟩
  · rcases eq_or_ne j k with rfl | hj
    · rw [model_setModel,himage]
    · rw [model,setModel,PerCamera.get_set_ne _ hj,model]
  · rcases eq_or_ne j k with rfl | hj
    · rw [model_setModel,hdelay]
    · rw [model,setModel,PerCamera.get_set_ne _ hj,model]

theorem untouched_notify (o : Observable) (c : Client) : Untouched c (notify o c) := by
  cases o with
  | camera k =>
    rcases notify_camera_cases k c with ⟨-,hn⟩ | ⟨-,-,hn⟩ | ⟨-,-,hn⟩
    · rw [hn]
      exact untouched_of_camera rfl rfl
    · rw [hn]
      exact .refl c
    · rw [hn]
      have h : Untouched c (c.assignMotionDetected k false) := untouched_setModel rfl rfl
      exact h.trans (untouched_of_camera rfl rfl)
  | settings =>
    rcases eq_or_ne c.settings.syncModeOn c.currentState with hs | hs
    · rw [notify_settings_agrees hs]
      exact untouched_of_camera rfl rfl
    · rw [notify_settings_differs hs]
      exact untouched_of_camera rfl rfl

theorem Untouched.notified {c d : Client} (h : Untouched c d) (o : Observable) :
    Untouched c (notify o d) := h.trans (untouched_notify o d)

theorem untouched_setMovieMode (k : Camera) (movie : Bool) (c : Client) :
    Untouched c (c.setMovieMode k movie) :=
  (untouched_setModel (m := { c.model k with movieModeOn := movie }) rfl rfl).notified (.camera k)

theorem untouched_setMotionDetected (k : Camera) (motion : Bool) (c : Client) :
    Untouched c (c.setMotionDetected k motion) :=
  (untouched_setModel (m := { c.model k with motionDetected := motion }) rfl rfl).notified (.camera k)

theorem untouched_switchMovieModeOn (k : Camera) (c : Client) :
    Untouched c (c.switchMovieModeOn k) := by
  unfold switchMovieModeOn
  split_ifs
  · exact .refl c
  · exact untouched_setMovieMode k true c

theorem untouched_announceMotion (k : Camera) (c : Client) : Untouched c (c.announceMotion k) := by
  unfold announceMotion
  have hone := untouched_setMotionDetected .one (decide (k = .one)) c
  have htwo := hone.trans (untouched_setMotionDetected .two (decide (k = .two)) _)
  exact (htwo.trans (untouched_switchMovieModeOn .one _)).trans (untouched_switchMovieModeOn .two _)

theorem untouched_announced (k : Camera) (c : Client) :
    Untouched c (c.changeMode k.number .movie) := by
  rw [changeMode_movie]
  exact (untouched_announceMotion k c).trans (untouched_of_camera rfl rfl)

theorem untouched_setSyncMode (sync : Bool) (c : Client) : Untouched c (c.setSyncMode sync) := by
  have h : Untouched c (c.assignSyncMode sync) := untouched_of_camera rfl rfl
  exact h.notified .settings

theorem untouched_clickAuto (c : Client) : Untouched c c.clickAuto := by
  have h : Untouched c ({ c with autoButton := !c.autoButton }.assignAutoMode !c.autoButton) :=
    untouched_of_camera rfl rfl
  exact h.notified .settings

theorem untouched_autoSynchronous (c : Client) : Untouched c c.autoSynchronous := by
  unfold autoSynchronous
  split_ifs
  · have h : Untouched c { c with currentState := SYNCHRONOUS_MODE } :=
      untouched_of_camera rfl rfl
    exact h.trans (untouched_setSyncMode true _)
  · exact .refl c

theorem untouched_autoAsynchronous (c : Client) : Untouched c c.autoAsynchronous := by
  unfold autoAsynchronous
  split_ifs
  · have h : Untouched c { c with currentState := ASYNCHRONOUS_MODE } :=
      untouched_of_camera rfl rfl
    exact h.trans (untouched_setSyncMode false _)
  · exact .refl c

theorem untouched_adaptSyncTime (c : Client) : Untouched c c.adaptSyncTime := by
  unfold adaptSyncTime
  split_ifs
  · exact untouched_of_camera rfl rfl
  · exact .refl c

theorem model_addFrame (filter : Int64 → Int64 → Int64) (frame : ServerFrame) (c : Client)
    (k : Camera) : (c.addFrame filter frame).model k = c.model k := by
  unfold addFrame
  cases Camera.ofNumber frame.server <;> rfl

structure Displays (k : Camera) (shown : Option ServerFrame) (c : Client) : Prop where
  image : (c.model k).image = (shown.map ServerFrame.image).getD []
  delayTime : (c.model k).delayTime =
    (shown.map (fun frame => (frame.received - frame.sent).toInt32)).getD 0

theorem Displays.untouched {k : Camera} {shown : Option ServerFrame} {c d : Client}
    (h : Displays k shown c) (hu : Untouched c d) : Displays k shown d :=
  ⟨(hu.image k).trans h.image,(hu.delayTime k).trans h.delayTime⟩

theorem number_of_ofNumber {server : Int32} {k : Camera} (h : Camera.ofNumber server = some k) :
    server = k.number := by
  unfold Camera.ofNumber at h
  split_ifs at h with hone htwo
  · cases h
    exact hone.symm
  · cases h
    exact htwo.symm

theorem ofNumber_number (k : Camera) : Camera.ofNumber k.number = some k := by cases k <;> decide

theorem number_ne {k j : Camera} (h : k ≠ j) : j.number ≠ k.number := by
  intro hnumber
  have hj := ofNumber_number j
  rw [hnumber,ofNumber_number] at hj
  exact h (Option.some.inj hj)

theorem displays_showFrame {k : Camera} {frame : ServerFrame} (h : frame.server = k.number)
    (c : Client) : Displays k (some frame) (c.showFrame frame) := by
  have hk : Camera.ofNumber frame.server = some k := h ▸ ofNumber_number k
  simp only [showFrame,hk]
  have himage := untouched_notify (.camera k) (c.assignImage k frame.image)
  have hdelay := untouched_notify (.camera k)
    ((c.setNewImage k frame.image).assignDelayTime k (frame.received - frame.sent).toInt32)
  constructor
  · rw [setDelayTime,hdelay.image,assignDelayTime,model_setModel,setNewImage,himage.image,
      assignImage,model_setModel]
    rfl
  · rw [setDelayTime,hdelay.delayTime,assignDelayTime,model_setModel]
    rfl

theorem displays_showFrame_other {k : Camera} {frame : ServerFrame} {shown : Option ServerFrame}
    {c : Client} (h : frame.server ≠ k.number) (hc : Displays k shown c) :
    Displays k shown (c.showFrame frame) := by
  have hset : ∀ {d : Client} {j : Camera} (m : CameraControlModel), k ≠ j → Displays k shown d →
      Displays k shown (notify (.camera j) (d.setModel j m)) := by
    intro d j m hkj hd
    have hsame : (d.setModel j m).model k = d.model k := PerCamera.get_set_ne _ hkj m
    have hmodel : Displays k shown (d.setModel j m) :=
      ⟨by rw [hsame,hd.image],by rw [hsame,hd.delayTime]⟩
    exact hmodel.untouched (untouched_notify _ _)
  unfold showFrame
  split
  · next j hj =>
    have hkj : k ≠ j := by
      rintro rfl
      exact h (number_of_ofNumber hj)
    exact hset _ hkj (hset _ hkj hc)
  · exact hc

end VideoSurveillance.Client

namespace VideoSurveillance.Updater
open Client (Untouched Displays)

inductive Advances (s : State) : State → Prop
  | waits {t : State} : Untouched s.client t.client → t.popped = s.popped → Advances s t
  | pops {frame : ServerFrame} {rest : FrameBuffer} {c : Client} (reading : Option Int64) :
      s.client.frames.pop = some (frame,rest) → Untouched { s.client with frames := rest } c →
      Advances s (finish c frame reading s.popped)

theorem untouched_frames {c d : Client} (h : Untouched c d) (rest : FrameBuffer) :
    Untouched { c with frames := rest } { d with frames := rest } := ⟨rfl,h.image,h.delayTime⟩

theorem advances_asynchronousBranch (s : State) : Advances s (asynchronousBranch s) := by
  unfold asynchronousBranch
  split
  · exact .waits (.refl _) rfl
  · next hpop => exact .pops none hpop (Client.untouched_autoSynchronous _)

theorem advances_synchronousPop (reading : Int64) (s : State) :
    Advances s (synchronousPop reading s) := by
  have hauto := Client.untouched_autoAsynchronous s.client
  simp only [synchronousPop,hauto.frames]
  split
  · exact .waits hauto rfl
  · next hpop => exact .pops (some reading) hpop (untouched_frames hauto _)

theorem advances_adapted {s t : State} (h : Advances { s with client := s.client.adaptSyncTime } t) :
    Advances s t := by
  have hadapt := Client.untouched_adaptSyncTime s.client
  cases h with
  | waits hu hpopped => exact .waits (hadapt.trans hu) hpopped
  | pops reading hpop hu =>
    simp only [hadapt.frames] at hpop
    exact .pops reading hpop ((untouched_frames hadapt _).trans hu)

theorem advances_synchronousBranch (t₁ t₂ t₃ : Int64) (s : State) :
    Advances s (synchronousBranch t₁ t₂ t₃ s) := by
  apply advances_adapted
  simp only [synchronousBranch]
  split
  · exact .waits (.refl _) rfl
  · split_ifs
    · exact .waits (.refl _) rfl
    · exact advances_synchronousPop t₃ _
    · exact advances_synchronousPop t₁ _

theorem advances_update (t₁ t₂ t₃ : Int64) (s : State) : Advances s (update t₁ t₂ t₃ s) := by
  unfold update
  split_ifs
  · exact .waits (.refl _) rfl
  · exact advances_asynchronousBranch s
  · exact advances_synchronousBranch t₁ t₂ t₃ s

theorem advances_afterTimedWait (t₁ t₂ : Int64) (s : State) :
    Advances s (afterTimedWait t₁ t₂ s) := by
  unfold afterTimedWait
  split
  · exact .waits (.refl _) rfl
  · simp only
    split_ifs
    · exact .waits (.refl _) rfl
    · exact advances_synchronousPop t₂ s

def lastShown (k : Camera) (s : State) : Option ServerFrame :=
  (FrameQueue.ofServer k.number s.queue.popped).getLast?

def OnScreen (s : State) : Prop := ∀ k, Displays k (lastShown k s) s.client

theorem onScreen_untouched {s t : State} (h : OnScreen s) (hu : Untouched s.client t.client)
    (hpopped : t.popped = s.popped) : OnScreen t := by
  intro k
  have hshown : lastShown k t = lastShown k s := by rw [lastShown,State.queue,hpopped]; rfl
  rw [hshown]
  exact (h k).untouched hu

theorem lastShown_finish (k : Camera) (s : State) (c : Client) (frame : ServerFrame)
    (reading : Option Int64) :
    lastShown k (finish c frame reading s.popped) =
      if frame.server = k.number then some frame else lastShown k s := by
  simp only [lastShown,State.queue,finish,List.map_append,FrameQueue.ofServer_append]
  split_ifs with hserver
  · rw [List.map_singleton,FrameQueue.ofServer_cons_same hserver]
    exact List.getLast?_concat
  · rw [List.map_singleton,FrameQueue.ofServer_cons_other hserver]
    exact congrArg List.getLast? (List.append_nil _)

theorem onScreen_advances {s t : State} (h : OnScreen s) (ha : Advances s t) : OnScreen t := by
  cases ha with
  | waits hu hpopped => exact onScreen_untouched h hu hpopped
  | @pops frame rest c reading hpop hu =>
    intro k
    rw [lastShown_finish]
    split_ifs with hserver
    · exact Client.displays_showFrame hserver _
    · have hbefore : Displays k (lastShown k s) { s.client with frames := rest } :=
        ⟨(h k).image,(h k).delayTime⟩
      exact Client.displays_showFrame_other hserver (hbefore.untouched hu)

theorem departures_advances {s t : State} (ha : Advances s t) :
    FrameQueue.departures t.queue = FrameQueue.departures s.queue := by
  cases ha with
  | waits hu hpopped => simp only [FrameQueue.departures,State.queue,hu.frames,hpopped]
  | @pops frame rest c reading hpop hu =>
    have hframes : (c.showFrame frame).frames = rest :=
      (Client.samePlayout_showFrame frame c).frames.trans hu.frames
    apply FrameQueue.departures_pop
    refine queue_pop ?_ rfl
    rw [hpop,finish,hframes]

end VideoSurveillance.Updater
