import VideoSurveillance.Client.Monitor

namespace VideoSurveillance.Client

theorem pendingReply_le (o : Observable) (c : Client) : pendingReply o c ≤ 1 := by
  cases o <;> simp only [pendingReply] <;> split_ifs <;> omega

theorem pendingReply_camera (c : Client) (k : Camera) (hm : (c.model k).motionDetected = true) :
    pendingReply (.camera k) (c.assignMotionDetected k false) < pendingReply (.camera k) c := by
  simp only [model] at hm
  simp [pendingReply,assignMotionDetected,model,setModel,hm]

theorem pendingReply_settings (c : Client) (hs : c.settings.syncModeOn ≠ c.currentState) :
    pendingReply .settings ({ c with currentState := c.settings.syncModeOn }.assignAutoMode false) <
      pendingReply .settings c := by
  simp [pendingReply,assignAutoMode,hs]

theorem notifyObservers_agrees (f g : Observable → Client → Option Client) (o : Observable)
    (c : Client) (h : ∀ p d, pendingReply p d < pendingReply o c → f p d = g p d) :
    notifyObservers f o c = notifyObservers g o c := by
  cases o with
  | camera k =>
    simp only [notifyObservers,updateGuiCamera]
    split_ifs with _ _ hm
    · rfl
    · rw [h _ _ (pendingReply_camera c k hm)]
    · rfl
    · rfl
  | settings =>
    simp only [notifyObservers,updateGuiSettings]
    split_ifs with hs
    · exact h _ _ (pendingReply_settings c.updateWindow hs)
    · rfl
    · rfl
    · rfl

theorem notifyObservers_answers (f : Observable → Client → Option Client) (o : Observable)
    (c : Client) (h : ∀ p d, pendingReply p d < pendingReply o c → (f p d).isSome) :
    (notifyObservers f o c).isSome := by
  cases o with
  | camera k =>
    simp only [notifyObservers,updateGuiCamera]
    split_ifs with _ _ hm
    · rfl
    · obtain ⟨d,hd⟩ := Option.isSome_iff_exists.mp (h _ _ (pendingReply_camera c k hm))
      simp [hd]
    · simp
    · simp
  | settings =>
    simp only [notifyObservers,updateGuiSettings]
    split_ifs with hs
    · exact h _ _ (pendingReply_settings c.updateWindow hs)
    · rfl
    · rfl
    · rfl

def observers : Reentrant.Handler Observable Client where
  handle := notifyObservers
  rank := pendingReply
  bound := 1
  rank_le := pendingReply_le
  agrees := notifyObservers_agrees
  answers := notifyObservers_answers

def notify (o : Observable) (c : Client) : Client := observers.settle o c

theorem notify_ends (o : Observable) (c : Client) :
    ∀ n, 1 < n → observers.dispatch n o c = some (notify o c) := observers.settles o c

theorem notify_unfold (o : Observable) (c : Client) :
    notifyObservers (fun p d => some (notify p d)) o c = some (notify o c) :=
  observers.settle_unfold o c

theorem setModel_model (c : Client) (k : Camera) : c.setModel k (c.model k) = c := by
  simp [setModel,model]

theorem assignMotionDetected_same {c : Client} {k : Camera} {b : Bool}
    (h : (c.model k).motionDetected = b) : c.assignMotionDetected k b = c := by
  subst h
  exact c.setModel_model k

@[simp] theorem model_setMode (c : Client) (k j : Camera) (m : Mode) :
    (c.setMode k m).model j = c.model j := rfl

@[simp] theorem mode_setModel (c : Client) (k j : Camera) (m : CameraControlModel) :
    (c.setModel k m).mode j = c.mode j := rfl

@[simp] theorem mode_setMode (c : Client) (k : Camera) (m : Mode) : (c.setMode k m).mode k = m :=
  PerCamera.get_set _ k m

@[simp] theorem mode_setMode_other (c : Client) (k : Camera) (m : Mode) :
    (c.setMode k m).mode k.other = c.mode k.other := PerCamera.get_set_other _ k m

@[simp] theorem model_setModel (c : Client) (k : Camera) (m : CameraControlModel) :
    (c.setModel k m).model k = m := PerCamera.get_set _ k m

@[simp] theorem model_setModel_other (c : Client) (k : Camera) (m : CameraControlModel) :
    (c.setModel k m).model k.other = c.model k.other := PerCamera.get_set_other _ k m

@[simp] theorem setMode_setMode (c : Client) (k : Camera) (m n : Mode) :
    (c.setMode k m).setMode k n = c.setMode k n := by
  simp [setMode]

theorem notify_camera_on {c : Client} {k : Camera} (h : (c.model k).movieModeOn = true) :
    notify (.camera k) c = c.setMode k .movie := by
  apply Option.some.inj
  rw [← notify_unfold]
  rcases eq_or_ne (c.mode k) .movie with hm | hm
  · have hs : c.setMode k .movie = c := by
      rw [← hm]
      simp [setMode,mode]
    simp [notifyObservers,updateGuiCamera,h,hm,hs]
  · simp [notifyObservers,updateGuiCamera,h,hm]

theorem notify_camera_idle {c : Client} {k : Camera} (h : (c.model k).movieModeOn = false)
    (hm : c.mode k = .idle) : notify (.camera k) c = c := by
  apply Option.some.inj
  rw [← notify_unfold]
  simp [notifyObservers,updateGuiCamera,h,hm]

theorem notify_camera_off {c : Client} {k : Camera} (h : (c.model k).movieModeOn = false)
    (hm : c.mode k ≠ .idle) :
    notify (.camera k) c = (c.assignMotionDetected k false).setMode k .idle := by
  have hquiet : ∀ d : Client, (d.model k).movieModeOn = false → d.mode k ≠ .idle →
      (d.model k).motionDetected = false → notify (.camera k) d = d.setMode k .idle := by
    intro d hd hdm hq
    apply Option.some.inj
    rw [← notify_unfold]
    simp [notifyObservers,updateGuiCamera,hd,hdm,hq]
  cases hq : (c.model k).motionDetected with
  | false => rw [hquiet c h hm hq,assignMotionDetected_same hq]
  | true =>
    have hn : notify (.camera k) (c.assignMotionDetected k false) =
        (c.assignMotionDetected k false).setMode k .idle :=
      hquiet _ (by simpa [assignMotionDetected] using h) (by simpa [assignMotionDetected] using hm)
        (by simp [assignMotionDetected])
    apply Option.some.inj
    rw [← notify_unfold]
    simp [notifyObservers,updateGuiCamera,h,hm,hq,hn]

theorem notify_camera_cases (k : Camera) (c : Client) :
    ((c.model k).movieModeOn = true ∧ notify (.camera k) c = c.setMode k .movie) ∨
    ((c.model k).movieModeOn = false ∧ c.mode k = .idle ∧ notify (.camera k) c = c) ∨
    ((c.model k).movieModeOn = false ∧ c.mode k ≠ .idle ∧
      notify (.camera k) c = (c.assignMotionDetected k false).setMode k .idle) := by
  cases hon : (c.model k).movieModeOn with
  | true => exact .inl ⟨rfl,notify_camera_on hon⟩
  | false =>
    right
    rcases eq_or_ne (c.mode k) .idle with hm | hm
    · exact .inl ⟨rfl,hm,notify_camera_idle hon hm⟩
    · exact .inr ⟨rfl,hm,notify_camera_off hon hm⟩

theorem notify_settings_agrees {c : Client} (h : c.settings.syncModeOn = c.currentState) :
    notify .settings c = { c with
      syncAuto := c.settings.autoActivated
      autoButton := c.settings.autoActivated } := by
  apply Option.some.inj
  rw [← notify_unfold]
  rcases eq_or_ne c.settings.autoActivated c.syncAuto with ha | ha
  · simp [notifyObservers,updateGuiSettings,updateWindow,h,ha]
  · simp [notifyObservers,updateGuiSettings,updateWindow,h,ha]

theorem notify_settings_differs {c : Client} (h : c.settings.syncModeOn ≠ c.currentState) :
    notify .settings c = { c with
      currentState := c.settings.syncModeOn
      syncAuto := if c.settings.autoActivated then false else c.syncAuto
      settings := { c.settings with autoActivated := false }
      autoButton := false } := by
  apply Option.some.inj
  rw [← notify_unfold]
  cases ha : c.settings.autoActivated with
  | false =>
    have hs : { c.settings with autoActivated := false } = c.settings := by rw [← ha]
    simp [notifyObservers,updateGuiSettings,updateWindow,h,ha,hs]
  | true =>
    simp only [notifyObservers,updateGuiSettings,updateWindow,h,ha,ne_eq,not_false_eq_true,if_true]
    rw [notify_settings_agrees rfl]
    rfl

end VideoSurveillance.Client
