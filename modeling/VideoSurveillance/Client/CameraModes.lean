import VideoSurveillance.Client.Notifications
import VideoSurveillance.Library.Runs

namespace VideoSurveillance.Client

def setNewImage (k : Camera) (image : List UInt8) (c : Client) : Client :=
  notify (.camera k) (c.assignImage k image)

def setDelayTime (k : Camera) (time : Int32) (c : Client) : Client :=
  notify (.camera k) (c.assignDelayTime k time)

def setMovieMode (k : Camera) (movie : Bool) (c : Client) : Client :=
  notify (.camera k) (c.assignMovieMode k movie)

def setMotionDetected (k : Camera) (motion : Bool) (c : Client) : Client :=
  notify (.camera k) (c.assignMotionDetected k motion)

def switchMovieModeOn (k : Camera) (c : Client) : Client :=
  if ¬ (c.model k).movieModeOn then c.setMovieMode k true else c

def announceMotion (k : Camera) (c : Client) : Client :=
  let c := c.setMotionDetected .one (k = .one)
  let c := c.setMotionDetected .two (k = .two)
  let c := c.switchMovieModeOn .one
  c.switchMovieModeOn .two

def switchIdle (k : Camera) (c : Client) : Client :=
  let c := c.setMode k .idle
  let c := c.setMotionDetected k false
  if (c.model k).movieModeOn then c.setMovieMode k false else c

def changeMode (server : Int32) (mode : Mode) (c : Client) : Client :=
  match mode, Camera.ofNumber server with
  | .movie, some k => { c.announceMotion k with currentCameraMode := ⟨.movie,.movie⟩ }
  | .movie, none => { c with currentCameraMode := ⟨.movie,.movie⟩ }
  | .idle, some k => c.switchIdle k
  | .idle, none => c

theorem changeMode_movie (k : Camera) (c : Client) : c.changeMode k.number .movie =
    { c.announceMotion k with currentCameraMode := ⟨.movie,.movie⟩ } := by cases k <;> rfl

theorem changeMode_idle (k : Camera) (c : Client) :
    c.changeMode k.number .idle = c.switchIdle k := by cases k <;> rfl

end VideoSurveillance.Client

namespace VideoSurveillance

structure CameraView where
  mode : Mode
  movieModeOn : Bool
  motionDetected : Bool
  deriving DecidableEq, Repr

namespace CameraView

def react (v : CameraView) : CameraView :=
  if v.movieModeOn then { v with mode := .movie }
  else if v.mode = .idle then v
  else ⟨.idle,false,false⟩

def setMovieMode (movie : Bool) (v : CameraView) : CameraView :=
  react { v with movieModeOn := movie }

def setMotionDetected (motion : Bool) (v : CameraView) : CameraView :=
  react { v with motionDetected := motion }

def announceMotion (target : Bool) (v : CameraView) : CameraView :=
  let v := v.setMotionDetected target
  if v.movieModeOn then v else v.setMovieMode true

def switchIdle (v : CameraView) : CameraView :=
  let v := { v with mode := .idle }.setMotionDetected false
  if v.movieModeOn then v.setMovieMode false else v

def Consistent (v : CameraView) : Prop :=
  (v.mode = .movie ↔ v.movieModeOn = true) ∧ (v.motionDetected = true → v.movieModeOn = true)

theorem consistent_cases {v : CameraView} :
    v.Consistent ↔ v = ⟨.idle,false,false⟩ ∨ v = ⟨.movie,true,false⟩ ∨ v = ⟨.movie,true,true⟩ := by
  obtain ⟨m,on,motion⟩ := v
  cases m <;> cases on <;> cases motion <;> simp [Consistent]

theorem react_consistent {v : CameraView} (h : v.Consistent) : v.react = v := by
  rcases consistent_cases.mp h with rfl | rfl | rfl <;> rfl

theorem setMovieMode_consistent (movie : Bool) {v : CameraView} (h : v.Consistent) :
    (v.setMovieMode movie).Consistent := by
  rw [consistent_cases] at h ⊢
  rcases h with rfl | rfl | rfl <;> cases movie <;> decide

theorem setMovieMode_motion (movie : Bool) {v : CameraView} (h : v.Consistent) :
    (v.setMovieMode movie).motionDetected = (v.motionDetected && movie) := by
  rcases consistent_cases.mp h with rfl | rfl | rfl <;> cases movie <;> rfl

theorem announceMotion_consistent (target : Bool) {v : CameraView} (h : v.Consistent) :
    v.announceMotion target = ⟨.movie,true,target⟩ := by
  rcases consistent_cases.mp h with rfl | rfl | rfl <;> cases target <;> rfl

theorem switchIdle_consistent {v : CameraView} (h : v.Consistent) :
    v.switchIdle = ⟨.idle,false,false⟩ := by
  rcases consistent_cases.mp h with rfl | rfl | rfl <;> rfl

end CameraView

namespace Client

def view (c : Client) (k : Camera) : CameraView :=
  ⟨c.mode k,(c.model k).movieModeOn,(c.model k).motionDetected⟩

theorem view_notify (k : Camera) (c : Client) :
    (notify (.camera k) c).view k = (c.view k).react := by
  rcases notify_camera_cases k c with ⟨hon,hn⟩ | ⟨hon,hm,hn⟩ | ⟨hon,hm,hn⟩
  · rw [hn]
    simp [view,CameraView.react,hon]
  · rw [hn]
    simp [view,CameraView.react,hon,hm]
  · rw [hn]
    simp [view,CameraView.react,assignMotionDetected,hon,hm]

theorem view_notify_ne {j k : Camera} (h : j ≠ k) (c : Client) :
    (notify (.camera k) c).view j = c.view j := by
  obtain rfl : j = k.other := by cases j <;> cases k <;> first | rfl | exact absurd rfl h
  rcases notify_camera_cases k c with ⟨-,hn⟩ | ⟨-,-,hn⟩ | ⟨-,-,hn⟩
  · rw [hn]
    simp [view]
  · rw [hn]
  · rw [hn]
    simp [view,assignMotionDetected]

theorem view_setModel_ne {j k : Camera} (h : j ≠ k) (c : Client) (m : CameraControlModel) :
    (c.setModel k m).view j = c.view j := by
  simp [view,mode,model,setModel,PerCamera.get_set_ne _ h]

theorem view_setMovieMode (k : Camera) (movie : Bool) (c : Client) :
    (c.setMovieMode k movie).view k = (c.view k).setMovieMode movie := by
  rw [setMovieMode,view_notify]
  simp [view,CameraView.setMovieMode,assignMovieMode]

theorem view_setMovieMode_ne {j k : Camera} (h : j ≠ k) (movie : Bool) (c : Client) :
    (c.setMovieMode k movie).view j = c.view j := by
  rw [setMovieMode,view_notify_ne h,assignMovieMode,view_setModel_ne h]

theorem view_setMotionDetected (k : Camera) (motion : Bool) (c : Client) :
    (c.setMotionDetected k motion).view k = (c.view k).setMotionDetected motion := by
  rw [setMotionDetected,view_notify]
  simp [view,CameraView.setMotionDetected,assignMotionDetected]

theorem view_setMotionDetected_ne {j k : Camera} (h : j ≠ k) (motion : Bool) (c : Client) :
    (c.setMotionDetected k motion).view j = c.view j := by
  rw [setMotionDetected,view_notify_ne h,assignMotionDetected,view_setModel_ne h]

theorem view_assignImage (k j : Camera) (image : List UInt8) (c : Client) :
    (c.assignImage k image).view j = c.view j := by cases k <;> cases j <;> rfl

theorem view_assignDelayTime (k j : Camera) (time : Int32) (c : Client) :
    (c.assignDelayTime k time).view j = c.view j := by cases k <;> cases j <;> rfl

theorem view_switchMovieModeOn (k : Camera) (c : Client) :
    (c.switchMovieModeOn k).view k =
      if (c.view k).movieModeOn then c.view k else (c.view k).setMovieMode true := by
  cases hon : (c.model k).movieModeOn with
  | true => simp [switchMovieModeOn,view,hon]
  | false => simpa [switchMovieModeOn,hon,view] using view_setMovieMode k true c

theorem view_switchMovieModeOn_ne {j k : Camera} (h : j ≠ k) (c : Client) :
    (c.switchMovieModeOn k).view j = c.view j := by
  unfold switchMovieModeOn
  split_ifs
  · rfl
  · exact view_setMovieMode_ne h true c

theorem view_announceMotion (k j : Camera) (c : Client) :
    (c.announceMotion k).view j = (c.view j).announceMotion (k = j) := by
  have h12 : Camera.one ≠ .two := by decide
  have h21 : Camera.two ≠ .one := by decide
  cases j with
  | one =>
    simp only [announceMotion,view_switchMovieModeOn_ne h12,view_switchMovieModeOn,
      view_setMotionDetected_ne h12,view_setMotionDetected,CameraView.announceMotion]
  | two =>
    simp only [announceMotion,view_switchMovieModeOn_ne h21,view_switchMovieModeOn,
      view_setMotionDetected_ne h21,view_setMotionDetected,CameraView.announceMotion]

theorem view_switchIdle (k : Camera) (c : Client) :
    (c.switchIdle k).view k = (c.view k).switchIdle := by
  have hset : ((c.setMode k .idle).setMotionDetected k false).view k =
      { c.view k with mode := .idle }.setMotionDetected false := by
    rw [view_setMotionDetected]
    simp [view]
  simp only [switchIdle,CameraView.switchIdle,← hset]
  split_ifs with h₁ h₂ h₂
  · exact view_setMovieMode k false _
  · exact absurd h₁ h₂
  · exact absurd h₂ h₁
  · rfl

theorem view_switchIdle_ne {j k : Camera} (h : j ≠ k) (c : Client) :
    (c.switchIdle k).view j = c.view j := by
  have hset : ((c.setMode k .idle).setMotionDetected k false).view j = c.view j := by
    rw [view_setMotionDetected_ne h]
    simp [view,mode,model,setMode,PerCamera.get_set_ne _ h]
  simp only [switchIdle]
  split_ifs
  · rw [view_setMovieMode_ne h,hset]
  · exact hset

theorem view_changeMode_movie (k j : Camera) (c : Client) :
    (c.changeMode k.number .movie).view j =
      { (c.view j).announceMotion (k = j) with mode := .movie } := by
  rw [← view_announceMotion,changeMode_movie]
  cases j <;> rfl

theorem view_changeMode_idle (k : Camera) (c : Client) :
    (c.changeMode k.number .idle).view k = (c.view k).switchIdle := by
  rw [changeMode_idle,view_switchIdle]

theorem view_changeMode_idle_ne {j k : Camera} (h : j ≠ k) (c : Client) :
    (c.changeMode k.number .idle).view j = c.view j := by
  rw [changeMode_idle,view_switchIdle_ne h]

structure Consistent (c : Client) : Prop where
  view : ∀ k, (c.view k).Consistent
  one_motion : ∀ k, (c.view k).motionDetected = true → (c.view k.other).motionDetected = false

theorem Consistent.of_view {c d : Client} (h : c.Consistent) (hv : ∀ k, d.view k = c.view k) :
    d.Consistent where
  view := fun k => hv k ▸ h.view k
  one_motion := fun k => by
    rw [hv,hv]
    exact h.one_motion k

theorem consistent_start : start.Consistent where
  view := by intro k; cases k <;> exact CameraView.consistent_cases.mpr (.inl rfl)
  one_motion := by intro k; cases k <;> decide

theorem Consistent.setMovieMode {c : Client} (h : c.Consistent) (k : Camera) (movie : Bool) :
    (c.setMovieMode k movie).Consistent := by
  have hne : k.other ≠ k := by cases k <;> decide
  refine ⟨fun j => ?_,fun j hj => ?_⟩
  · rcases eq_or_ne j k with rfl | hjk
    · rw [view_setMovieMode]
      exact CameraView.setMovieMode_consistent movie (h.view j)
    · rw [view_setMovieMode_ne hjk]
      exact h.view j
  · have hmotion : ∀ i, ((c.setMovieMode k movie).view i).motionDetected = true →
        (c.view i).motionDetected = true := by
      intro i hi
      rcases eq_or_ne i k with rfl | hik
      · rw [view_setMovieMode,CameraView.setMovieMode_motion movie (h.view i)] at hi
        exact (Bool.and_eq_true_iff.mp hi).1
      · rwa [view_setMovieMode_ne hik] at hi
    by_contra hc
    exact absurd (h.one_motion j (hmotion j hj)) (by simp [hmotion _ (Bool.not_eq_false _ ▸ hc)])

theorem Consistent.announced {c : Client} (h : c.Consistent) (k j : Camera) :
    (c.changeMode k.number .movie).view j = ⟨.movie,true,k = j⟩ := by
  rw [view_changeMode_movie,CameraView.announceMotion_consistent _ (h.view j)]

theorem Consistent.changeMode {c : Client} (h : c.Consistent) (k : Camera) (m : Mode) :
    (c.changeMode k.number m).Consistent := by
  cases m with
  | movie =>
    refine ⟨fun j => ?_,fun j hj => ?_⟩
    · rw [h.announced]
      simp [CameraView.Consistent]
    · rw [h.announced] at hj ⊢
      cases k <;> cases j <;> simp_all [Camera.other]
  | idle =>
    have hv : ∀ j, (c.changeMode k.number .idle).view j =
        if j = k then ⟨.idle,false,false⟩ else c.view j := by
      intro j
      split_ifs with hjk
      · rw [hjk,view_changeMode_idle,CameraView.switchIdle_consistent (h.view k)]
      · rw [view_changeMode_idle_ne hjk]
    refine ⟨fun j => ?_,fun j hj => ?_⟩
    · rw [hv]
      split_ifs
      · exact CameraView.consistent_cases.mpr (.inl rfl)
      · exact h.view j
    · rw [hv] at hj ⊢
      split_ifs at hj ⊢
      · rfl
      · exact h.one_motion j hj

theorem Consistent.view_notify {c : Client} (h : c.Consistent) (k j : Camera) :
    (notify (.camera k) c).view j = c.view j := by
  rcases eq_or_ne j k with rfl | hj
  · rw [Client.view_notify,CameraView.react_consistent (h.view j)]
  · exact view_notify_ne hj c

theorem Consistent.notify_camera {c d : Client} (h : c.Consistent) (k : Camera)
    (hv : ∀ j, d.view j = c.view j) : (notify (.camera k) d).Consistent := by
  have hd : d.Consistent := h.of_view hv
  exact hd.of_view (hd.view_notify k)

end Client

inductive CameraAction where
  | setMovieMode (k : Camera) (movie : Bool)
  | changeMode (k : Camera) (mode : Mode)
  | setNewImage (k : Camera) (image : List UInt8)
  | setDelayTime (k : Camera) (time : Int32)
  deriving DecidableEq, Repr

def CameraAction.perform (c : Client) : CameraAction → Client
  | .setMovieMode k movie => c.setMovieMode k movie
  | .changeMode k mode => c.changeMode k.number mode
  | .setNewImage k image => c.setNewImage k image
  | .setDelayTime k time => c.setDelayTime k time

def cameraSystem : Runs.System Client CameraAction where
  init := Client.start
  step := fun c a => some (a.perform c)

theorem CameraAction.perform_consistent {c : Client} (h : c.Consistent) (a : CameraAction) :
    (a.perform c).Consistent := by
  cases a with
  | setMovieMode k movie => exact h.setMovieMode k movie
  | changeMode k mode => exact h.changeMode k mode
  | setNewImage k image => exact h.notify_camera k (fun j => c.view_assignImage k j image)
  | setDelayTime k time => exact h.notify_camera k (fun j => c.view_assignDelayTime k j time)

theorem camera_run_total (actions : List CameraAction) : ∃ c, cameraSystem.run actions = some c := by
  induction actions using List.reverseRecOn with
  | nil => exact ⟨_,rfl⟩
  | append_singleton actions a ih =>
    obtain ⟨c,hc⟩ := ih
    exact ⟨a.perform c,cameraSystem.run_snoc_some.mpr ⟨c,hc,rfl⟩⟩

theorem camera_run_consistent {actions : List CameraAction} {c : Client}
    (h : cameraSystem.run actions = some c) : c.Consistent := by
  refine cameraSystem.invariant Client.consistent_start ?_ h
  rintro c a d hc ⟨⟩
  exact a.perform_consistent hc

theorem camera_modes_stay_consistent (actions : List CameraAction) :
    (∀ o c n, 1 < n → Client.observers.dispatch n o c = some (Client.notify o c)) ∧
    ∃ c, cameraSystem.run actions = some c ∧
      (∀ k, c.mode k = .movie ↔ (c.model k).movieModeOn = true) ∧
      (∀ k, (c.model k).motionDetected = true → (c.model k).movieModeOn = true) ∧
      ¬ ((c.model .one).motionDetected = true ∧ (c.model .two).motionDetected = true) ∧
      (∀ k j, (c.changeMode k.number .movie).mode j = .movie ∧
        (((c.changeMode k.number .movie).model j).motionDetected = true ↔ j = k)) ∧
      (∀ k j movie, j ≠ k → (c.setMovieMode k movie).view j = c.view j) ∧
      ∀ k j, j ≠ k → (c.changeMode k.number .idle).view j = c.view j := by
  refine ⟨Client.notify_ends,?_⟩
  obtain ⟨c,hc⟩ := camera_run_total actions
  have hcons : c.Consistent := camera_run_consistent hc
  refine ⟨c,hc,fun k => (hcons.view k).1,fun k => (hcons.view k).2,?_,fun k j => ?_,
    fun k j movie h => Client.view_setMovieMode_ne h movie c,
    fun k j h => Client.view_changeMode_idle_ne h c⟩
  · rintro ⟨h₁,h₂⟩
    exact absurd (hcons.one_motion .one h₁) (by simpa [Client.view,Camera.other] using h₂)
  · have hv := hcons.announced k j
    have hmode : (c.changeMode k.number .movie).mode j = .movie := congrArg CameraView.mode hv
    have hmotion : ((c.changeMode k.number .movie).model j).motionDetected = decide (k = j) :=
      congrArg CameraView.motionDetected hv
    refine ⟨hmode,?_⟩
    rw [hmotion,decide_eq_true_iff,eq_comm]

end VideoSurveillance
