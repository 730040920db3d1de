import VideoSurveillance.Client.Update

namespace VideoSurveillance

structure SwitchButton where
  offOption : Bool
  onOption : Bool
  deriving DecidableEq

namespace SwitchButton

def start : SwitchButton := ⟨true,false⟩

def setActiveMode (mode : Bool) (b : SwitchButton) : SwitchButton :=
  { b with onOption := mode, offOption := !mode }

def setOn (b : SwitchButton) : SwitchButton := { b with onOption := true, offOption := false }

def setOff (b : SwitchButton) : SwitchButton := { b with onOption := false, offOption := true }

-- a toggle button flips when it is pressed, before its action is performed
def press (on : Bool) (b : SwitchButton) : SwitchButton :=
  if on then { b with onOption := !b.onOption } else { b with offOption := !b.offOption }

def Shows (b : SwitchButton) (on : Bool) : Prop := b.onOption = on ∧ b.offOption = !on

end SwitchButton

inductive Color where
  | red
  | green
  deriving DecidableEq

structure CameraControlView where
  imageLabel : List UInt8
  motionDetected : Color
  delay : String
  movieModeButton : SwitchButton
  deriving DecidableEq

def delayText (delayTime : Int32) : String := "Current delay: " ++ toString delayTime

namespace CameraControlView

def start : CameraControlView := ⟨[],.red,delayText 0,.start⟩

def update (info : CameraControlModel) (v : CameraControlView) : CameraControlView where
  imageLabel := info.image
  delay := delayText info.delayTime
  movieModeButton := v.movieModeButton.setActiveMode info.movieModeOn
  motionDetected := if info.motionDetected then .green else .red

structure Shows (v : CameraControlView) (info : CameraControlModel) : Prop where
  image : v.imageLabel = info.image
  delay : v.delay = delayText info.delayTime
  motion : v.motionDetected = if info.motionDetected then .green else .red
  button : v.movieModeButton.Shows info.movieModeOn

theorem shows_update (v : CameraControlView) (info : CameraControlModel) :
    (v.update info).Shows info := ⟨rfl,rfl,rfl,rfl,rfl⟩

end CameraControlView

structure Screen where
  client : Client
  cameraControlView : PerCamera CameraControlView
  syncModeButton : SwitchButton
  autoSelected : Bool
  deriving DecidableEq

namespace Screen

def start : Screen := ⟨.start,⟨.start,.start⟩,.start,false⟩

def view (s : Screen) (k : Camera) : CameraControlView := s.cameraControlView.get k

def modify (f : Client → Client) (s : Screen) : Screen := { s with client := f s.client }

def updateView (k : Camera) (s : Screen) : Screen :=
  { s with cameraControlView := s.cameraControlView.set k ((s.view k).update (s.client.model k)) }

def updateWindow (s : Screen) : Screen := { s with
  syncModeButton := s.syncModeButton.setActiveMode s.client.settings.syncModeOn
  client := s.client.updateWindow
  autoSelected := s.client.settings.autoActivated }

def updateGuiCamera (notify : Observable → Screen → Option Screen) (k : Camera) (s : Screen) :
    Option Screen :=
  if (s.client.model k).movieModeOn ∧ s.client.mode k ≠ .movie then
    some (s.modify (·.setMode k .movie))
  else if ¬ (s.client.model k).movieModeOn ∧ s.client.mode k ≠ .idle then do
    let s ← if (s.client.model k).motionDetected then
        notify (.camera k) (s.modify (·.assignMotionDetected k false))
      else some s
    return s.modify (·.setMode k .idle)
  else some s

def updateGuiSettings (notify : Observable → Screen → Option Screen) (s : Screen) :
    Option Screen :=
  if s.client.settings.syncModeOn ≠ s.client.currentState then
    let s := s.modify (fun c => { c with currentState := c.settings.syncModeOn })
    if s.client.settings.autoActivated then notify .settings (s.modify (·.assignAutoMode false))
    else some s
  else if s.client.settings.autoActivated ≠ s.client.syncAuto then
    some (s.modify (fun c => { c with syncAuto := c.settings.autoActivated }))
  else some s

-- the views are registered after the monitor and so notified before it
def notifyObservers (notify : Observable → Screen → Option Screen) :
    Observable → Screen → Option Screen
  | .camera k, s => updateGuiCamera notify k (s.updateView k)
  | .settings, s => updateGuiSettings notify s.updateWindow

def pendingReply (o : Observable) (s : Screen) : ℕ := Client.pendingReply o s.client

theorem pendingReply_answer {s : Screen} {k : Camera}
    (hm : (s.client.model k).motionDetected = true) :
    pendingReply (.camera k) ((s.updateView k).modify (·.assignMotionDetected k false)) <
      pendingReply (.camera k) s := Client.pendingReply_camera s.client k hm

theorem notifyObservers_agrees (f g : Observable → Screen → Option Screen) (o : Observable)
    (s : Screen) (h : ∀ p t, pendingReply p t < pendingReply o s → f p t = g p t) :
    notifyObservers f o s = notifyObservers g o s := by
  cases o with
  | camera k =>
    simp only [notifyObservers,updateGuiCamera]
    split_ifs with _ _ hm
    · rfl
    · rw [h _ _ (pendingReply_answer hm)]
    · rfl
    · rfl
  | settings =>
    simp only [notifyObservers,updateGuiSettings]
    split_ifs with hs
    · exact h _ _ (Client.pendingReply_settings s.client.updateWindow hs)
    · rfl
    · rfl
    · rfl

theorem notifyObservers_answers (f : Observable → Screen → Option Screen) (o : Observable)
    (s : Screen) (h : ∀ p t, pendingReply p t < pendingReply o s → (f p t).isSome) :
    (notifyObservers f o s).isSome := by
  cases o with
  | camera k =>
    simp only [notifyObservers,updateGuiCamera]
    split_ifs with _ _ hm
    · rfl
    · obtain ⟨t,ht⟩ := Option.isSome_iff_exists.mp (h _ _ (pendingReply_answer hm))
      simp [ht]
    · simp
    · simp
  | settings =>
    simp only [notifyObservers,updateGuiSettings]
    split_ifs with hs
    · exact h _ _ (Client.pendingReply_settings s.client.updateWindow hs)
    · rfl
    · rfl
    · rfl

def observers : Reentrant.Handler Observable Screen where
  handle := notifyObservers
  rank := pendingReply
  bound := 1
  rank_le := fun o s => Client.pendingReply_le o s.client
  agrees := notifyObservers_agrees
  answers := notifyObservers_answers

def notify (o : Observable) (s : Screen) : Screen := observers.settle o s

section Reply
variable {f : Observable → Screen → Option Screen} {g : Observable → Client → Option Client}
  (hfg : ∀ o s, (f o s).map client = g o s.client)
include hfg

theorem client_updateGuiCamera (k : Camera) (s : Screen) :
    (updateGuiCamera f k s).map client = Client.updateGuiCamera g k s.client := by
  unfold updateGuiCamera Client.updateGuiCamera
  split_ifs
  · rfl
  · have hreply := hfg (.camera k) (s.modify (·.assignMotionDetected k false))
    rw [← show _ = g (.camera k) (s.client.assignMotionDetected k false) from hreply]
    cases f (.camera k) (s.modify (·.assignMotionDetected k false)) <;> rfl
  · rfl
  · rfl

theorem client_updateGuiSettings (s : Screen) :
    (updateGuiSettings f s).map client = Client.updateGuiSettings g s.client := by
  unfold updateGuiSettings Client.updateGuiSettings
  by_cases hs : s.client.settings.syncModeOn ≠ s.client.currentState
  · rw [if_pos hs,if_pos hs]
    by_cases ha : s.client.settings.autoActivated = true
    · exact (congrArg _ (if_pos ha)).trans ((hfg .settings _).trans (if_pos ha).symm)
    · exact (congrArg _ (if_neg ha)).trans (if_neg ha).symm
  · rw [if_neg hs,if_neg hs]
    split_ifs <;> rfl

end Reply

theorem client_notify (o : Observable) (s : Screen) :
    (s.notify o).client = s.client.notify o := by
  refine observers.settle_map Client.observers client (fun f g o s hfg => ?_) o s
  cases o with
  | camera k => exact client_updateGuiCamera hfg k (s.updateView k)
  | settings => exact client_updateGuiSettings hfg s.updateWindow

def ShowsAt (s : Screen) : Observable → Prop
  | .camera k => (s.view k).Shows (s.client.model k)
  | .settings => s.syncModeButton.Shows s.client.settings.syncModeOn ∧
      s.autoSelected = s.client.settings.autoActivated ∧
      s.client.autoButton = s.client.settings.autoActivated

def Shows (s : Screen) : Prop := ∀ o, s.ShowsAt o

def ShowsElsewhere (o : Observable) (s : Screen) : Prop := ∀ p, p ≠ o → s.ShowsAt p

theorem Shows.elsewhere {s : Screen} (h : s.Shows) (o : Observable) : s.ShowsElsewhere o :=
  fun p _ => h p

def SameModels (c d : Client) : Prop :=
  d.camera = c.camera ∧ d.settings = c.settings ∧ d.autoButton = c.autoButton

theorem Shows.modify {s : Screen} (h : s.Shows) {f : Client → Client}
    (hf : SameModels s.client (f s.client)) : (s.modify f).Shows := by
  obtain ⟨hcamera,hsettings,hauto⟩ := hf
  intro o
  have ho := h o
  cases o with
  | camera k =>
    simp only [ShowsAt,view,Client.model,Screen.modify,hcamera] at ho ⊢
    exact ho
  | settings =>
    simp only [ShowsAt,Screen.modify,hsettings,hauto] at ho ⊢
    exact ho

theorem ShowsElsewhere.setModel {s : Screen} {k : Camera} (h : s.ShowsElsewhere (.camera k))
    {f : Client → Client} {m : CameraControlModel} (hf : f s.client = s.client.setModel k m) :
    (s.modify f).ShowsElsewhere (.camera k) := by
  intro o ho
  have hs := h o ho
  cases o with
  | camera j =>
    have hj : j ≠ k := fun hjk => ho (by rw [hjk])
    have hmodel : (s.client.setModel k m).model j = s.client.model j := PerCamera.get_set_ne _ hj m
    simp only [ShowsAt,view,Screen.modify,hf,hmodel] at hs ⊢
    exact hs
  | settings =>
    simp only [ShowsAt,Screen.modify,hf] at hs ⊢
    exact hs

theorem ShowsElsewhere.settings {s : Screen} (h : s.ShowsElsewhere .settings)
    {f : Client → Client} (hf : (f s.client).camera = s.client.camera) :
    (s.modify f).ShowsElsewhere .settings := by
  intro o ho
  have hs := h o ho
  cases o with
  | camera k =>
    simp only [ShowsAt,view,Client.model,Screen.modify,hf] at hs ⊢
    exact hs
  | settings => exact absurd rfl ho

theorem shows_updateView {s : Screen} {k : Camera} (h : s.ShowsElsewhere (.camera k)) :
    (s.updateView k).Shows := by
  intro o
  cases o with
  | camera j =>
    rcases eq_or_ne j k with rfl | hj
    · simp only [ShowsAt,view,updateView,PerCamera.get_set]
      exact CameraControlView.shows_update _ _
    · have hs := h (.camera j) (fun ho => hj (by cases ho; rfl))
      simp only [ShowsAt,view,updateView,PerCamera.get_set_ne _ hj] at hs ⊢
      exact hs
  | settings => exact h .settings nofun

theorem shows_updateWindow {s : Screen} (h : s.ShowsElsewhere .settings) : s.updateWindow.Shows := by
  intro o
  cases o with
  | camera k => exact h (.camera k) nofun
  | settings => exact ⟨⟨rfl,rfl⟩,rfl,rfl⟩

theorem shows_notify {o : Observable} {s : Screen} (h : s.ShowsElsewhere o) :
    (s.notify o).Shows := by
  refine observers.settle_spec (P := fun o s => s.ShowsElsewhere o) (Q := fun _ s => s.Shows)
    (fun f o s t hf hs ht => ?_) h
  cases o with
  | camera k =>
    have hview := shows_updateView hs
    simp only [observers,notifyObservers,updateGuiCamera] at ht
    split_ifs at ht
    · cases ht
      exact hview.modify ⟨rfl,rfl,rfl⟩
    · obtain ⟨u,hu,hut⟩ := Option.bind_eq_some_iff.mp ht
      cases hut
      have hmodel := (hview.elsewhere (.camera k)).setModel (f := (·.assignMotionDetected k false)) rfl
      exact (hf _ _ u hmodel hu).modify ⟨rfl,rfl,rfl⟩
    · cases ht
      exact hview.modify ⟨rfl,rfl,rfl⟩
    · cases ht
      exact hview
  | settings =>
    have hwindow := shows_updateWindow hs
    simp only [observers,notifyObservers,updateGuiSettings] at ht
    split_ifs at ht
    · have hstate := hwindow.modify
        (f := fun c => { c with currentState := c.settings.syncModeOn }) ⟨rfl,rfl,rfl⟩
      have hauto := (hstate.elsewhere .settings).settings (f := (·.assignAutoMode false)) rfl
      exact hf _ _ t hauto ht
    · cases ht
      exact hwindow.modify ⟨rfl,rfl,rfl⟩
    · cases ht
      exact hwindow.modify ⟨rfl,rfl,rfl⟩
    · cases ht
      exact hwindow

-- g does on the screen what f does on the client behind it
structure Drawn (f : Client → Client) (g : Screen → Screen) : Prop where
  client : ∀ s, (g s).client = f s.client
  shows : ∀ s, s.Shows → (g s).Shows

theorem Drawn.id : Drawn id id := ⟨fun _ => rfl,fun _ h => h⟩

theorem Drawn.comp {f f' : Client → Client} {g g' : Screen → Screen} (h' : Drawn f' g')
    (h : Drawn f g) : Drawn (f' ∘ f) (g' ∘ g) where
  client := fun s => by rw [Function.comp_apply,h'.client,h.client,Function.comp_apply]
  shows := fun s hs => h'.shows _ (h.shows s hs)

theorem Drawn.ite (p : Client → Prop) [DecidablePred p] {f f' : Client → Client}
    {g g' : Screen → Screen} (h : Drawn f g) (h' : Drawn f' g') :
    Drawn (fun c => if p c then f c else f' c) (fun s => if p s.client then g s else g' s) where
  client := fun s => by
    split_ifs
    · exact h.client s
    · exact h'.client s
  shows := fun s hs => by
    split_ifs
    · exact h.shows s hs
    · exact h'.shows s hs

theorem drawn_modify {f : Client → Client} (hf : ∀ c, SameModels c (f c)) : Drawn f (modify f) :=
  ⟨fun _ => rfl,fun _ hs => hs.modify (hf _)⟩

theorem drawn_camera {k : Camera} {f : Client → Client} {m : Client → CameraControlModel}
    (hf : ∀ c, f c = c.setModel k (m c)) :
    Drawn (fun c => (f c).notify (.camera k)) (fun s => (s.modify f).notify (.camera k)) where
  client := fun _ => client_notify (.camera k) _
  shows := fun s hs => shows_notify ((hs.elsewhere (.camera k)).setModel (hf s.client))

theorem drawn_settings {f : Client → Client} (hf : ∀ c, (f c).camera = c.camera) :
    Drawn (fun c => (f c).notify .settings) (fun s => (s.modify f).notify .settings) where
  client := fun _ => client_notify .settings _
  shows := fun s hs => shows_notify ((hs.elsewhere .settings).settings (hf s.client))

def setNewImage (k : Camera) (image : List UInt8) (s : Screen) : Screen :=
  (s.modify (·.assignImage k image)).notify (.camera k)

def setDelayTime (k : Camera) (time : Int32) (s : Screen) : Screen :=
  (s.modify (·.assignDelayTime k time)).notify (.camera k)

def setMovieMode (k : Camera) (movie : Bool) (s : Screen) : Screen :=
  (s.modify (·.assignMovieMode k movie)).notify (.camera k)

def setMotionDetected (k : Camera) (motion : Bool) (s : Screen) : Screen :=
  (s.modify (·.assignMotionDetected k motion)).notify (.camera k)

def setSyncMode (sync : Bool) (s : Screen) : Screen :=
  (s.modify (·.assignSyncMode sync)).notify .settings

def setAutoMode (auto : Bool) (s : Screen) : Screen :=
  (s.modify (·.assignAutoMode auto)).notify .settings

theorem drawn_setNewImage (k : Camera) (image : List UInt8) :
    Drawn (Client.setNewImage k image) (setNewImage k image) := drawn_camera (fun _ => rfl)

theorem drawn_setDelayTime (k : Camera) (time : Int32) :
    Drawn (Client.setDelayTime k time) (setDelayTime k time) := drawn_camera (fun _ => rfl)

theorem drawn_setMovieMode (k : Camera) (movie : Bool) :
    Drawn (Client.setMovieMode k movie) (setMovieMode k movie) := drawn_camera (fun _ => rfl)

theorem drawn_setMotionDetected (k : Camera) (motion : Bool) :
    Drawn (Client.setMotionDetected k motion) (setMotionDetected k motion) :=
  drawn_camera (fun _ => rfl)

theorem drawn_setSyncMode (sync : Bool) : Drawn (Client.setSyncMode sync) (setSyncMode sync) :=
  drawn_settings (fun _ => rfl)

theorem drawn_setAutoMode (auto : Bool) : Drawn (Client.setAutoMode auto) (setAutoMode auto) :=
  drawn_settings (fun _ => rfl)

def switchMovieModeOn (k : Camera) (s : Screen) : Screen :=
  if ¬ (s.client.model k).movieModeOn then s.setMovieMode k true else s

def announceMotion (k : Camera) (s : Screen) : Screen :=
  let s := s.setMotionDetected .one (k = .one)
  let s := s.setMotionDetected .two (k = .two)
  let s := s.switchMovieModeOn .one
  s.switchMovieModeOn .two

def switchIdle (k : Camera) (s : Screen) : Screen :=
  let s := s.modify (·.setMode k .idle)
  let s := s.setMotionDetected k false
  if (s.client.model k).movieModeOn then s.setMovieMode k false else s

def changeMode (server : Int32) (mode : Mode) (s : Screen) : Screen :=
  match mode, Camera.ofNumber server with
  | .movie, some k =>
    (s.announceMotion k).modify (fun c => { c with currentCameraMode := ⟨.movie,.movie⟩ })
  | .movie, none => s.modify (fun c => { c with currentCameraMode := ⟨.movie,.movie⟩ })
  | .idle, some k => s.switchIdle k
  | .idle, none => s

theorem drawn_switchMovieModeOn (k : Camera) :
    Drawn (Client.switchMovieModeOn k) (switchMovieModeOn k) :=
  (drawn_setMovieMode k true).ite (fun c => ¬ (c.model k).movieModeOn) .id

theorem drawn_announceMotion (k : Camera) : Drawn (Client.announceMotion k) (announceMotion k) :=
  (drawn_switchMovieModeOn .two).comp ((drawn_switchMovieModeOn .one).comp
    ((drawn_setMotionDetected .two _).comp (drawn_setMotionDetected .one _)))

theorem drawn_switchIdle (k : Camera) : Drawn (Client.switchIdle k) (switchIdle k) :=
  ((drawn_setMovieMode k false).ite (fun c => (c.model k).movieModeOn) .id).comp
    ((drawn_setMotionDetected k false).comp (drawn_modify (fun _ => ⟨rfl,rfl,rfl⟩)))

theorem drawn_changeMode (server : Int32) (mode : Mode) :
    Drawn (Client.changeMode server mode) (changeMode server mode) := by
  have hmovie : Drawn (fun c => { c with currentCameraMode := ⟨.movie,.movie⟩ })
      (modify (fun c => { c with currentCameraMode := ⟨.movie,.movie⟩ })) :=
    drawn_modify (fun _ => ⟨rfl,rfl,rfl⟩)
  unfold Client.changeMode changeMode
  cases mode with
  | idle =>
    cases Camera.ofNumber server with
    | none => exact .id
    | some k => exact drawn_switchIdle k
  | movie =>
    cases Camera.ofNumber server with
    | none => exact hmovie
    | some k => exact hmovie.comp (drawn_announceMotion k)

def addFrame (filter : Int64 → Int64 → Int64) (frame : ServerFrame) : Screen → Screen :=
  modify (·.addFrame filter frame)

def autoSynchronous (s : Screen) : Screen :=
  if s.client.syncAuto ∧
      s.client.averageGap < Client.SYNC_TIME_MS - Client.SYNC_TIME_HYSTERESIS_MS then
    (s.modify (fun c => { c with currentState := Client.SYNCHRONOUS_MODE })).setSyncMode true
  else s

def autoAsynchronous (s : Screen) : Screen :=
  if s.client.syncAuto ∧
      s.client.averageGap > Client.SYNC_TIME_MS + Client.SYNC_TIME_HYSTERESIS_MS then
    (s.modify (fun c => { c with currentState := Client.ASYNCHRONOUS_MODE })).setSyncMode false
  else s

def showFrame (frame : ServerFrame) (s : Screen) : Screen :=
  match Camera.ofNumber frame.server with
  | some k => (s.setNewImage k frame.image).setDelayTime k (frame.received - frame.sent).toInt32
  | none => s

theorem drawn_addFrame (filter : Int64 → Int64 → Int64) (frame : ServerFrame) :
    Drawn (Client.addFrame filter frame) (addFrame filter frame) := by
  apply drawn_modify
  intro c
  unfold Client.addFrame
  cases Camera.ofNumber frame.server <;> exact ⟨rfl,rfl,rfl⟩

theorem drawn_autoSynchronous : Drawn Client.autoSynchronous autoSynchronous :=
  ((drawn_setSyncMode true).comp (drawn_modify
    (f := fun c => { c with currentState := Client.SYNCHRONOUS_MODE }) (fun _ => ⟨rfl,rfl,rfl⟩))).ite
    (fun c => c.syncAuto ∧ c.averageGap < Client.SYNC_TIME_MS - Client.SYNC_TIME_HYSTERESIS_MS) .id

theorem drawn_autoAsynchronous : Drawn Client.autoAsynchronous autoAsynchronous :=
  ((drawn_setSyncMode false).comp (drawn_modify
    (f := fun c => { c with currentState := Client.ASYNCHRONOUS_MODE }) (fun _ => ⟨rfl,rfl,rfl⟩))).ite
    (fun c => c.syncAuto ∧ c.averageGap > Client.SYNC_TIME_MS + Client.SYNC_TIME_HYSTERESIS_MS) .id

theorem drawn_showFrame (frame : ServerFrame) :
    Drawn (Client.showFrame frame) (showFrame frame) := by
  unfold Client.showFrame showFrame
  cases Camera.ofNumber frame.server with
  | none => exact .id
  | some k => exact (drawn_setDelayTime k _).comp (drawn_setNewImage k frame.image)

end Screen

end VideoSurveillance
