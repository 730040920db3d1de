import VideoSurveillance.Client.FrameBuffer
import VideoSurveillance.Library.Reentrant
import VideoSurveillance.Mode

namespace VideoSurveillance

inductive Camera where
  | one
  | two
  deriving DecidableEq, Repr

namespace Camera

def number : Camera → Int32
  | .one => 1
  | .two => 2

def ofNumber (server : Int32) : Option Camera :=
  if 1 = server then some .one else if 2 = server then some .two else none

def other : Camera → Camera
  | .one => .two
  | .two => .one

end Camera

structure PerCamera (A : Type) where
  one : A
  two : A
  deriving DecidableEq

namespace PerCamera
variable {A : Type}

def get (p : PerCamera A) : Camera → A
  | .one => p.one
  | .two => p.two

def set (p : PerCamera A) : Camera → A → PerCamera A
  | .one, a => { p with one := a }
  | .two, a => { p with two := a }

def swap (p : PerCamera A) : PerCamera A := ⟨p.two,p.one⟩

@[simp] theorem get_set (p : PerCamera A) (k : Camera) (a : A) : (p.set k a).get k = a := by
  cases k <;> rfl

@[simp] theorem get_set_other (p : PerCamera A) (k : Camera) (a : A) :
    (p.set k a).get k.other = p.get k.other := by cases k <;> rfl

theorem get_set_ne (p : PerCamera A) {k j : Camera} (h : j ≠ k) (a : A) :
    (p.set k a).get j = p.get j := by
  cases k <;> cases j <;> first | rfl | exact absurd rfl h

@[simp] theorem set_set (p : PerCamera A) (k : Camera) (a b : A) :
    (p.set k a).set k b = p.set k b := by cases k <;> rfl

@[simp] theorem set_get (p : PerCamera A) (k : Camera) : p.set k (p.get k) = p := by
  cases k <;> rfl

@[simp] theorem swap_get_other (p : PerCamera A) (k : Camera) : p.swap.get k.other = p.get k := by
  cases k <;> rfl

@[simp] theorem swap_set_other (p : PerCamera A) (k : Camera) (a : A) :
    p.swap.set k.other a = (p.set k a).swap := by cases k <;> rfl

end PerCamera

structure CameraControlModel where
  image : List UInt8
  delayTime : Int32
  movieModeOn : Bool
  motionDetected : Bool
  deriving DecidableEq

structure SettingsModel where
  syncModeOn : Bool
  autoActivated : Bool
  deriving DecidableEq

structure Client where
  movingAverageServer : PerCamera Int64
  currentSyncTimeMs : Int64
  frames : FrameBuffer
  currentCameraMode : PerCamera Mode
  currentState : Bool
  syncAuto : Bool
  camera : PerCamera CameraControlModel
  settings : SettingsModel
  autoButton : Bool
  deriving DecidableEq

inductive Observable where
  | camera (k : Camera)
  | settings
  deriving DecidableEq, Repr

namespace Client

def ASYNCHRONOUS_MODE : Bool := false
def SYNCHRONOUS_MODE : Bool := true
def SYNC_TIME_MS : Int64 := 500
def SYNC_TIME_HYSTERESIS_MS : Int64 := 50

def start : Client where
  movingAverageServer := ⟨0,0⟩
  currentSyncTimeMs := SYNC_TIME_MS
  frames := .empty
  currentCameraMode := ⟨.idle,.idle⟩
  currentState := ASYNCHRONOUS_MODE
  syncAuto := false
  camera := ⟨⟨[],0,false,false⟩,⟨[],0,false,false⟩⟩
  settings := ⟨false,false⟩
  autoButton := false

def mode (c : Client) (k : Camera) : Mode := c.currentCameraMode.get k

def model (c : Client) (k : Camera) : CameraControlModel := c.camera.get k

def setMode (c : Client) (k : Camera) (m : Mode) : Client :=
  { c with currentCameraMode := c.currentCameraMode.set k m }

def setModel (c : Client) (k : Camera) (m : CameraControlModel) : Client :=
  { c with camera := c.camera.set k m }

def assignImage (c : Client) (k : Camera) (image : List UInt8) : Client :=
  c.setModel k { c.model k with image := image }

def assignDelayTime (c : Client) (k : Camera) (time : Int32) : Client :=
  c.setModel k { c.model k with delayTime := time }

def assignMovieMode (c : Client) (k : Camera) (movie : Bool) : Client :=
  c.setModel k { c.model k with movieModeOn := movie }

def assignMotionDetected (c : Client) (k : Camera) (motion : Bool) : Client :=
  c.setModel k { c.model k with motionDetected := motion }

def assignSyncMode (c : Client) (sync : Bool) : Client :=
  { c with settings := { c.settings with syncModeOn := sync } }

def assignAutoMode (c : Client) (auto : Bool) : Client :=
  { c with settings := { c.settings with autoActivated := auto } }

def updateWindow (c : Client) : Client := { c with autoButton := c.settings.autoActivated }

def updateGuiCamera (notify : Observable → Client → Option Client) (k : Camera) (c : Client) :
    Option Client :=
  if (c.model k).movieModeOn ∧ c.mode k ≠ .movie then
    some (c.setMode k .movie)
  else if ¬ (c.model k).movieModeOn ∧ c.mode k ≠ .idle then do
    let c ← if (c.model k).motionDetected then notify (.camera k) (c.assignMotionDetected k false)
      else some c
    return c.setMode k .idle
  else some c

def updateGuiSettings (notify : Observable → Client → Option Client) (c : Client) :
    Option Client :=
  if c.settings.syncModeOn ≠ c.currentState then
    let c := { c with currentState := c.settings.syncModeOn }
    if c.settings.autoActivated then notify .settings (c.assignAutoMode false) else some c
  else if c.settings.autoActivated ≠ c.syncAuto then
    some { c with syncAuto := c.settings.autoActivated }
  else some c

def notifyObservers (notify : Observable → Client → Option Client) :
    Observable → Client → Option Client
  | .camera k, c => updateGuiCamera notify k c
  | .settings, c => updateGuiSettings notify c.updateWindow

def pendingReply : Observable → Client → ℕ
  | .camera k, c => if (c.model k).motionDetected then 1 else 0
  | .settings, c => if c.settings.syncModeOn ≠ c.currentState then 1 else 0

end Client

end VideoSurveillance
