import Mathlib.Logic.Basic
import Mathlib.Tactic.SplitIfs
import VideoSurveillance.Library.BigEndian
import VideoSurveillance.Mode

namespace VideoSurveillance

structure SocketWriter where
  mode : Mode
  motionBit : UInt8
  deriving DecidableEq

namespace SocketWriter

def start : SocketWriter := ⟨.idle,0⟩

def socketSetMode (newMode : Mode) (motionDetected : Int32) (w : SocketWriter) : SocketWriter :=
  if w.mode = newMode then w
  else
    let w := if motionDetected ≠ 0 then { w with motionBit := 2 } else w
    let w := if newMode = .idle then { w with motionBit := 0 } else w
    { w with mode := newMode }

def startFlag : List UInt8 :=
  ['S','T','A','R','T','F','R','A','M','E'].map Char.toUInt8

def outputStartFlag : List (List UInt8) := [startFlag]

def headerMode (w : SocketWriter) : UInt8 :=
  (if w.mode = .movie then 1 else 0) ||| w.motionBit

def outputHeader (w : SocketWriter) (timeUnix : UInt64) (size : UInt32) : List (List UInt8) :=
  (List.range 8).reverse.map (fun i => [(timeUnix >>> UInt64.ofNat (i * 8)).toUInt8 &&& 0xFF]) ++
  (List.range 4).reverse.map (fun i => [(size >>> UInt32.ofNat (i * 8)).toUInt8 &&& 0xFF]) ++
  [[w.headerMode]]

def outputJpeg (data : List UInt8) : List (List UInt8) := [data]

def captureAndOutputSocket (w : SocketWriter) (timeUnix : UInt64) (data : List UInt8) :
    List (List UInt8) :=
  outputStartFlag ++ w.outputHeader timeUnix (UInt32.ofNat data.length) ++ outputJpeg data

theorem and_0xFF (b : UInt8) : b &&& 0xFF = b := UInt8.toBitVec_inj.mp BitVec.and_allOnes

theorem outputHeader_bytes (w : SocketWriter) (timeUnix : UInt64) (size : UInt32) :
    (w.outputHeader timeUnix size).flatten =
      (List.range 8).map (fun i => ⟨BigEndian.split 8 timeUnix.toBitVec i⟩) ++
      (List.range 4).map (fun i => ⟨BigEndian.split 4 size.toBitVec i⟩) ++ [w.headerMode] := by
  simp only [outputHeader,and_0xFF]
  rfl

theorem captureAndOutputSocket_bytes (w : SocketWriter) (timeUnix : UInt64) (data : List UInt8) :
    (w.captureAndOutputSocket timeUnix data).flatten =
      startFlag ++ (w.outputHeader timeUnix (UInt32.ofNat data.length)).flatten ++ data := by
  simp [captureAndOutputSocket,outputStartFlag,outputJpeg]

theorem socketSetMode_same {w : SocketWriter} {m : Mode} (f : Int32) (h : w.mode = m) :
    w.socketSetMode m f = w := if_pos h

theorem socketSetMode_changed {w : SocketWriter} {m : Mode} (f : Int32) (h : w.mode ≠ m) :
    w.socketSetMode m f =
      ⟨m,if m = .idle then 0 else if f ≠ 0 then 2 else w.motionBit⟩ := by
  simp only [socketSetMode,if_neg h]
  split_ifs <;> rfl

@[simp] theorem socketSetMode_mode (w : SocketWriter) (m : Mode) (f : Int32) :
    (w.socketSetMode m f).mode = m := by
  rcases eq_or_ne w.mode m with h | h
  · rw [socketSetMode_same f h,h]
  · rw [socketSetMode_changed f h]

theorem socketSetMode_again (w : SocketWriter) (m : Mode) (f : Int32) :
    (w.socketSetMode m f).socketSetMode m f = w.socketSetMode m f :=
  socketSetMode_same f (socketSetMode_mode w m f)

end SocketWriter

end VideoSurveillance
