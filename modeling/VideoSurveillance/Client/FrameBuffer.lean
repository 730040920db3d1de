import Mathlib.Data.Int.Order.Basic
import VideoSurveillance.Library.Descending

namespace VideoSurveillance

structure ServerFrame where
  image : List UInt8
  sent : Int64
  received : Int64
  server : Int32
  deriving DecidableEq

def ServerFrame.sentTime (frame : ServerFrame) : ℤ := frame.sent.toInt

structure FrameBuffer where
  frames : List ServerFrame
  newestFirst : Descending.Ordered ServerFrame.sentTime frames
  deriving DecidableEq

namespace FrameBuffer

def empty : FrameBuffer := ⟨[],Descending.ordered_nil _⟩

def size (b : FrameBuffer) : ℕ := b.frames.length

def peek (b : FrameBuffer) : Option ServerFrame := b.frames.getLast?

def pop (b : FrameBuffer) : Option (ServerFrame × FrameBuffer) :=
  b.peek.map (fun frame => (frame,⟨b.frames.dropLast,Descending.ordered_dropLast _ b.newestFirst⟩))

def insertionPoint (frame : ServerFrame) : ℕ → List ServerFrame → Option ℕ
  | _, [] => none
  | nextIndex, currentNode :: rest =>
    if currentNode.sent < frame.sent then some nextIndex
    else insertionPoint frame (nextIndex + 1) rest

def insertWalk (frame : ServerFrame) (frames : List ServerFrame) : List ServerFrame :=
  match insertionPoint frame 0 frames with
  | some insertionIndex => frames.insertIdx insertionIndex frame
  | none => frames ++ [frame]

theorem insertionPoint_shift (frame : ServerFrame) (n : ℕ) (frames : List ServerFrame) :
    insertionPoint frame (n + 1) frames = (insertionPoint frame n frames).map (· + 1) := by
  induction frames generalizing n with
  | nil => rfl
  | cons c rest ih =>
    simp only [insertionPoint]
    split_ifs
    · rfl
    · exact ih (n + 1)

theorem insertWalk_cons (frame c : ServerFrame) (rest : List ServerFrame) :
    insertWalk frame (c :: rest) =
      if c.sent < frame.sent then frame :: c :: rest else c :: insertWalk frame rest := by
  simp only [insertWalk,insertionPoint]
  split_ifs with hc
  · rfl
  · rw [insertionPoint_shift]
    cases insertionPoint frame 0 rest <;> rfl

theorem insertWalk_place (frame : ServerFrame) (frames : List ServerFrame) :
    insertWalk frame frames = Descending.place ServerFrame.sentTime frame frames := by
  induction frames with
  | nil => rfl
  | cons c rest ih =>
    rw [insertWalk_cons,Descending.place,ih]
    exact if_congr Int64.lt_iff_toInt_lt rfl rfl

def add (b : FrameBuffer) (frame : ServerFrame) : FrameBuffer where
  frames := insertWalk frame b.frames
  newestFirst := by
    rw [insertWalk_place]
    exact Descending.place_ordered _ b.newestFirst

theorem mem_add {b : FrameBuffer} {frame f : ServerFrame} :
    f ∈ (b.add frame).frames ↔ f = frame ∨ f ∈ b.frames := by
  change f ∈ insertWalk frame b.frames ↔ _
  rw [insertWalk_place,Descending.mem_place]

theorem pop_eq_some {b c : FrameBuffer} {frame : ServerFrame} :
    b.pop = some (frame,c) ↔ b.frames = c.frames ++ [frame] := by
  obtain ⟨fs,hfs⟩ := b
  obtain ⟨gs,hgs⟩ := c
  simp only [pop,peek,Option.map_eq_some_iff,Prod.mk.injEq,mk.injEq,List.getLast?_eq_some_iff]
  constructor
  · rintro ⟨f,⟨ys,rfl⟩,rfl,rfl⟩
    simp
  · rintro rfl
    exact ⟨frame,⟨gs,rfl⟩,rfl,by simp⟩

theorem pop_oldest {b c : FrameBuffer} {frame : ServerFrame} (h : b.pop = some (frame,c)) :
    ∀ f ∈ b.frames, frame.sentTime ≤ f.sentTime := by
  intro f hf
  exact Descending.getLast_le _ b.newestFirst (by simp [pop_eq_some.mp h]) hf

theorem peek_of_pop {b c : FrameBuffer} {frame : ServerFrame} (h : b.pop = some (frame,c)) :
    b.peek = some frame := by
  simp [peek,pop_eq_some.mp h]

theorem peek_eq_none {b : FrameBuffer} : b.peek = none ↔ b.size = 0 := by
  simp [peek,size]

theorem pop_of_size {b : FrameBuffer} (h : b.size ≠ 0) : ∃ frame rest, b.pop = some (frame,rest) := by
  obtain ⟨frame,hf⟩ := Option.ne_none_iff_exists'.mp (mt peek_eq_none.mp h)
  exact ⟨frame,_,by rw [pop,hf]; rfl⟩

end FrameBuffer

end VideoSurveillance
