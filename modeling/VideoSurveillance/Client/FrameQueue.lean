import VideoSurveillance.Client.FrameBuffer
import VideoSurveillance.Library.Runs

namespace VideoSurveillance.FrameQueue

inductive Operation where
  | add (frame : ServerFrame)
  | pop
  deriving DecidableEq

structure State where
  buffer : FrameBuffer
  popped : List ServerFrame
  deriving DecidableEq

def step (s : State) : Operation → Option State
  | .add frame => some { s with buffer := s.buffer.add frame }
  | .pop => s.buffer.pop.map (fun p => ⟨p.2,s.popped ++ [p.1]⟩)

def system : Runs.System State Operation where
  init := ⟨.empty,[]⟩
  step := step

def added (operations : List Operation) : List ServerFrame :=
  operations.flatMap (fun o => match o with
    | .add frame => [frame]
    | .pop => [])

def departures (s : State) : List ServerFrame := s.popped ++ s.buffer.frames.reverse

structure TimeOrdered (b : FrameBuffer) : Prop where
  newestFirst : b.frames.Pairwise (fun newer older => older.sentTime ≤ newer.sentTime)
  oldest : b.frames ≠ [] → ∃ frame rest, b.peek = some frame ∧ b.pop = some (frame,rest) ∧
    b.frames = rest.frames ++ [frame] ∧ ∀ f ∈ b.frames, frame.sentTime ≤ f.sentTime

theorem pop_some {s t : State} (h : step s .pop = some t) :
    ∃ frame, s.buffer.frames = t.buffer.frames ++ [frame] ∧ t.popped = s.popped ++ [frame] := by
  obtain ⟨⟨frame,rest⟩,hp,rfl⟩ := Option.map_eq_some_iff.mp h
  exact ⟨frame,FrameBuffer.pop_eq_some.mp hp,rfl⟩

theorem departures_pop {s t : State} (h : step s .pop = some t) : departures t = departures s := by
  obtain ⟨frame,hframes,hpopped⟩ := pop_some h
  rw [departures,departures,hframes,hpopped,List.reverse_append,List.append_assoc]
  rfl

theorem frames_add (b : FrameBuffer) (frame : ServerFrame) :
    (b.add frame).frames = Descending.place ServerFrame.sentTime frame b.frames :=
  FrameBuffer.insertWalk_place frame b.frames

theorem departures_add (s : State) (frame : ServerFrame) :
    (departures { s with buffer := s.buffer.add frame }).Perm (departures s ++ [frame]) := by
  have hplace : (s.buffer.add frame).frames.reverse.Perm (s.buffer.frames.reverse ++ [frame]) := by
    rw [frames_add,← List.reverse_cons]
    exact (List.reverse_perm _).trans
      ((Descending.place_perm _ frame _).trans (List.reverse_perm _).symm)
  rw [departures,departures,List.append_assoc]
  exact hplace.append_left s.popped

theorem conserved {operations : List Operation} {s : State}
    (hrun : system.run operations = some s) : (added operations).Perm (departures s) := by
  induction operations using List.reverseRecOn generalizing s with
  | nil =>
    cases hrun
    exact .refl _
  | append_singleton operations o ih =>
    obtain ⟨t,ht,hstep⟩ := system.run_snoc_some.mp hrun
    rw [added,List.flatMap_append,← added,List.flatMap_singleton]
    cases o with
    | add frame =>
      cases hstep
      exact ((ih ht).append_right [frame]).trans (departures_add t frame).symm
    | pop =>
      rw [departures_pop hstep,List.append_nil]
      exact ih ht

theorem timeOrdered (b : FrameBuffer) : TimeOrdered b := by
  refine ⟨b.newestFirst,fun hne => ?_⟩
  obtain ⟨frame,rest,hpop⟩ := FrameBuffer.pop_of_size (mt List.length_eq_zero_iff.mp hne)
  exact ⟨frame,rest,FrameBuffer.peek_of_pop hpop,hpop,FrameBuffer.pop_eq_some.mp hpop,
    FrameBuffer.pop_oldest hpop⟩

theorem time_ordered_queue (operations : List Operation) (s : State)
    (hrun : system.run operations = some s) :
    TimeOrdered s.buffer ∧ (added operations).Perm (s.popped ++ s.buffer.frames) :=
  ⟨timeOrdered s.buffer,
    (conserved hrun).trans ((List.reverse_perm s.buffer.frames).append_left s.popped)⟩

def tiedFrames : List Operation :=
  [.add ⟨[1],5,9,1⟩,.add ⟨[2],3,9,2⟩,.add ⟨[3],5,9,1⟩,.pop,.pop]

theorem time_ordered_queue_tiedFrames :
    ∃ s, system.run tiedFrames = some s ∧ s.popped = [⟨[2],3,9,2⟩,⟨[3],5,9,1⟩] ∧
      TimeOrdered s.buffer ∧ (added tiedFrames).Perm (s.popped ++ s.buffer.frames) :=
  ⟨_,rfl,rfl,time_ordered_queue tiedFrames _ rfl⟩

end VideoSurveillance.FrameQueue
