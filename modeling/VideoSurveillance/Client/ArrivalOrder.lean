import VideoSurveillance.Client.FrameQueue
import VideoSurveillance.Client.Playout

namespace VideoSurveillance.FrameQueue

def ofServer (server : Int32) (frames : List ServerFrame) : List ServerFrame :=
  frames.filter (fun frame => frame.server = server)

theorem ofServer_append (server : Int32) (xs ys : List ServerFrame) :
    ofServer server (xs ++ ys) = ofServer server xs ++ ofServer server ys := List.filter_append xs ys

theorem ofServer_cons_same {server : Int32} {frame : ServerFrame} (h : frame.server = server)
    (xs : List ServerFrame) : ofServer server (frame :: xs) = frame :: ofServer server xs :=
  List.filter_cons_of_pos (by simpa using h)

theorem ofServer_cons_other {server : Int32} {frame : ServerFrame} (h : frame.server ≠ server)
    (xs : List ServerFrame) : ofServer server (frame :: xs) = ofServer server xs :=
  List.filter_cons_of_neg (by simpa using h)

def LeaveInOrder (server : Int32) (arrived : List ServerFrame) (s : State) : Prop :=
  ∀ n t, system.after s (List.replicate n .pop) = some t →
    ofServer server t.popped <+: ofServer server arrived

theorem departures_pops {n : ℕ} {s t : State}
    (h : system.after s (List.replicate n .pop) = some t) : departures t = departures s := by
  induction n generalizing s with
  | zero =>
    cases h
    rfl
  | succ n ih =>
    obtain ⟨u,hu,hrest⟩ := Option.bind_eq_some_iff.mp h
    rw [ih hrest,departures_pop hu]

theorem drain (s : State) :
    ∃ n t, system.after s (List.replicate n .pop) = some t ∧ t.popped = departures s := by
  induction hn : s.buffer.size generalizing s with
  | zero =>
    have hempty : s.buffer.frames = [] := List.length_eq_zero_iff.mp hn
    exact ⟨0,s,rfl,by rw [departures,hempty]; exact (List.append_nil _).symm⟩
  | succ n ih =>
    obtain ⟨frame,rest,hpop⟩ := FrameBuffer.pop_of_size (by rw [hn]; exact Nat.succ_ne_zero n)
    have hstep : system.step s .pop = some ⟨rest,s.popped ++ [frame]⟩ := by
      simp only [system,step,hpop]
      rfl
    have hsize : rest.size = n := by
      rw [FrameBuffer.size,FrameBuffer.pop_eq_some.mp hpop,List.length_append] at hn
      exact Nat.succ.inj hn
    obtain ⟨m,t,hdrain,hpopped⟩ := ih ⟨rest,s.popped ++ [frame]⟩ hsize
    refine ⟨m + 1,t,?_,hpopped.trans (departures_pop hstep)⟩
    rw [List.replicate_succ,Runs.System.after_cons,hstep]
    exact hdrain

theorem leaveInOrder_iff {server : Int32} {arrived : List ServerFrame} {s : State}
    (h : arrived.Perm (departures s)) :
    LeaveInOrder server arrived s ↔
      ofServer server (departures s) = ofServer server arrived := by
  constructor
  · intro horder
    obtain ⟨n,t,hdrain,hpopped⟩ := drain s
    have hprefix := horder n t hdrain
    rw [hpopped] at hprefix
    exact hprefix.eq_of_length (h.filter _).length_eq.symm
  · intro heq n t hpops
    rw [← heq,← departures_pops hpops]
    exact (List.prefix_append t.popped _).filter _

theorem cons_eq_concat {x : ServerFrame} {xs : List ServerFrame} :
    x :: xs = xs ++ [x] ↔ ∀ y ∈ xs, y = x := by
  constructor
  · intro h
    induction xs with
    | nil => simp
    | cons y ys ih =>
      obtain ⟨rfl,hrest⟩ := List.cons.inj h
      intro z hz
      rcases List.mem_cons.mp hz with rfl | hz
      · rfl
      · exact ih hrest z hz
  · intro h
    rw [List.eq_replicate_of_mem h,← List.replicate_succ,List.replicate_succ']

theorem mem_newer_iff {server : Int32} {arrived newer older : List ServerFrame}
    {frame : ServerFrame} (hnewer : ∀ f ∈ newer, frame.sentTime ≤ f.sentTime)
    (holder : ∀ f ∈ older, f.sentTime < frame.sentTime)
    (hsent : ∀ f ∈ ofServer server arrived, f.sentTime ≤ frame.sentTime)
    (harrived : ∀ f ∈ newer, f.server = server → f ∈ ofServer server arrived)
    (held : ServerFrame) :
    held ∈ ofServer server newer.reverse ↔
      held ∈ newer ++ older ∧ held.server = server ∧ held.sent = frame.sent := by
  simp only [ofServer,List.mem_filter,List.mem_reverse,decide_eq_true_eq,List.mem_append]
  constructor
  · rintro ⟨hmem,hheld⟩
    have hsame : held.sentTime = frame.sentTime :=
      le_antisymm (hsent held (harrived held hmem hheld)) (hnewer held hmem)
    exact ⟨.inl hmem,hheld,Int64.toInt_inj.mp hsame⟩
  · rintro ⟨hmem,hheld,hsame⟩
    refine ⟨hmem.resolve_right (fun hlate => ?_),hheld⟩
    have hlt := holder held hlate
    rw [ServerFrame.sentTime,hsame] at hlt
    exact lt_irrefl _ hlt

theorem add_in_order_iff {server : Int32} {arrived : List ServerFrame} {s : State}
    {frame : ServerFrame} (heq : ofServer server (departures s) = ofServer server arrived)
    (hsent : frame.server = server → ∀ f ∈ ofServer server arrived, f.sentTime ≤ frame.sentTime) :
    ofServer server (departures { s with buffer := s.buffer.add frame }) =
        ofServer server (arrived ++ [frame]) ↔
      (frame.server = server → ∀ held ∈ s.buffer.frames, held.server = server →
        held.sent = frame.sent → held = frame) := by
  obtain ⟨newer,older,hframes,hadd,hnewer,holder⟩ :=
    Descending.place_split ServerFrame.sentTime (x := frame) s.buffer.newestFirst
  have hbefore : departures s = s.popped ++ older.reverse ++ newer.reverse := by
    rw [departures,hframes,List.reverse_append,List.append_assoc]
  have hafter : departures { s with buffer := s.buffer.add frame } =
      s.popped ++ older.reverse ++ frame :: newer.reverse := by
    rw [departures,frames_add,hadd,List.reverse_append,List.reverse_cons]
    simp only [List.append_assoc,List.singleton_append]
  rw [hbefore,ofServer_append] at heq
  rw [hafter,ofServer_append,ofServer_append server arrived]
  rcases eq_or_ne frame.server server with hserver | hserver
  · have harrived : ∀ f ∈ newer, f.server = server → f ∈ ofServer server arrived := by
      intro f hmem hf
      rw [← heq]
      simp [ofServer,hmem,hf]
    have htied := mem_newer_iff hnewer holder (hsent hserver) harrived
    rw [ofServer_cons_same hserver,ofServer_cons_same hserver [],← heq,List.append_assoc,
      List.append_cancel_left_eq]
    refine cons_eq_concat.trans ?_
    simp only [htied,hframes,hserver,true_implies,and_imp]
  · rw [ofServer_cons_other hserver,ofServer_cons_other hserver []]
    exact iff_of_true (heq.trans (List.append_nil _).symm) (fun h => absurd h hserver)

end VideoSurveillance.FrameQueue

namespace VideoSurveillance.Updater

def State.queue (s : State) : FrameQueue.State where
  buffer := s.client.frames
  popped := s.popped.map Popped.frame

def Event.added : Event → List ServerFrame
  | .addFrame _ frame => [frame]
  | _ => []

def arrivals (events : List Event) : List ServerFrame := events.flatMap Event.added

def SentInOrder (server : Int32) (frames : List ServerFrame) : Prop :=
  (FrameQueue.ofServer server frames).Pairwise (fun earlier later => earlier.sentTime ≤ later.sentTime)

def NoTieHeld (server : Int32) (s : State) : Event → Prop
  | .addFrame _ frame => frame.server = server → ∀ held ∈ s.client.frames.frames,
      held.server = server → held.sent = frame.sent → held = frame
  | _ => True

theorem arrivals_snoc (events : List Event) (e : Event) :
    arrivals (events ++ [e]) = arrivals events ++ e.added := by
  rw [arrivals,List.flatMap_append,List.flatMap_singleton,← arrivals]

theorem queue_add (filter : Int64 → Int64 → Int64) (s : State) (frame : ServerFrame) :
    State.queue { s with client := s.client.addFrame filter frame } =
      { s.queue with buffer := s.queue.buffer.add frame } := by
  simp only [State.queue,Client.addFrame_frames]

theorem queue_pop {s t : State} {frame : ServerFrame} {reading : Option Int64}
    (hpop : s.client.frames.pop = some (frame,t.client.frames))
    (hpopped : t.popped = s.popped ++ [⟨frame,reading⟩]) :
    FrameQueue.step s.queue .pop = some t.queue := by
  simp only [FrameQueue.step,State.queue,hpop,hpopped,List.map_append]
  rfl

theorem queue_progress {filter : Int64 → Int64 → Int64} {s t : State} {e : Event}
    (he : e.added = []) (h : Progress filter s e t) :
    t.queue = s.queue ∨ FrameQueue.step s.queue .pop = some t.queue := by
  cases h with
  | added => cases he
  | settled hsame => exact .inl (by simp only [State.queue,hsame.frames])
  | awaiting => exact .inl rfl
  | waiting _ hframes => exact .inl (by simp only [State.queue,hframes])
  | poppedAsynchronous hpop => exact .inr (queue_pop hpop rfl)
  | poppedSynchronous _ _ hpop => exact .inr (queue_pop hpop rfl)

theorem queue_step {filter : Int64 → Int64 → Int64} {events : List Event} {s t : State} {e : Event}
    (hrun : (system filter).run events = some s) (hstep : step filter s e = some t) :
    (∃ now frame, e = .addFrame now frame ∧
      t.queue = { s.queue with buffer := s.queue.buffer.add frame }) ∨
    e.added = [] ∧ FrameQueue.departures t.queue = FrameQueue.departures s.queue := by
  have hprogress := step_progress (framesAwaited_run hrun) hstep
  cases e with
  | addFrame now frame =>
    cases hstep
    exact .inl ⟨now,frame,rfl,queue_add filter s frame⟩
  | update | wake | clickSyncMode | clickAuto =>
    refine .inr ⟨rfl,?_⟩
    rcases queue_progress rfl hprogress with heq | hpop
    · rw [heq]
    · exact FrameQueue.departures_pop hpop

theorem arrivals_conserved {filter : Int64 → Int64 → Int64} {events : List Event} {s : State}
    (hrun : (system filter).run events = some s) :
    (arrivals events).Perm (FrameQueue.departures s.queue) := by
  induction events using List.reverseRecOn generalizing s with
  | nil =>
    cases hrun
    exact .refl _
  | append_singleton events e ih =>
    obtain ⟨t,ht,hstep⟩ := (system filter).run_snoc_some.mp hrun
    rw [arrivals_snoc]
    rcases queue_step ht hstep with ⟨now,frame,rfl,hqueue⟩ | ⟨hnone,hsame⟩
    · rw [hqueue]
      exact ((ih ht).append_right [frame]).trans (FrameQueue.departures_add t.queue frame).symm
    · rw [hnone,hsame,List.append_nil]
      exact ih ht

def InOrderSoFar (server : Int32) (events : List Event) (s : State) : Prop :=
  FrameQueue.ofServer server (FrameQueue.departures s.queue) =
    FrameQueue.ofServer server (arrivals events)

theorem noTieHeld_silent {server : Int32} {s : State} {e : Event} (h : e.added = []) :
    NoTieHeld server s e := by
  cases e with
  | addFrame => cases h
  | update | wake | clickSyncMode | clickAuto => trivial

theorem sentInOrder_snoc {server : Int32} {events : List Event} {now : Int64} {frame : ServerFrame}
    (h : SentInOrder server (arrivals (events ++ [.addFrame now frame])))
    (hserver : frame.server = server) :
    ∀ f ∈ FrameQueue.ofServer server (arrivals events), f.sentTime ≤ frame.sentTime := by
  rw [SentInOrder,arrivals_snoc,Event.added,FrameQueue.ofServer_append,
    FrameQueue.ofServer_cons_same hserver] at h
  obtain ⟨-,-,hlast⟩ := List.pairwise_append.mp h
  exact fun f hf => hlast f hf frame (by simp)

theorem sentInOrder_prior {server : Int32} {prior events : List Event} (hp : prior <+: events)
    (h : SentInOrder server (arrivals events)) : SentInOrder server (arrivals prior) := by
  obtain ⟨later,rfl⟩ := hp
  rw [SentInOrder,arrivals,List.flatMap_append,FrameQueue.ofServer_append] at h
  exact (List.pairwise_append.mp h).1

theorem inOrderSoFar_snoc {filter : Int64 → Int64 → Int64} {server : Int32} {events : List Event}
    {s t : State} {e : Event} (hrun : (system filter).run events = some s)
    (hstep : step filter s e = some t) (hsent : SentInOrder server (arrivals (events ++ [e])))
    (h : InOrderSoFar server events s) :
    InOrderSoFar server (events ++ [e]) t ↔ NoTieHeld server s e := by
  rw [InOrderSoFar,arrivals_snoc]
  rcases queue_step hrun hstep with ⟨now,frame,rfl,hqueue⟩ | ⟨hnone,hsame⟩
  · rw [hqueue]
    exact FrameQueue.add_in_order_iff h (sentInOrder_snoc hsent)
  · rw [hnone,hsame,List.append_nil]
    exact iff_of_true h (noTieHeld_silent hnone)

theorem leave_in_order_iff (filter : Int64 → Int64 → Int64) (events : List Event) (s : State)
    (server : Int32) (hrun : (system filter).run events = some s)
    (hsent : SentInOrder server (arrivals events)) :
    (∀ prior u, prior <+: events → (system filter).run prior = some u →
      FrameQueue.LeaveInOrder server (arrivals prior) u.queue) ↔
      (system filter).Meets (NoTieHeld server) events := by
  rw [← (system filter).prefixes_iff_meets hrun rfl
    (fun prior e t u hp ht hu => inOrderSoFar_snoc ht hu (sentInOrder_prior hp hsent))]
  refine forall₄_congr (fun prior u _ hu => ?_)
  exact FrameQueue.leaveInOrder_iff (arrivals_conserved hu)

instance (server : Int32) (frames : List ServerFrame) : Decidable (SentInOrder server frames) :=
  inferInstanceAs (Decidable (List.Pairwise _ _))

instance (server : Int32) (s : State) : ∀ e, Decidable (NoTieHeld server s e)
  | .addFrame _ frame =>
    @instDecidableForall _ _ _ (List.decidableBAll
      (fun held => held.server = server → held.sent = frame.sent → held = frame)
      s.client.frames.frames)
  | .update _ _ _ => isTrue trivial
  | .wake _ _ _ => isTrue trivial
  | .clickSyncMode _ => isTrue trivial
  | .clickAuto => isTrue trivial

def otherCameraTied : List Event :=
  [.addFrame 6 ⟨[1],5,6,1⟩,.addFrame 6 ⟨[2],5,6,2⟩,.update 7 7 7,.addFrame 8 ⟨[3],5,8,2⟩,
    .addFrame 8 ⟨[4],6,8,1⟩]

theorem leave_in_order_iff_otherCameraTied :
    ∃ s, (system Client.exactFilter).run otherCameraTied = some s ∧
      ∀ prior u, prior <+: otherCameraTied → (system Client.exactFilter).run prior = some u →
        FrameQueue.LeaveInOrder 1 (arrivals prior) u.queue :=
  ⟨_,rfl,(leave_in_order_iff Client.exactFilter otherCameraTied _ 1 rfl (by decide)).mpr
    ((system Client.exactFilter).meets_of_check (by decide))⟩

theorem equal_times_reversed :
    ¬ ∀ (filter : Int64 → Int64 → Int64) (events : List Event) (s : State) (server : Int32),
      (system filter).run events = some s → SentInOrder server (arrivals events) →
      FrameQueue.ofServer server s.queue.popped <+:
        FrameQueue.ofServer server (arrivals events) := by
  intro h
  have hrun := h Client.exactFilter
    [.addFrame 6 ⟨[1],5,6,1⟩,.addFrame 6 ⟨[2],5,6,1⟩,.update 7 7 7] _ 1 rfl (by decide)
  exact absurd hrun (by decide)

end VideoSurveillance.Updater
