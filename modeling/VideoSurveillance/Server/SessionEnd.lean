import VideoSurveillance.Library.Amortized
import VideoSurveillance.Server.Descriptors

namespace VideoSurveillance.Sockets
open Runs (Transition)

def Tolerant (s : State) : Prop := ∀ fd nothingCount,
  StreamListener.reading fd nothingCount ∈ s.listeners → nothingCount ≤ JIBBERISH_TOLERANCE

def LISTENER_STEPS : ℕ := JIBBERISH_TOLERANCE + 3

-- the steps a listener still takes when it reads nothing but jibberish
def listenerWork : StreamListener → ℕ
  | .starting => LISTENER_STEPS
  | .reading _ nothingCount => JIBBERISH_TOLERANCE + 2 - nothingCount
  | .closed => 1
  | .finished => 0

def listenersLeft (s : State) : ℕ :=
  (s.listeners.map listenerWork).sum + if s.stream = .creating then LISTENER_STEPS else 0

def streamLeft (s : State) : ℕ :=
  match s.stream with
  | .accepting => 0
  | .opening => 1
  | .closing => 2
  | .checking => 3
  | .creating => 4
  | .writing _ left => left.length + 4

def ClientGone : Event → Prop
  | .stream .accept => False
  | .listener _ (.read jibberish) => jibberish = true
  | _ => True

def listenerSteps (x : Transition State Event) : ℕ :=
  match x.event with
  | .listener _ _ => 1
  | _ => 0

def streamSteps (x : Transition State Event) : ℕ :=
  match x.event with
  | .stream _ => 1
  | _ => 0

def listenerGain (x : Transition State Event) : ℕ :=
  match x.event with
  | .stream .accept => LISTENER_STEPS
  | .listener _ (.read false) => 1
  | _ => 0

def streamGain (x : Transition State Event) : ℕ :=
  match x.event with
  | .stream .accept => 5
  | .stream (.captureFrame writer timeUnix data) =>
    (writer.captureAndOutputSocket timeUnix data).length + 2
  | _ => 0

theorem work_finished {listeners : List StreamListener} (h : AllFinished listeners) :
    (listeners.map listenerWork).sum = 0 := by
  apply List.sum_eq_zero
  intro n hn
  obtain ⟨l,hl,rfl⟩ := List.mem_map.mp hn
  rw [h l hl]
  rfl

theorem left_inLoop {s : State} {past : List StreamListener} {l : StreamListener}
    (hloop : InLoop s.stream) (hlisteners : s.listeners = past ++ [l]) (hpast : AllFinished past) :
    listenersLeft s = listenerWork l := by
  have hcreating : s.stream ≠ .creating := by
    rcases hloop with hloop | ⟨fd,left,hloop⟩ <;> rw [hloop] <;> nofun
  rw [listenersLeft,if_neg hcreating,hlisteners,List.map_append,List.sum_append,work_finished hpast]
  simp

theorem left_le {s : State} (h : Sound s) : listenersLeft s ≤ LISTENER_STEPS := by
  cases h.phase with
  | between hout _ hall =>
    have hcreating : s.stream ≠ .creating := by
      intro hp
      rw [hp] at hout
      simp at hout
    rw [listenersLeft,work_finished hall,if_neg hcreating]
    exact Nat.zero_le _
  | creating fd hp _ hall => rw [listenersLeft,work_finished hall,if_pos hp,Nat.zero_add]
  | inLoop past l hloop hlisteners hpast =>
    rw [left_inLoop hloop hlisteners hpast]
    cases l with
    | starting => exact Nat.le_refl _
    | reading fd nothingCount =>
      simp only [listenerWork,LISTENER_STEPS]
      omega
    | closed | finished => decide

theorem left_zero_iff {s : State} (h : Sound s) (ht : Tolerant s) :
    listenersLeft s = 0 ↔ s.streamSocket = none := by
  cases h.phase with
  | between hout hsocket hall =>
    have hcreating : s.stream ≠ .creating := by
      intro hp
      rw [hp] at hout
      simp at hout
    rw [listenersLeft,work_finished hall,if_neg hcreating]
    exact iff_of_true rfl hsocket
  | creating fd hp hsocket hall =>
    rw [listenersLeft,work_finished hall,if_pos hp,hsocket]
    exact iff_of_false (by decide) nofun
  | inLoop past l hloop hlisteners hpast hfollows =>
    rw [left_inLoop hloop hlisteners hpast]
    cases l with
    | starting => exact iff_of_false (by decide) hfollows
    | reading fd nothingCount =>
      have hcount := ht fd nothingCount (by simp [hlisteners])
      have hsome : s.streamSocket = some fd := hfollows
      rw [hsome]
      refine iff_of_false ?_ nofun
      simp only [listenerWork]
      omega
    | closed => exact iff_of_false (by decide) hfollows
    | finished => exact iff_of_true rfl hfollows

theorem tolerant_setListener {s : State} (h : Tolerant s) (i : ℕ) {m : StreamListener}
    (hm : ∀ fd nothingCount, m = .reading fd nothingCount → nothingCount ≤ JIBBERISH_TOLERANCE) :
    Tolerant (setListener i m s) := by
  intro fd nothingCount hmem
  rcases List.mem_or_eq_of_mem_set hmem with hmem | hmem
  · exact h fd nothingCount hmem
  · exact hm fd nothingCount hmem.symm

theorem tolerant_stream {s t : State} {e : StreamEvent} (h : Tolerant s)
    (hs : streamStep s e = some t) : Tolerant t := by
  have hsnoc : ∀ fd nothingCount,
      StreamListener.reading fd nothingCount ∈ s.listeners ++ [.starting] →
      nothingCount ≤ JIBBERISH_TOLERANCE := by
    intro fd nothingCount hmem
    rw [List.mem_append,List.mem_singleton] at hmem
    rcases hmem with hmem | hmem
    · exact h fd nothingCount hmem
    · cases hmem
  cases e with
  | createListener =>
    simp only [streamStep] at hs
    split at hs <;> cases hs
    exact hsnoc
  | write =>
    simp only [streamStep] at hs
    split at hs
    · next fd data left _ =>
      cases hs
      obtain ⟨deliveries,hd⟩ := deliver_cases fd data s
      rw [hd]
      exact h
    · cases hs
  | openJpegSocket | accept | captureFrame | endFrame | leaveLoop | closeJpegSocket =>
    simp only [streamStep] at hs
    split at hs <;> cases hs
    exact h

theorem tolerant_listener {i : ℕ} {s t : State} {e : ListenerEvent} (h : Tolerant s)
    (hs : listenerStep i s e = some t) : Tolerant t := by
  cases e with
  | start =>
    simp only [listenerStep] at hs
    split at hs <;> cases hs
    · exact tolerant_setListener h i (by simp)
    · exact tolerant_setListener h i (by simp)
  | read jibberish =>
    simp only [listenerStep] at hs
    split at hs
    · next fd nothingCount _ hi _ =>
      cases hs
      have hcount := h fd nothingCount (List.mem_of_getElem? hi)
      simp only [readCommand]
      split_ifs with hjib hover hover
      · exact tolerant_setListener h i (by simp)
      · refine tolerant_setListener h i ?_
        rintro fd' nothingCount' heq
        cases heq
        exact Nat.le_of_not_gt hover
      · exact tolerant_setListener h i (by simp)
      · refine tolerant_setListener h i ?_
        rintro fd' nothingCount' heq
        cases heq
        exact hcount
    · cases hs
      exact tolerant_setListener h i (by simp)
    · cases hs
  | storeInactive =>
    simp only [listenerStep] at hs
    split at hs <;> cases hs
    exact tolerant_setListener h i (by simp)

theorem tolerant_web {s t : State} {e : WebEvent} (h : Tolerant s) (hs : webStep s e = some t) :
    Tolerant t := by
  cases e with
  | accept | close =>
    simp only [webStep] at hs
    split at hs <;> cases hs
    exact h

structure Settled (s : State) : Prop extends Sound s where
  tolerant : Tolerant s

theorem settled_step {s t : State} {e : Event} (h : Settled s) (hs : step s e = some t) :
    Settled t := by
  refine ⟨sound_step h.toSound hs,?_⟩
  cases e with
  | stream e => exact tolerant_stream h.tolerant hs
  | listener i e => exact tolerant_listener h.tolerant hs
  | web e => exact tolerant_web h.tolerant hs

theorem settled_start : Settled start := ⟨sound_start,nofun⟩

theorem listeners_paid_stream {s t : State} {e : StreamEvent} (hs : streamStep s e = some t) :
    listenersLeft t ≤ listenersLeft s + listenerGain ⟨s,.stream e,t⟩ := by
  cases e with
  | write =>
    simp only [streamStep] at hs
    split at hs
    · next fd data left hp =>
      cases hs
      obtain ⟨deliveries,hd⟩ := deliver_cases fd data s
      simp [listenersLeft,hd,Nat.add_assoc]
    · cases hs
  | openJpegSocket | accept | createListener | captureFrame | endFrame | leaveLoop
    | closeJpegSocket =>
    simp only [streamStep] at hs
    split at hs
    · next hp =>
      cases hs
      simp_all [listenersLeft,listenerGain,listenerWork]
    · cases hs

theorem left_listened {s : State} (h : Sound s) {i : ℕ} {l : StreamListener}
    (hi : s.listeners[i]? = some l) (hl : l ≠ .finished) :
    listenersLeft s = listenerWork l ∧ ∀ m, listenersLeft (setListener i m s) = listenerWork m := by
  obtain ⟨hloop,past,hlisteners,rfl,hpast,-⟩ := live_listener h.phase hi hl
  refine ⟨left_inLoop hloop hlisteners hpast,fun m => ?_⟩
  have hset : (setListener past.length m s).listeners = past ++ [m] := by
    rw [setListener,hlisteners,set_last]
  exact left_inLoop hloop hset hpast

theorem listeners_paid_listener {i : ℕ} {s t : State} {e : ListenerEvent} (h : Settled s)
    (hs : listenerStep i s e = some t) :
    1 + listenersLeft t ≤ listenersLeft s + listenerGain ⟨s,.listener i e,t⟩ := by
  cases e with
  | start =>
    simp only [listenerStep] at hs
    split at hs
    · next fd hi _ =>
      cases hs
      obtain ⟨hbefore,hafter⟩ := left_listened h.toSound hi (by simp)
      rw [hbefore,hafter]
      exact Nat.le_refl _
    · next hi hsocket =>
      obtain ⟨-,-,-,-,-,hfollows⟩ := live_listener h.phase hi (by simp)
      exact absurd hsocket hfollows
    · cases hs
  | read jibberish =>
    simp only [listenerStep] at hs
    split at hs
    · next fd nothingCount _ hi _ =>
      cases hs
      have hcount := h.tolerant fd nothingCount (List.mem_of_getElem? hi)
      obtain ⟨hbefore,hafter⟩ := left_listened h.toSound hi (by simp)
      have hclosed : listenersLeft { setListener i .closed s with table := s.table.close fd } = 1 :=
        hafter .closed
      rw [hbefore]
      cases jibberish with
      | true =>
        simp only [readCommand,if_true]
        split_ifs with hover
        · rw [hclosed]
          simp only [listenerWork]
          omega
        · rw [hafter]
          simp only [listenerWork]
          omega
      | false =>
        simp only [readCommand,Bool.false_eq_true,if_false,if_neg (Nat.not_lt.mpr hcount),hafter,
          listenerGain]
        omega
    · next hi hjpeg =>
      exact absurd hjpeg (opening_loop h.toSound (live_listener h.phase hi (by simp)).1)
    · cases hs
  | storeInactive =>
    simp only [listenerStep] at hs
    split at hs
    · next hi =>
      cases hs
      obtain ⟨hbefore,hafter⟩ := left_listened h.toSound hi (by simp)
      have hfinished : listenersLeft { setListener i .finished s with streamSocket := none } = 0 :=
        hafter .finished
      rw [hbefore,hfinished]
      exact Nat.le_add_right 1 _
    · cases hs

theorem listeners_paid {s t : State} {e : Event} (h : Settled s) (hs : step s e = some t) :
    listenerSteps ⟨s,e,t⟩ + listenersLeft t ≤ listenersLeft s + listenerGain ⟨s,e,t⟩ := by
  cases e with
  | stream e =>
    rw [listenerSteps,Nat.zero_add]
    exact listeners_paid_stream hs
  | listener i e => exact listeners_paid_listener h hs
  | web e =>
    cases e with
    | accept | close =>
      simp only [step,webStep] at hs
      split at hs <;> cases hs
      rw [listenerSteps,Nat.zero_add]
      exact Nat.le_add_right _ _

theorem stream_paid_stream {s t : State} {e : StreamEvent} (hs : streamStep s e = some t) :
    1 + streamLeft t ≤ streamLeft s + streamGain ⟨s,.stream e,t⟩ := by
  cases e with
  | captureFrame writer timeUnix data =>
    simp only [streamStep] at hs
    split at hs
    · next hp _ =>
      cases hs
      simp only [streamLeft,streamGain,hp]
      omega
    · cases hs
  | write =>
    simp only [streamStep] at hs
    split at hs
    · next fd data left hp =>
      cases hs
      simp only [streamLeft,hp,List.length_cons]
      omega
    · cases hs
  | openJpegSocket | accept | createListener | endFrame =>
    simp only [streamStep] at hs
    split at hs
    · next hp =>
      cases hs
      simp [streamLeft,streamGain,hp]
    · cases hs
  | leaveLoop | closeJpegSocket =>
    simp only [streamStep] at hs
    split at hs
    · next hp _ =>
      cases hs
      simp [streamLeft,streamGain,hp]
    · cases hs

theorem streamLeft_listener {i : ℕ} {s t : State} {e : ListenerEvent}
    (hs : listenerStep i s e = some t) : streamLeft t = streamLeft s := by
  cases e with
  | start | storeInactive =>
    simp only [listenerStep] at hs
    split at hs <;> cases hs <;> rfl
  | read jibberish =>
    simp only [listenerStep] at hs
    split at hs
    · cases hs
      simp only [readCommand]
      split_ifs <;> rfl
    · cases hs
      rfl
    · cases hs

theorem stream_paid {s t : State} {e : Event} (hs : step s e = some t) :
    streamSteps ⟨s,e,t⟩ + streamLeft t ≤ streamLeft s + streamGain ⟨s,e,t⟩ := by
  cases e with
  | stream e => exact stream_paid_stream hs
  | listener i e =>
    rw [streamSteps,Nat.zero_add,streamLeft_listener hs]
    exact Nat.le_add_right _ _
  | web e =>
    cases e with
    | accept | close =>
      simp only [step,webStep] at hs
      split at hs <;> cases hs
      rw [streamSteps,Nat.zero_add]
      exact Nat.le_add_right _ _

theorem listenerGain_gone {s t : State} {e : Event} (h : ClientGone e) :
    listenerGain ⟨s,e,t⟩ = 0 := by
  cases e with
  | stream e =>
    cases e with
    | accept => exact h.elim
    | openJpegSocket | createListener | captureFrame | write | endFrame | leaveLoop
      | closeJpegSocket => rfl
  | listener i e =>
    cases e with
    | start | storeInactive => rfl
    | read jibberish =>
      obtain rfl : jibberish = true := h
      rfl
  | web e => rfl

theorem socket_stays_none {s t : State} {e : Event} (hsocket : s.streamSocket = none)
    (h : ClientGone e) (hs : step s e = some t) :
    t.streamSocket = none ∧ streamGain ⟨s,e,t⟩ = 0 := by
  cases e with
  | stream e =>
    cases e with
    | accept => exact h.elim
    | captureFrame writer timeUnix data =>
      simp only [step,streamStep] at hs
      split at hs
      · next _ hsome =>
        cases hsocket.symm.trans hsome
      · cases hs
    | write =>
      simp only [step,streamStep] at hs
      split at hs
      · next fd data left _ =>
        cases hs
        obtain ⟨deliveries,hd⟩ := deliver_cases fd data s
        rw [hd]
        exact ⟨hsocket,rfl⟩
      · cases hs
    | openJpegSocket | createListener | endFrame | leaveLoop | closeJpegSocket =>
      simp only [step,streamStep] at hs
      split at hs <;> cases hs
      exact ⟨hsocket,rfl⟩
  | listener i e =>
    refine ⟨?_,by cases e <;> simp [streamGain]⟩
    cases e with
    | start | storeInactive =>
      simp only [step,listenerStep] at hs
      split at hs <;> cases hs <;> first | exact hsocket | rfl
    | read jibberish =>
      simp only [step,listenerStep] at hs
      split at hs
      · cases hs
        simp only [readCommand]
        split_ifs <;> exact hsocket
      · cases hs
        exact hsocket
      · cases hs
  | web e =>
    refine ⟨?_,by cases e <;> simp [streamGain]⟩
    cases e with
    | accept | close =>
      simp only [step,webStep] at hs
      split at hs <;> cases hs
      exact hsocket

theorem listener_ready {s : State} (h : Sound s) (hsocket : s.streamSocket ≠ none)
    (hcreating : s.stream ≠ .creating) :
    ∃ i e, ClientGone (.listener i e) ∧ (step s (.listener i e)).isSome := by
  cases h.phase with
  | between _ hnone => exact absurd hnone hsocket
  | creating fd hp => exact absurd hp hcreating
  | inLoop past l hloop hlisteners hpast hfollows =>
    have hi : s.listeners[past.length]? = some l := by simp [hlisteners]
    refine ⟨past.length,?_⟩
    obtain ⟨fd,hfd⟩ := Option.ne_none_iff_exists'.mp hsocket
    obtain ⟨jpeg,hjpeg⟩ := Option.ne_none_iff_exists'.mp (opening_loop h hloop)
    cases l with
    | starting => exact ⟨.start,trivial,by simp [step,listenerStep,hi,hfd]⟩
    | reading => exact ⟨.read true,rfl,by simp [step,listenerStep,hi,hjpeg]⟩
    | closed => exact ⟨.storeInactive,trivial,by simp [step,listenerStep,hi]⟩
    | finished => exact absurd hfollows hsocket

theorem stream_ready {s : State} (h : Sound s)
    (hturn : s.stream = .creating ∨ s.streamSocket = none ∧ s.stream ≠ .accepting) :
    ∃ e, ClientGone (.stream e) ∧ (step s (.stream e)).isSome := by
  have hopening := h.opening
  cases hp : s.stream with
  | opening => exact ⟨.openJpegSocket,trivial,by simp [step,streamStep,hp]⟩
  | accepting => simp [hp] at hturn
  | creating => exact ⟨.createListener,trivial,by simp [step,streamStep,hp]⟩
  | checking =>
    have hsocket : s.streamSocket = none := by simpa [hp] using hturn
    exact ⟨.leaveLoop,trivial,by simp [step,streamStep,hp,hsocket]⟩
  | writing fd left =>
    cases left with
    | nil => exact ⟨.endFrame,trivial,by simp [step,streamStep,hp]⟩
    | cons data left => exact ⟨.write,trivial,by simp [step,streamStep,hp]⟩
  | closing =>
    rw [hp] at hopening
    obtain ⟨fd,hfd⟩ := Option.ne_none_iff_exists'.mp (mt hopening.mp (by simp))
    exact ⟨.closeJpegSocket,trivial,by simp [step,streamStep,hp,hfd]⟩

structure Ends (s : State) (later : List Event) (t : State) : Prop where
  listener_bounded :
    system.total listenerSteps s later + listenersLeft t ≤ listenersLeft s
  within : listenersLeft s ≤ LISTENER_STEPS
  listener_done : listenersLeft t = 0 ↔ t.streamSocket = none
  stream_bounded : s.streamSocket = none →
    system.total streamSteps s later + streamLeft t ≤ streamLeft s
  released : t.stream = .accepting → ∀ n k, t.table.lookup n ≠ some (.stream k)

theorem ends_after {later : List Event} {s t : State} (hs : Settled s)
    (hafter : system.after s later = some t) (hgone : ∀ e ∈ later, ClientGone e) (ht : Settled t) :
    Ends s later t := by
  refine ⟨?_,left_le hs.toSound,left_zero_iff ht.toSound ht.tolerant,fun hsocket => ?_,
    fun haccepting n k hn => ?_⟩
  · have hpaid := system.amortized Settled listenersLeft listenerSteps listenerGain
      (fun _ _ _ => settled_step) (fun _ _ _ => listeners_paid) hs hafter
    rwa [system.total_eq_zero (I := Settled) (fun _ _ _ _ hok _ => listenerGain_gone hok)
      (fun _ _ _ h _ => settled_step h) hgone hs,Nat.add_zero] at hpaid
  · have hpaid := system.amortized (fun _ => True) streamLeft streamSteps streamGain
      (fun _ _ _ _ _ => trivial) (fun _ _ _ _ => stream_paid) trivial hafter
    rwa [system.total_eq_zero (I := fun u => u.streamSocket = none)
      (fun _ _ _ h hok hst => (socket_stays_none h hok hst).2)
      (fun _ _ _ h hok hst => (socket_stays_none h hok hst).1) hgone hsocket,Nat.add_zero] at hpaid
  · obtain ⟨-,hsome,-⟩ := (ht.accounted n _).mp hn
    cases hsome.symm.trans (outside_loop ht.phase (.inr (.inl haccepting))).1

end VideoSurveillance.Sockets
