import VideoSurveillance.Library.LinkedList
import VideoSurveillance.Server.ModeHandler

namespace VideoSurveillance.CallbackList
open LinkedList (Heap Outcome Chain)

structure State (A : Type) where
  heap : Heap (Callback A)
  callbackListFirst : Option ℕ
  mode : Mode
  writer : SocketWriter
  calls : List (Call A)
  deriving DecidableEq

inductive Event (A : Type) where
  | initModeHandler
  | closeModeHandler
  | registerOnChangeCallback (c : Callback A) (address : Option ℕ)
  | setMode (newMode : Mode) (motionDetected : Int32)
  deriving DecidableEq

section Model
variable {A : Type}

def loaded : State A := ⟨∅,none,.idle,.start,[]⟩

def initModeHandler (s : State A) : State A :=
  { s with mode := .idle, callbackListFirst := none }

-- callback_list_first keeps its value, as in the source
def closeModeHandler (s : State A) : Outcome (State A) :=
  (LinkedList.free s.callbackListFirst s.heap).map (fun heap => { s with heap := heap })

def callback (newMode : Mode) (motionDetected : Int32) (x : SocketWriter × List (Call A))
    (c : Callback A) : SocketWriter × List (Call A) :=
  let calls := x.2 ++ [⟨c,newMode,motionDetected⟩]
  match c with
  | .socketSetMode => (x.1.socketSetMode newMode motionDetected,calls)
  | .other _ => (x.1,calls)

def setMode (newMode : Mode) (motionDetected : Int32) (s : State A) : Outcome (State A) :=
  if s.mode ≠ newMode then
    (LinkedList.fold (callback newMode motionDetected) s.heap s.callbackListFirst
      (s.writer,s.calls)).map
      (fun x => { s with mode := newMode, writer := x.1, calls := x.2 })
  else .done s

def registerOnChangeCallback (c : Callback A) (address : Option ℕ) (s : State A) :
    Outcome (State A) :=
  (LinkedList.fold (fun _ _ => ()) s.heap s.callbackListFirst ()).map (fun _ =>
    match address with
    | some currentNode => { s with
        heap := s.heap.insert currentNode ⟨s.callbackListFirst,c⟩
        callbackListFirst := some currentNode }
    | none => s)

def perform (s : State A) : Event A → Outcome (State A)
  | .initModeHandler => .done (initModeHandler s)
  | .closeModeHandler => closeModeHandler s
  | .registerOnChangeCallback c address => registerOnChangeCallback c address s
  | .setMode newMode motionDetected => setMode newMode motionDetected s

-- malloc returns an address that is not allocated, or NULL
def Allocatable (s : State A) (e : Event A) : Prop :=
  ∀ c a, e = .registerOnChangeCallback c (some a) → a ∉ s.heap

instance (s : State A) (e : Event A) : Decidable (Allocatable s e) :=
  match e with
  | .registerOnChangeCallback _ (some a) =>
    decidable_of_iff (a ∉ s.heap) ⟨fun h _ _ heq => by cases heq; exact h,fun h => h _ _ rfl⟩
  | .registerOnChangeCallback _ none => isTrue (fun _ _ h => by cases h)
  | .initModeHandler => isTrue (fun _ _ h => by cases h)
  | .closeModeHandler => isTrue (fun _ _ h => by cases h)
  | .setMode _ _ => isTrue (fun _ _ h => by cases h)

def step (o : Outcome (State A)) (e : Event A) : Option (Outcome (State A)) :=
  match o with
  | .done s => if Allocatable s e then some (perform s e) else none
  | .fault => none
  | .diverges => none

def system (A : Type) : Runs.System (Outcome (State A)) (Event A) where
  init := .done loaded
  step := step

structure Abstract (A : Type) where
  handler : ModeHandler A
  dangling : Bool
  deriving DecidableEq

def Abstract.next (x : Abstract A) : Event A → Abstract A
  | .initModeHandler => ⟨x.handler.initModeHandler,false⟩
  | .closeModeHandler => ⟨x.handler,x.handler.callbackList ≠ []⟩
  | .registerOnChangeCallback c address =>
    { x with handler := x.handler.registerOnChangeCallback c address.isSome }
  | .setMode newMode motionDetected =>
    { x with handler := x.handler.setMode newMode motionDetected }

def abstractOf (events : List (Event A)) : Abstract A :=
  events.foldl Abstract.next ⟨ModeHandler.loaded,false⟩

def Abstract.Walks (x : Abstract A) : Event A → Prop
  | .initModeHandler => False
  | .closeModeHandler => True
  | .registerOnChangeCallback _ _ => True
  | .setMode newMode _ => x.handler.mode ≠ newMode

structure Refines (s : State A) (x : Abstract A) : Prop where
  mode : s.mode = x.handler.mode
  writer : s.writer = x.handler.writer
  calls : s.calls = x.handler.calls
  linked : x.dangling = false →
    ∃ cells, Chain s.heap s.callbackListFirst cells ∧ cells.map Prod.snd = x.handler.callbackList
  freed : x.dangling = true → ∃ a, s.callbackListFirst = some a ∧ a ∉ s.heap

theorem foldl_callback (m : Mode) (f : Int32) (cs : List (Callback A)) (h : ModeHandler A) :
    cs.foldl (callback m f) (h.writer,h.calls) =
      ((ModeHandler.callbackWalk m f cs h).writer,(ModeHandler.callbackWalk m f cs h).calls) := by
  induction cs generalizing h with
  | nil => rfl
  | cons c cs ih =>
    rw [List.foldl_cons,ModeHandler.callbackWalk,← ih]
    cases c <;> rfl

theorem refines_loaded : Refines (loaded : State A) ⟨ModeHandler.loaded,false⟩ where
  mode := rfl
  writer := rfl
  calls := rfl
  linked := fun _ => ⟨[],rfl,rfl⟩
  freed := fun h => by cases h

theorem refines_setMode {s : State A} {x : Abstract A} (h : Refines s x) (m : Mode) (f : Int32)
    (hwalk : x.handler.mode ≠ m → x.dangling = false) :
    ∃ t, setMode m f s = .done t ∧ t.heap = s.heap ∧
      t.callbackListFirst = s.callbackListFirst ∧ Refines t (x.next (.setMode m f)) := by
  rcases eq_or_ne x.handler.mode m with hm | hm
  · refine ⟨s,?_,rfl,rfl,?_⟩
    · rw [setMode,if_neg (not_not_intro (h.mode.trans hm))]
    · rw [Abstract.next,ModeHandler.setMode_same f hm]
      exact h
  · obtain ⟨cells,hchain,hcells⟩ := h.linked (hwalk hm)
    have hfold := LinkedList.fold_chain (callback m f) hchain (s.writer,s.calls)
    have hlist := x.handler.setMode_callbackList m f
    rw [hcells,h.writer,h.calls,foldl_callback m f _ { x.handler with mode := m }] at hfold
    refine ⟨{ s with
      mode := m
      writer := (x.handler.setMode m f).writer
      calls := (x.handler.setMode m f).calls },?_,rfl,rfl,?_,rfl,rfl,fun _ => ?_,fun hd => ?_⟩
    · rw [setMode,if_pos (h.mode ▸ hm),h.writer,h.calls,hfold,ModeHandler.setMode,if_pos hm]
      rfl
    · rw [Abstract.next,ModeHandler.setMode_changed f hm]
    · exact ⟨cells,hchain,hcells.trans hlist.symm⟩
    · exact absurd (hwalk hm) (by rw [show x.dangling = true from hd]; decide)

theorem refines_register {s : State A} {x : Abstract A} (h : Refines s x) (c : Callback A)
    (address : Option ℕ) (hfresh : Allocatable s (.registerOnChangeCallback c address))
    (hlinked : x.dangling = false) :
    ∃ t, registerOnChangeCallback c address s = .done t ∧
      Refines t (x.next (.registerOnChangeCallback c address)) := by
  obtain ⟨cells,hchain,hcells⟩ := h.linked hlinked
  have hfold := LinkedList.fold_chain (fun (_ : Unit) _ => ()) hchain ()
  cases address with
  | none =>
    refine ⟨s,by rw [registerOnChangeCallback,hfold]; rfl,h.mode,h.writer,h.calls,
      fun _ => ⟨cells,hchain,hcells⟩,fun hd => ?_⟩
    exact absurd hlinked (by rw [show x.dangling = true from hd]; decide)
  | some a =>
    refine ⟨{ s with
      heap := s.heap.insert a ⟨s.callbackListFirst,c⟩
      callbackListFirst := some a },by rw [registerOnChangeCallback,hfold]; rfl,h.mode,h.writer,
      h.calls,fun _ => ?_,fun hd => ?_⟩
    · exact ⟨_,LinkedList.chain_push c (hfresh c a rfl) hchain,congrArg (c :: ·) hcells⟩
    · exact absurd hlinked (by rw [show x.dangling = true from hd]; decide)

theorem refines_close {s : State A} {x : Abstract A} (h : Refines s x)
    (hlinked : x.dangling = false) :
    ∃ t, closeModeHandler s = .done t ∧ Refines t (x.next .closeModeHandler) ∧
      ∀ cells, Chain s.heap s.callbackListFirst cells →
        t.heap.keys = s.heap.keys.diff (cells.map Prod.fst) := by
  obtain ⟨cells,hchain,hcells⟩ := h.linked hlinked
  obtain ⟨heap,hfree,hkeys⟩ := LinkedList.free_chain hchain
  refine ⟨{ s with heap := heap },by rw [closeModeHandler,hfree]; rfl,
    ⟨h.mode,h.writer,h.calls,fun hd => ?_,fun hd => ?_⟩,fun cells' hchain' => ?_⟩
  · have hempty : x.handler.callbackList = [] := by simpa [Abstract.next] using hd
    rw [hempty,List.map_eq_nil_iff] at hcells
    subst hcells
    exact ⟨[],hchain,hempty.symm⟩
  · have hne : x.handler.callbackList ≠ [] := by simpa [Abstract.next] using hd
    cases cells with
    | nil => exact absurd hcells.symm hne
    | cons cell cells =>
      obtain ⟨hfirst,-⟩ := hchain
      refine ⟨cell.1,hfirst,fun hmem => ?_⟩
      rw [AList.mem_keys,hkeys,List.map_cons,List.diff_cons] at hmem
      have herased := (List.diff_subset _ _) hmem
      exact (List.Nodup.not_mem_erase s.heap.keys_nodup) herased
  · rw [hkeys,LinkedList.chain_unique hchain hchain']

theorem refines_step {s : State A} {x : Abstract A} {e : Event A} (h : Refines s x)
    (hfresh : Allocatable s e) (hsafe : ¬ (x.dangling = true ∧ x.Walks e)) :
    ∃ t, perform s e = .done t ∧ Refines t (x.next e) := by
  have hlinked : x.Walks e → x.dangling = false := fun hwalks =>
    Bool.eq_false_iff.mpr (fun hd => hsafe ⟨hd,hwalks⟩)
  cases e with
  | initModeHandler =>
    exact ⟨_,rfl,rfl,h.writer,h.calls,fun _ => ⟨[],rfl,rfl⟩,fun hd => by cases hd⟩
  | closeModeHandler =>
    obtain ⟨t,ht,hrefines,-⟩ := refines_close h (hlinked trivial)
    exact ⟨t,ht,hrefines⟩
  | registerOnChangeCallback c address => exact refines_register h c address hfresh (hlinked trivial)
  | setMode m f =>
    obtain ⟨t,ht,-,-,hrefines⟩ := refines_setMode h m f hlinked
    exact ⟨t,ht,hrefines⟩

theorem faults_step {s : State A} {x : Abstract A} {e : Event A} (h : Refines s x)
    (hdangling : x.dangling = true) (hwalks : x.Walks e) : perform s e = .fault := by
  obtain ⟨a,hfirst,hfreed⟩ := h.freed hdangling
  cases e with
  | initModeHandler => exact hwalks.elim
  | closeModeHandler =>
    rw [perform,closeModeHandler,hfirst,LinkedList.free_dangling hfreed]
    rfl
  | registerOnChangeCallback c address =>
    simp only [perform,registerOnChangeCallback,hfirst,LinkedList.fold_dangling _ hfreed]
    rfl
  | setMode m f =>
    have hm : s.mode ≠ m := h.mode ▸ hwalks
    rw [perform,setMode,if_pos hm,hfirst,LinkedList.fold_dangling _ hfreed]
    rfl

theorem step_done {o o' : Outcome (State A)} {e : Event A} (h : step o e = some o') :
    ∃ s, o = .done s ∧ Allocatable s e ∧ o' = perform s e := by
  cases o with
  | done s =>
    simp only [step] at h
    split_ifs at h with hfresh
    exact ⟨s,rfl,hfresh,(Option.some.inj h).symm⟩
  | fault | diverges => cases h

def UseAfterClose (events : List (Event A)) : Prop :=
  ∃ prior e, prior ++ [e] <+: events ∧ (abstractOf prior).dangling = true ∧
    (abstractOf prior).Walks e

theorem abstractOf_snoc (events : List (Event A)) (e : Event A) :
    abstractOf (events ++ [e]) = (abstractOf events).next e := by
  rw [abstractOf,List.foldl_append,← abstractOf]
  rfl

theorem exists_prefix_snoc (bad : List (Event A) → Event A → Prop) (events : List (Event A))
    (e : Event A) :
    (∃ prior f, prior ++ [f] <+: events ++ [e] ∧ bad prior f) ↔
      (∃ prior f, prior ++ [f] <+: events ∧ bad prior f) ∨ bad events e := by
  constructor
  · rintro ⟨prior,f,hprior,hbad⟩
    rcases List.prefix_concat_iff.mp hprior with heq | hprior
    · obtain ⟨rfl,hf⟩ := List.append_inj' heq rfl
      cases hf
      exact .inr hbad
    · exact .inl ⟨prior,f,hprior,hbad⟩
  · rintro (⟨prior,f,hprior,hbad⟩ | hbad)
    · exact ⟨prior,f,hprior.trans (List.prefix_append _ _),hbad⟩
    · exact ⟨events,e,List.prefix_rfl,hbad⟩

theorem useAfterClose_snoc (events : List (Event A)) (e : Event A) :
    UseAfterClose (events ++ [e]) ↔ UseAfterClose events ∨
      (abstractOf events).dangling = true ∧ (abstractOf events).Walks e :=
  exists_prefix_snoc
    (fun prior e => (abstractOf prior).dangling = true ∧ (abstractOf prior).Walks e) events e

theorem callback_list_run {events : List (Event A)} {o : Outcome (State A)}
    (hrun : (system A).run events = some o) :
    ¬ UseAfterClose events ∧ (∃ s, o = .done s ∧ Refines s (abstractOf events)) ∨
      UseAfterClose events ∧ o = .fault := by
  induction events using List.reverseRecOn generalizing o with
  | nil =>
    cases hrun
    refine .inl ⟨?_,_,rfl,refines_loaded⟩
    rintro ⟨prior,e,hprior,-⟩
    simp at hprior
  | append_singleton events e ih =>
    obtain ⟨o',ho',hstep⟩ := (system A).run_snoc_some.mp hrun
    obtain ⟨s,rfl,hfresh,rfl⟩ := step_done hstep
    rcases ih ho' with ⟨hsafe,s',heq,hrefines⟩ | ⟨-,hfault⟩
    · cases heq
      rw [useAfterClose_snoc,abstractOf_snoc,or_iff_right hsafe]
      by_cases hbad : (abstractOf events).dangling = true ∧ (abstractOf events).Walks e
      · exact .inr ⟨hbad,faults_step hrefines hbad.1 hbad.2⟩
      · exact .inl ⟨hbad,refines_step hrefines hfresh hbad⟩
    · cases hfault

theorem callback_list_memory_safe_iff (events : List (Event A)) (o : Outcome (State A))
    (hrun : (system A).run events = some o) :
    ((∃ s, o = .done s) ↔ ¬ UseAfterClose events) ∧ o ≠ .diverges ∧
    ∀ s, o = .done s → s.mode = (abstractOf events).handler.mode ∧
      s.writer = (abstractOf events).handler.writer ∧
      s.calls = (abstractOf events).handler.calls ∧
      ((abstractOf events).dangling = false → ∃ cells,
        Chain s.heap s.callbackListFirst cells ∧
          cells.map Prod.snd = (abstractOf events).handler.callbackList) := by
  rcases callback_list_run hrun with ⟨hsafe,s,rfl,hrefines⟩ | ⟨hbad,rfl⟩
  · refine ⟨iff_of_true ⟨s,rfl⟩ hsafe,by simp,fun t ht => ?_⟩
    cases ht
    exact ⟨hrefines.mode,hrefines.writer,hrefines.calls,hrefines.linked⟩
  · refine ⟨iff_of_false ?_ (not_not_intro hbad),by simp,fun t ht => by cases ht⟩
    rintro ⟨s,hs⟩
    cases hs

-- main closes the mode handler while the motion and listener threads still run
def motionAfterClose : List (Event Unit) :=
  [.initModeHandler,.registerOnChangeCallback .socketSetMode (some 7),.setMode .movie 1,
    .closeModeHandler,.setMode .idle 0]

theorem callback_list_memory_safe_iff_motionAfterClose : UseAfterClose motionAfterClose := by
  have h := callback_list_memory_safe_iff motionAfterClose .fault rfl
  refine not_not.mp (h.1.not.mp ?_)
  rintro ⟨s,hs⟩
  cases hs

def Abstract.Loses (x : Abstract A) (e : Event A) : Prop :=
  e = .initModeHandler ∧ x.dangling = false ∧ x.handler.callbackList ≠ []

def Reinitialised (events : List (Event A)) : Prop :=
  ∃ prior e, prior ++ [e] <+: events ∧ (abstractOf prior).Loses e

structure Owned (s : State A) (x : Abstract A) (lost : List ℕ) : Prop where
  linked : x.dangling = false → ∀ cells, Chain s.heap s.callbackListFirst cells →
    s.heap.keys.Perm (cells.map Prod.fst ++ lost)
  freed : x.dangling = true → s.heap.keys.Perm lost

theorem owned_initModeHandler {s : State A} {x : Abstract A} {lost : List ℕ} (h : Refines s x)
    (hown : Owned s x lost) : ∃ lost', Owned (initModeHandler s) (x.next .initModeHandler) lost' ∧
      (lost' = [] ↔ lost = [] ∧ ¬ x.Loses .initModeHandler) := by
  cases hd : x.dangling with
  | false =>
    obtain ⟨cells,hchain,hcells⟩ := h.linked hd
    refine ⟨cells.map Prod.fst ++ lost,⟨fun _ cells' hchain' => ?_,fun hd => by cases hd⟩,?_⟩
    · obtain rfl := LinkedList.chain_null hchain'
      exact hown.linked hd cells hchain
    · have hempty : cells = [] ↔ x.handler.callbackList = [] := by
        rw [← hcells,List.map_eq_nil_iff]
      simp only [List.append_eq_nil_iff,List.map_eq_nil_iff,hempty,Abstract.Loses,hd,true_and,
        ne_eq,not_not]
      exact and_comm
  | true =>
    refine ⟨lost,⟨fun _ cells' hchain' => ?_,fun hd => by cases hd⟩,?_⟩
    · obtain rfl := LinkedList.chain_null hchain'
      exact hown.freed hd
    · simp [Abstract.Loses,hd]

theorem owned_closeModeHandler {s t : State A} {x : Abstract A} {lost : List ℕ} (h : Refines s x)
    (hown : Owned s x lost) (hdone : closeModeHandler s = .done t) :
    t.heap.keys.Perm lost ∧ Owned t (x.next .closeModeHandler) lost := by
  have hlinked : x.dangling = false := by
    by_contra hd
    rw [Bool.not_eq_false] at hd
    cases (faults_step (e := .closeModeHandler) h hd trivial).symm.trans hdone
  obtain ⟨cells,hchain,hcells⟩ := h.linked hlinked
  obtain ⟨t',ht',hrefines,hkeys⟩ := refines_close h hlinked
  obtain rfl : t = t' := Outcome.done.inj (hdone.symm.trans ht')
  have hperm : t.heap.keys.Perm lost := by
    rw [hkeys cells hchain]
    exact LinkedList.diff_perm_rest (hown.linked hlinked cells hchain)
  refine ⟨hperm,fun hd cells' hchain' => ?_,fun _ => hperm⟩
  have hempty : x.handler.callbackList = [] := by simpa [Abstract.next] using hd
  obtain ⟨cells'',hchain'',hcells''⟩ := hrefines.linked hd
  rw [show (x.next .closeModeHandler).handler = x.handler from rfl,hempty,List.map_eq_nil_iff]
    at hcells''
  obtain rfl := LinkedList.chain_unique hchain' hchain''
  rw [hcells'']
  exact hperm

theorem owned_register {s t : State A} {x : Abstract A} {lost : List ℕ} (h : Refines s x)
    (hown : Owned s x lost) (c : Callback A) (address : Option ℕ)
    (hfresh : Allocatable s (.registerOnChangeCallback c address))
    (hdone : registerOnChangeCallback c address s = .done t) :
    Owned t (x.next (.registerOnChangeCallback c address)) lost := by
  have hlinked : x.dangling = false := by
    by_contra hd
    rw [Bool.not_eq_false] at hd
    cases (faults_step (e := .registerOnChangeCallback c address) h hd trivial).symm.trans hdone
  obtain ⟨cells,hchain,-⟩ := h.linked hlinked
  have hperm := hown.linked hlinked cells hchain
  simp only [registerOnChangeCallback,LinkedList.fold_chain _ hchain] at hdone
  obtain rfl := Outcome.done.inj hdone
  refine ⟨fun _ cells' hchain' => ?_,fun hd => absurd hlinked (by
    rw [show x.dangling = true from hd]; decide)⟩
  cases address with
  | none =>
    obtain rfl := LinkedList.chain_unique hchain' hchain
    exact hperm
  | some a =>
    have ha : a ∉ s.heap := hfresh c a rfl
    obtain rfl := LinkedList.chain_unique hchain' (LinkedList.chain_push c ha hchain)
    rw [AList.keys_insert,List.erase_of_not_mem (fun hmem => ha (AList.mem_keys.mpr hmem))]
    exact hperm.cons a

theorem owned_setMode {s t : State A} {x : Abstract A} {lost : List ℕ} (h : Refines s x)
    (hown : Owned s x lost) (m : Mode) (f : Int32) (hdone : setMode m f s = .done t) :
    Owned t (x.next (.setMode m f)) lost := by
  have hwalk : x.handler.mode ≠ m → x.dangling = false := by
    intro hm
    by_contra hd
    rw [Bool.not_eq_false] at hd
    cases (faults_step (e := .setMode m f) h hd hm).symm.trans hdone
  obtain ⟨t',ht',hheap,hfirst,-⟩ := refines_setMode h m f hwalk
  obtain rfl : t = t' := Outcome.done.inj (hdone.symm.trans ht')
  refine ⟨?_,?_⟩
  · rw [hheap,hfirst]
    exact hown.linked
  · rw [hheap]
    exact hown.freed

theorem owned_step {s t : State A} {x : Abstract A} {e : Event A} {lost : List ℕ}
    (h : Refines s x) (hown : Owned s x lost) (hfresh : Allocatable s e)
    (hdone : perform s e = .done t) :
    ∃ lost', Owned t (x.next e) lost' ∧ (lost' = [] ↔ lost = [] ∧ ¬ x.Loses e) := by
  cases e with
  | initModeHandler =>
    obtain rfl := Outcome.done.inj hdone
    exact owned_initModeHandler h hown
  | closeModeHandler =>
    exact ⟨lost,(owned_closeModeHandler h hown hdone).2,by simp [Abstract.Loses]⟩
  | registerOnChangeCallback c address =>
    exact ⟨lost,owned_register h hown c address hfresh hdone,by simp [Abstract.Loses]⟩
  | setMode m f => exact ⟨lost,owned_setMode h hown m f hdone,by simp [Abstract.Loses]⟩

theorem reinitialised_snoc (events : List (Event A)) (e : Event A) :
    Reinitialised (events ++ [e]) ↔ Reinitialised events ∨ (abstractOf events).Loses e :=
  exists_prefix_snoc (fun prior e => (abstractOf prior).Loses e) events e

theorem owned_run {events : List (Event A)} {s : State A}
    (hrun : (system A).run events = some (.done s)) :
    ∃ lost, Owned s (abstractOf events) lost ∧ (lost = [] ↔ ¬ Reinitialised events) := by
  induction events using List.reverseRecOn generalizing s with
  | nil =>
    cases hrun
    refine ⟨[],⟨fun _ cells hchain => ?_,fun hd => by cases hd⟩,iff_of_true rfl ?_⟩
    · obtain rfl := LinkedList.chain_null hchain
      exact List.Perm.refl _
    · rintro ⟨prior,e,hprior,-⟩
      simp at hprior
  | append_singleton events e ih =>
    obtain ⟨o,ho,hstep⟩ := (system A).run_snoc_some.mp hrun
    obtain ⟨r,rfl,hfresh,hdone⟩ := step_done hstep
    obtain ⟨lost,hown,hlost⟩ := ih ho
    rcases callback_list_run ho with ⟨-,r',heq,hrefines⟩ | ⟨-,hfault⟩
    · cases heq
      obtain ⟨lost',hown',hlost'⟩ := owned_step hrefines hown hfresh hdone.symm
      refine ⟨lost',by rwa [abstractOf_snoc],?_⟩
      rw [hlost',hlost,reinitialised_snoc,not_or]
    · cases hfault

theorem callback_list_freed_iff (events : List (Event A)) (s : State A)
    (hrun : (system A).run (events ++ [.closeModeHandler]) = some (.done s)) :
    s.heap.keys = [] ↔ ¬ Reinitialised events := by
  obtain ⟨o,ho,hstep⟩ := (system A).run_snoc_some.mp hrun
  obtain ⟨r,rfl,-,hdone⟩ := step_done hstep
  obtain ⟨lost,hown,hlost⟩ := owned_run ho
  rcases callback_list_run ho with ⟨-,r',heq,hrefines⟩ | ⟨-,hfault⟩
  · cases heq
    rw [← hlost]
    have hperm := (owned_closeModeHandler hrefines hown hdone.symm).1
    exact ⟨fun h => List.Perm.nil_eq (h ▸ hperm) ▸ rfl,fun h => List.perm_nil.mp (h ▸ hperm)⟩
  · cases hfault

def twoRegistrations : List (Event Unit) :=
  [.initModeHandler,.registerOnChangeCallback (.other ()) (some 3),
    .registerOnChangeCallback (.other ()) none,.registerOnChangeCallback .socketSetMode (some 7),
    .setMode .movie 1]

theorem callback_list_freed_iff_twoRegistrations : ¬ Reinitialised twoRegistrations := by
  have h := callback_list_freed_iff twoRegistrations _ rfl
  exact h.mp rfl

end Model

end VideoSurveillance.CallbackList
