import VideoSurveillance.Library.CriticalSection
import VideoSurveillance.Server.ModeHandler

namespace VideoSurveillance.ModeMutex
open CriticalSection (Finishes)

inductive Op (A : Type) where
  | setMode (newMode : Mode) (motionDetected : Int32)
  | getMode
  | registerOnChangeCallback (c : Callback A) (allocated : Bool)
  deriving DecidableEq

-- `lock` is the mutex of socket_set_mode; it is only ever taken with mode_mutex held
structure Shared (A : Type) where
  lock : Bool
  handler : ModeHandler A
  deriving DecidableEq

inductive Body (A : Type) where
  | compare (newMode : Mode) (motionDetected : Int32)
  | assign (newMode : Mode) (motionDetected : Int32)
  | first (newMode : Mode) (motionDetected : Int32)
  | walk (newMode : Mode) (motionDetected : Int32) (currentNode : List (Callback A))
  | socketCompare (newMode : Mode) (motionDetected : Int32) (nextNode : List (Callback A))
  | socketLock (newMode : Mode) (motionDetected : Int32) (nextNode : List (Callback A))
  | socketSetBit (newMode : Mode) (motionDetected : Int32) (nextNode : List (Callback A))
  | socketClearBit (newMode : Mode) (motionDetected : Int32) (nextNode : List (Callback A))
  | socketAssign (newMode : Mode) (motionDetected : Int32) (nextNode : List (Callback A))
  | socketUnlock (newMode : Mode) (motionDetected : Int32) (nextNode : List (Callback A))
  | read
  | firstNode (c : Callback A) (allocated : Bool)
  | findEnd (c : Callback A) (allocated : Bool) (currentNode : List (Callback A))
  | link (c : Callback A) (allocated : Bool)
  deriving DecidableEq

section Steps
variable {A : Type}

def Shared.setWriter (sh : Shared A) (writer : SocketWriter) : Shared A :=
  { sh with handler := { sh.handler with writer := writer } }

def start : Op A → Body A
  | .setMode newMode motionDetected => .compare newMode motionDetected
  | .getMode => .read
  | .registerOnChangeCallback c allocated => .firstNode c allocated

def step (b : Body A) (sh : Shared A) : Option (Shared A × (Body A ⊕ Option Mode)) :=
  match b with
  | .compare newMode motionDetected =>
    if sh.handler.mode ≠ newMode then some (sh,.inl (.assign newMode motionDetected))
    else some (sh,.inr none)
  | .assign newMode motionDetected =>
    some ({ sh with handler := { sh.handler with mode := newMode } },
      .inl (.first newMode motionDetected))
  | .first newMode motionDetected =>
    some (sh,.inl (.walk newMode motionDetected sh.handler.callbackList))
  | .walk _ _ [] => some (sh,.inr none)
  | .walk newMode motionDetected (currentNode :: nextNode) =>
    let sh := { sh with handler := { sh.handler with
      calls := sh.handler.calls ++ [⟨currentNode,newMode,motionDetected⟩] } }
    match currentNode with
    | .socketSetMode => some (sh,.inl (.socketCompare newMode motionDetected nextNode))
    | .other _ => some (sh,.inl (.walk newMode motionDetected nextNode))
  | .socketCompare newMode motionDetected nextNode =>
    if sh.handler.writer.mode = newMode then some (sh,.inl (.walk newMode motionDetected nextNode))
    else some (sh,.inl (.socketLock newMode motionDetected nextNode))
  | .socketLock newMode motionDetected nextNode =>
    if sh.lock then none
    else some ({ sh with lock := true },.inl (.socketSetBit newMode motionDetected nextNode))
  | .socketSetBit newMode motionDetected nextNode =>
    some (if motionDetected ≠ 0 then sh.setWriter { sh.handler.writer with motionBit := 2 } else sh,
      .inl (.socketClearBit newMode motionDetected nextNode))
  | .socketClearBit newMode motionDetected nextNode =>
    some (if newMode = .idle then sh.setWriter { sh.handler.writer with motionBit := 0 } else sh,
      .inl (.socketAssign newMode motionDetected nextNode))
  | .socketAssign newMode motionDetected nextNode =>
    some (sh.setWriter { sh.handler.writer with mode := newMode },
      .inl (.socketUnlock newMode motionDetected nextNode))
  | .socketUnlock newMode motionDetected nextNode =>
    some ({ sh with lock := false },.inl (.walk newMode motionDetected nextNode))
  | .read => some (sh,.inr (some sh.handler.mode))
  | .firstNode c allocated => some (sh,.inl (.findEnd c allocated sh.handler.callbackList))
  | .findEnd c allocated [] => some (sh,.inl (.link c allocated))
  | .findEnd c allocated (_ :: nextNode) => some (sh,.inl (.findEnd c allocated nextNode))
  | .link c allocated =>
    some ({ sh with handler := sh.handler.registerOnChangeCallback c allocated },.inr none)

def perform (op : Op A) (sh : Shared A) : Shared A × Option Mode :=
  match op with
  | .setMode newMode motionDetected =>
    ({ sh with handler := sh.handler.setMode newMode motionDetected },none)
  | .getMode => (sh,some sh.handler.mode)
  | .registerOnChangeCallback c allocated =>
    ({ sh with handler := sh.handler.registerOnChangeCallback c allocated },none)

theorem finishes_findEnd (c : Callback A) (allocated : Bool) (nodes : List (Callback A))
    (sh : Shared A) : Finishes step (.findEnd c allocated nodes) sh
      ({ sh with handler := sh.handler.registerOnChangeCallback c allocated },none) := by
  induction nodes with
  | nil => exact .continues rfl (.returns rfl)
  | cons node nodes ih => exact .continues rfl ih

theorem finishes_socketSetMode (m : Mode) (f : Int32) (nodes : List (Callback A))
    {h : ModeHandler A} {x : Shared A × Option Mode}
    (hrest : Finishes step (.walk m f nodes) ⟨false,{ h with writer := h.writer.socketSetMode m f }⟩ x) :
    Finishes step (.socketCompare m f nodes) ⟨false,h⟩ x := by
  rcases eq_or_ne h.writer.mode m with hm | hm
  · rw [SocketWriter.socketSetMode_same f hm] at hrest
    exact .continues (if_pos hm) hrest
  · have hlock : step (.socketLock m f nodes) ⟨false,h⟩ =
        some (⟨true,h⟩,.inl (.socketSetBit m f nodes)) := rfl
    refine .continues (if_neg hm) (.continues hlock (.continues rfl (.continues rfl
      (.continues rfl (.continues rfl ?_)))))
    rw [SocketWriter.socketSetMode_changed f hm] at hrest
    convert hrest using 2
    cases m with
    | idle => split_ifs <;> rfl
    | movie => split_ifs <;> rfl

theorem finishes_walk (m : Mode) (f : Int32) (nodes : List (Callback A)) (h : ModeHandler A) :
    Finishes step (.walk m f nodes) ⟨false,h⟩ (⟨false,ModeHandler.callbackWalk m f nodes h⟩,none) := by
  induction nodes generalizing h with
  | nil => exact .returns rfl
  | cons node nodes ih =>
    have hnext := ih (ModeHandler.callback m f node h)
    cases node with
    | socketSetMode => exact .continues rfl (finishes_socketSetMode m f nodes hnext)
    | other a => exact .continues rfl hnext

theorem finishes_perform (op : Op A) {sh : Shared A} (hfree : sh.lock = false) :
    Finishes step (start op) sh (perform op sh) := by
  obtain ⟨lock,h⟩ := sh
  cases hfree
  cases op with
  | setMode m f =>
    rcases eq_or_ne h.mode m with hm | hm
    · have hperform : perform (.setMode m f) ⟨false,h⟩ = (⟨false,h⟩,none) := by
        rw [perform,ModeHandler.setMode_same f hm]
      rw [hperform]
      exact .returns (if_neg (not_not_intro hm))
    · have hperform : perform (.setMode m f) ⟨false,h⟩ =
          (⟨false,ModeHandler.callbackWalk m f h.callbackList { h with mode := m }⟩,none) := by
        rw [perform,ModeHandler.setMode,if_pos hm]
      rw [hperform]
      exact .continues (if_pos hm) (.continues rfl (.continues rfl (finishes_walk m f _ _)))
  | getMode => exact .returns rfl
  | registerOnChangeCallback c allocated => exact .continues rfl (finishes_findEnd c allocated _ _)

end Steps

def body (A : Type) : CriticalSection.Body (Op A) (Shared A) (Body A) (Option Mode) where
  start := start
  step := step
  perform := perform
  Idle sh := sh.lock = false
  performs op _ h := finishes_perform op h
  stays_idle op _ h := by cases op <;> exact h

def loaded (A : Type) : Shared A := ⟨false,ModeHandler.loaded.initModeHandler⟩

def system (A : Type) : Runs.System (CriticalSection.State (Op A) (Shared A) (Body A) (Option Mode))
    (CriticalSection.Event (Op A)) := (body A).system (loaded A)

section Runs
variable {A : Type}

theorem idle_loaded (A : Type) : (body A).Idle (loaded A) := rfl

def atomic : Op A → Option (ModeHandler.Event A)
  | .setMode newMode motionDetected => some (.setMode newMode motionDetected)
  | .getMode => none
  | .registerOnChangeCallback c allocated => some (.registerOnChangeCallback c allocated)

def atomicCalls (returned : List (ℕ × Op A × Option Mode)) : List (ModeHandler.Event A) :=
  returned.filterMap (fun x => atomic x.2.1)

theorem replay_atomic (past : List (ℕ × Op A)) :
    (ModeHandler.system A).run (atomicCalls ((body A).replay (loaded A) past).2) =
      some ((body A).replay (loaded A) past).1.handler := by
  induction past using List.reverseRecOn with
  | nil => rfl
  | append_singleton past c ih =>
    obtain ⟨i,op⟩ := c
    rw [(body A).replay_snoc,atomicCalls,List.filterMap_append,← atomicCalls]
    cases op with
    | setMode m f => exact (ModeHandler.system A).run_snoc_some.mpr ⟨_,ih,rfl⟩
    | getMode =>
      rw [List.filterMap_cons_none rfl,List.filterMap_nil,List.append_nil]
      exact ih
    | registerOnChangeCallback c allocated =>
      exact (ModeHandler.system A).run_snoc_some.mpr ⟨_,ih,rfl⟩

theorem replay_getMode {past : List (ℕ × Op A)} {before after : List (ℕ × Op A × Option Mode)}
    {i : ℕ} {result : Option Mode}
    (h : ((body A).replay (loaded A) past).2 = before ++ (i,.getMode,result) :: after) :
    ∃ handler, (ModeHandler.system A).run (atomicCalls before) = some handler ∧
      result = some handler.mode := by
  induction past using List.reverseRecOn generalizing after with
  | nil => cases before <;> cases h
  | append_singleton past c ih =>
    obtain ⟨j,op⟩ := c
    rw [(body A).replay_snoc] at h
    rcases List.eq_nil_or_concat after with rfl | ⟨later,last,rfl⟩
    · obtain ⟨hbefore,hlast⟩ := List.append_inj' h rfl
      cases hlast
      exact ⟨_,hbefore ▸ replay_atomic past,rfl⟩
    · rw [List.concat_eq_append,← List.cons_append,← List.append_assoc] at h
      exact ih (List.append_inj' h rfl).1

theorem mode_handler_linearizable (events : List (CriticalSection.Event (Op A)))
    (s : CriticalSection.State (Op A) (Shared A) (Body A) (Option Mode))
    (hrun : (system A).run events = some s) :
    (∀ i j, (s.threads i).Holds → (s.threads j).Holds → i = j) ∧
    (∃ handler, (ModeHandler.system A).run (atomicCalls s.returned) = some handler ∧
      (s.mutex = none → s.shared = ⟨false,handler⟩)) ∧
    (∀ before i result after, s.returned = before ++ (i,.getMode,result) :: after →
      ∃ handler, (ModeHandler.system A).run (atomicCalls before) = some handler ∧
        result = some handler.mode) ∧
    (∃ unfinished, s.history = s.returned.map (fun x => (x.1,x.2.1)) ++ unfinished ∧
      unfinished.length = if s.mutex = none then 0 else 1) ∧
    ∀ later t, (system A).after s later = some t →
      s.history <+: t.history ∧ s.returned <+: t.returned := by
  have hserial := (body A).serial_run (idle_loaded A) hrun
  obtain ⟨past,hreturned,hplace⟩ := (body A).linearizable (idle_loaded A) hrun
  have hcalls : s.returned.map (fun x => (x.1,x.2.1)) = past := by
    rw [hreturned,(body A).replay_calls]
  refine ⟨fun i j => hserial.holder,⟨_,by rw [hreturned]; exact replay_atomic past,?_⟩,?_,?_,
    fun later t => (body A).grows⟩
  · intro hfree
    rcases hplace with ⟨-,-,hshared⟩ | ⟨i,op,hheld,-⟩
    · have hidle : ((body A).replay (loaded A) past).1.lock = false :=
        (body A).replay_idle (idle_loaded A) past
      rw [hshared,← hidle]
    · cases hfree.symm.trans hheld
  · intro before i result after h
    rw [hreturned] at h
    exact replay_getMode h
  · rw [hcalls]
    rcases hplace with ⟨hfree,rfl,-⟩ | ⟨i,op,hheld,hhistory⟩
    · exact ⟨[],(List.append_nil _).symm,by rw [if_pos hfree]; rfl⟩
    · refine ⟨[(i,op)],hhistory,?_⟩
      rw [if_neg (by rw [hheld]; exact Option.some_ne_none i)]
      rfl

theorem mode_handler_never_stuck (events : List (CriticalSection.Event (Op A)))
    (s : CriticalSection.State (Op A) (Shared A) (Body A) (Option Mode))
    (hrun : (system A).run events = some s) :
    (∀ i op b, s.threads i = .inside op b → (step b s.shared).isSome) ∧
    (∀ i, s.mutex = some i → ∃ es t, CriticalSection.Body.OwnSteps i es ∧
      (system A).after s es = some t ∧ t.mutex = none ∧ t.threads i = .outside ∧
      ∀ j, j ≠ i → t.threads j = s.threads j) ∧
    ∀ i op, s.threads i = .waiting op → ∃ es t result, (system A).after s es = some t ∧
      t.threads i = .outside ∧ (i,op,result) ∈ t.returned := by
  have hserial := (body A).serial_run (idle_loaded A) hrun
  refine ⟨fun i op b hinside => ?_,fun i hmutex => ?_,fun i op hwaiting => ?_⟩
  · obtain ⟨past,-,-,hfinishes⟩ := hserial.inside i op b hinside
    exact (body A).advances_or_finishes hfinishes
  · obtain ⟨es,t,hown,hafter,hfree,houtside,hothers,-⟩ := (body A).released_by_holder hserial hmutex
    exact ⟨es,t,hown,hafter,hfree,houtside,hothers⟩
  · obtain ⟨es,t,result,hafter,houtside,-,-,hmem⟩ := (body A).waiting_served (idle_loaded A) hserial hwaiting
    exact ⟨es,t,result,hafter,houtside,hmem⟩

end Runs

def motionDuringGetMode : List (CriticalSection.Event (Op Unit)) :=
  [.invoke 0 (.registerOnChangeCallback .socketSetMode true),.acquire 0] ++
  List.replicate 3 (.advance 0) ++ [.release 0,.invoke 1 (.setMode .movie 1),.acquire 1,.advance 1,
    .invoke 2 .getMode] ++ List.replicate 9 (.advance 1) ++ [.advance 1,.release 1,.acquire 2,
    .advance 2,.release 2]

theorem mode_handler_linearizable_motionDuringGetMode :
    ∃ s, (system Unit).run motionDuringGetMode = some s ∧
      s.returned = [(0,.registerOnChangeCallback .socketSetMode true,none),(1,.setMode .movie 1,none)]
        ++ (2,.getMode,some .movie) :: [] ∧
      s.shared.handler.writer = ⟨.movie,2⟩ ∧
      ∃ handler, (ModeHandler.system Unit).run [.registerOnChangeCallback .socketSetMode true,
        .setMode .movie 1] = some handler ∧ some Mode.movie = some handler.mode := by
  refine ⟨_,rfl,rfl,rfl,?_⟩
  obtain ⟨-,-,hresults,-⟩ := mode_handler_linearizable motionDuringGetMode _ rfl
  exact hresults _ 2 (some .movie) [] rfl

theorem mode_handler_never_stuck_motionDuringGetMode :
    ∃ s, (system Unit).run (motionDuringGetMode.take 12) = some s ∧ s.mutex = some 1 ∧
      s.threads 2 = .waiting .getMode ∧
      ∃ es t result, (system Unit).after s es = some t ∧ t.threads 2 = .outside ∧
        (2,.getMode,result) ∈ t.returned := by
  refine ⟨_,rfl,rfl,rfl,?_⟩
  obtain ⟨-,-,hserved⟩ := mode_handler_never_stuck (motionDuringGetMode.take 12) _ rfl
  exact hserved 2 .getMode rfl

end VideoSurveillance.ModeMutex
