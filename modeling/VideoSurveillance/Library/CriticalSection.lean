import Mathlib.Logic.Function.Basic
import VideoSurveillance.Library.Runs

namespace VideoSurveillance.CriticalSection

-- threads at their places and one mutex, whatever else a state holds
section Places
variable {P : Type} {Holds : P → Prop} {mutex : Option ℕ} {threads : ℕ → P} {i j : ℕ} {place : P}

def Owned (Holds : P → Prop) (mutex : Option ℕ) (threads : ℕ → P) : Prop :=
  ∀ i, Holds (threads i) → mutex = some i

theorem holds_of_eq (hplace : threads i = place) (h : Holds place) : Holds (threads i) := by
  rw [hplace]
  exact h

theorem Owned.eq_owner (h : Owned Holds mutex threads) (hi : Holds (threads i))
    (hj : mutex = some j) : j = i := Option.some.inj (hj.symm.trans (h i hi))

theorem Owned.update (hi : Holds place → mutex = some i)
    (hothers : ∀ j, j ≠ i → Holds (threads j) → mutex = some j) :
    Owned Holds mutex (Function.update threads i place) := by
  intro j hj
  rcases eq_or_ne j i with rfl | hne
  · rw [Function.update_self] at hj
    exact hi hj
  · rw [Function.update_of_ne hne] at hj
    exact hothers j hne hj

end Places

-- `none` from `step` is a body that has to wait, `.inr` is a body that is ready to unlock
inductive Finishes {Sh B R : Type} (step : B → Sh → Option (Sh × (B ⊕ R))) :
    B → Sh → Sh × R → Prop
  | returns {b : B} {sh sh' : Sh} {r : R} : step b sh = some (sh',.inr r) →
      Finishes step b sh (sh',r)
  | continues {b b' : B} {sh sh' : Sh} {x : Sh × R} : step b sh = some (sh',.inl b') →
      Finishes step b' sh' x → Finishes step b sh x

structure Body (Op Sh B R : Type) where
  start : Op → B
  step : B → Sh → Option (Sh × (B ⊕ R))
  perform : Op → Sh → Sh × R
  Idle : Sh → Prop
  performs : ∀ op sh, Idle sh → Finishes step (start op) sh (perform op sh)
  stays_idle : ∀ op sh, Idle sh → Idle (perform op sh).1

inductive Place (Op B R : Type) where
  | outside
  | waiting (op : Op)
  | inside (op : Op) (b : B)
  | leaving (op : Op) (r : R)
  deriving DecidableEq

structure State (Op Sh B R : Type) where
  mutex : Option ℕ
  shared : Sh
  threads : ℕ → Place Op B R
  history : List (ℕ × Op)
  returned : List (ℕ × Op × R)

inductive Event (Op : Type) where
  | invoke (i : ℕ) (op : Op)
  | acquire (i : ℕ)
  | advance (i : ℕ)
  | release (i : ℕ)
  deriving DecidableEq

def Place.Holds {Op B R : Type} : Place Op B R → Prop
  | .outside => False
  | .waiting _ => False
  | .inside _ _ => True
  | .leaving _ _ => True

section Threads
variable {Op Sh B R : Type}

def State.at (s : State Op Sh B R) (i : ℕ) (place : Place Op B R) : State Op Sh B R :=
  { s with threads := Function.update s.threads i place }

theorem at_threads (s : State Op Sh B R) (i : ℕ) (place : Place Op B R) :
    (s.at i place).threads = Function.update s.threads i place := rfl

end Threads

namespace Body
variable {Op Sh B R : Type} (A : Body Op Sh B R)

def transition (s : State Op Sh B R) : Event Op → Option (State Op Sh B R)
  | .invoke i op =>
    match s.threads i with
    | .outside => some (s.at i (.waiting op))
    | _ => none
  | .acquire i =>
    match s.threads i, s.mutex with
    | .waiting op, none => some { s.at i (.inside op (A.start op)) with
        mutex := some i
        history := s.history ++ [(i,op)] }
    | _, _ => none
  | .advance i =>
    match s.threads i with
    | .inside op b =>
      match A.step b s.shared with
      | some (sh,.inl b') => some { s.at i (.inside op b') with shared := sh }
      | some (sh,.inr r) => some { s.at i (.leaving op r) with shared := sh }
      | none => none
    | _ => none
  | .release i =>
    match s.threads i with
    | .leaving op r => some { s.at i .outside with
        mutex := none
        returned := s.returned ++ [(i,op,r)] }
    | _ => none

def system (shared : Sh) : Runs.System (State Op Sh B R) (Event Op) where
  init := ⟨none,shared,fun _ => .outside,[],[]⟩
  step := A.transition

def replayOne (x : Sh × List (ℕ × Op × R)) (c : ℕ × Op) : Sh × List (ℕ × Op × R) :=
  ((A.perform c.2 x.1).1,x.2 ++ [(c.1,c.2,(A.perform c.2 x.1).2)])

def replay (shared : Sh) (history : List (ℕ × Op)) : Sh × List (ℕ × Op × R) :=
  history.foldl A.replayOne (shared,[])

theorem replay_snoc (shared : Sh) (history : List (ℕ × Op)) (i : ℕ) (op : Op) :
    A.replay shared (history ++ [(i,op)]) =
      ((A.perform op (A.replay shared history).1).1,
        (A.replay shared history).2 ++ [(i,op,(A.perform op (A.replay shared history).1).2)]) := by
  rw [replay,List.foldl_append,← replay]
  rfl

theorem replay_idle {shared : Sh} (h : A.Idle shared) (history : List (ℕ × Op)) :
    A.Idle (A.replay shared history).1 := by
  induction history using List.reverseRecOn with
  | nil => exact h
  | append_singleton history c ih =>
    obtain ⟨i,op⟩ := c
    rw [replay_snoc]
    exact A.stays_idle op _ ih

theorem replay_calls (shared : Sh) (history : List (ℕ × Op)) :
    (A.replay shared history).2.map (fun x => (x.1,x.2.1)) = history := by
  induction history using List.reverseRecOn with
  | nil => rfl
  | append_singleton history c ih =>
    rw [replay_snoc,List.map_append,ih]
    rfl

inductive Transitioned (s : State Op Sh B R) : Event Op → State Op Sh B R → Prop
  | invokes {i : ℕ} {op : Op} : s.threads i = .outside →
      Transitioned s (.invoke i op) (s.at i (.waiting op))
  | acquires {i : ℕ} {op : Op} : s.threads i = .waiting op → s.mutex = none →
      Transitioned s (.acquire i) { s.at i (.inside op (A.start op)) with
        mutex := some i
        history := s.history ++ [(i,op)] }
  | advances {i : ℕ} {op : Op} {b b' : B} {sh : Sh} : s.threads i = .inside op b →
      A.step b s.shared = some (sh,.inl b') →
      Transitioned s (.advance i) { s.at i (.inside op b') with shared := sh }
  | finishes {i : ℕ} {op : Op} {b : B} {r : R} {sh : Sh} : s.threads i = .inside op b →
      A.step b s.shared = some (sh,.inr r) →
      Transitioned s (.advance i) { s.at i (.leaving op r) with shared := sh }
  | releases {i : ℕ} {op : Op} {r : R} : s.threads i = .leaving op r →
      Transitioned s (.release i) { s.at i .outside with
        mutex := none
        returned := s.returned ++ [(i,op,r)] }

theorem transitioned {s t : State Op Sh B R} {e : Event Op} (h : A.transition s e = some t) :
    A.Transitioned s e t := by
  cases e with
  | invoke i op =>
    simp only [transition] at h
    split at h
    · next hplace =>
      cases h
      exact .invokes hplace
    · cases h
  | acquire i =>
    simp only [transition] at h
    split at h
    · next hplace hfree =>
      cases h
      exact .acquires hplace hfree
    · cases h
  | advance i =>
    simp only [transition] at h
    split at h
    · next hplace =>
      split at h
      · next hstep =>
        cases h
        exact .advances hplace hstep
      · next hstep =>
        cases h
        exact .finishes hplace hstep
      · cases h
    · cases h
  | release i =>
    simp only [transition] at h
    split at h
    · next hplace =>
      cases h
      exact .releases hplace
    · cases h

structure Serial (shared : Sh) (s : State Op Sh B R) : Prop where
  owned : ∀ i, (s.threads i).Holds ↔ s.mutex = some i
  free : s.mutex = none →
    s.shared = (A.replay shared s.history).1 ∧ s.returned = (A.replay shared s.history).2
  inside : ∀ i op b, s.threads i = .inside op b → ∃ past,
    s.history = past ++ [(i,op)] ∧ s.returned = (A.replay shared past).2 ∧
      Finishes A.step b s.shared (A.perform op (A.replay shared past).1)
  leaving : ∀ i op r, s.threads i = .leaving op r → ∃ past,
    s.history = past ++ [(i,op)] ∧ s.returned = (A.replay shared past).2 ∧
      A.perform op (A.replay shared past).1 = (s.shared,r)

theorem serial_start (shared : Sh) : A.Serial shared (A.system shared).init where
  owned := fun i => iff_of_false (fun h => h.elim) (fun h => by cases h)
  free := fun _ => ⟨rfl,rfl⟩
  inside := fun i op b h => by cases h
  leaving := fun i op r h => by cases h

theorem finishes_continued {b b' : B} {sh sh' : Sh} {x : Sh × R}
    (hstep : A.step b sh = some (sh',.inl b')) (h : Finishes A.step b sh x) :
    Finishes A.step b' sh' x := by
  cases h with
  | returns hreturn => cases hstep.symm.trans hreturn
  | continues hcontinue hrest =>
    cases hstep.symm.trans hcontinue
    exact hrest

theorem finishes_returned {b : B} {sh sh' : Sh} {r : R} {x : Sh × R}
    (hstep : A.step b sh = some (sh',.inr r)) (h : Finishes A.step b sh x) : x = (sh',r) := by
  cases h with
  | returns hreturn =>
    cases hstep.symm.trans hreturn
    rfl
  | continues hcontinue => cases hstep.symm.trans hcontinue

section Step
variable {A} {shared : Sh} {s t : State Op Sh B R}

theorem Serial.holds (h : A.Serial shared s) : Owned Place.Holds s.mutex s.threads :=
  fun i => (h.owned i).mp

theorem Serial.holder {i j : ℕ} (h : A.Serial shared s) (hi : (s.threads i).Holds)
    (hj : (s.threads j).Holds) : i = j := h.holds.eq_owner hj (h.holds i hi)

theorem Serial.outside_of_free (h : A.Serial shared s) (hfree : s.mutex = none) (i : ℕ) :
    ¬ (s.threads i).Holds := by
  intro hi
  cases hfree.symm.trans ((h.owned i).mp hi)

theorem Serial.invoked {i : ℕ} {op : Op} (h : A.Serial shared s)
    (hplace : s.threads i = .outside) : A.Serial shared (s.at i (.waiting op)) := by
  have hkept : ∀ j place, place.Holds → (s.at i (.waiting op)).threads j = place →
      s.threads j = place := by
    intro j place hholds hj
    rcases eq_or_ne j i with rfl | hne
    · rw [at_threads,Function.update_self] at hj
      rw [← hj] at hholds
      exact hholds.elim
    · rwa [at_threads,Function.update_of_ne hne] at hj
  refine ⟨fun j => ?_,h.free,fun j op' b hj => h.inside j op' b (hkept j _ trivial hj),
    fun j op' r hj => h.leaving j op' r (hkept j _ trivial hj)⟩
  rcases eq_or_ne j i with rfl | hne
  · have howned := h.owned j
    rw [hplace] at howned
    rw [at_threads,Function.update_self]
    exact howned
  · rw [at_threads,Function.update_of_ne hne]
    exact h.owned j

theorem owned_at {i : ℕ} {place : Place Op B R} {mutex : Option ℕ}
    (hothers : ∀ j, j ≠ i → ¬ (s.threads j).Holds) (hmutex : place.Holds ↔ mutex = some i)
    (hnone : ¬ place.Holds → mutex = none) (j : ℕ) :
    ((s.at i place).threads j).Holds ↔ mutex = some j := by
  refine ⟨Owned.update hmutex.mp (fun j hne hj => absurd hj (hothers j hne)) j,fun hj => ?_⟩
  have hplace : place.Holds := by
    by_contra hout
    cases hj.symm.trans (hnone hout)
  obtain rfl := Option.some.inj ((hmutex.mp hplace).symm.trans hj)
  rw [at_threads,Function.update_self]
  exact hplace

theorem only_place {i j : ℕ} {place place' : Place Op B R}
    (hothers : ∀ j, j ≠ i → ¬ (s.threads j).Holds) (ht : t.threads = (s.at i place).threads)
    (hj : t.threads j = place') (hholds : place'.Holds) : j = i ∧ place = place' := by
  rw [ht] at hj
  rcases eq_or_ne j i with rfl | hne
  · rw [at_threads,Function.update_self] at hj
    exact ⟨rfl,hj⟩
  · rw [at_threads,Function.update_of_ne hne] at hj
    exact absurd (holds_of_eq hj hholds) (hothers j hne)

theorem Serial.transitioned {e : Event Op} (hidle : A.Idle shared) (h : A.Serial shared s)
    (ht : A.Transitioned s e t) :
    A.Serial shared t := by
  cases ht with
  | invokes hplace => exact h.invoked hplace
  | @acquires i op hplace hfree =>
    have hothers : ∀ j, j ≠ i → ¬ (s.threads j).Holds := fun j _ => h.outside_of_free hfree j
    obtain ⟨hshared,hreturned⟩ := h.free hfree
    refine ⟨owned_at hothers (iff_of_true trivial rfl) (fun hn => absurd trivial hn),
      fun hnone => (by cases hnone),fun j op' b hj => ?_,fun j op' r hj => ?_⟩
    · obtain ⟨rfl,heq⟩ := only_place hothers rfl hj trivial
      cases heq
      refine ⟨s.history,rfl,hreturned,?_⟩
      change Finishes A.step (A.start op) s.shared _
      rw [hshared]
      exact A.performs op _ (A.replay_idle hidle s.history)
    · obtain ⟨-,heq⟩ := only_place hothers rfl hj trivial
      cases heq
  | @advances i op b b' sh hplace hstep =>
    have hheld : (s.threads i).Holds := holds_of_eq hplace trivial
    have hothers : ∀ j, j ≠ i → ¬ (s.threads j).Holds := fun j hne hj => hne (h.holder hj hheld)
    have hmutex := (h.owned i).mp hheld
    obtain ⟨past,hhistory,hreturned,hfinishes⟩ := h.inside i op b hplace
    refine ⟨owned_at hothers (iff_of_true trivial hmutex) (fun hn => absurd trivial hn),
      fun hnone => (by cases hmutex.symm.trans hnone),fun j op' c hj => ?_,fun j op' r hj => ?_⟩
    · obtain ⟨rfl,heq⟩ := only_place hothers rfl hj trivial
      cases heq
      exact ⟨past,hhistory,hreturned,A.finishes_continued hstep hfinishes⟩
    · obtain ⟨-,heq⟩ := only_place hothers rfl hj trivial
      cases heq
  | @finishes i op b r sh hplace hstep =>
    have hheld : (s.threads i).Holds := holds_of_eq hplace trivial
    have hothers : ∀ j, j ≠ i → ¬ (s.threads j).Holds := fun j hne hj => hne (h.holder hj hheld)
    have hmutex := (h.owned i).mp hheld
    obtain ⟨past,hhistory,hreturned,hfinishes⟩ := h.inside i op b hplace
    refine ⟨owned_at hothers (iff_of_true trivial hmutex) (fun hn => absurd trivial hn),
      fun hnone => (by cases hmutex.symm.trans hnone),fun j op' c hj => ?_,fun j op' r hj => ?_⟩
    · obtain ⟨-,heq⟩ := only_place hothers rfl hj trivial
      cases heq
    · obtain ⟨rfl,heq⟩ := only_place hothers rfl hj trivial
      cases heq
      exact ⟨past,hhistory,hreturned,A.finishes_returned hstep hfinishes⟩
  | @releases i op r hplace =>
    have hheld : (s.threads i).Holds := holds_of_eq hplace trivial
    have hothers : ∀ j, j ≠ i → ¬ (s.threads j).Holds := fun j hne hj => hne (h.holder hj hheld)
    obtain ⟨past,hhistory,hreturned,hperform⟩ := h.leaving i op r hplace
    refine ⟨owned_at hothers (iff_of_false id (fun hn => by cases hn)) (fun _ => rfl),
      fun _ => ?_,fun j op' c hj => ?_,fun j op' q hj => ?_⟩
    · change s.shared = (A.replay shared s.history).1 ∧
        s.returned ++ [(i,op,r)] = (A.replay shared s.history).2
      rw [hhistory,A.replay_snoc,hperform,hreturned]
      exact ⟨rfl,rfl⟩
    · obtain ⟨-,heq⟩ := only_place hothers rfl hj trivial
      cases heq
    · obtain ⟨-,heq⟩ := only_place hothers rfl hj trivial
      cases heq

end Step

theorem serial_run {shared : Sh} (hidle : A.Idle shared) {events : List (Event Op)}
    {s : State Op Sh B R} (hrun : (A.system shared).run events = some s) : A.Serial shared s :=
  (A.system shared).invariant (I := A.Serial shared) (A.serial_start shared)
    (fun _ _ _ h ht => h.transitioned hidle (A.transitioned ht)) hrun

def OwnSteps (i : ℕ) (events : List (Event Op)) : Prop :=
  ∀ e ∈ events, e = .advance i ∨ e = .release i

theorem advances_to_end {shared : Sh} {i : ℕ} {op : Op} {b : B} {sh : Sh} {x : Sh × R}
    (h : Finishes A.step b sh x) {s : State Op Sh B R} (hshared : s.shared = sh)
    (hplace : s.threads i = .inside op b) :
    ∃ events t, OwnSteps i events ∧ (A.system shared).after s events = some t ∧
      t.threads i = .leaving op x.2 ∧ (∀ j, j ≠ i → t.threads j = s.threads j) ∧
      t.history = s.history := by
  induction h generalizing s with
  | @returns b sh sh' r hstep =>
    have hadvance : (A.system shared).step s (.advance i) =
        some { s.at i (.leaving op r) with shared := sh' } := by
      simp only [system,transition,hplace,hshared,hstep]
    refine ⟨[.advance i],{ s.at i (.leaving op r) with shared := sh' },
      fun e he => .inl (List.mem_singleton.mp he),?_,Function.update_self i _ _,
      fun j hj => Function.update_of_ne hj _ _,rfl⟩
    rw [Runs.System.after_cons,hadvance]
    rfl
  | @continues b b' sh sh' x hstep _ ih =>
    have hadvance : (A.system shared).step s (.advance i) =
        some { s.at i (.inside op b') with shared := sh' } := by
      simp only [system,transition,hplace,hshared,hstep]
    obtain ⟨events,t,hown,hafter,hleaving,hothers,hhistory⟩ :=
      ih (s := { s.at i (.inside op b') with shared := sh' }) rfl (Function.update_self i _ _)
    refine ⟨.advance i :: events,t,?_,?_,hleaving,fun j hj => ?_,hhistory⟩
    · intro e he
      rcases List.mem_cons.mp he with rfl | he
      · exact .inl rfl
      · exact hown e he
    · rw [Runs.System.after_cons,hadvance]
      exact hafter
    · exact (hothers j hj).trans (Function.update_of_ne hj _ _)

theorem released_by_holder {shared : Sh} {s : State Op Sh B R} (h : A.Serial shared s) {i : ℕ}
    (hmutex : s.mutex = some i) :
    ∃ events t, OwnSteps i events ∧ (A.system shared).after s events = some t ∧
      t.mutex = none ∧ t.threads i = .outside ∧ (∀ j, j ≠ i → t.threads j = s.threads j) ∧
      t.history = s.history := by
  have hleave : ∀ u op r, u.threads i = .leaving op r →
      (A.system shared).step u (.release i) = some { u.at i .outside with
        mutex := none
        returned := u.returned ++ [(i,op,r)] } := by
    intro u op r hu
    simp only [system,transition,hu]
  have hheld := (h.owned i).mpr hmutex
  cases hplace : s.threads i with
  | outside | waiting =>
    rw [hplace] at hheld
    exact hheld.elim
  | leaving op r =>
    refine ⟨[.release i],{ s.at i .outside with
        mutex := none
        returned := s.returned ++ [(i,op,r)] },fun e he => .inr (List.mem_singleton.mp he),?_,rfl,
      Function.update_self i _ _,fun j hj => Function.update_of_ne hj _ _,rfl⟩
    rw [Runs.System.after_cons,hleave s op r hplace]
    rfl
  | inside op b =>
    obtain ⟨past,-,-,hfinishes⟩ := h.inside i op b hplace
    generalize A.perform op (A.replay shared past).1 = x at hfinishes
    obtain ⟨events,t,hown,hafter,hleaving,hothers,hhistory⟩ :=
      A.advances_to_end hfinishes rfl hplace
    refine ⟨events ++ [.release i],{ t.at i .outside with
        mutex := none
        returned := t.returned ++ [(i,op,x.2)] },?_,?_,rfl,Function.update_self i _ _,
      fun j hj => ?_,hhistory⟩
    · intro e he
      rcases List.mem_append.mp he with he | he
      · exact hown e he
      · exact .inr (List.mem_singleton.mp he)
    · rw [Runs.System.after_append,hafter,Option.bind_some,Runs.System.after_cons,
        hleave t op _ hleaving]
      rfl
    · exact (Function.update_of_ne hj _ _).trans (hothers j hj)

theorem serial_after {shared : Sh} (hidle : A.Idle shared) {events : List (Event Op)}
    {s t : State Op Sh B R} (h : A.Serial shared s)
    (hafter : (A.system shared).after s events = some t) : A.Serial shared t := by
  induction events generalizing s with
  | nil =>
    cases hafter
    exact h
  | cons e events ih =>
    obtain ⟨u,hu,hrest⟩ := Option.bind_eq_some_iff.mp hafter
    exact ih (h.transitioned hidle (A.transitioned hu)) hrest

theorem waiting_served {shared : Sh} (hidle : A.Idle shared) {s : State Op Sh B R}
    (h : A.Serial shared s) {i : ℕ} {op : Op} (hwaiting : s.threads i = .waiting op) :
    ∃ events t r, (A.system shared).after s events = some t ∧ t.threads i = .outside ∧
      t.mutex = none ∧ t.history = s.history ++ [(i,op)] ∧ (i,op,r) ∈ t.returned := by
  obtain ⟨first,u,hfirst,hfree,hplace,hsame⟩ : ∃ first u,
      (A.system shared).after s first = some u ∧ u.mutex = none ∧
        u.threads i = .waiting op ∧ u.history = s.history := by
    cases hmutex : s.mutex with
    | none => exact ⟨[],s,rfl,hmutex,hwaiting,rfl⟩
    | some j =>
      have hne : i ≠ j := by
        rintro rfl
        have hheld := (h.owned i).mpr hmutex
        rw [hwaiting] at hheld
        exact hheld
      obtain ⟨first,u,-,hfirst,hfree,-,hothers,hhistory⟩ := A.released_by_holder h hmutex
      exact ⟨first,u,hfirst,hfree,(hothers i hne).trans hwaiting,hhistory⟩
  obtain ⟨v,hv,hmutex,hvhistory⟩ : ∃ v, (A.system shared).step u (.acquire i) = some v ∧
      v.mutex = some i ∧ v.history = s.history ++ [(i,op)] := by
    refine ⟨{ u.at i (.inside op (A.start op)) with
      mutex := some i
      history := u.history ++ [(i,op)] },?_,rfl,by rw [← hsame]⟩
    simp only [system,transition,hplace,hfree]
  have hacquired : A.Transitioned u (.acquire i) v := A.transitioned hv
  have hserial := (A.serial_after hidle h hfirst).transitioned hidle hacquired
  obtain ⟨last,t,-,hlast,hreleased,houtside,-,hhistory⟩ := A.released_by_holder hserial hmutex
  have hafter : (A.system shared).after s (first ++ .acquire i :: last) = some t := by
    rw [Runs.System.after_append,hfirst,Option.bind_some,Runs.System.after_cons,hv]
    exact hlast
  have ht := A.serial_after hidle h hafter
  have hreturned := (ht.free hreleased).2
  have hthistory : t.history = s.history ++ [(i,op)] := hhistory.trans hvhistory
  refine ⟨_,t,(A.perform op (A.replay shared s.history).1).2,hafter,houtside,hreleased,hthistory,?_⟩
  rw [hreturned,hthistory,A.replay_snoc]
  exact List.mem_append_right _ (List.mem_singleton_self _)

theorem linearizable {shared : Sh} (hidle : A.Idle shared) {events : List (Event Op)}
    {s : State Op Sh B R} (hrun : (A.system shared).run events = some s) :
    ∃ past, s.returned = (A.replay shared past).2 ∧
      (s.mutex = none ∧ past = s.history ∧ s.shared = (A.replay shared past).1 ∨
        ∃ i op, s.mutex = some i ∧ s.history = past ++ [(i,op)]) := by
  have h := A.serial_run hidle hrun
  cases hmutex : s.mutex with
  | none =>
    obtain ⟨hshared,hreturned⟩ := h.free hmutex
    exact ⟨s.history,hreturned,.inl ⟨rfl,rfl,hshared⟩⟩
  | some i =>
    have hheld := (h.owned i).mpr hmutex
    cases hplace : s.threads i with
    | outside | waiting =>
      rw [hplace] at hheld
      exact hheld.elim
    | inside op b =>
      obtain ⟨past,hhistory,hreturned,-⟩ := h.inside i op b hplace
      exact ⟨past,hreturned,.inr ⟨i,op,rfl,hhistory⟩⟩
    | leaving op r =>
      obtain ⟨past,hhistory,hreturned,-⟩ := h.leaving i op r hplace
      exact ⟨past,hreturned,.inr ⟨i,op,rfl,hhistory⟩⟩

theorem grows {shared : Sh} {events : List (Event Op)} {s t : State Op Sh B R}
    (hafter : (A.system shared).after s events = some t) :
    s.history <+: t.history ∧ s.returned <+: t.returned := by
  induction events generalizing s with
  | nil =>
    cases hafter
    exact ⟨List.prefix_rfl,List.prefix_rfl⟩
  | cons e events ih =>
    obtain ⟨u,hu,hrest⟩ := Option.bind_eq_some_iff.mp hafter
    obtain ⟨hhistory,hreturned⟩ := ih hrest
    cases A.transitioned hu with
    | invokes | advances | finishes => exact ⟨hhistory,hreturned⟩
    | acquires => exact ⟨(List.prefix_append _ _).trans hhistory,hreturned⟩
    | releases => exact ⟨hhistory,(List.prefix_append _ _).trans hreturned⟩

theorem advances_or_finishes {b : B} {sh : Sh} {x : Sh × R} (h : Finishes A.step b sh x) :
    (A.step b sh).isSome := by
  cases h with
  | returns hstep => rw [hstep]; rfl
  | continues hstep => rw [hstep]; rfl

end Body

end VideoSurveillance.CriticalSection
