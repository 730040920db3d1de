import VideoSurveillance.Library.CriticalSection

namespace VideoSurveillance.SocketMutex
open CriticalSection (Owned holds_of_eq)

inductive Socket where
  | jpeg
  | web
  deriving DecidableEq

inductive Call where
  | openSocket (k : Socket)
  | closeSocket (k : Socket)
  deriving DecidableEq

inductive Place where
  | outside
  | waiting (call : Call)
  | locked (call : Call)
  | closing (k : Socket)
  | unlocking
  deriving DecidableEq

structure State where
  mutex : Option ℕ
  sockets : Socket → Option ℕ
  threads : ℕ → Place

inductive Event where
  | enter (i : ℕ) (call : Call)
  | lock (i : ℕ)
  | socketAndBind (i : ℕ) (fd : ℕ)
  | testInactive (i : ℕ)
  | close (i : ℕ)
  | unlock (i : ℕ)
  deriving DecidableEq

def State.at (s : State) (i : ℕ) (place : Place) : State :=
  { s with threads := Function.update s.threads i place }

def step (s : State) : Event → Option State
  | .enter i call =>
    match s.threads i with
    | .outside => some (s.at i (.waiting call))
    | _ => none
  | .lock i =>
    match s.threads i, s.mutex with
    | .waiting call, none => some { s.at i (.locked call) with mutex := some i }
    | _, _ => none
  | .socketAndBind i fd =>
    match s.threads i with
    | .locked (.openSocket k) =>
      some { s.at i .unlocking with sockets := Function.update s.sockets k (some fd) }
    | _ => none
  | .testInactive i =>
    match s.threads i with
    | .locked (.closeSocket k) =>
      match s.sockets k with
      | none => some (s.at i .outside)
      | some _ => some (s.at i (.closing k))
    | _ => none
  | .close i =>
    match s.threads i with
    | .closing k => some { s.at i .unlocking with sockets := Function.update s.sockets k none }
    | _ => none
  | .unlock i =>
    match s.threads i with
    | .unlocking => some { s.at i .outside with mutex := none }
    | _ => none

def system (sockets : Socket → Option ℕ) : Runs.System State Event where
  init := ⟨none,sockets,fun _ => .outside⟩
  step := step

def Place.Holds : Place → Prop
  | .outside => False
  | .waiting _ => False
  | .locked _ => True
  | .closing _ => True
  | .unlocking => True

inductive Stepped (s : State) : Event → State → Prop
  | enters {i : ℕ} {call : Call} : s.threads i = .outside →
      Stepped s (.enter i call) (s.at i (.waiting call))
  | locks {i : ℕ} {call : Call} : s.threads i = .waiting call → s.mutex = none →
      Stepped s (.lock i) { s.at i (.locked call) with mutex := some i }
  | opens {i fd : ℕ} {k : Socket} : s.threads i = .locked (.openSocket k) →
      Stepped s (.socketAndBind i fd)
        { s.at i .unlocking with sockets := Function.update s.sockets k (some fd) }
  | returnsLocked {i : ℕ} {k : Socket} : s.threads i = .locked (.closeSocket k) →
      s.sockets k = none → Stepped s (.testInactive i) (s.at i .outside)
  | active {i : ℕ} {k : Socket} : s.threads i = .locked (.closeSocket k) → s.sockets k ≠ none →
      Stepped s (.testInactive i) (s.at i (.closing k))
  | closes {i : ℕ} {k : Socket} : s.threads i = .closing k → Stepped s (.close i)
      { s.at i .unlocking with sockets := Function.update s.sockets k none }
  | unlocks {i : ℕ} : s.threads i = .unlocking →
      Stepped s (.unlock i) { s.at i .outside with mutex := none }

theorem stepped {s t : State} {e : Event} (h : step s e = some t) : Stepped s e t := by
  cases e with
  | enter i call =>
    simp only [step] at h
    split at h
    · next hp =>
      cases h
      exact .enters hp
    · cases h
  | lock i =>
    simp only [step] at h
    split at h
    · next hp hm =>
      cases h
      exact .locks hp hm
    · cases h
  | socketAndBind i fd =>
    simp only [step] at h
    split at h
    · next hp =>
      cases h
      exact .opens hp
    · cases h
  | testInactive i =>
    simp only [step] at h
    split at h
    · next k hp =>
      split at h
      · next hk =>
        cases h
        exact .returnsLocked hp hk
      · next fd hk =>
        cases h
        exact .active hp (by simp [hk])
    · cases h
  | close i =>
    simp only [step] at h
    split at h
    · next hp =>
      cases h
      exact .closes hp
    · cases h
  | unlock i =>
    simp only [step] at h
    split at h
    · next hp =>
      cases h
      exact .unlocks hp
    · cases h

def Releases (sockets : Socket → Option ℕ) : Place → Prop
  | .locked (.closeSocket k) => sockets k ≠ none
  | place => place.Holds

def OneHolder (s : State) : Prop := Owned Place.Holds s.mutex s.threads

structure Sound (sockets : Socket → Option ℕ) (s : State) : Prop where
  released : ∀ i, s.mutex = some i → (s.threads i).Holds
  freed : ∃ es u, (system sockets).after s es = some u ∧ u.mutex = none
  never_blocked : ∀ i call, s.threads i = .waiting call →
    ∃ es u, (system sockets).after s es = some u ∧ u.threads i = .locked call

def ClosesActive (s : State) : Event → Prop
  | .lock i => ∀ k, s.threads i = .waiting (.closeSocket k) → s.sockets k ≠ none
  | _ => True

theorem at_threads (s : State) (i : ℕ) (place : Place) :
    (s.at i place).threads = Function.update s.threads i place := rfl

theorem Releases.holds {sockets : Socket → Option ℕ} {place : Place} (h : Releases sockets place) :
    place.Holds := by
  cases place with
  | locked => trivial
  | outside | waiting | closing | unlocking => exact h

theorem releases_at (sockets : Socket → Option ℕ) (s : State) (i : ℕ) {place : Place}
    (h : Releases sockets place) : Releases sockets ((s.at i place).threads i) := by
  rw [at_threads,Function.update_self]
  exact h

theorem oneHolder_stepped {s t : State} {e : Event} (hs : OneHolder s) (h : Stepped s e t) :
    OneHolder t := by
  cases h with
  | enters | returnsLocked => exact Owned.update (fun h => h.elim) (fun j _ => hs j)
  | locks hplace hfree =>
    refine Owned.update (fun _ => rfl) (fun j _ hj => ?_)
    cases hfree.symm.trans (hs j hj)
  | opens hplace | closes hplace =>
    exact Owned.update (fun _ => hs _ (holds_of_eq hplace trivial)) (fun j _ => hs j)
  | active hplace =>
    exact Owned.update (fun _ => hs _ (holds_of_eq hplace trivial)) (fun j _ => hs j)
  | unlocks hplace =>
    refine Owned.update (fun h => h.elim) (fun j hne hj => ?_)
    exact absurd (hs.eq_owner (holds_of_eq hplace trivial) (hs j hj)) hne

def WillRelease (s : State) : Prop := ∀ i, s.mutex = some i → Releases s.sockets (s.threads i)

def Stuck (s : State) : Prop := ∃ i, s.mutex = some i ∧ ¬ Releases s.sockets (s.threads i)

theorem willRelease_stepped {s t : State} {e : Event} (hs : OneHolder s) (hw : WillRelease s)
    (hok : ClosesActive s e) (h : Stepped s e t) : WillRelease t := by
  intro j hj
  cases h with
  | @enters i call hplace =>
    have hreleases := hw j hj
    have hne : j ≠ i := by
      rintro rfl
      rw [hplace] at hreleases
      exact hreleases
    rw [at_threads,Function.update_of_ne hne]
    exact hreleases
  | @locks i call hplace =>
    obtain rfl := Option.some.inj hj
    refine releases_at s.sockets s i ?_
    cases call with
    | openSocket k => trivial
    | closeSocket k => exact hok k hplace
  | @opens i fd k hplace =>
    obtain rfl := hs.eq_owner (holds_of_eq hplace trivial) hj
    exact releases_at _ s j trivial
  | @returnsLocked i k hplace hinactive =>
    obtain rfl := hs.eq_owner (holds_of_eq hplace trivial) hj
    have hreleases := hw j hj
    rw [hplace] at hreleases
    exact absurd hinactive hreleases
  | @active i k hplace =>
    obtain rfl := hs.eq_owner (holds_of_eq hplace trivial) hj
    exact releases_at s.sockets s j trivial
  | @closes i k hplace =>
    obtain rfl := hs.eq_owner (holds_of_eq hplace trivial) hj
    exact releases_at _ s j trivial
  | unlocks => cases hj

theorem stuck_stepped {s t : State} {e : Event} (hs : OneHolder s) (hstuck : Stuck s)
    (h : Stepped s e t) : Stuck t := by
  obtain ⟨j,hj,hstuck⟩ := hstuck
  cases h with
  | @enters i call hplace =>
    refine ⟨j,hj,?_⟩
    rcases eq_or_ne j i with rfl | hne
    · rw [at_threads,Function.update_self]
      exact id
    · rw [at_threads,Function.update_of_ne hne]
      exact hstuck
  | locks hplace hfree => cases hfree.symm.trans hj
  | @opens i fd k hplace =>
    obtain rfl := hs.eq_owner (holds_of_eq hplace trivial) hj
    exact absurd (by rw [hplace]; trivial) hstuck
  | @returnsLocked i k hplace =>
    obtain rfl := hs.eq_owner (holds_of_eq hplace trivial) hj
    refine ⟨j,hj,?_⟩
    rw [at_threads,Function.update_self]
    exact id
  | @active i k hplace hactive =>
    obtain rfl := hs.eq_owner (holds_of_eq hplace trivial) hj
    exact absurd (by rw [hplace]; exact hactive) hstuck
  | @closes i k hplace =>
    obtain rfl := hs.eq_owner (holds_of_eq hplace trivial) hj
    exact absurd (by rw [hplace]; trivial) hstuck
  | @unlocks i hplace =>
    obtain rfl := hs.eq_owner (holds_of_eq hplace trivial) hj
    exact absurd (by rw [hplace]; trivial) hstuck

theorem never_freed {sockets : Socket → Option ℕ} {es : List Event} {s u : State} (hs : OneHolder s)
    (hstuck : Stuck s) (hafter : (system sockets).after s es = some u) : u.mutex ≠ none := by
  induction es generalizing s with
  | nil =>
    cases hafter
    obtain ⟨i,hi,-⟩ := hstuck
    rw [hi]
    exact Option.some_ne_none i
  | cons e es ih =>
    obtain ⟨t,ht,hrest⟩ := Option.bind_eq_some_iff.mp hafter
    exact ih (oneHolder_stepped hs (stepped ht)) (stuck_stepped hs hstuck (stepped ht)) hrest

def Frees (sockets : Socket → Option ℕ) (i : ℕ) (s : State) : Prop :=
  ∃ es u, (system sockets).after s es = some u ∧ u.mutex = none ∧
    ∀ j, j ≠ i → u.threads j = s.threads j

theorem frees_step {sockets : Socket → Option ℕ} {i : ℕ} {s t : State} {e : Event}
    (hstep : step s e = some t) (hsame : ∀ j, j ≠ i → t.threads j = s.threads j)
    (h : Frees sockets i t) : Frees sockets i s := by
  obtain ⟨es,u,hafter,hfree,hothers⟩ := h
  refine ⟨e :: es,u,?_,hfree,fun j hj => (hothers j hj).trans (hsame j hj)⟩
  have hstep : (system sockets).step s e = some t := hstep
  rw [Runs.System.after_cons,hstep]
  exact hafter

theorem frees_unlocking (sockets : Socket → Option ℕ) {i : ℕ} {s : State}
    (h : s.threads i = .unlocking) : Frees sockets i s := by
  have hstep : step s (.unlock i) = some { s.at i .outside with mutex := none } := by
    simp only [step,h]
  exact frees_step hstep (fun j hj => Function.update_of_ne hj _ _) ⟨[],_,rfl,rfl,fun _ _ => rfl⟩

theorem frees_closing (sockets : Socket → Option ℕ) {i : ℕ} {s : State} {k : Socket}
    (h : s.threads i = .closing k) : Frees sockets i s := by
  have hstep : step s (.close i) =
      some { s.at i .unlocking with sockets := Function.update s.sockets k none } := by
    simp only [step,h]
  exact frees_step hstep (fun j hj => Function.update_of_ne hj _ _)
    (frees_unlocking sockets (Function.update_self i _ _))

theorem frees_holder (sockets : Socket → Option ℕ) {i : ℕ} {s : State}
    (h : Releases s.sockets (s.threads i)) : Frees sockets i s := by
  cases hp : s.threads i with
  | outside | waiting =>
    rw [hp] at h
    exact h.elim
  | closing k => exact frees_closing sockets hp
  | unlocking => exact frees_unlocking sockets hp
  | locked call =>
    cases call with
    | openSocket k =>
      have hstep : step s (.socketAndBind i 0) =
          some { s.at i .unlocking with sockets := Function.update s.sockets k (some 0) } := by
        simp only [step,hp]
      exact frees_step hstep (fun j hj => Function.update_of_ne hj _ _)
        (frees_unlocking sockets (Function.update_self i _ _))
    | closeSocket k =>
      rw [hp] at h
      obtain ⟨fd,hfd⟩ := Option.ne_none_iff_exists'.mp h
      have hstep : step s (.testInactive i) = some (s.at i (.closing k)) := by
        simp only [step,hp,hfd]
      exact frees_step hstep (fun j hj => Function.update_of_ne hj _ _)
        (frees_closing sockets (Function.update_self i _ _))

theorem sound_of_willRelease (sockets : Socket → Option ℕ) {s : State} (hw : WillRelease s) :
    Sound sockets s where
  released := fun i hi => (hw i hi).holds
  freed := by
    cases hm : s.mutex with
    | none => exact ⟨[],s,rfl,hm⟩
    | some i =>
      obtain ⟨es,u,hafter,hfree,-⟩ := frees_holder sockets (hw i hm)
      exact ⟨es,u,hafter,hfree⟩
  never_blocked := by
    intro i call hwaiting
    obtain ⟨es,u,hafter,hfree,hsame⟩ : ∃ es u, (system sockets).after s es = some u ∧
        u.mutex = none ∧ u.threads i = .waiting call := by
      cases hm : s.mutex with
      | none => exact ⟨[],s,rfl,hm,hwaiting⟩
      | some j =>
        have hreleases := hw j hm
        have hne : i ≠ j := by
          rintro rfl
          rw [hwaiting] at hreleases
          exact hreleases
        obtain ⟨es,u,hafter,hfree,hothers⟩ := frees_holder sockets hreleases
        exact ⟨es,u,hafter,hfree,(hothers i hne).trans hwaiting⟩
    have hlock : (system sockets).step u (.lock i) =
        some { u.at i (.locked call) with mutex := some i } := by
      simp only [system,step,hsame,hfree]
    refine ⟨es ++ [.lock i],{ u.at i (.locked call) with mutex := some i },?_,
      Function.update_self i _ _⟩
    rw [Runs.System.after_append,hafter,Option.bind_some,Runs.System.after_cons,hlock]
    rfl

theorem stuck_of_inactive {s t : State} {e : Event} (hbad : ¬ ClosesActive s e)
    (h : Stepped s e t) : Stuck t := by
  cases h with
  | @locks i call hplace =>
    obtain ⟨k,hk⟩ := not_forall.mp hbad
    obtain ⟨hwaiting,hinactive⟩ := Classical.not_imp.mp hk
    obtain rfl := Place.waiting.inj (hplace.symm.trans hwaiting)
    refine ⟨i,rfl,?_⟩
    change ¬ Releases s.sockets ((s.at i (.locked (.closeSocket k))).threads i)
    rw [at_threads,Function.update_self]
    exact hinactive
  | enters | opens | returnsLocked | active | closes | unlocks => exact absurd trivial hbad

theorem mutex_released_iff (sockets : Socket → Option ℕ) (es : List Event) (s : State)
    (hrun : (system sockets).run es = some s) :
    (system sockets).Always (Sound sockets) es ↔ (system sockets).Meets ClosesActive es := by
  refine (system sockets).always_iff_meets (I := fun s => OneHolder s ∧ WillRelease s) ?_ ?_ ?_ ?_ hrun
  · exact ⟨fun _ h => h.elim,fun i hi => by cases hi⟩
  · rintro s e t ⟨hs,hw⟩ hok h
    exact ⟨oneHolder_stepped hs (stepped h),willRelease_stepped hs hw hok (stepped h)⟩
  · rintro s ⟨-,hw⟩
    exact sound_of_willRelease sockets hw
  · rintro s e t ⟨hs,-⟩ hbad h hsound
    obtain ⟨fs,u,hafter,hfree⟩ := hsound.freed
    exact never_freed (oneHolder_stepped hs (stepped h)) (stuck_of_inactive hbad (stepped h)) hafter hfree

def noSockets : Socket → Option ℕ := fun _ => none

def openThenClose : List Event :=
  [.enter 0 (.openSocket .jpeg),.lock 0,.socketAndBind 0 3,.unlock 0,.enter 1 (.closeSocket .jpeg),
    .lock 1,.testInactive 1,.enter 0 (.closeSocket .web),.close 1,.unlock 1]

theorem mutex_released_iff_openThenClose :
    (system noSockets).Always (Sound noSockets) openThenClose ↔
      (system noSockets).Meets ClosesActive openThenClose :=
  mutex_released_iff noSockets openThenClose _ rfl

theorem inactive_close_keeps_mutex :
    ¬ ∀ (sockets : Socket → Option ℕ) (es : List Event) (s : State),
      (system sockets).run es = some s → ∀ i, s.mutex = some i → (s.threads i).Holds := by
  intro h
  exact h noSockets [.enter 0 (.closeSocket .jpeg),.lock 0,.testInactive 0] _ rfl 0 rfl

end VideoSurveillance.SocketMutex
