import VideoSurveillance.Library.Runs

namespace VideoSurveillance.Runs

-- a monitor whose threads sleep in wait() until notifyAll() or their timeout
structure Monitor (S T E : Type) extends System S E where
  actor : E → Option T
  waits : T → S → Bool
  notifies : S → E → Bool
  due : S → E → Bool

namespace Monitor
variable {S T E F : Type} [DecidableEq T] (M : Monitor S T E)

structure Guarded (S T : Type) where
  state : S
  asleep : T → Bool

def mayRun (x : Guarded S T) (e : E) : Bool :=
  match M.actor e with
  | none => true
  | some t => !x.asleep t || M.due x.state e

-- notifyAll comes before the event's own thread goes to sleep
def asleepAfter (x : Guarded S T) (e : E) (s : S) (t : T) : Bool :=
  if M.actor e = some t then M.waits t s else x.asleep t && !M.notifies x.state e

def guarded : System (Guarded S T) E where
  init := ⟨M.init,fun _ => false⟩
  step := fun x e =>
    if M.mayRun x e then (M.step x.state e).map (fun s => ⟨s,M.asleepAfter x e s⟩) else none

theorem guarded_step {x y : Guarded S T} {e : E} (h : M.guarded.step x e = some y) :
    M.mayRun x e = true ∧ M.step x.state e = some y.state ∧
      y.asleep = M.asleepAfter x e y.state := by
  simp only [guarded] at h
  split at h
  · next hmay =>
    obtain ⟨s,hs,rfl⟩ := Option.map_eq_some_iff.mp h
    exact ⟨hmay,hs,rfl⟩
  · cases h

theorem guarded_of_step {x : Guarded S T} {e : E} {s : S} (hmay : M.mayRun x e = true)
    (h : M.step x.state e = some s) : M.guarded.step x e = some ⟨s,M.asleepAfter x e s⟩ := by
  simp only [guarded,if_pos hmay,h,Option.map_some]

theorem run_of_guarded {es : List E} {x : Guarded S T} (h : M.guarded.run es = some x) :
    M.run es = some x.state := by
  induction es using List.reverseRecOn generalizing x with
  | nil =>
    cases h
    rfl
  | append_singleton es e ih =>
    obtain ⟨y,hy,hstep⟩ := M.guarded.run_snoc_some.mp h
    exact M.run_snoc_some.mpr ⟨y.state,ih hy,(M.guarded_step hstep).2.1⟩

-- idle: looking at the wait condition again would go back to sleep
structure Signals (Idle : T → S → Prop) : Prop where
  enter : ∀ {s s' e t}, M.step s e = some s' → M.actor e = some t → M.waits t s' = true → Idle t s'
  frame : ∀ {s s' e t}, M.step s e = some s' → M.actor e ≠ some t → M.notifies s e = false →
    Idle t s → Idle t s'

variable {M} {Idle : T → S → Prop}

theorem Signals.step (h : M.Signals Idle) {x y : Guarded S T} {e : E}
    (hx : ∀ t, x.asleep t = true → Idle t x.state) (hstep : M.guarded.step x e = some y) :
    ∀ t, y.asleep t = true → Idle t y.state := by
  obtain ⟨-,hs,hasleep⟩ := M.guarded_step hstep
  intro t ht
  rw [hasleep,asleepAfter] at ht
  split at ht
  · next hactor => exact h.enter hs hactor ht
  · next hactor =>
    obtain ⟨hslept,hquiet⟩ := Bool.and_eq_true_iff.mp ht
    exact h.frame hs hactor (Bool.not_eq_true' _ ▸ hquiet) (hx t hslept)

theorem Signals.run (h : M.Signals Idle) {es : List E} {x : Guarded S T}
    (hrun : M.guarded.run es = some x) : ∀ t, x.asleep t = true → Idle t x.state := by
  have hinit : ∀ t, M.guarded.init.asleep t = true → Idle t M.guarded.init.state := nofun
  exact M.guarded.invariant (I := fun x => ∀ t, x.asleep t = true → Idle t x.state) hinit
    (fun _ _ _ hx hstep => h.step hx hstep) hrun

-- forget: drop what a useless wake-up rewrites
structure Forgets (M : Monitor S T E) (Idle : T → S → Prop) (forget : S → F) : Prop where
  step : ∀ {s s' u e}, forget u = forget s → M.step s e = some s' →
    ∃ u', M.step u e = some u' ∧ forget u' = forget s'
  idle : ∀ {u u' e t}, M.actor e = some t → Idle t u → M.due u e = false → M.step u e = some u' →
    forget u' = forget u

theorem Forgets.run {forget : S → F} (h : M.Forgets Idle forget) (hsignals : M.Signals Idle)
    {es : List E} {s : S} (hrun : M.run es = some s) :
    ∃ fs x, fs.Sublist es ∧ M.guarded.run fs = some x ∧ forget x.state = forget s := by
  induction es using List.reverseRecOn generalizing s with
  | nil =>
    cases hrun
    exact ⟨[],_,.slnil,rfl,rfl⟩
  | append_singleton es e ih =>
    obtain ⟨r,hr,hstep⟩ := M.run_snoc_some.mp hrun
    obtain ⟨fs,x,hsub,hx,hforget⟩ := ih hr
    obtain ⟨u,hu,hforget'⟩ := h.step hforget hstep
    cases hmay : M.mayRun x e with
    | true =>
      refine ⟨fs ++ [e],⟨u,M.asleepAfter x e u⟩,hsub.append_right [e],?_,hforget'⟩
      exact M.guarded.run_snoc_some.mpr ⟨x,hx,M.guarded_of_step hmay hu⟩
    | false =>
      -- the event is left out: a sleeping thread would only have looked and gone back
      refine ⟨fs,x,hsub.trans (List.sublist_append_left es [e]),hx,?_⟩
      unfold mayRun at hmay
      split at hmay
      · cases hmay
      · next t hactor =>
        obtain ⟨hawake,hdue⟩ := Bool.or_eq_false_iff.mp hmay
        have hasleep : x.asleep t = true := by simpa using hawake
        have hsame := h.idle hactor (hsignals.run hx t hasleep) hdue hu
        exact hsame.symm.trans hforget'

end Monitor

end VideoSurveillance.Runs
