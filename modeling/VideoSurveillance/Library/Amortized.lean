import Mathlib.Algebra.GroupWithZero.Nat
import Mathlib.Algebra.Order.BigOperators.Group.List
import VideoSurveillance.Library.Transitions

namespace VideoSurveillance.Runs.System
variable {S E : Type} (M : System S E)

def total (f : Transition S E → ℕ) (s : S) (es : List E) : ℕ := ((M.transitions s es).map f).sum

theorem total_cons {s t : S} {e : E} (f : Transition S E → ℕ) (h : M.step s e = some t)
    (es : List E) : M.total f s (e :: es) = f ⟨s,e,t⟩ + M.total f t es := by
  rw [total,M.transitions_cons h,List.map_cons,List.sum_cons,total]

theorem total_add (f g : Transition S E → ℕ) (s : S) (es : List E) :
    M.total (fun x => f x + g x) s es = M.total f s es + M.total g s es := List.sum_map_add

theorem total_eq_zero {I : S → Prop} {ok : E → Prop} {f : Transition S E → ℕ}
    (hfree : ∀ s e t, I s → ok e → M.step s e = some t → f ⟨s,e,t⟩ = 0)
    (hkeep : ∀ s e t, I s → ok e → M.step s e = some t → I t) {es : List E}
    (hok : ∀ e ∈ es, ok e) {s : S} (hs : I s) : M.total f s es = 0 := by
  have hall : ∀ x ∈ M.transitions s es, f x = 0 := M.forall_transitions hfree hkeep hok hs
  apply List.sum_eq_zero
  intro n hn
  obtain ⟨x,hx,rfl⟩ := List.mem_map.mp hn
  exact hall x hx

-- what every step costs is paid from the potential or from what the step gains
theorem amortized (I : S → Prop) (potential : S → ℕ) (cost gain : Transition S E → ℕ)
    (hkeep : ∀ s e t, I s → M.step s e = some t → I t)
    (hpay : ∀ s e t, I s → M.step s e = some t →
      cost ⟨s,e,t⟩ + potential t ≤ potential s + gain ⟨s,e,t⟩)
    {es : List E} {s t : S} (hs : I s) (hafter : M.after s es = some t) :
    M.total cost s es + potential t ≤ potential s + M.total gain s es := by
  induction es generalizing s with
  | nil =>
    cases hafter
    exact (Nat.zero_add _).le
  | cons e es ih =>
    obtain ⟨u,hu,hrest⟩ := Option.bind_eq_some_iff.mp hafter
    have hlater := ih (hkeep s e u hs hu) hrest
    have hnow := hpay s e u hs hu
    rw [M.total_cons _ hu,M.total_cons _ hu]
    omega

end VideoSurveillance.Runs.System
