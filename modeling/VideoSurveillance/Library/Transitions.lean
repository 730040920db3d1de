import Mathlib.Algebra.Order.Group.Abs
import Mathlib.Algebra.Order.BigOperators.Group.List
import VideoSurveillance.Library.Runs

namespace VideoSurveillance.Runs

structure Transition (S E : Type) where
  source : S
  event : E
  target : S

namespace System
variable {S E D : Type} (M : System S E)

def transitions : S → List E → List (Transition S E)
  | _, [] => []
  | s, e :: es =>
    match M.step s e with
    | none => []
    | some t => ⟨s,e,t⟩ :: transitions t es

theorem transitions_cons {s t : S} {e : E} (h : M.step s e = some t) (es : List E) :
    M.transitions s (e :: es) = ⟨s,e,t⟩ :: M.transitions t es := by
  simp only [transitions,h]

theorem transitions_refused {s : S} {e : E} (h : M.step s e = none) (es : List E) :
    M.transitions s (e :: es) = [] := by
  simp only [transitions,h]

theorem forall_transitions {I : S → Prop} {ok : E → Prop} {good : Transition S E → Prop}
    (hgood : ∀ s e t, I s → ok e → M.step s e = some t → good ⟨s,e,t⟩)
    (hkeep : ∀ s e t, I s → ok e → M.step s e = some t → I t) {es : List E}
    (hok : ∀ e ∈ es, ok e) {s : S} (hs : I s) : ∀ x ∈ M.transitions s es, good x := by
  induction es generalizing s with
  | nil => simp [transitions]
  | cons e es ih =>
    obtain ⟨he,hes⟩ := List.forall_mem_cons.mp hok
    cases ht : M.step s e with
    | none => simp [M.transitions_refused ht]
    | some t =>
      rw [M.transitions_cons ht]
      refine List.forall_mem_cons.mpr ⟨hgood s e t hs he ht,?_⟩
      exact ih hes (hkeep s e t hs he ht)

section Marks
variable {K : Type}

def marks (mark : S → S → Option D) (g : S → K) (s : S) (es : List E) : List (D × K) :=
  (M.transitions s es).filterMap (fun x => (mark x.source x.target).map (fun d => (d,g x.source)))

theorem marks_none {mark : S → S → Option D} {s t : S} {e : E} (g : S → K)
    (h : M.step s e = some t) (hmark : mark s t = none) (es : List E) :
    M.marks mark g s (e :: es) = M.marks mark g t es := by
  rw [marks,M.transitions_cons h,List.filterMap_cons,hmark]
  rfl

theorem marks_some {mark : S → S → Option D} {s t : S} {e : E} {d : D} (g : S → K)
    (h : M.step s e = some t) (hmark : mark s t = some d) (es : List E) :
    M.marks mark g s (e :: es) = (d,g s) :: M.marks mark g t es := by
  rw [marks,M.transitions_cons h,List.filterMap_cons,hmark]
  rfl

theorem marks_refused {mark : S → S → Option D} {s : S} {e : E} (g : S → K)
    (h : M.step s e = none) (es : List E) : M.marks mark g s (e :: es) = [] := by
  rw [marks,M.transitions_refused h]
  rfl

theorem marks_after {mark : S → S → Option D} {g : S → K} {ok : E → Prop} {I : D × K → S → Prop}
    {R : D × K → D × K → Prop}
    (hmark : ∀ s e t d, ok e → M.step s e = some t → mark s t = some d → I (d,g s) t)
    (hkeep : ∀ x s e t, ok e → I x s → M.step s e = some t → mark s t = none → I x t)
    (hnext : ∀ x s e t d, ok e → I x s → M.step s e = some t → mark s t = some d → R x (d,g s))
    {es : List E} (hok : ∀ e ∈ es, ok e) {last : Option (D × K)} {s : S}
    (hlast : ∀ x ∈ last, I x s) : (last.toList ++ M.marks mark g s es).IsChain R := by
  induction es generalizing last s with
  | nil => cases last <;> simp [marks,transitions]
  | cons e es ih =>
    obtain ⟨he,hes⟩ := List.forall_mem_cons.mp hok
    cases ht : M.step s e with
    | none =>
      rw [M.marks_refused g ht]
      cases last <;> simp
    | some t =>
      cases hd : mark s t with
      | none =>
        rw [M.marks_none g ht hd]
        exact ih hes (fun x hx => hkeep x s e t he (hlast x hx) ht hd)
      | some d =>
        have hrest : ((some (d,g s)).toList ++ M.marks mark g t es).IsChain R := by
          refine ih hes (fun x hx => ?_)
          obtain rfl := Option.some.inj hx
          exact hmark s e t d he ht hd
        rw [M.marks_some g ht hd]
        cases last with
        | none => exact hrest
        | some x =>
          exact List.isChain_cons_cons.mpr ⟨hnext x s e t d he (hlast x rfl) ht hd,hrest⟩

theorem marks_isChain {mark : S → S → Option D} {g : S → K} {ok : E → Prop}
    {I : D × K → S → Prop} {R : D × K → D × K → Prop}
    (hmark : ∀ s e t d, ok e → M.step s e = some t → mark s t = some d → I (d,g s) t)
    (hkeep : ∀ x s e t, ok e → I x s → M.step s e = some t → mark s t = none → I x t)
    (hnext : ∀ x s e t d, ok e → I x s → M.step s e = some t → mark s t = some d → R x (d,g s))
    {es : List E} (hok : ∀ e ∈ es, ok e) (s : S) : (M.marks mark g s es).IsChain R := by
  have hnone : ∀ x ∈ (none : Option (D × K)), I x s := by
    intro x hx
    cases hx
  exact M.marks_after hmark hkeep hnext hok hnone

end Marks

section Variation
variable {K : Type} [AddCommGroup K] [LinearOrder K]

def variation (g : S → K) (s : S) (es : List E) : K :=
  ((M.transitions s es).map (fun x => |g x.target - g x.source|)).sum

theorem variation_cons {s t : S} {e : E} (g : S → K) (h : M.step s e = some t) (es : List E) :
    M.variation g s (e :: es) = |g t - g s| + M.variation g t es := by
  rw [variation,M.transitions_cons h,List.map_cons,List.sum_cons]
  rfl

variable [IsOrderedAddMonoid K]

theorem variation_nonneg (g : S → K) (s : S) (es : List E) : 0 ≤ M.variation g s es := by
  refine List.sum_nonneg (fun v hv => ?_)
  obtain ⟨x,-,rfl⟩ := List.mem_map.mp hv
  exact abs_nonneg _

variable {mark : S → S → Option D} {g : S → K} {δ : K}

theorem marks_after_le (v : K) (s : S) (es : List E)
    (h : (v :: (M.marks mark g s es).map Prod.snd).IsChain (fun v w => δ ≤ |w - v|)) :
    (M.marks mark g s es).length • δ ≤ |g s - v| + M.variation g s es := by
  induction es generalizing v s with
  | nil =>
    rw [marks,transitions,List.filterMap_nil,List.length_nil,zero_nsmul]
    exact add_nonneg (abs_nonneg _) (M.variation_nonneg g s [])
  | cons e es ih =>
    cases ht : M.step s e with
    | none =>
      rw [M.marks_refused g ht,List.length_nil,zero_nsmul]
      exact add_nonneg (abs_nonneg _) (M.variation_nonneg g s _)
    | some t =>
      rw [M.variation_cons g ht]
      cases hd : mark s t with
      | none =>
        rw [M.marks_none g ht hd] at h ⊢
        have hsplit := abs_sub_le (g t) (g s) v
        calc (M.marks mark g t es).length • δ ≤ |g t - v| + M.variation g t es := ih v t h
          _ ≤ |g t - g s| + |g s - v| + M.variation g t es := add_le_add_left hsplit _
          _ = |g s - v| + (|g t - g s| + M.variation g t es) := by
            rw [add_comm |g t - g s|,add_assoc]
      | some d =>
        rw [M.marks_some g ht hd] at h ⊢
        rw [List.map_cons,List.isChain_cons_cons] at h
        have hrest := ih (g s) t h.2
        calc ((d,g s) :: M.marks mark g t es).length • δ
            = δ + (M.marks mark g t es).length • δ := by
              rw [List.length_cons,succ_nsmul']
          _ ≤ |g s - v| + (|g t - g s| + M.variation g t es) := add_le_add h.1 hrest

theorem marks_le_variation (hδ : 0 ≤ δ) (s : S) (es : List E)
    (h : ((M.marks mark g s es).map Prod.snd).IsChain (fun v w => δ ≤ |w - v|)) :
    (M.marks mark g s es).length • δ ≤ δ + M.variation g s es := by
  cases hm : (M.marks mark g s es).map Prod.snd with
  | nil =>
    rw [List.map_eq_nil_iff.mp hm,List.length_nil,zero_nsmul]
    exact add_nonneg hδ (M.variation_nonneg g s es)
  | cons w ws =>
    -- a value at distance δ from the start, on the far side of the first mark
    obtain ⟨v,hv,hw⟩ : ∃ v, |g s - v| = δ ∧ δ ≤ |w - v| := by
      rcases le_total (g s) w with hle | hle
      · refine ⟨g s - δ,by rw [sub_sub_cancel,abs_of_nonneg hδ],le_abs.mpr (.inl ?_)⟩
        rw [sub_sub_eq_add_sub,add_sub_right_comm]
        exact le_add_of_nonneg_left (sub_nonneg.mpr hle)
      · refine ⟨g s + δ,by rw [sub_add_cancel_left,abs_neg,abs_of_nonneg hδ],le_abs.mpr (.inr ?_)⟩
        rw [neg_sub,add_sub_right_comm]
        exact le_add_of_nonneg_left (sub_nonneg.mpr hle)
    have hbound := M.marks_after_le v s es (by
      rw [hm] at h ⊢
      exact List.isChain_cons_cons.mpr ⟨hw,h⟩)
    rwa [hv] at hbound

end Variation

end System

end VideoSurveillance.Runs
