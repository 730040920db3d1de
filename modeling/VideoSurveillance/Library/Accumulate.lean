import Mathlib.Algebra.BigOperators.Group.Finset.Basic
import Mathlib.Algebra.Order.BigOperators.Group.Finset
import Mathlib.Algebra.Ring.Int.Defs

namespace VideoSurveillance.Accumulate
variable {A B : Type}

theorem add_toInt {x y : Int32} (hx : 0 ≤ x.toInt) (hy : 0 ≤ y.toInt)
    (hfit : x.toInt + y.toInt < 2 ^ 31) : (x + y).toInt = x.toInt + y.toInt := by
  rw [Int32.toInt_add]
  exact Int.bmod_eq_of_le (by omega) (by omega)

theorem foldl_toInt {f : A → Int32} {xs : List A} {start : Int32} (hstart : 0 ≤ start.toInt)
    (hf : ∀ x ∈ xs, 0 ≤ (f x).toInt)
    (hfit : start.toInt + (xs.map (fun x => (f x).toInt)).sum < 2 ^ 31) :
    (xs.foldl (fun total x => total + f x) start).toInt =
      start.toInt + (xs.map (fun x => (f x).toInt)).sum := by
  induction xs generalizing start with
  | nil => simp
  | cons x xs ih =>
    have hx := hf x List.mem_cons_self
    have hxs : ∀ y ∈ xs, 0 ≤ (f y).toInt := fun y hy => hf y (List.mem_cons_of_mem x hy)
    have hrest : 0 ≤ (xs.map (fun y => (f y).toInt)).sum :=
      List.sum_nonneg (by simpa using hxs)
    rw [List.map_cons,List.sum_cons] at hfit ⊢
    have hnext := add_toInt hstart hx (by omega)
    rw [List.foldl_cons,ih (by omega) hxs (by omega),hnext,Int.add_assoc]

def grid (rows columns : ℕ) : List (ℕ × ℕ) :=
  (List.range rows).flatMap (fun i => (List.range columns).map (fun j => (i,j)))

theorem mem_grid {rows columns : ℕ} {p : ℕ × ℕ} :
    p ∈ grid rows columns ↔ p.1 < rows ∧ p.2 < columns := by
  obtain ⟨i,j⟩ := p
  simp [grid]

theorem foldl_grid (f : B → ℕ → ℕ → B) (rows columns : ℕ) (start : B) :
    (List.range rows).foldl (fun b i => (List.range columns).foldl (fun b j => f b i j) b) start =
      (grid rows columns).foldl (fun b p => f b p.1 p.2) start := by
  simp only [grid,List.foldl_flatMap,List.foldl_map]

theorem sum_grid (f : ℕ → ℕ → ℤ) (rows columns : ℕ) :
    ((grid rows columns).map (fun p => f p.1 p.2)).sum =
      ∑ i ∈ Finset.range rows, ∑ j ∈ Finset.range columns, f i j := by
  have hrow : ∀ i, ((List.range columns).map (f i)).sum = ∑ j ∈ Finset.range columns, f i j :=
    fun _ => rfl
  rw [grid,List.map_flatMap,List.flatMap_def,List.sum_flatten]
  simp only [List.map_map,Function.comp_def,hrow]
  rfl

theorem sum_le_grid {f : ℕ → ℕ → ℤ} {rows columns bound : ℕ}
    (hf : ∀ i < rows, ∀ j < columns, f i j ≤ bound) :
    ∑ i ∈ Finset.range rows, ∑ j ∈ Finset.range columns, f i j ≤ bound * columns * rows := by
  have hrow : ∀ i ∈ Finset.range rows,
      ∑ j ∈ Finset.range columns, f i j ≤ (bound : ℤ) * columns := by
    intro i hi
    have h := Finset.sum_le_card_nsmul (Finset.range columns) (f i) bound
      (fun j hj => hf i (Finset.mem_range.mp hi) j (Finset.mem_range.mp hj))
    rw [Finset.card_range,Int.nsmul_eq_mul,mul_comm] at h
    exact h
  have h := Finset.sum_le_card_nsmul (Finset.range rows) _ _ hrow
  rw [Finset.card_range,Int.nsmul_eq_mul,mul_comm] at h
  exact h

theorem nested_toInt {f : ℕ → ℕ → Int32} (rows columns bound : ℕ)
    (hlow : ∀ i < rows, ∀ j < columns, 0 ≤ (f i j).toInt)
    (hhigh : ∀ i < rows, ∀ j < columns, (f i j).toInt ≤ bound)
    (hfit : bound * columns * rows < 2 ^ 31) :
    ((List.range rows).foldl (fun total i =>
      (List.range columns).foldl (fun total j => total + f i j) total) 0).toInt =
        ∑ i ∈ Finset.range rows, ∑ j ∈ Finset.range columns, (f i j).toInt := by
  have hsum := sum_grid (fun i j => (f i j).toInt) rows columns
  have hbound := sum_le_grid hhigh
  rw [foldl_grid (fun total i j => total + f i j),foldl_toInt]
  · rw [hsum,Int32.toInt_zero,zero_add]
  · exact le_refl _
  · intro p hp
    obtain ⟨hi,hj⟩ := mem_grid.mp hp
    exact hlow p.1 hi p.2 hj
  · rw [hsum,Int32.toInt_zero,zero_add]
    refine hbound.trans_lt ?_
    exact_mod_cast hfit

end VideoSurveillance.Accumulate
