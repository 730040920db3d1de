import Mathlib.Data.List.Basic

namespace VideoSurveillance.LowestFree

structure Table (A : Type) where
  slots : List (Option A)
  deriving DecidableEq

namespace Table
variable {A : Type}

def lookup (t : Table A) (n : ℕ) : Option A := (t.slots[n]?).join

def free : List (Option A) → ℕ
  | [] => 0
  | none :: _ => 0
  | some _ :: slots => free slots + 1

def fill (a : A) : List (Option A) → List (Option A)
  | [] => [some a]
  | none :: slots => some a :: slots
  | some b :: slots => some b :: fill a slots

def lowestFree (t : Table A) : ℕ := free t.slots

def install (t : Table A) (a : A) : Table A := ⟨fill a t.slots⟩

def close (t : Table A) (n : ℕ) : Table A := ⟨t.slots.set n none⟩

theorem fill_free (a : A) (slots : List (Option A)) : (fill a slots)[free slots]? = some (some a) := by
  induction slots with
  | nil => rfl
  | cons slot slots ih =>
    cases slot with
    | none => rfl
    | some b => exact ih

theorem fill_ne (a : A) {slots : List (Option A)} {n : ℕ} (h : n ≠ free slots) :
    (fill a slots)[n]? = slots[n]? := by
  induction slots generalizing n with
  | nil =>
    obtain ⟨m,rfl⟩ := Nat.exists_eq_succ_of_ne_zero h
    rfl
  | cons slot slots ih =>
    cases slot with
    | none =>
      obtain ⟨m,rfl⟩ := Nat.exists_eq_succ_of_ne_zero h
      rfl
    | some b =>
      cases n with
      | zero => rfl
      | succ m => exact ih (fun hm => h (congrArg (· + 1) hm))

@[simp] theorem lookup_install (t : Table A) (a : A) : (t.install a).lookup t.lowestFree = some a := by
  simp only [lookup,install,lowestFree,fill_free]
  rfl

theorem lookup_install_ne {t : Table A} {n : ℕ} (a : A) (h : n ≠ t.lowestFree) :
    (t.install a).lookup n = t.lookup n := by
  rw [lookup,install,fill_ne a h]
  rfl

@[simp] theorem lookup_close (t : Table A) (n : ℕ) : (t.close n).lookup n = none := by
  simp only [lookup,close,List.getElem?_set]
  split_ifs <;> rfl

theorem lookup_close_ne (t : Table A) {m n : ℕ} (h : m ≠ n) :
    (t.close n).lookup m = t.lookup m := by
  simp only [lookup,close,List.getElem?_set_ne h.symm]

theorem lookup_lowestFree (t : Table A) : t.lookup t.lowestFree = none := by
  obtain ⟨slots⟩ := t
  induction slots with
  | nil => rfl
  | cons slot slots ih =>
    cases slot with
    | none => rfl
    | some b => exact ih

theorem lookup_install_iff (t : Table A) {a b : A} {n : ℕ} :
    (t.install a).lookup n = some b ↔ (n = t.lowestFree ∧ b = a) ∨ t.lookup n = some b := by
  rcases eq_or_ne n t.lowestFree with rfl | hne
  · rw [lookup_install,lookup_lowestFree,Option.some.injEq,eq_comm]
    simp
  · rw [lookup_install_ne a hne]
    simp [hne]

theorem lookup_close_iff (t : Table A) {m n : ℕ} {b : A} :
    (t.close m).lookup n = some b ↔ n ≠ m ∧ t.lookup n = some b := by
  rcases eq_or_ne n m with rfl | hne
  · simp
  · simp [lookup_close_ne t hne,hne]

theorem lowestFree_le {t : Table A} {n : ℕ} (h : t.lookup n = none) : t.lowestFree ≤ n := by
  obtain ⟨slots⟩ := t
  induction slots generalizing n with
  | nil => exact Nat.zero_le n
  | cons slot slots ih =>
    cases slot with
    | none => exact Nat.zero_le n
    | some b =>
      cases n with
      | zero => cases h
      | succ n => exact Nat.succ_le_succ (ih h)

theorem length_install (t : Table A) (a : A) :
    (t.install a).slots.length ≤ max t.slots.length (t.lowestFree + 1) := by
  obtain ⟨slots⟩ := t
  induction slots with
  | nil => exact Nat.le_max_right _ _
  | cons slot slots ih =>
    cases slot with
    | none => exact Nat.le_max_left _ _
    | some b =>
      simp only [install,lowestFree,fill,free,List.length_cons] at ih ⊢
      omega

theorem length_close (t : Table A) (n : ℕ) : (t.close n).slots.length = t.slots.length :=
  List.length_set

theorem lt_of_lookup {t : Table A} {n : ℕ} {a : A} (h : t.lookup n = some a) :
    n < t.slots.length := by
  have hslot := Option.join_eq_some_iff.mp h
  exact (List.getElem?_eq_some_iff.mp hslot).1

end Table

end VideoSurveillance.LowestFree
