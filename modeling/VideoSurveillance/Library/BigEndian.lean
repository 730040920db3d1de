import Mathlib.Data.List.Range
import Mathlib.Data.Nat.Bitwise

namespace VideoSurveillance.BigEndian

def field (w : ℕ) (byte : BitVec 8) (shift : ℕ) : BitVec w :=
  ((byte.signExtend w &&& 255#w) <<< shift) &&& (255#w <<< shift)

def join (w n : ℕ) (bytes : ℕ → BitVec 8) : BitVec w :=
  (List.range n).foldl (fun value i => value ||| field w (bytes i) ((n - 1 - i) * 8)) 0#w

def split {w : ℕ} (n : ℕ) (value : BitVec w) (i : ℕ) : BitVec 8 :=
  (value >>> ((n - 1 - i) * 8)).setWidth 8

theorem getLsbD_255 (w j : ℕ) : (255#w).getLsbD j = (decide (j < w) && decide (j < 8)) := by
  rw [BitVec.getLsbD_ofNat]
  congr 1
  exact Nat.testBit_two_pow_sub_one 8 j

theorem field_getLsbD {w : ℕ} (hw : 8 ≤ w) (byte : BitVec 8) (k j : ℕ) :
    (field w byte k).getLsbD j =
      (decide (j < w) && decide (k ≤ j) && decide (j < k + 8) && byte.getLsbD (j - k)) := by
  simp only [field,BitVec.getLsbD_and,BitVec.getLsbD_shiftLeft,getLsbD_255,BitVec.getLsbD_signExtend]
  grind

theorem foldl_or_getLsbD {w : ℕ} (f : ℕ → BitVec w) (j : ℕ) (l : List ℕ) (a : BitVec w) :
    (l.foldl (fun value i => value ||| f i) a).getLsbD j =
      (a.getLsbD j || l.any (fun i => (f i).getLsbD j)) := by
  induction l generalizing a with
  | nil => simp
  | cons i l ih =>
    rw [List.foldl_cons,ih,BitVec.getLsbD_or,List.any_cons,Bool.or_assoc]

theorem join_getLsbD {n j : ℕ} (bytes : ℕ → BitVec 8) (hj : j < 8 * n) :
    (join (8 * n) n bytes).getLsbD j = (bytes (n - 1 - j / 8)).getLsbD (j % 8) := by
  have hw : 8 ≤ 8 * n := by omega
  rw [join,foldl_or_getLsbD,BitVec.getLsbD_zero,Bool.false_or,Bool.eq_iff_iff,List.any_eq_true]
  simp only [List.mem_range,field_getLsbD hw,Bool.and_eq_true,decide_eq_true_eq]
  constructor
  · rintro ⟨i,hi,⟨⟨-,hlow⟩,hhigh⟩,hbit⟩
    have hindex : n - 1 - j / 8 = i := by omega
    have hoffset : j % 8 = j - (n - 1 - i) * 8 := by omega
    rwa [hindex,hoffset]
  · intro hbit
    have hindex : (n - 1 - (n - 1 - j / 8)) * 8 = j / 8 * 8 := by omega
    have hoffset : j - j / 8 * 8 = j % 8 := by omega
    refine ⟨n - 1 - j / 8,by omega,⟨⟨hj,by omega⟩,by omega⟩,?_⟩
    rwa [hindex,hoffset]

theorem split_getLsbD {n i j : ℕ} (value : BitVec (8 * n)) (hj : j < 8) :
    (split n value i).getLsbD j = value.getLsbD ((n - 1 - i) * 8 + j) := by
  simp [split,BitVec.getLsbD_ushiftRight,hj]

theorem join_split {n : ℕ} (value : BitVec (8 * n)) : join (8 * n) n (split n value) = value := by
  apply BitVec.eq_of_getLsbD_eq
  intro j hj
  rw [join_getLsbD _ hj,split_getLsbD _ (Nat.mod_lt j (by omega))]
  congr 1
  omega

theorem join_congr {w n : ℕ} {f g : ℕ → BitVec 8} (h : ∀ i, i < n → f i = g i) :
    join w n f = join w n g := by
  apply List.foldl_ext
  intro value i hi
  rw [h i (List.mem_range.mp hi)]

theorem join_msb {n : ℕ} (hn : 0 < n) (bytes : ℕ → BitVec 8) :
    (join (8 * n) n bytes).msb = (bytes 0).msb := by
  rw [BitVec.msb_eq_getLsbD_last,BitVec.msb_eq_getLsbD_last,join_getLsbD _ (by omega)]
  congr 2 <;> omega

theorem join_eq_zero {n : ℕ} (bytes : ℕ → BitVec 8) :
    join (8 * n) n bytes = 0#(8 * n) ↔ ∀ i, i < n → bytes i = 0#8 := by
  constructor
  · intro h i hi
    apply BitVec.eq_of_getLsbD_eq
    intro j hj
    have hbit := join_getLsbD bytes (n := n) (j := (n - 1 - i) * 8 + j) (by omega)
    have hindex : n - 1 - ((n - 1 - i) * 8 + j) / 8 = i := by omega
    have hoffset : ((n - 1 - i) * 8 + j) % 8 = j := by omega
    rw [h,hindex,hoffset] at hbit
    simpa using hbit.symm
  · intro h
    apply BitVec.eq_of_getLsbD_eq
    intro j hj
    rw [join_getLsbD _ hj,h _ (by omega)]
    simp

end VideoSurveillance.BigEndian
