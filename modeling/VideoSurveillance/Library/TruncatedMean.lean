import Mathlib.Algebra.Order.Ring.Int
import Mathlib.Tactic.Ring

namespace VideoSurveillance.TruncatedMean

def mean (p q a b : ℤ) : ℤ := (p * a + q * b).tdiv (p + q)

variable {p q a b : ℤ}

theorem mean_le (hp : 0 ≤ p) (hq : 0 ≤ q) (hpos : 0 < p + q) {high : ℤ} (ha : a ≤ high)
    (hb : b ≤ high) : mean p q a b ≤ high := by
  have hsum : p * a + q * b ≤ high * (p + q) := by
    calc p * a + q * b ≤ p * high + q * high :=
          add_le_add (mul_le_mul_of_nonneg_left ha hp) (mul_le_mul_of_nonneg_left hb hq)
      _ = high * (p + q) := by ring
  have hdiv := Int.tdiv_le_tdiv hpos hsum
  rwa [Int.mul_tdiv_cancel high hpos.ne'] at hdiv

theorem le_mean (hp : 0 ≤ p) (hq : 0 ≤ q) (hpos : 0 < p + q) {low : ℤ} (ha : low ≤ a)
    (hb : low ≤ b) : low ≤ mean p q a b := by
  have hsum : low * (p + q) ≤ p * a + q * b := by
    calc low * (p + q) = p * low + q * low := by ring
      _ ≤ p * a + q * b :=
          add_le_add (mul_le_mul_of_nonneg_left ha hp) (mul_le_mul_of_nonneg_left hb hq)
  have hdiv := Int.tdiv_le_tdiv hpos hsum
  rwa [Int.mul_tdiv_cancel low hpos.ne'] at hdiv

end VideoSurveillance.TruncatedMean
