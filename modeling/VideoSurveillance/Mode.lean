import Mathlib.Data.Nat.Notation

namespace VideoSurveillance

inductive Mode where
  | idle
  | movie
  deriving DecidableEq, Repr

theorem Mode.eq_idle_of_ne_movie {m : Mode} (h : m ≠ .movie) : m = .idle := by
  cases m with
  | idle => rfl
  | movie => exact absurd rfl h

end VideoSurveillance
