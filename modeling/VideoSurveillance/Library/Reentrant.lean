import Mathlib.Data.Nat.Notation

namespace VideoSurveillance.Reentrant

structure Handler (O S : Type) where
  handle : (O → S → Option S) → O → S → Option S
  rank : O → S → ℕ
  bound : ℕ
  rank_le : ∀ o s, rank o s ≤ bound
  agrees : ∀ f g o s, (∀ p t, rank p t < rank o s → f p t = g p t) → handle f o s = handle g o s
  answers : ∀ f o s, (∀ p t, rank p t < rank o s → (f p t).isSome) → (handle f o s).isSome

namespace Handler
variable {O S : Type} (A : Handler O S)

def dispatch : ℕ → O → S → Option S
  | 0, _, _ => none
  | n + 1, o, s => A.handle (dispatch n) o s

theorem dispatch_succ (n : ℕ) (o : O) (s : S) :
    A.dispatch (n + 1) o s = A.handle (A.dispatch n) o s := rfl

theorem dispatch_isSome {n : ℕ} {o : O} {s : S} (h : A.rank o s < n) :
    (A.dispatch n o s).isSome := by
  induction n generalizing o s with
  | zero => exact absurd h (Nat.not_lt_zero _)
  | succ n ih => exact A.answers _ o s (fun p t hpt => ih (by omega))

theorem dispatch_stable {m n : ℕ} {o : O} {s : S} (hm : A.rank o s < m) (hn : A.rank o s < n) :
    A.dispatch m o s = A.dispatch n o s := by
  induction m generalizing n o s with
  | zero => exact absurd hm (Nat.not_lt_zero _)
  | succ m ih =>
    obtain ⟨k,rfl⟩ : ∃ k, n = k + 1 := ⟨n - 1,by omega⟩
    exact A.agrees _ _ o s (fun p t hpt => ih (by omega) (by omega))

def settle (o : O) (s : S) : S :=
  (A.dispatch (A.bound + 1) o s).get (A.dispatch_isSome (Nat.lt_succ_of_le (A.rank_le o s)))

theorem dispatch_settle {n : ℕ} {o : O} {s : S} (h : A.rank o s < n) :
    A.dispatch n o s = some (A.settle o s) := by
  rw [A.dispatch_stable h (Nat.lt_succ_of_le (A.rank_le o s)),settle,Option.some_get]

theorem settles (o : O) (s : S) : ∀ n, A.bound < n → A.dispatch n o s = some (A.settle o s) :=
  fun _ h => A.dispatch_settle (Nat.lt_of_le_of_lt (A.rank_le o s) h)

theorem settle_unfold (o : O) (s : S) :
    A.handle (fun p t => some (A.settle p t)) o s = some (A.settle o s) := by
  have hd : A.dispatch (A.bound + 2) o s = some (A.settle o s) := A.settles o s _ (by omega)
  rw [← hd,dispatch_succ]
  exact A.agrees _ _ o s (fun p t _ => (A.settles p t (A.bound + 1) (by omega)).symm)

theorem settle_spec {P Q : O → S → Prop}
    (hhandle : ∀ f o s t, (∀ p u v, P p u → f p u = some v → Q p v) → P o s →
      A.handle f o s = some t → Q o t) {o : O} {s : S} (hs : P o s) :
    Q o (A.settle o s) := by
  have hdispatch : ∀ n p u v, P p u → A.dispatch n p u = some v → Q p v := by
    intro n
    induction n with
    | zero => nofun
    | succ n ih => exact fun p u v hu hv => hhandle (A.dispatch n) p u v ih hu hv
  exact hdispatch _ o s _ hs (A.settles o s _ (Nat.lt_succ_self _))

theorem settle_map {T : Type} (B : Handler O T) (π : S → T)
    (hhandle : ∀ f g o s, (∀ p t, (f p t).map π = g p (π t)) →
      (A.handle f o s).map π = B.handle g o (π s)) (o : O) (s : S) :
    π (A.settle o s) = B.settle o (π s) := by
  have hdispatch : ∀ n p t, (A.dispatch n p t).map π = B.dispatch n p (π t) := by
    intro n
    induction n with
    | zero => exact fun _ _ => rfl
    | succ n ih => exact fun p t => hhandle _ _ p t ih
  have hn := hdispatch (max A.bound B.bound + 1) o s
  rw [A.settles o s _ (Nat.lt_succ_of_le (Nat.le_max_left _ _)),
    B.settles o (π s) _ (Nat.lt_succ_of_le (Nat.le_max_right _ _))] at hn
  exact Option.some.inj hn

end Handler

end VideoSurveillance.Reentrant
