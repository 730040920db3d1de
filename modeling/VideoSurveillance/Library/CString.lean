import Mathlib.Data.List.Infix

namespace VideoSurveillance.CString

section Search
variable {A : Type}

def search [DecidableEq A] (needle : List A) : List A → Option ℕ
  | [] => if needle = [] then some 0 else none
  | a :: as =>
    if needle <+: a :: as then some 0
    else (search needle as).map (· + 1)

theorem search_isSome [DecidableEq A] (needle as : List A) :
    (search needle as).isSome ↔ needle <:+: as := by
  induction as with
  | nil =>
    rw [search,List.infix_nil]
    split_ifs with h
    · exact iff_of_true rfl h
    · exact iff_of_false (by simp) h
  | cons a as ih =>
    rw [search,List.infix_cons_iff]
    split_ifs with h
    · exact iff_of_true rfl (.inl h)
    · rw [Option.isSome_map,ih,or_iff_right h]

theorem prefix_cut {needle as rest : List A} {b : A} (hb : b ∉ needle)
    (h : needle <+: as ++ b :: rest) : needle <+: as := by
  induction as generalizing needle with
  | nil =>
    rcases List.prefix_cons_iff.mp h with rfl | ⟨tail,rfl,-⟩
    · exact List.nil_prefix
    · exact absurd List.mem_cons_self hb
  | cons a as ih =>
    rcases List.prefix_cons_iff.mp h with rfl | ⟨tail,rfl,htail⟩
    · exact List.nil_prefix
    · exact List.cons_prefix_cons.mpr ⟨rfl,ih (fun hmem => hb (List.mem_cons_of_mem a hmem)) htail⟩

theorem infix_cut {needle as rest : List A} {b : A} (hb : b ∉ needle) :
    needle <:+: as ++ b :: rest ↔ needle <:+: as ∨ needle <:+: rest := by
  constructor
  · intro h
    induction as with
    | nil =>
      rcases List.infix_cons_iff.mp h with h | h
      · exact .inl (prefix_cut hb h).isInfix
      · exact .inr h
    | cons a as ih =>
      rcases List.infix_cons_iff.mp h with h | h
      · exact .inl (prefix_cut hb h).isInfix
      · exact (ih h).imp_left (fun h => h.trans (List.suffix_cons a as).isInfix)
  · rintro (h | h)
    · exact h.trans (List.prefix_append as _).isInfix
    · exact h.trans ((List.suffix_cons b rest).trans (List.suffix_append as _)).isInfix

theorem infix_cut_head {needle rest : List A} {b : A} (hne : needle ≠ []) (hb : b ∉ needle) :
    needle <:+: b :: rest ↔ needle <:+: rest := by
  have hcut : needle <:+: [] ++ b :: rest ↔ needle <:+: [] ∨ needle <:+: rest := infix_cut hb
  rwa [List.nil_append,List.infix_nil,or_iff_right hne] at hcut

theorem forall_ne_of_notMem [DecidableEq A] {as : List A} {b : A} (h : b ∉ as) :
    ∀ a ∈ as, decide (a ≠ b) = true := by
  intro a ha
  apply decide_eq_true
  rintro rfl
  exact h ha

theorem takeWhile_until [DecidableEq A] {before after : List A} {b : A} (h : b ∉ before)
    (hafter : after = [] ∨ after.head? = some b) :
    (before ++ after).takeWhile (· ≠ b) = before := by
  rw [List.takeWhile_append_of_pos (forall_ne_of_notMem h)]
  cases after with
  | nil => exact List.append_nil before
  | cons a after =>
    obtain rfl : a = b := Option.some.inj (hafter.resolve_left (List.cons_ne_nil a after))
    rw [List.takeWhile_cons_of_neg (by simp),List.append_nil]

theorem dropWhile_until [DecidableEq A] {before after : List A} {b : A} (h : b ∉ before)
    (hafter : after = [] ∨ after.head? = some b) :
    (before ++ after).dropWhile (· ≠ b) = after := by
  rw [List.dropWhile_append_of_pos (forall_ne_of_notMem h)]
  cases after with
  | nil => rfl
  | cons a after =>
    obtain rfl : a = b := Option.some.inj (hafter.resolve_left (List.cons_ne_nil a after))
    rw [List.dropWhile_cons_of_neg (by simp)]

theorem cut_injective [DecidableEq A] {as as' rest rest' : List A} {b : A} (h : b ∉ as)
    (h' : b ∉ as') (heq : as ++ b :: rest = as' ++ b :: rest') : as = as' ∧ rest = rest' := by
  have has := congrArg (List.takeWhile (· ≠ b)) heq
  rw [takeWhile_until h (.inr rfl),takeWhile_until h' (.inr rfl)] at has
  subst has
  exact ⟨rfl,List.tail_eq_of_cons_eq (List.append_cancel_left heq)⟩

end Search

def contents (memory : List UInt8) : List UInt8 := memory.takeWhile (· ≠ 0)

theorem contents_terminated {text : List UInt8} (h : 0 ∉ text) (rest : List UInt8) :
    contents (text ++ 0 :: rest) = text :=
  takeWhile_until h (.inr rfl)

def strstr (haystack needle : List UInt8) : Option ℕ := search needle (contents haystack)

theorem strstr_found {text needle : List UInt8} (h : 0 ∉ text) (rest : List UInt8) :
    strstr (text ++ 0 :: rest) needle ≠ none ↔ needle <:+: text := by
  rw [strstr,contents_terminated h,← Option.isSome_iff_ne_none,search_isSome]

end VideoSurveillance.CString
