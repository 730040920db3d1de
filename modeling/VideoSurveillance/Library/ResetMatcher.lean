import Mathlib.Algebra.Group.Nat.Even
import Mathlib.Data.List.Infix

namespace VideoSurveillance.ResetMatcher
variable {A : Type} [DecidableEq A] {pattern : List A}

def next (pattern : List A) (matched : ℕ) (symbol : A) : ℕ :=
  if pattern[matched]? = some symbol then matched + 1 else 0

def scan (pattern : List A) : ℕ → List A → Option (List A)
  | _, [] => none
  | matched, symbol :: rest =>
    if next pattern matched symbol = pattern.length then some rest
    else scan pattern (next pattern matched symbol) rest

def after (pattern : List A) (matched : ℕ) (text : List A) : ℕ := text.foldl (next pattern) matched

def Partial (pattern p : List A) : Prop := p ≠ [] ∧ p <+: pattern ∧ p ≠ pattern

inductive BackToBack (pattern : List A) : ℕ → List A → Prop
  | clear {text : List A} : (∀ p, Partial pattern p → ¬ p <:+ text) → BackToBack pattern 0 text
  | link {n : ℕ} {text p : List A} : Partial pattern p → BackToBack pattern n text →
      BackToBack pattern (n + 1) (text ++ p)

def FirstAt (pattern before rest : List A) : Prop :=
  ∀ k < before.length, ¬ pattern <+: (before ++ pattern ++ rest).drop k

instance (pattern before rest : List A) : Decidable (FirstAt pattern before rest) :=
  inferInstanceAs (Decidable (∀ k < before.length, _))

def Absent (pattern text : List A) : Prop := ∀ p, p <+: text → ¬ pattern <:+ p

structure HeadOnce (pattern : List A) (head : A) (tail : List A) : Prop where
  split : pattern = head :: tail
  once : head ∉ tail

theorem after_append (i : ℕ) (xs ys : List A) :
    after pattern i (xs ++ ys) = after pattern (after pattern i xs) ys := List.foldl_append ..

theorem after_snoc (i : ℕ) (xs : List A) (b : A) :
    after pattern i (xs ++ [b]) = next pattern (after pattern i xs) b := by
  rw [after_append]
  rfl

theorem next_le (i : ℕ) (b : A) : next pattern i b ≤ pattern.length := by
  unfold next
  split_ifs with h
  · exact (List.getElem?_eq_some_iff.mp h).1
  · exact Nat.zero_le _

theorem after_le (pattern xs : List A) : after pattern 0 xs ≤ pattern.length := by
  induction xs using List.reverseRecOn with
  | nil => exact Nat.zero_le _
  | append_singleton xs b _ =>
    rw [after_snoc]
    exact next_le _ b

theorem take_suffix (pattern xs : List A) : pattern.take (after pattern 0 xs) <:+ xs := by
  induction xs using List.reverseRecOn with
  | nil => exact List.suffix_refl _
  | append_singleton xs b ih =>
    rw [after_snoc,next]
    split_ifs with h
    · obtain ⟨ys,hys⟩ := ih
      refine ⟨ys,?_⟩
      rw [List.take_add_one,h,← List.append_assoc,hys]
      rfl
    · simp

theorem scan_append (i : ℕ) (xs ys : List A)
    (h : ∀ p, p ≠ [] → p <+: xs → after pattern i p ≠ pattern.length) :
    scan pattern i (xs ++ ys) = scan pattern (after pattern i xs) ys := by
  induction xs generalizing i with
  | nil => rfl
  | cons x xs ih =>
    have hx : next pattern i x ≠ pattern.length := h [x] (by simp) (by simp)
    rw [List.cons_append,scan,if_neg hx,ih]
    · rfl
    · intro p _ hp
      exact h (x :: p) (by simp) (by simpa using hp)

theorem scan_length {i : ℕ} {xs ys : List A} (h : scan pattern i xs = some ys) :
    ys.length < xs.length := by
  induction xs generalizing i with
  | nil => cases h
  | cons x xs ih =>
    rw [scan] at h
    split_ifs at h with hx
    · cases h
      exact Nat.lt_succ_self _
    · exact (ih h).trans (Nat.lt_succ_self _)

theorem after_take (pattern : List A) (i n : ℕ) (h : i + n ≤ pattern.length) :
    after pattern i ((pattern.drop i).take n) = i + n := by
  induction n with
  | zero => rfl
  | succ n ih =>
    have hlt : i + n < pattern.length := by omega
    have hget : (pattern.drop i)[n]? = some pattern[i + n] := by
      rw [List.getElem?_drop,List.getElem?_eq_getElem hlt]
    rw [List.take_add_one,hget,Option.toList_some,after_snoc,ih (by omega),next,
      if_pos (List.getElem?_eq_getElem hlt)]
    rfl

omit [DecidableEq A] in
theorem absent_mono {xs ys : List A} (h : Absent pattern ys) (hp : xs <+: ys) :
    Absent pattern xs := fun p hpx => h p (hpx.trans hp)

theorem after_ne_length {xs : List A} (h : Absent pattern xs) :
    after pattern 0 xs ≠ pattern.length := by
  intro heq
  have hs := take_suffix pattern xs
  rw [heq,List.take_length] at hs
  exact h xs (List.prefix_refl _) hs

omit [DecidableEq A] in
theorem backToBack_exists (pattern text : List A) : ∃ n, BackToBack pattern n text := by
  induction hlen : text.length using Nat.strong_induction_on generalizing text with
  | h k ih =>
    by_cases hclear : ∀ p, Partial pattern p → ¬ p <:+ text
    · exact ⟨0,.clear hclear⟩
    · push Not at hclear
      obtain ⟨p,hp,front,rfl⟩ := hclear
      have hpos := List.length_pos_of_ne_nil hp.1
      obtain ⟨n,hn⟩ := ih front.length (by rw [← hlen,List.length_append]; omega) front rfl
      exact ⟨n + 1,.link hp hn⟩

omit [DecidableEq A] in
theorem absent_of_firstAt {g w p : List A} (h : FirstAt pattern g w) (hp : p <+: g ++ pattern)
    (hne : p ≠ g ++ pattern) : Absent pattern p := by
  rintro q hq ⟨u,rfl⟩
  obtain ⟨v,hv⟩ := hq.trans hp
  have hlt : (u ++ pattern).length < (g ++ pattern).length :=
    (hq.length_le).trans_lt (Nat.lt_of_le_of_ne hp.length_le
      (fun hlen => hne (hp.eq_of_length hlen)))
  rw [List.length_append,List.length_append,Nat.add_lt_add_iff_right] at hlt
  refine h u.length hlt ⟨v ++ w,?_⟩
  rw [← hv,List.append_assoc,List.append_assoc,List.drop_left]

section HeadOnce
variable {head : A} {tail : List A} (ho : HeadOnce pattern head tail)
include ho

theorem next_head {i : ℕ} (hi : i ≠ 0) : next pattern i head = 0 := by
  obtain ⟨j,rfl⟩ := Nat.exists_eq_succ_of_ne_zero hi
  refine if_neg (fun hget => ?_)
  rw [ho.split,List.getElem?_cons_succ] at hget
  exact ho.once (List.mem_of_getElem? hget)

theorem next_zero {b : A} (hb : b ≠ head) : next pattern 0 b = 0 := by
  refine if_neg (fun hget => hb ?_)
  rw [ho.split,List.getElem?_cons_zero] at hget
  exact (Option.some.inj hget).symm

theorem after_tail {xs : List A} (h : head ∉ xs) : after pattern 0 xs = 0 := by
  induction xs with
  | nil => rfl
  | cons x xs ih =>
    obtain ⟨hx,hxs⟩ := List.ne_and_not_mem_of_not_mem_cons h
    change after pattern (next pattern 0 x) xs = 0
    rw [next_zero ho hx.symm,ih hxs]

theorem after_restart {i : ℕ} (hi : i ≠ 0) {p : List A} (hne : p ≠ []) (hpre : p <+: pattern) :
    after pattern i p = 0 := by
  obtain ⟨x,q,rfl⟩ := List.exists_cons_of_ne_nil hne
  rw [ho.split] at hpre
  obtain ⟨rfl,hq⟩ := List.cons_prefix_cons.mp hpre
  change after pattern (next pattern i x) q = 0
  rw [next_head ho hi]
  exact after_tail ho (fun hx => ho.once (hq.subset hx))

theorem after_partial_eq {i : ℕ} {p : List A} (hp : Partial pattern p) :
    after pattern i p = if i = 0 then p.length else 0 := by
  obtain ⟨hne,hpre,-⟩ := hp
  split_ifs with hi
  · subst hi
    have htake := after_take pattern 0 p.length (by
      rw [Nat.zero_add]
      exact hpre.length_le)
    rwa [List.drop_zero,← List.prefix_iff_eq_take.mp hpre,Nat.zero_add] at htake
  · exact after_restart ho hi hne hpre

theorem after_backToBack {n : ℕ} {text : List A} (habs : Absent pattern text)
    (h : BackToBack pattern n text) : after pattern 0 text = 0 ↔ Even n := by
  induction h with
  | @clear text hclear =>
    refine iff_of_true ?_ ⟨0,rfl⟩
    by_contra hne
    have hlen := after_ne_length habs
    have hle := after_le pattern text
    have htake : (pattern.take (after pattern 0 text)).length = after pattern 0 text :=
      List.length_take_of_le hle
    refine hclear _ ⟨?_,List.take_prefix _ _,?_⟩ (take_suffix pattern text)
    · intro hnil
      rw [hnil] at htake
      exact hne htake.symm
    · intro hall
      rw [hall] at htake
      exact hlen htake.symm
  | @link n text p hp _ ih =>
    have hih := ih (absent_mono habs (List.prefix_append _ _))
    rw [after_append,after_partial_eq ho hp,Nat.even_add_one,← hih]
    split_ifs with hz
    · exact iff_of_false (by simp [hp.1]) (by simp [hz])
    · exact iff_of_true rfl hz

omit [DecidableEq A] in
theorem absent_before {g w : List A} (h : FirstAt pattern g w) : Absent pattern g := by
  refine absent_of_firstAt h (List.prefix_append _ _) (fun heq => ?_)
  have hlen := congrArg List.length heq
  rw [List.length_append,ho.split,List.length_cons] at hlen
  omega

theorem scan_found {g w : List A} (h : FirstAt pattern g w) (hzero : after pattern 0 g = 0) :
    scan pattern 0 (g ++ pattern ++ w) = some w := by
  obtain ⟨front,last,hlast⟩ : ∃ front last, pattern = front ++ [last] := by
    have hne : pattern ≠ [] := by simp [ho.split]
    exact ⟨_,_,(List.dropLast_append_getLast hne).symm⟩
  have hafter : after pattern 0 pattern = pattern.length := by
    have htake := after_take pattern 0 pattern.length (by omega)
    rwa [List.drop_zero,List.take_length,Nat.zero_add] at htake
  have hpre : g ++ front <+: g ++ pattern :=
    ⟨[last],by rw [List.append_assoc,← hlast]⟩
  have hstop : ∀ p, p ≠ [] → p <+: g ++ front → after pattern 0 p ≠ pattern.length := by
    intro p _ hp
    refine after_ne_length (absent_of_firstAt h (hp.trans hpre) (fun heq => ?_))
    have hlen := hp.length_le
    rw [heq,hlast,List.length_append,List.length_append,List.length_append,
      List.length_singleton] at hlen
    omega
  have hlong : g ++ pattern ++ w = (g ++ front) ++ (last :: w) := by
    nth_rewrite 1 [hlast]
    simp
  have hnext : next pattern (after pattern 0 (g ++ front)) last = pattern.length := by
    rw [← after_snoc,List.append_assoc,← hlast,after_append,hzero,hafter]
  rw [hlong,scan_append 0 _ _ hstop,scan,if_pos hnext]

theorem scan_missed {g w : List A} (h : FirstAt pattern g w) (hne : after pattern 0 g ≠ 0) :
    scan pattern 0 (g ++ pattern ++ w) ≠ some w := by
  have hg := absent_before ho h
  have hzero : ∀ p, p ≠ [] → p <+: pattern → after pattern (after pattern 0 g) p = 0 :=
    fun p => after_restart ho hne
  have hpos : pattern.length ≠ 0 := by simp [ho.split]
  rw [List.append_assoc,scan_append 0 _ _ (fun p _ hp => after_ne_length (absent_mono hg hp)),
    scan_append _ _ _ (fun p hp hpre => by rw [hzero p hp hpre]; exact hpos.symm)]
  intro hscan
  exact (scan_length hscan).false

theorem scan_first_iff {g w : List A} (h : FirstAt pattern g w) :
    scan pattern 0 (g ++ pattern ++ w) = some w ↔ ∃ n, Even n ∧ BackToBack pattern n g := by
  have hg := absent_before ho h
  constructor
  · intro hscan
    obtain ⟨n,hn⟩ := backToBack_exists pattern g
    refine ⟨n,(after_backToBack ho hg hn).mp ?_,hn⟩
    by_contra hne
    exact scan_missed ho h hne hscan
  · rintro ⟨n,heven,hn⟩
    exact scan_found ho h ((after_backToBack ho hg hn).mpr heven)

end HeadOnce

end VideoSurveillance.ResetMatcher
