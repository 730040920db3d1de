import Mathlib.Data.List.DropRight
import Mathlib.Data.List.Induction

namespace VideoSurveillance.Latch
variable {A : Type} (sets clears : A → Bool)

def next (held : Bool) (a : A) : Bool :=
  if sets a then true else if clears a then false else held

def held (as : List A) : Bool := as.foldl (next sets clears) false

def sinceCleared (as : List A) : List A := as.rtakeWhile (fun a => !clears a)

def log : Bool → List A → List (A × Bool)
  | _, [] => []
  | held, a :: as => (a,sets a && !held) :: log (next sets clears held a) as

variable {sets clears}

theorem sinceCleared_concat (as : List A) (a : A) : sinceCleared clears (as ++ [a]) =
    if clears a then [] else sinceCleared clears as ++ [a] := by
  rw [sinceCleared,List.rtakeWhile_concat]
  cases clears a <;> rfl

theorem held_concat (as : List A) (a : A) :
    held sets clears (as ++ [a]) = next sets clears (held sets clears as) a := by
  rw [held,List.foldl_append]
  rfl

theorem held_iff (hapart : ∀ a, sets a = true → clears a = false) (as : List A) :
    held sets clears as = true ↔ ∃ a ∈ sinceCleared clears as, sets a = true := by
  induction as using List.reverseRecOn with
  | nil => simp [held,sinceCleared]
  | append_singleton as a ih =>
    rw [held_concat,sinceCleared_concat,next]
    cases hs : sets a with
    | true =>
      rw [hapart a hs]
      exact iff_of_true rfl ⟨a,by simp,hs⟩
    | false =>
      cases hc : clears a with
      | true => simp
      | false => simp [ih,hs]

theorem log_append (b : Bool) (as as' : List A) : log sets clears b (as ++ as') =
    log sets clears b as ++ log sets clears (as.foldl (next sets clears) b) as' := by
  induction as generalizing b with
  | nil => rfl
  | cons a as ih =>
    rw [List.cons_append,log,log,ih]
    rfl

theorem log_map_fst (b : Bool) (as : List A) : (log sets clears b as).map Prod.fst = as := by
  induction as generalizing b with
  | nil => rfl
  | cons a as ih => rw [log,List.map_cons,ih]

theorem log_length (b : Bool) (as : List A) : (log sets clears b as).length = as.length := by
  rw [← List.length_map Prod.fst,log_map_fst]

theorem log_split {b : Bool} {as : List A} {before after : List (A × Bool)}
    (h : log sets clears b as = before ++ after) :
    after = log sets clears ((before.map Prod.fst).foldl (next sets clears) b)
      (after.map Prod.fst) := by
  have has := congrArg (List.map Prod.fst) h
  rw [log_map_fst,List.map_append] at has
  rw [has,log_append] at h
  exact (List.append_inj_right h (by rw [log_length,List.length_map])).symm

theorem log_entry {as : List A} {before after : List (A × Bool)} {a : A} {edge : Bool}
    (h : log sets clears false as = before ++ (a,edge) :: after) :
    edge = (sets a && !held sets clears (before.map Prod.fst)) := by
  have hsplit := log_split h
  rw [List.map_cons,log] at hsplit
  exact congrArg Prod.snd (List.cons.inj hsplit).1

theorem edges_held {as : List A} (hnone : ∀ a ∈ as, clears a = false) :
    (log sets clears true as).countP (fun x => x.2) = 0 := by
  induction as with
  | nil => rfl
  | cons a as ih =>
    obtain ⟨ha,has⟩ := List.forall_mem_cons.mp hnone
    have hheld : next sets clears true a = true := by simp [next,ha]
    rw [log,hheld,List.countP_cons,ih has]
    simp

theorem edges_le_one (b : Bool) {as : List A} (hnone : ∀ a ∈ as, clears a = false) :
    (log sets clears b as).countP (fun x => x.2) ≤ 1 := by
  induction as generalizing b with
  | nil => exact Nat.zero_le 1
  | cons a as ih =>
    obtain ⟨ha,has⟩ := List.forall_mem_cons.mp hnone
    rw [log,List.countP_cons]
    cases hs : sets a with
    | true =>
      have hheld : next sets clears b a = true := by simp [next,hs]
      rw [hheld,edges_held has]
      split_ifs <;> omega
    | false => simpa using ih _ has

theorem edges_infix_le_one {b : Bool} {as : List A} {segment : List (A × Bool)}
    (h : segment <:+: log sets clears b as) (hnone : ∀ x ∈ segment, clears x.1 = false) :
    segment.countP (fun x => x.2) ≤ 1 := by
  obtain ⟨before,after,hlog⟩ := h
  rw [List.append_assoc] at hlog
  have hsplit := log_split hlog.symm
  rw [List.map_append,log_append] at hsplit
  have hsegment := List.append_inj_left hsplit (by rw [log_length,List.length_map])
  rw [hsegment]
  refine edges_le_one _ (fun a ha => ?_)
  obtain ⟨x,hx,rfl⟩ := List.mem_map.mp ha
  exact hnone x hx

end VideoSurveillance.Latch
