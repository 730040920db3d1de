import Mathlib.Data.List.Basic

namespace VideoSurveillance.Head
variable {A : Type} [DecidableEq A] (cr lf : A)

def splitLine : List A → Option (List A × List A)
  | [] => none
  | a :: as =>
    if a = cr ∧ as.head? = some lf then some ([],as.tail)
    else (splitLine as).map (fun p => (a :: p.1,p.2))

def readLines : ℕ → List A → Option (List (List A) × List A)
  | 0, _ => none
  | fuel + 1, as =>
    match splitLine cr lf as with
    | none => none
    | some ([],body) => some ([],body)
    | some (line,rest) => (readLines fuel rest).map (fun p => (line :: p.1,p.2))

def read (as : List A) : Option (List (List A) × List A) := readLines cr lf as.length as

omit [DecidableEq A] in
def bytes (lines : List (List A)) (body : List A) : List A :=
  lines.flatMap (fun line => line ++ [cr,lf]) ++ cr :: lf :: body

variable {cr lf}

omit [DecidableEq A] in
theorem bytes_append (lines : List (List A)) (body rest : List A) :
    bytes cr lf lines (body ++ rest) = bytes cr lf lines body ++ rest := by
  rw [bytes,bytes,List.append_assoc]
  rfl

theorem splitLine_line {line : List A} (h : cr ∉ line) (rest : List A) :
    splitLine cr lf (line ++ cr :: lf :: rest) = some (line,rest) := by
  induction line with
  | nil => exact if_pos ⟨rfl,rfl⟩
  | cons a line ih =>
    obtain ⟨hne,hline⟩ := List.ne_and_not_mem_of_not_mem_cons h
    rw [List.cons_append,splitLine,if_neg (fun hboth => hne hboth.1.symm),ih hline]
    rfl

theorem readLines_bytes {lines : List (List A)} (h : ∀ line ∈ lines, line ≠ [] ∧ cr ∉ line)
    (body : List A) {fuel : ℕ} (hfuel : lines.length < fuel) :
    readLines cr lf fuel (bytes cr lf lines body) = some (lines,body) := by
  induction lines generalizing fuel with
  | nil =>
    obtain ⟨fuel,rfl⟩ := Nat.exists_eq_succ_of_ne_zero (Nat.ne_of_gt hfuel)
    have hempty : splitLine cr lf ([] ++ cr :: lf :: body) = some ([],body) :=
      splitLine_line List.not_mem_nil body
    rw [readLines,bytes,List.flatMap_nil,hempty]
  | cons line lines ih =>
    obtain ⟨⟨hne,hcr⟩,hlines⟩ := List.forall_mem_cons.mp h
    obtain ⟨fuel,rfl⟩ := Nat.exists_eq_succ_of_ne_zero (Nat.ne_of_gt (Nat.zero_lt_of_lt hfuel))
    have hsplit : bytes cr lf (line :: lines) body = line ++ cr :: lf :: bytes cr lf lines body := by
      rw [bytes,List.flatMap_cons,List.append_assoc,List.append_assoc,← bytes]
      rfl
    rw [hsplit,readLines,splitLine_line hcr]
    obtain ⟨a,as,rfl⟩ := List.exists_cons_of_ne_nil hne
    simp only
    rw [ih hlines (Nat.lt_of_succ_lt_succ hfuel)]
    rfl

omit [DecidableEq A] in
theorem length_bytes (lines : List (List A)) (body : List A) :
    lines.length < (bytes cr lf lines body).length := by
  induction lines with
  | nil => exact Nat.succ_pos _
  | cons line lines ih =>
    simp only [bytes,List.flatMap_cons,List.length_append,List.length_cons] at ih ⊢
    omega

theorem read_bytes {lines : List (List A)} (h : ∀ line ∈ lines, line ≠ [] ∧ cr ∉ line)
    (body : List A) : read cr lf (bytes cr lf lines body) = some (lines,body) :=
  readLines_bytes h body (length_bytes lines body)

end VideoSurveillance.Head
