import Mathlib.Data.List.AList

namespace VideoSurveillance.LinkedList

structure Node (V : Type) where
  next : Option ℕ
  value : V
  deriving DecidableEq

abbrev Heap (V : Type) := AList (fun _ : ℕ => Node V)

inductive Outcome (S : Type) where
  | done (s : S)
  | fault
  | diverges
  deriving DecidableEq

def Outcome.map {S T : Type} (f : S → T) : Outcome S → Outcome T
  | .done s => .done (f s)
  | .fault => .fault
  | .diverges => .diverges

section Chains
variable {V S : Type}

def Chain (h : Heap V) : Option ℕ → List (ℕ × V) → Prop
  | first, [] => first = none
  | first, (a,v) :: rest => first = some a ∧ ∃ next, h.lookup a = some ⟨next,v⟩ ∧ Chain h next rest

def foldFrom (f : S → V → S) (h : Heap V) : ℕ → Option ℕ → S → Outcome S
  | _, none, s => .done s
  | 0, some _, _ => .diverges
  | fuel + 1, some a, s =>
    match h.lookup a with
    | none => .fault
    | some node => foldFrom f h fuel node.next (f s node.value)

def freeFrom : ℕ → Option ℕ → Heap V → Outcome (Heap V)
  | _, none, h => .done h
  | 0, some _, _ => .diverges
  | fuel + 1, some a, h =>
    match h.lookup a with
    | none => .fault
    | some node => freeFrom fuel node.next (h.erase a)

-- a walk that visits more nodes than are allocated goes round a cycle and does not end
def fold (f : S → V → S) (h : Heap V) (first : Option ℕ) (s : S) : Outcome S :=
  foldFrom f h (h.entries.length + 1) first s

def free (first : Option ℕ) (h : Heap V) : Outcome (Heap V) :=
  freeFrom (h.entries.length + 1) first h

theorem chain_allocated {h : Heap V} {first : Option ℕ} {cells : List (ℕ × V)}
    (hc : Chain h first cells) : ∀ a ∈ cells.map Prod.fst, a ∈ h := by
  induction cells generalizing first with
  | nil => simp
  | cons cell cells ih =>
    obtain ⟨a,v⟩ := cell
    obtain ⟨-,next,hlookup,hrest⟩ := hc
    intro b hb
    rcases List.mem_cons.mp hb with rfl | hb
    · exact AList.lookup_isSome.mp (by rw [hlookup]; rfl)
    · exact ih hrest b hb

theorem chain_unique {h : Heap V} {first : Option ℕ} {cells cells' : List (ℕ × V)}
    (hc : Chain h first cells) (hc' : Chain h first cells') : cells = cells' := by
  induction cells generalizing first cells' with
  | nil =>
    obtain rfl : first = none := hc
    cases cells' with
    | nil => rfl
    | cons cell' cells' => cases hc'.1
  | cons cell cells ih =>
    obtain ⟨rfl,next,hlookup,hrest⟩ := hc
    cases cells' with
    | nil => cases hc'
    | cons cell' cells' =>
      obtain ⟨hfirst,next',hlookup',hrest'⟩ := hc'
      obtain ⟨a,v⟩ := cell
      obtain ⟨a',v'⟩ := cell'
      obtain rfl := Option.some.inj hfirst
      cases hlookup.symm.trans hlookup'
      rw [ih hrest hrest']

theorem chain_null {h : Heap V} {cells : List (ℕ × V)} (hc : Chain h none cells) : cells = [] := by
  cases cells with
  | nil => rfl
  | cons cell cells => cases hc.1

theorem chain_at {h : Heap V} {first : Option ℕ} {before after : List (ℕ × V)} {a : ℕ} {v : V}
    (hc : Chain h first (before ++ (a,v) :: after)) : Chain h (some a) ((a,v) :: after) := by
  induction before generalizing first with
  | nil =>
    obtain ⟨rfl,hrest⟩ := hc
    exact ⟨rfl,hrest⟩
  | cons cell before ih =>
    obtain ⟨-,next,-,hrest⟩ := hc
    exact ih hrest

theorem chain_nodup {h : Heap V} {first : Option ℕ} {cells : List (ℕ × V)}
    (hc : Chain h first cells) : (cells.map Prod.fst).Nodup := by
  induction cells generalizing first with
  | nil => exact List.nodup_nil
  | cons cell cells ih =>
    obtain ⟨a,v⟩ := cell
    obtain ⟨hfirst,next,hlookup,hrest⟩ := hc
    refine List.nodup_cons.mpr ⟨fun hmem => ?_,ih hrest⟩
    obtain ⟨⟨b,w⟩,hcell,hb⟩ := List.mem_map.mp hmem
    obtain rfl : b = a := hb
    obtain ⟨before,after,rfl⟩ := List.append_of_mem hcell
    have hwhole : Chain h (some b) ((b,v) :: (before ++ (b,w) :: after)) :=
      ⟨rfl,next,hlookup,hrest⟩
    have hback := chain_unique (chain_at hrest) hwhole
    have hlength := congrArg List.length hback
    simp only [List.length_cons,List.length_append] at hlength
    omega

theorem chain_length {h : Heap V} {first : Option ℕ} {cells : List (ℕ × V)}
    (hc : Chain h first cells) : cells.length ≤ h.entries.length := by
  have hsub : cells.map Prod.fst ⊆ h.keys := fun a ha => AList.mem_keys.mp (chain_allocated hc a ha)
  have hle := (List.subperm_of_subset (chain_nodup hc) hsub).length_le
  rwa [List.length_map,AList.keys,List.keys,List.length_map] at hle

theorem chain_congr {h h' : Heap V} {first : Option ℕ} {cells : List (ℕ × V)}
    (hsame : ∀ a ∈ cells.map Prod.fst, h'.lookup a = h.lookup a) (hc : Chain h first cells) :
    Chain h' first cells := by
  induction cells generalizing first with
  | nil => exact hc
  | cons cell cells ih =>
    obtain ⟨hfirst,next,hlookup,hrest⟩ := hc
    refine ⟨hfirst,next,?_,ih (fun a ha => hsame a (List.mem_cons_of_mem _ ha)) hrest⟩
    rw [hsame _ List.mem_cons_self,hlookup]

theorem chain_push {h : Heap V} {first : Option ℕ} {cells : List (ℕ × V)} {a : ℕ} (v : V)
    (hfresh : a ∉ h) (hc : Chain h first cells) :
    Chain (h.insert a ⟨first,v⟩) (some a) ((a,v) :: cells) := by
  refine ⟨rfl,first,AList.lookup_insert h,chain_congr (fun b hb => ?_) hc⟩
  refine AList.lookup_insert_ne ?_
  rintro rfl
  exact hfresh (chain_allocated hc b hb)

theorem foldFrom_chain (f : S → V → S) {h : Heap V} {first : Option ℕ} {cells : List (ℕ × V)}
    (hc : Chain h first cells) {fuel : ℕ} (hfuel : cells.length ≤ fuel) (s : S) :
    foldFrom f h fuel first s = .done ((cells.map Prod.snd).foldl f s) := by
  induction cells generalizing first fuel s with
  | nil =>
    obtain rfl : first = none := hc
    rw [foldFrom]
    rfl
  | cons cell cells ih =>
    obtain ⟨rfl,next,hlookup,hrest⟩ := hc
    obtain ⟨n,rfl⟩ := Nat.exists_eq_succ_of_ne_zero (Nat.ne_zero_of_lt hfuel)
    simp only [foldFrom,hlookup]
    exact ih hrest (Nat.le_of_succ_le_succ hfuel) _

theorem fold_chain (f : S → V → S) {h : Heap V} {first : Option ℕ} {cells : List (ℕ × V)}
    (hc : Chain h first cells) (s : S) :
    fold f h first s = .done ((cells.map Prod.snd).foldl f s) :=
  foldFrom_chain f hc (Nat.le_succ_of_le (chain_length hc)) s

theorem freeFrom_chain {h : Heap V} {first : Option ℕ} {cells : List (ℕ × V)}
    (hc : Chain h first cells) {fuel : ℕ} (hfuel : cells.length ≤ fuel) :
    ∃ h', freeFrom fuel first h = .done h' ∧ h'.keys = h.keys.diff (cells.map Prod.fst) := by
  induction cells generalizing h first fuel with
  | nil =>
    obtain rfl : first = none := hc
    exact ⟨h,by rw [freeFrom],rfl⟩
  | cons cell cells ih =>
    have hnodup := chain_nodup hc
    obtain ⟨rfl,next,hlookup,hrest⟩ := hc
    obtain ⟨n,rfl⟩ := Nat.exists_eq_succ_of_ne_zero (Nat.ne_zero_of_lt hfuel)
    obtain ⟨hnot,-⟩ := List.nodup_cons.mp hnodup
    have herased : Chain (h.erase cell.1) next cells := by
      refine chain_congr (fun a ha => AList.lookup_erase_ne ?_) hrest
      rintro rfl
      exact hnot ha
    obtain ⟨h',hfree,hkeys⟩ := ih herased (Nat.le_of_succ_le_succ hfuel)
    refine ⟨h',?_,?_⟩
    · simp only [freeFrom,hlookup]
      exact hfree
    · rw [hkeys,AList.keys_erase,List.map_cons,List.diff_cons]

theorem free_chain {h : Heap V} {first : Option ℕ} {cells : List (ℕ × V)}
    (hc : Chain h first cells) :
    ∃ h', free first h = .done h' ∧ h'.keys = h.keys.diff (cells.map Prod.fst) :=
  freeFrom_chain hc (Nat.le_succ_of_le (chain_length hc))

theorem diff_perm_rest {keys cells rest : List ℕ} (h : keys.Perm (cells ++ rest)) :
    (keys.diff cells).Perm rest := by
  refine (h.diff_right cells).trans (List.Perm.of_eq ?_)
  clear h
  induction cells with
  | nil => rfl
  | cons a cells ih => rw [List.cons_append,List.diff_cons,List.erase_cons_head,ih]

theorem fold_dangling (f : S → V → S) {h : Heap V} {a : ℕ} (hfreed : a ∉ h) (s : S) :
    fold f h (some a) s = .fault := by
  simp only [fold,foldFrom,AList.lookup_eq_none.mpr hfreed]

theorem free_dangling {h : Heap V} {a : ℕ} (hfreed : a ∉ h) : free (some a) h = .fault := by
  simp only [free,freeFrom,AList.lookup_eq_none.mpr hfreed]

end Chains

end VideoSurveillance.LinkedList
