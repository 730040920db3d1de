import Mathlib.Data.List.Basic
import Mathlib.Order.Lattice

namespace VideoSurveillance.Descending
variable {A B K : Type} [LinearOrder K] (key : A → K)

def Ordered (xs : List A) : Prop := xs.Pairwise (fun x y => key y ≤ key x)

def place (x : A) : List A → List A
  | [] => [x]
  | y :: ys => if key y < key x then x :: y :: ys else y :: place x ys

theorem place_perm (x : A) (xs : List A) : (place key x xs).Perm (x :: xs) := by
  induction xs with
  | nil => exact .refl _
  | cons y ys ih =>
    unfold place
    split_ifs
    · exact .refl _
    · exact (ih.cons y).trans (.swap x y ys)

theorem mem_place {x z : A} {xs : List A} : z ∈ place key x xs ↔ z = x ∨ z ∈ xs := by
  rw [(place_perm key x xs).mem_iff,List.mem_cons]

theorem place_ordered {x : A} {xs : List A} (h : Ordered key xs) : Ordered key (place key x xs) := by
  induction xs with
  | nil => exact List.pairwise_singleton _ x
  | cons y ys ih =>
    obtain ⟨hy,hys⟩ := List.pairwise_cons.mp h
    unfold place
    split_ifs with hxy
    · refine List.pairwise_cons.mpr ⟨?_,h⟩
      intro z hz
      rcases List.mem_cons.mp hz with rfl | hz
      · exact hxy.le
      · exact (hy z hz).trans hxy.le
    · refine List.pairwise_cons.mpr ⟨?_,ih hys⟩
      intro z hz
      rcases (mem_place key).mp hz with rfl | hz
      · exact le_of_not_gt hxy
      · exact hy z hz

theorem place_split {x : A} {xs : List A} (h : Ordered key xs) :
    ∃ before behind, xs = before ++ behind ∧ place key x xs = before ++ x :: behind ∧
      (∀ y ∈ before, key x ≤ key y) ∧ ∀ y ∈ behind, key y < key x := by
  induction xs with
  | nil => exact ⟨[],[],rfl,rfl,by simp,by simp⟩
  | cons y ys ih =>
    obtain ⟨hy,hys⟩ := List.pairwise_cons.mp h
    unfold place
    split_ifs with hxy
    · refine ⟨[],y :: ys,rfl,rfl,by simp,fun z hz => ?_⟩
      rcases List.mem_cons.mp hz with rfl | hz
      · exact hxy
      · exact (hy z hz).trans_lt hxy
    · obtain ⟨before,behind,rfl,hplace,hbefore,hbehind⟩ := ih hys
      refine ⟨y :: before,behind,rfl,by rw [hplace]; rfl,fun z hz => ?_,hbehind⟩
      rcases List.mem_cons.mp hz with rfl | hz
      · exact le_of_not_gt hxy
      · exact hbefore z hz

theorem ordered_nil : Ordered key ([] : List A) := List.Pairwise.nil

theorem ordered_dropLast {xs : List A} (h : Ordered key xs) : Ordered key xs.dropLast :=
  h.sublist (List.dropLast_sublist xs)

theorem getLast_le {xs : List A} {x y : A} (h : Ordered key xs) (hx : xs.getLast? = some x)
    (hy : y ∈ xs) : key x ≤ key y := by
  obtain ⟨ys,rfl⟩ := List.getLast?_eq_some_iff.mp hx
  obtain ⟨-,-,hall⟩ := List.pairwise_append.mp h
  rcases List.mem_append.mp hy with hy | hy
  · exact hall y hy x (by simp)
  · rw [List.mem_singleton.mp hy]

theorem place_map (f : A → B) (key' : B → K) (hf : ∀ x, key' (f x) = key x) (x : A) (xs : List A) :
    place key' (f x) (xs.map f) = (place key x xs).map f := by
  induction xs with
  | nil => rfl
  | cons y ys ih =>
    simp only [List.map_cons,place,hf]
    split_ifs
    · rfl
    · rw [List.map_cons,ih]

theorem ordered_map (f : A → B) (key' : B → K) (hf : ∀ x, key' (f x) = key x) {xs : List A}
    (h : Ordered key xs) : Ordered key' (xs.map f) := by
  refine List.pairwise_map.mpr (h.imp ?_)
  intro x y hxy
  rwa [hf,hf]

end VideoSurveillance.Descending
