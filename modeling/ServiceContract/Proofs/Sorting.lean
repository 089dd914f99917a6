import Mathlib.Data.List.Nodup
import ServiceContract.StableSort

/-!
# What stable sorting does

`stableSort` keeps the elements of a list, leaves a list in order as it is, and puts a list in order
if any two elements can be compared.  If moreover no two elements of the list tie, the result does
not depend on the order they came in (`stableSort_eq_of_perm`); and elements that may stand as they
do are not swapped (`stableSort_pair_sublist`).
-/

namespace ServiceContract

variable {α β : Type} {le : α → α → Bool}

/-- Insertion adds the one element and loses none. -/
theorem insertSorted_perm (a : α) (xs : List α) : (insertSorted le a xs).Perm (a :: xs) := by
  induction xs with
  | nil => exact .refl _
  | cons b rest ih =>
      rw [insertSorted]
      split
      · exact .refl _
      · exact (ih.cons b).trans (.swap a b rest)

/-- Sorting keeps the elements. -/
theorem stableSort_perm (xs : List α) : (stableSort le xs).Perm xs := by
  induction xs with
  | nil => exact .refl _
  | cons a rest ih => exact (insertSorted_perm a _).trans (ih.cons a)

/-- A list in order stays as it is. -/
theorem stableSort_of_pairwise {xs : List α}
    (h : xs.Pairwise fun a b => le a b = true) : stableSort le xs = xs := by
  induction xs with
  | nil => rfl
  | cons a rest ih =>
      have hrest : stableSort le rest = rest := ih h.of_cons
      rw [stableSort, List.foldr_cons, ← stableSort, hrest]
      cases rest with
      | nil => rfl
      | cons b rest => simp [insertSorted, List.rel_of_pairwise_cons h]

section Ordered

variable (htotal : ∀ a b, le a b = true ∨ le b a = true)
  (htrans : ∀ a b c, le a b = true → le b c = true → le a c = true)
include htotal htrans

/-- Insertion keeps a list sorted. -/
theorem insertSorted_pairwise (a : α) {xs : List α}
    (h : xs.Pairwise fun a b => le a b = true) :
    (insertSorted le a xs).Pairwise fun a b => le a b = true := by
  induction xs with
  | nil => exact List.pairwise_singleton _ a
  | cons b rest ih =>
      rw [insertSorted]
      split
      · next hab =>
          refine List.pairwise_cons.2 ⟨?_, h⟩
          intro x hx
          rcases List.mem_cons.1 hx with rfl | hx
          · exact hab
          · exact htrans a b x hab (List.rel_of_pairwise_cons h hx)
      · next hab =>
          refine List.pairwise_cons.2 ⟨?_, ih h.of_cons⟩
          intro x hx
          rcases List.mem_cons.1 ((insertSorted_perm a rest).mem_iff.1 hx) with rfl | hx
          · exact (htotal x b).resolve_left hab
          · exact List.rel_of_pairwise_cons h hx

/-- Sorting puts elements in order if any two of them can be compared. -/
theorem stableSort_pairwise (xs : List α) :
    (stableSort le xs).Pairwise fun a b => le a b = true := by
  induction xs with
  | nil => exact .nil
  | cons a rest ih => exact insertSorted_pairwise htotal htrans a ih

/-- Elements of which no two tie are sorted alike, in whatever order they come. -/
theorem stableSort_eq_of_perm {xs ys : List α} (hperm : xs.Perm ys)
    (hanti : ∀ a ∈ xs, ∀ b ∈ xs, le a b = true → le b a = true → a = b) :
    stableSort le xs = stableSort le ys := by
  have hsorted : (stableSort le xs).Perm (stableSort le ys) :=
    (stableSort_perm xs).trans (hperm.trans (stableSort_perm ys).symm)
  refine hsorted.eq_of_pairwise ?_ (stableSort_pairwise htotal htrans xs)
    (stableSort_pairwise htotal htrans ys)
  intro a b ha hb hab hba
  have hbx : b ∈ xs := hperm.mem_iff.2 ((stableSort_perm ys).mem_iff.1 hb)
  exact hanti a ((stableSort_perm xs).mem_iff.1 ha) b hbx hab hba

/-- An element that another one may not stand before is placed before it. -/
theorem stableSort_pair_sublist_of_not {xs : List α} {a b : α} (ha : a ∈ xs) (hb : b ∈ xs)
    (hba : le b a = false) : [a, b].Sublist (stableSort le xs) := by
  have hpair : ∀ ys : List α, ys.Pairwise (fun a b => le a b = true) → a ∈ ys → b ∈ ys →
      [a, b].Sublist ys := by
    intro ys hys ha hb
    induction ys with
    | nil => cases ha
    | cons x rest ih =>
        rcases List.mem_cons.1 ha with rfl | harest <;> rcases List.mem_cons.1 hb with rfl | hbrest
        · have hself := htotal b b
          simp [hba] at hself
        · exact (List.singleton_sublist.2 hbrest).cons_cons a
        · have hle := List.rel_of_pairwise_cons hys harest
          simp [hba] at hle
        · exact (ih hys.of_cons harest hbrest).cons x
  exact hpair _ (stableSort_pairwise htotal htrans xs) ((stableSort_perm xs).mem_iff.2 ha)
    ((stableSort_perm xs).mem_iff.2 hb)

end Ordered

/-- Elements with different numbers are sorted by them alike, in whatever order they come. -/
theorem stableSort_eq_of_nodup {number : α → Nat} {xs ys : List α} (hperm : xs.Perm ys)
    (hnodup : (xs.map number).Nodup) :
    stableSort (fun a b => number a ≤ number b) xs =
      stableSort (fun a b => number a ≤ number b) ys := by
  apply stableSort_eq_of_perm
  · intro a b
    simpa using Nat.le_total (number a) (number b)
  · intro a b c hab hbc
    exact decide_eq_true (Nat.le_trans (of_decide_eq_true hab) (of_decide_eq_true hbc))
  · exact hperm
  · intro a ha b hb hab hba
    have hnumber := Nat.le_antisymm (of_decide_eq_true hab) (of_decide_eq_true hba)
    exact List.inj_on_of_nodup_map hnodup ha hb hnumber

section Stable

/-- Insertion keeps the order of what was there. -/
theorem sublist_insertSorted (a : α) (xs : List α) : xs.Sublist (insertSorted le a xs) := by
  induction xs with
  | nil => exact List.nil_sublist _
  | cons b rest ih =>
      rw [insertSorted]
      split
      · exact List.sublist_cons_self a _
      · exact ih.cons_cons b

/-- An element is placed before every element it may stand before. -/
theorem pair_sublist_insertSorted {a b : α} {xs : List α} (hb : b ∈ xs) (hab : le a b = true) :
    [a, b].Sublist (insertSorted le a xs) := by
  induction xs with
  | nil => cases hb
  | cons c rest ih =>
      rw [insertSorted]
      split
      · exact (List.singleton_sublist.2 hb).cons_cons a
      · next hac =>
          have hrest : b ∈ rest := by
            rcases List.mem_cons.1 hb with rfl | hrest
            · exact absurd hab hac
            · exact hrest
          exact (ih hrest).cons c

/-- **Sorting is stable.**  An element that stands before another one, and may do so, still does. -/
theorem stableSort_pair_sublist {a b : α} {xs : List α} (h : [a, b].Sublist xs)
    (hab : le a b = true) : [a, b].Sublist (stableSort le xs) := by
  induction xs with
  | nil => cases h
  | cons c rest ih =>
      change [a, b].Sublist (insertSorted le c (stableSort le rest))
      cases h with
      | cons _ h => exact (ih h).trans (sublist_insertSorted c _)
      | cons_cons _ h =>
          have hb : b ∈ stableSort le rest :=
            (stableSort_perm rest).mem_iff.2 (List.singleton_sublist.1 h)
          exact pair_sublist_insertSorted hb hab

end Stable

/-- Sorting by what is read off the elements, before or after reading it off. -/
theorem stableSort_map {le : β → β → Bool} (f : α → β) (xs : List α) :
    stableSort le (xs.map f) = (stableSort (fun a b => le (f a) (f b)) xs).map f := by
  have hinsert : ∀ (a : α) (ys : List α), insertSorted le (f a) (ys.map f) =
      (insertSorted (fun a b => le (f a) (f b)) a ys).map f := by
    intro a ys
    induction ys with
    | nil => rfl
    | cons b rest ih =>
        simp only [List.map_cons, insertSorted]
        split
        · rfl
        · rw [ih, List.map_cons]
  induction xs with
  | nil => rfl
  | cons a rest ih =>
      change insertSorted le (f a) (stableSort le (rest.map f)) = _
      rw [ih, hinsert]
      rfl

end ServiceContract
