/-!
# Stable sorting

Sorting by insertion, from the last element to the first.  Each element is placed before those it
may stand before, so elements that compare equal both ways keep their order.
-/

namespace ServiceContract

/-- Place `a` into a sorted list, before the first element it may stand before. -/
def insertSorted {α : Type} (le : α → α → Bool) (a : α) : List α → List α
  | [] => [a]
  | b :: rest => if le a b then a :: b :: rest else b :: insertSorted le a rest

/-- The list sorted by `le`; equal elements keep their order. -/
def stableSort {α : Type} (le : α → α → Bool) (xs : List α) : List α :=
  xs.foldr (insertSorted le) []

end ServiceContract
