import Mathlib.Data.List.Duplicate
import ServiceContract.Proofs.Ancestry

/-!
# Registration order does not matter

Types are registered one by one, and generators do so in whatever order suits them.  Resolving sorts
the registrations by number before anything else is looked at.  No two numbers tie unless a type is
registered twice, and that is refused first.  So what comes out, be it a hierarchy or an error,
depends only on which registrations there are.

* `entries_eq_of_perm`: the sorted entries do not depend on the order of registration.
* `duplicate_of_firstRepeated`: the type that is refused was registered twice.

The main statement is `Hierarchy.registration_order_irrelevant`.
-/

namespace ServiceContract

namespace Registration

variable {xs ys : List Registration} {seen : List NodeId} {repeated : NodeId}

theorem mem_of_firstRepeated (h : firstRepeated seen xs = some repeated) :
    repeated ∈ xs.map node := by
  induction xs generalizing seen with
  | nil => cases h
  | cons entry rest ih =>
      rw [firstRepeated] at h
      split at h
      · cases h
        exact List.mem_cons_self
      · exact List.mem_cons_of_mem _ (ih h)

/-- A type that is found again, and was not seen at the start, is registered twice. -/
theorem duplicate_of_firstRepeated (h : firstRepeated seen xs = some repeated)
    (hseen : repeated ∉ seen) : (xs.map node).Duplicate repeated := by
  induction xs generalizing seen with
  | nil => cases h
  | cons entry rest ih =>
      rw [firstRepeated] at h
      split at h
      · next hmem =>
          cases h
          exact absurd hmem hseen
      · by_cases hentry : repeated = entry.node
        · subst hentry
          exact (mem_of_firstRepeated h).duplicate_cons_self
        · have hrest : repeated ∉ entry.node :: seen := by simp [hentry, hseen]
          exact (ih h hrest).duplicate_cons entry.node

/-- **Entries are canonical.**  Sorted by number, the registrations of different types are the same
list in whatever order they were made. -/
theorem entries_eq_of_perm (hperm : xs.Perm ys) (hnodup : (xs.map node).Nodup) :
    stableSort (fun a b => a.node ≤ b.node) xs = stableSort (fun a b => a.node ≤ b.node) ys :=
  stableSort_eq_of_nodup hperm hnodup

end Registration

namespace Hierarchy

open Registration

variable {xs ys : List Registration}

/-- A repeated type is what is reported, whatever else is wrong. -/
theorem build_of_not_nodup (h : ¬ (xs.map node).Nodup) :
    ∃ repeated, build xs = .error (.duplicateNode repeated) ∧
      (xs.map node).Duplicate repeated := by
  cases hfound : firstRepeated [] xs with
  | none => exact absurd (firstRepeated_eq_none_iff.1 hfound).1 h
  | some repeated =>
      refine ⟨repeated, ?_, duplicate_of_firstRepeated hfound (by simp)⟩
      simp only [build, hfound]

/-- **Registration order does not matter.**  If no type is registered twice, then the same
registrations in another order resolve to the same hierarchy, whose roots, children, walks and roots
of nodes are thereby the same, or fail with the same error.  If some type is registered twice, both
orders are refused for such a type. -/
theorem registration_order_irrelevant (hperm : xs.Perm ys) :
    ((xs.map node).Nodup → build xs = build ys) ∧
      (¬ (xs.map node).Nodup →
        ∃ a b, build xs = .error (.duplicateNode a) ∧ build ys = .error (.duplicateNode b) ∧
          (xs.map node).Duplicate a ∧ (ys.map node).Duplicate b) := by
  have hnodes : (xs.map node).Nodup ↔ (ys.map node).Nodup := (hperm.map node).nodup_iff
  constructor
  · intro hnodup
    have hx : firstRepeated [] xs = none := firstRepeated_eq_none_iff.2 ⟨hnodup, by simp⟩
    have hy : firstRepeated [] ys = none :=
      firstRepeated_eq_none_iff.2 ⟨hnodes.1 hnodup, by simp⟩
    simp only [build, hx, hy, entries_eq_of_perm hperm hnodup]
  · intro hrepeated
    obtain ⟨a, ha, hduplicate⟩ := build_of_not_nodup hrepeated
    obtain ⟨b, hb, hduplicate'⟩ := build_of_not_nodup (mt hnodes.2 hrepeated)
    exact ⟨a, b, ha, hb, hduplicate, hduplicate'⟩

/-- Two types with the same base and the same rank, registered before it. -/
def tiedSiblings : List Registration :=
  [⟨4, some 1, 7⟩, ⟨2, some 1, 7⟩, ⟨3, some 2, 0⟩, ⟨1, none, 0⟩]

/-- Siblings of one rank stand in the order of their numbers whichever is registered first, and of
two types that are registered twice the order decides which one is reported. -/
theorem tiedSiblings_order_irrelevant :
    (build tiedSiblings = build tiedSiblings.reverse ∧
      (build tiedSiblings).toOption.map (·.walk 1) = some [2, 3, 4]) ∧
    ∃ a b, build (tiedSiblings ++ tiedSiblings) = .error (.duplicateNode a) ∧
      build (tiedSiblings ++ tiedSiblings).reverse = .error (.duplicateNode b) ∧ a ≠ b := by
  refine ⟨⟨(registration_order_irrelevant (List.reverse_perm _).symm).1 (by decide), by decide⟩, ?_⟩
  obtain ⟨a, b, ha, hb, -, -⟩ := (registration_order_irrelevant
    (List.reverse_perm (tiedSiblings ++ tiedSiblings)).symm).2 (by decide)
  refine ⟨a, b, ha, hb, ?_⟩
  rintro rfl
  have hdiffer : build (tiedSiblings ++ tiedSiblings) ≠
      build (tiedSiblings ++ tiedSiblings).reverse := by
    decide
  exact hdiffer (ha.trans hb.symm)

end Hierarchy

end ServiceContract
