import Mathlib.Data.Fintype.Pigeonhole
import Mathlib.Data.Set.Finite.Basic
import ServiceContract.Proofs.Forests

/-!
# Cycles of bases

A chain of bases that never ends goes round in a circle at last, since only finitely many types are
registered.  The types on the circle are their own ancestors.  A type from which the chain first has
to get there is not, though its chain never ends either.

The check of the registrations does not tell the two apart.  It reports the smallest type whose
chain does not end, and calls it its own ancestor.

* `not_rooted_iff_runsIntoCycle`: a chain does not end exactly if it runs into a cycle.
* `Hierarchy.cycle_report`: the reported type is the smallest whose chain runs into a cycle.  It is
  its own ancestor exactly if no such type is smaller than all types on cycles.
* `Hierarchy.belowLoop_not_on_cycle`: registrations for which the report is wrong.
-/

namespace ServiceContract

namespace Registration

/-- The type is its own ancestor: following bases from it, one or more times, leads back to it. -/
def OnCycle (registrations : List Registration) (node : NodeId) : Prop :=
  Relation.TransGen (HasBase registrations) node node

/-- Following bases from the type on leads to one that is its own ancestor. -/
def RunsIntoCycle (registrations : List Registration) (node : NodeId) : Prop :=
  ∃ met, Relation.ReflTransGen (HasBase registrations) node met ∧ OnCycle registrations met

theorem OnCycle.runsIntoCycle {xs : List Registration} {node : NodeId} (h : OnCycle xs node) :
    RunsIntoCycle xs node := ⟨node, .refl, h⟩

/-- The type met by following bases `steps` times; a type without a base is met again. -/
def follow (registrations : List Registration) (node : NodeId) : Nat → NodeId
  | 0 => node
  | steps + 1 =>
    (baseOf registrations (follow registrations node steps)).getD
      (follow registrations node steps)

variable {xs : List Registration} {node : NodeId}

/-- A type that runs into a cycle is registered. -/
theorem RunsIntoCycle.mem (h : RunsIntoCycle xs node) : node ∈ xs.map Registration.node := by
  obtain ⟨met, hreaches, hcycle⟩ := h
  have hstep : ∃ base, HasBase xs node base := by
    rcases Relation.ReflTransGen.cases_head hreaches with rfl | ⟨base, hbase, -⟩
    · obtain ⟨base, hbase, -⟩ := Relation.TransGen.head'_iff.1 hcycle
      exact ⟨base, hbase⟩
    · exact ⟨base, hbase⟩
  obtain ⟨base, entry, hentry, rfl, -⟩ := hstep
  exact List.mem_map_of_mem hentry

section Chains

variable (hnodup : (xs.map Registration.node).Nodup)
  (hknown : ∀ node base, ¬ Dangling xs node base)
include hnodup hknown

/-- A chain that ends runs into no cycle: it meets no type twice. -/
theorem not_rooted_of_runsIntoCycle (h : RunsIntoCycle xs node) : ¬ Rooted xs node := by
  have hnode := h.mem
  obtain ⟨met, hreaches, hcycle⟩ := h
  have hrelation : HasBase xs = fun a b => baseOf xs a = some b := by
    funext a b
    exact propext (baseOf_eq_some_iff hnodup).symm
  rw [OnCycle, hrelation] at hcycle
  rw [hrelation] at hreaches
  intro hrooted
  obtain ⟨path, hpath⟩ := (rooted_iff_baseChain hnodup hknown hnode).1 hrooted
  obtain ⟨rest, hrest, -⟩ := hpath.of_mem (hpath.mem_of_reaches hreaches)
  exact hrest.irrefl hcycle

/-- Along a chain that does not end, every type is registered and has the next one as its base. -/
theorem follow_of_not_rooted (hnode : node ∈ xs.map Registration.node)
    (hendless : ¬ Rooted xs node) (steps : Nat) :
    follow xs node steps ∈ xs.map Registration.node ∧ ¬ Rooted xs (follow xs node steps) ∧
      HasBase xs (follow xs node steps) (follow xs node (steps + 1)) := by
  have hnext : ∀ steps, follow xs node steps ∈ xs.map Registration.node →
      ¬ Rooted xs (follow xs node steps) →
      baseOf xs (follow xs node steps) = some (follow xs node (steps + 1)) ∧
        follow xs node (steps + 1) ∈ xs.map Registration.node ∧
        ¬ Rooted xs (follow xs node (steps + 1)) := by
    intro steps hmem hgoes
    obtain ⟨base, hbase, hbaseMem, hbaseGoes⟩ :=
      exists_base_of_not_rooted hnodup hknown hmem hgoes
    have hfollow : follow xs node (steps + 1) = base := by rw [follow, hbase, Option.getD_some]
    rw [hfollow]
    exact ⟨hbase, hbaseMem, hbaseGoes⟩
  have hall : follow xs node steps ∈ xs.map Registration.node ∧
      ¬ Rooted xs (follow xs node steps) := by
    induction steps with
    | zero => exact ⟨hnode, hendless⟩
    | succ steps ih => exact (hnext steps ih.1 ih.2).2
  exact ⟨hall.1, hall.2, (baseOf_eq_some_iff hnodup).1 (hnext steps hall.1 hall.2).1⟩

/-- **Chains that never end go round.**  Among finitely many registered types one is met twice, and
it is its own ancestor. -/
theorem runsIntoCycle_of_not_rooted (hnode : node ∈ xs.map Registration.node)
    (hendless : ¬ Rooted xs node) : RunsIntoCycle xs node := by
  have hfollow := follow_of_not_rooted hnodup hknown hnode hendless
  have hbases : ∀ steps, HasBase xs (follow xs node steps) (follow xs node (steps + 1)) :=
    fun steps => (hfollow steps).2.2
  have hcycle : ∀ i j, i < j → follow xs node i = follow xs node j → RunsIntoCycle xs node := by
    intro i j hij heq
    have hreaches : Relation.ReflTransGen (HasBase xs) (follow xs node 0) (follow xs node i) :=
      Nat.rel_of_forall_rel_succ_of_le (Relation.ReflTransGen (HasBase xs))
        (fun steps => .single (hbases steps)) (Nat.zero_le i)
    have hround : Relation.TransGen (HasBase xs) (follow xs node i) (follow xs node j) :=
      Nat.rel_of_forall_rel_succ_of_lt (Relation.TransGen (HasBase xs))
        (fun steps => .single (hbases steps)) hij
    rw [← heq] at hround
    exact ⟨_, hreaches, hround⟩
  have hfinite : Finite {other // other ∈ xs.map Registration.node} :=
    (xs.map Registration.node).finite_toSet.to_subtype
  obtain ⟨i, j, hne, heq⟩ := Finite.exists_ne_map_eq_of_infinite
    fun steps => (⟨follow xs node steps, (hfollow steps).1⟩ :
      {other // other ∈ xs.map Registration.node})
  have hsame : follow xs node i = follow xs node j := congrArg Subtype.val heq
  rcases Nat.lt_or_gt_of_ne hne with hij | hij
  · exact hcycle i j hij hsame
  · exact hcycle j i hij hsame.symm

/-- **Endless chains.**  The chain of a registered type does not end exactly if it runs into a
cycle. -/
theorem not_rooted_iff_runsIntoCycle (hnode : node ∈ xs.map Registration.node) :
    ¬ Rooted xs node ↔ RunsIntoCycle xs node :=
  ⟨runsIntoCycle_of_not_rooted hnodup hknown hnode, not_rooted_of_runsIntoCycle hnodup hknown⟩

end Chains

end Registration

namespace Hierarchy

open Registration

/-- **What a reported cycle is about.**  The reported type is the smallest of those whose chains run
into a cycle.  It is its own ancestor exactly if each of these is at least as great as some type on
a cycle. -/
theorem cycle_report {xs : List Registration} {node : NodeId}
    (h : build xs = .error (.cycle node)) :
    RunsIntoCycle xs node ∧ (∀ other, RunsIntoCycle xs other → node ≤ other) ∧
    (OnCycle xs node ↔
      ∀ other, RunsIntoCycle xs other → ∃ met, OnCycle xs met ∧ met ≤ other) := by
  obtain ⟨hrepeated, hunknown, hfound⟩ := build_eq_cycle_iff.1 h
  have hperm := byNumber_perm xs
  have hnodes := hperm.map Registration.node
  have hnodup := (firstRepeated_eq_none_iff.1 hrepeated).1
  have hknown : ∀ node base, ¬ Dangling xs node base :=
    dangling_congr hperm ▸ firstUnknownBase_eq_none_iff.1 hunknown
  obtain ⟨hnode, hendless, hleast⟩ := (firstEndless_eq_some_iff (hnodes.nodup_iff.2 hnodup)
    (dangling_congr hperm ▸ hknown) (byNumber_ascending hnodup)).1 hfound
  rw [rooted_congr hperm] at hendless hleast
  have hruns : RunsIntoCycle xs node :=
    (not_rooted_iff_runsIntoCycle hnodup hknown (hnodes.mem_iff.1 hnode)).1 hendless
  have hsmallest : ∀ other, RunsIntoCycle xs other → node ≤ other := by
    intro other hother
    obtain ⟨entry, hentry, rfl⟩ := List.mem_map.1 hother.mem
    exact hleast entry (hperm.mem_iff.2 hentry)
      ((not_rooted_iff_runsIntoCycle hnodup hknown hother.mem).2 hother)
  refine ⟨hruns, hsmallest, ?_, ?_⟩
  · intro hcycle other hother
    exact ⟨node, hcycle, hsmallest other hother⟩
  · intro hbelow
    obtain ⟨met, hcycle, hle⟩ := hbelow node hruns
    rwa [Nat.le_antisymm (hsmallest met hcycle.runsIntoCycle) hle]

/-- Two types with the smallest numbers that name each other as bases, and a third one below. -/
def lowLoop : List Registration := [⟨4, some 2, 0⟩, ⟨1, some 2, 0⟩, ⟨2, some 1, 0⟩]

/-- The type that is reported for `lowLoop` is its own ancestor, since the loop has the smallest
number. -/
theorem lowLoop_cycle_report :
    build lowLoop = .error (.cycle 1) ∧ RunsIntoCycle lowLoop 4 ∧
    (∀ other, RunsIntoCycle lowLoop other → 1 ≤ other) ∧ OnCycle lowLoop 1 := by
  have hbuild : build lowLoop = .error (.cycle 1) := by decide
  have hloop : OnCycle lowLoop 2 :=
    .tail (.single (show HasBase lowLoop 2 1 by decide)) (by decide)
  obtain ⟨-, hsmallest, hiff⟩ := cycle_report hbuild
  refine ⟨hbuild, ⟨2, .single (by decide), hloop⟩, hsmallest, hiff.2 fun other hother => ?_⟩
  exact ⟨1, .tail (.single (show HasBase lowLoop 1 2 by decide)) (by decide),
    hsmallest other hother⟩

/-- In `belowLoop`, whatever is met from the type below the loop is on the loop. -/
theorem belowLoop_ancestors {node : NodeId}
    (h : Relation.TransGen (HasBase belowLoop) 1 node) : node = 2 ∨ node = 3 := by
  induction h with
  | single hbase =>
      left
      simpa [HasBase, belowLoop, eq_comm] using hbase
  | tail _ hbase ih =>
      rcases ih with rfl | rfl
      · right
        simpa [HasBase, belowLoop, eq_comm] using hbase
      · left
        simpa [HasBase, belowLoop, eq_comm] using hbase

/-- The type that is reported for `belowLoop` is not its own ancestor. -/
theorem belowLoop_not_on_cycle :
    build belowLoop = .error (.cycle 1) ∧
    (HierarchyError.cycle 1).message = "node #1 is its own ancestor" ∧
    ¬ OnCycle belowLoop 1 := by
  refine ⟨by decide, by decide +kernel, fun hcycle => ?_⟩
  rcases belowLoop_ancestors hcycle with h | h <;> cases h

end Hierarchy

end ServiceContract
