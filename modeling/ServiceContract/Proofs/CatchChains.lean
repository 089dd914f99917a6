import ServiceContract.Proofs.References
import ServiceContract.Proofs.Rejection

/-!
# Catch chains test the most specific fault first

A raised fault is answered by the first branch that fits it, so a branch for a payload must stand
before the branches for the payloads it specialises.  Chains are not sorted by that relation, which
compares only some pairs, but by the depth of a payload in the registry.  In the registry of a
compiled contract every chain of bases ends, and so depth grows with each specialisation
(`Contract.specificity_lt`).

`Operation.map_fault_carriers` says which faults are tested in which order; the main statement is
`Compiled.request_arm_catches`.
-/

namespace ServiceContract

/-- The fault that a branch tests for. -/
def CatchBranch.fault? : CatchBranch → Option Fault
  | custom faultKey payload _ => some ⟨faultKey, payload⟩
  | _ => none

/-- The fault that goes into a carrier. -/
def FaultCarrier.fault (carrier : FaultCarrier) : Fault := ⟨carrier.faultKey, carrier.payload⟩

/-- The number is that of the carrier of a fault of the operation at a position. -/
def Catalog.Carries (catalog : Catalog) (id : NodeId) (operation : Nat) (fault : Fault) : Prop :=
  ∃ node, catalog.node id = .ok node ∧ node.role = .faultCarrier ∧
    node.operation = some operation ∧ node.faultKey = some fault.key ∧
    node.fields = [⟨"Payload", .declared fault.payload⟩]

/-- The payload of `a` is at least as specific as that of `b`. -/
def Contract.atLeastAsSpecific (c : Contract) (a b : Fault) : Bool :=
  c.specificity b.payload ≤ c.specificity a.payload

/-- The chain of an operation is complete, and it tests the most specific fault first. -/
structure Compiled.Catches (compiled : Compiled) (index : Nat) (op : Operation)
    (chain : List CatchBranch) : Prop where
  length_eq : chain.length = op.faults.length + 2
  /-- The first branches bind the carriers of the faults they test for. -/
  carries : ∀ branch ∈ chain.take op.faults.length, ∃ fault carrier,
    branch = .custom fault.key fault.payload carrier ∧
      compiled.catalog.Carries carrier index fault
  /-- Together they test for each declared fault, once. -/
  faults_perm : (chain.filterMap CatchBranch.fault?).Perm op.faults
  faults_nodup : (chain.filterMap CatchBranch.fault?).Nodup
  /-- The last branches are for whatever was not declared. -/
  fallbacks : chain.drop op.faults.length = [.declared, .unexpected]
  /-- A fault is tested before every fault whose payload it specialises. -/
  specialised_first : ∀ a ∈ op.faults, ∀ b ∈ op.faults,
    compiled.contract.Specialises a.payload b.payload →
      [a, b].Sublist (chain.filterMap CatchBranch.fault?)
  /-- Faults of the same depth are tested in the order of declaration. -/
  stable : ∀ a b, [a, b].Sublist op.faults →
    compiled.contract.specificity a.payload = compiled.contract.specificity b.payload →
      [a, b].Sublist (chain.filterMap CatchBranch.fault?)

/-- The faults of an operation in the order they are tested. -/
theorem Operation.map_fault_carriers (c : Contract) (index : Nat) (op : Operation)
    (marker : NodeId) :
    (op.faultSet c index marker).carriers.map FaultCarrier.fault =
      stableSort c.atLeastAsSpecific op.faults := by
  have hfaults := List.zipIdx_map_fst (marker + 1) op.faults
  rw [faultSet, FaultCarrier.inTestOrder, stableSort_map, List.map_map]
  conv_rhs => rw [← hfaults, stableSort_map]
  rfl

namespace Compiled

variable {c : Contract} {options : Options} {compiled : Compiled}

theorem catches_catchChain (h : c.compile options = .ok compiled) {p : Placement}
    (hp : p ∈ compiled.placements) :
    compiled.Catches p.candidate.index p.candidate.operation
      (compiled.catalog.catchChain p.candidate.index) := by
  have hsound := (Contract.abort?_eq_none_iff.1 (Contract.compile_ok h).1).1
  have hchain := catchChain_eq h hp
  have hlength : ((p.candidate.operation.faultSet c p.candidate.index
      (p.first + 2)).carriers.map fun carrier =>
        CatchBranch.custom carrier.faultKey carrier.payload carrier.node).length =
      p.candidate.operation.faults.length := by
    rw [List.length_map, (Operation.carriers_perm ..).length_eq, List.length_map,
      List.length_zipIdx]
  have htested : (compiled.catalog.catchChain p.candidate.index).filterMap CatchBranch.fault? =
      stableSort c.atLeastAsSpecific p.candidate.operation.faults := by
    rw [← p.candidate.operation.map_fault_carriers c p.candidate.index (p.first + 2), hchain,
      List.filterMap_append, List.filterMap_map]
    exact (List.append_nil _).trans (congrFun List.filterMap_eq_map _)
  have htotal : ∀ a b, c.atLeastAsSpecific a b = true ∨ c.atLeastAsSpecific b a = true := by
    intro a b
    simp only [Contract.atLeastAsSpecific, decide_eq_true_eq]
    exact Nat.le_total _ _
  have htrans : ∀ a b d, c.atLeastAsSpecific a b = true → c.atLeastAsSpecific b d = true →
      c.atLeastAsSpecific a d = true := by
    intro a b d
    simp only [Contract.atLeastAsSpecific, decide_eq_true_eq]
    exact fun hab hbd => Nat.le_trans hbd hab
  refine ⟨?_, ?_, ?_, ?_, ?_, ?_, ?_⟩
  · rw [hchain, List.length_append, hlength]
    rfl
  · rw [hchain, List.take_left' hlength]
    intro branch hbranch
    obtain ⟨carrier, hcarrier, rfl⟩ := List.mem_map.1 hbranch
    obtain ⟨entry, hentry, rfl⟩ := Operation.exists_of_mem_carriers hcarrier
    exact ⟨entry.1, entry.2, rfl, _, node_carrier h hp hentry, rfl, rfl, rfl, rfl⟩
  · rw [htested]
    exact stableSort_perm _
  · rw [htested]
    exact (stableSort_perm _).nodup_iff.2 (wellFormed h hp).fault_keys.of_map
  · rw [hchain, List.drop_left' hlength]
  · rw [htested, Contract.compile_contract h]
    intro a ha b hb hspecialises
    refine stableSort_pair_sublist_of_not htotal htrans ha hb ?_
    exact decide_eq_false (Nat.not_le.2 (Contract.specificity_lt hsound hspecialises))
  · rw [htested, Contract.compile_contract h]
    intro a b hab heq
    exact stableSort_pair_sublist hab (decide_eq_true (Nat.le_of_eq heq.symm))

/-- **The most specific fault first.**  The arm of every request tests for each declared fault of
its operation and binds its carrier, a payload before those it specialises, and then falls back to
what was not declared. -/
theorem request_arm_catches (h : c.compile options = .ok compiled) {peer : Peer}
    {arm : RequestArm} (harm : Arm.request arm ∈ (compiled.dispatch peer).arms) :
    ∃ op, (arm.operation, op) ∈ compiled.generatedOperations ∧
      compiled.Catches arm.operation op arm.catchChain := by
  rw [arms_eq h] at harm
  obtain ⟨p, hp, harm⟩ := List.mem_map.1 harm
  obtain ⟨hplaced, -⟩ := mem_directed.1 hp
  have hparts : arm.operation = p.candidate.index ∧
      arm.catchChain = compiled.catalog.catchChain p.candidate.index := by
    unfold Generated.arm at harm
    split at harm
    · cases harm
    · rw [← Arm.request.inj harm]
      exact ⟨rfl, rfl⟩
  refine ⟨p.candidate.operation, ?_, ?_⟩
  · rw [generatedOperations_eq h]
    exact List.mem_map.2 ⟨p, hplaced, by rw [hparts.1]⟩
  · rw [hparts.1, hparts.2]
    exact catches_catchChain h hplaced

/-- In the sample contract the second fault of the first operation specialises the first one, so it
is tested before it. -/
theorem chat_request_arm_catches :
    ∃ compiled arm, Contract.chat.compile {} = .ok compiled ∧
      Arm.request arm ∈ (compiled.dispatch .server).arms ∧
      (arm.operation = 0 ∧ arm.catchChain =
        [.custom 3 (.named "Closed") 13, .custom 7 (.named "Busy") 12, .declared, .unexpected]) ∧
      ∃ op, (arm.operation, op) ∈ compiled.generatedOperations ∧
        compiled.Catches arm.operation op arm.catchChain := by
  obtain ⟨compiled, h, hcheck⟩ := Contract.exists_compile Contract.chat {}
    (fun compiled => (compiled.dispatch .server).arms.any fun
      | .request arm => arm.operation = 0 ∧ arm.catchChain =
          [.custom 3 (.named "Closed") 13, .custom 7 (.named "Busy") 12, .declared, .unexpected]
      | .oneWay .. => false)
    (by decide +kernel)
  obtain ⟨arm, harm, hcheck⟩ := List.any_eq_true.1 hcheck
  cases arm with
  | oneWay => cases hcheck
  | request arm =>
      exact ⟨compiled, arm, h, harm, of_decide_eq_true hcheck, request_arm_catches h harm⟩

end Compiled

end ServiceContract
