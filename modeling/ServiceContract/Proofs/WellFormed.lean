import ServiceContract.Proofs.Compilation

/-!
# Well-formed operations

The checks on a single operation report problems; `Operation.WellFormed` says the same without
them.  An operation is generated only if it is well-formed (`Compiled.wellFormed`), so whatever is
generated may rely on it.
-/

namespace ServiceContract

/-- Nothing repeats exactly if the keys are new and differ from each other. -/
theorem repeats_eq_nil_iff {α β : Type} [DecidableEq β] (key : α → β) (seen : List β)
    (items : List α) :
    repeats key seen items = [] ↔ (items.map key).Nodup ∧ ∀ a ∈ items, key a ∉ seen := by
  induction items generalizing seen with
  | nil => simp [repeats]
  | cons a rest ih =>
      by_cases hseen : key a ∈ seen
      · simp [repeats, hseen]
      · simp only [repeats, hseen, if_false, ih, List.map_cons, List.nodup_cons, List.mem_map,
          List.mem_cons, not_or, forall_eq_or_imp, not_false_eq_true, true_and, not_exists, not_and]
        constructor
        · rintro ⟨hnodup, hnew⟩
          exact ⟨⟨fun b hb => (hnew b hb).1, hnodup⟩, fun b hb => (hnew b hb).2⟩
        · rintro ⟨⟨hdiffer, hnodup⟩, hnew⟩
          exact ⟨hnodup, fun b hb => ⟨hdiffer b hb, hnew b hb⟩⟩

namespace Operation

/-- An operation that can be generated on its own. -/
structure WellFormed (op : Operation) : Prop where
  name_identifier : isIdentifier op.name = true
  /-- A one-way call has no answer. -/
  one_way : op.kind.isOneWay = true →
    op.result = none ∧ op.isStreaming = false ∧ op.faults = []
  fault_keys : (op.faults.map Fault.key).Nodup
  idents : (op.params.map Param.ident).Nodup
  /-- A message can carry every declared type. -/
  supported : ∀ entry ∈ op.declaredTypes, entry.2.firstUnsupported = none

variable (op : Operation)

/-- Skipping an operation is an error. -/
theorem isError_skip (message : String) : (Diagnostic.skip op message).isError = true := rfl

/-- A caution is not. -/
theorem isError_caution (message : String) : (Diagnostic.caution op message).isError = false := rfl

/-- The name of an operation has to be an identifier. -/
theorem nameProblems_errors :
    op.nameProblems.any Diagnostic.isError = false ↔ isIdentifier op.name = true := by
  unfold nameProblems
  split <;> simp_all [isError_skip]

/-- A one-way operation has no result, no streams and no faults. -/
theorem exchangeProblems_errors :
    op.exchangeProblems.any Diagnostic.isError = false ↔ (op.kind.isOneWay = true →
      op.result = none ∧ op.isStreaming = false ∧ op.faults = []) := by
  by_cases hone : op.kind.isOneWay = true
  · cases hresult : op.result <;> by_cases hstream : op.isStreaming = true <;>
      by_cases hfaults : op.faults = [] <;>
      simp [exchangeProblems, hone, hresult, hstream, hfaults, isError_skip]
  · by_cases hprebuild : op.prebuild = true <;>
      simp [exchangeProblems, hone, hprebuild, isError_caution]

/-- The faults of an operation need distinct keys. -/
theorem faultKeyProblems_errors :
    op.faultKeyProblems.any Diagnostic.isError = false ↔ (op.faults.map Fault.key).Nodup := by
  have hnil := repeats_eq_nil_iff Fault.key [] op.faults
  simp only [List.not_mem_nil, not_false_eq_true, implies_true, and_true] at hnil
  rw [← hnil, List.eq_nil_iff_forall_not_mem]
  simp [faultKeyProblems, isError_skip]

/-- Its arguments need distinct identifiers. -/
theorem argumentProblems_errors :
    op.argumentProblems.any Diagnostic.isError = false ↔ (op.params.map Param.ident).Nodup := by
  have hnil := repeats_eq_nil_iff Param.ident [] op.params
  simp only [List.not_mem_nil, not_false_eq_true, implies_true, and_true] at hnil
  rw [← hnil, List.eq_nil_iff_forall_not_mem]
  simp [argumentProblems, isError_skip]

/-- Its types have to be supported. -/
theorem typeProblems_errors :
    op.typeProblems.any Diagnostic.isError = false ↔
      ∀ entry ∈ op.declaredTypes, entry.2.firstUnsupported = none := by
  simp only [typeProblems, List.any_eq_false, List.mem_filterMap, Option.map_eq_some_iff]
  constructor
  · intro h entry hentry
    cases hfirst : entry.2.firstUnsupported with
    | none => rfl
    | some type => exact absurd rfl (h _ ⟨entry, hentry, type, hfirst, rfl⟩)
  · rintro h diagnostic ⟨entry, hentry, type, hfirst, rfl⟩
    rw [h entry hentry] at hfirst
    cases hfirst

/-- **The checks on an operation.**  They find no error exactly if it is well-formed. -/
theorem problems_errors : op.problems.any Diagnostic.isError = false ↔ op.WellFormed := by
  simp only [problems, List.any_append, Bool.or_eq_false_iff, nameProblems_errors,
    exchangeProblems_errors, faultKeyProblems_errors, argumentProblems_errors,
    typeProblems_errors]
  constructor
  · rintro ⟨⟨⟨⟨hname, hone⟩, hkeys⟩, hidents⟩, htypes⟩
    exact ⟨hname, hone, hkeys, hidents, htypes⟩
  · rintro ⟨hname, hone, hkeys, hidents, htypes⟩
    exact ⟨⟨⟨⟨hname, hone⟩, hkeys⟩, hidents⟩, htypes⟩

end Operation

/-- The verdict at a position is about the operation there and the names used before it. -/
theorem getElem?_verdictsFrom (seen : List String) (ops : List Operation) (i : Nat) :
    (verdictsFrom seen ops)[i]? = ops[i]?.map fun op =>
      op.problems ++ op.repeatProblems (((ops.take i).map Operation.typeName).reverse ++ seen) := by
  induction ops generalizing seen i with
  | nil => rfl
  | cons op rest ih =>
      cases i with
      | zero => rfl
      | succ i => simp [verdictsFrom, ih, Operation.typeName]

/-- An operation is accepted exactly if it is well formed and its type name is new. -/
theorem Operation.isAccepted_verdict (op : Operation) (used : List String) :
    isAccepted (op.problems ++ op.repeatProblems used) = true ↔
      op.WellFormed ∧ op.typeName ∉ used := by
  have hrepeat : (op.repeatProblems used).any Diagnostic.isError = false ↔ op.typeName ∉ used := by
    unfold repeatProblems
    split <;> simp_all [isError_skip, typeName]
  rw [isAccepted, Bool.not_eq_true', List.any_append, Bool.or_eq_false_iff, problems_errors,
    hrepeat]

/-- **Acceptance.**  An operation is accepted exactly if it is well-formed and no operation before
it has the same name in generated code. -/
theorem Contract.accepted_iff {c : Contract} {i : Nat} {op : Operation}
    (hop : c.operations[i]? = some op) :
    (c.verdicts.map isAccepted)[i]? = some true ↔
      op.WellFormed ∧ op.typeName ∉ (c.operations.take i).map Operation.typeName := by
  rw [List.getElem?_map, verdicts, getElem?_verdictsFrom, hop, Option.map_some, Option.map_some,
    Option.some_inj, Operation.isAccepted_verdict]
  simp

/-- Every generated operation is well-formed. -/
theorem Compiled.wellFormed {c : Contract} {options : Options} {compiled : Compiled}
    (h : c.compile options = .ok compiled) {p : Placement} (hp : p ∈ compiled.placements) :
    p.candidate.operation.WellFormed := by
  obtain ⟨hop, hverdict, -⟩ := mem_placements h hp
  exact ((Contract.accepted_iff hop).1 hverdict).1

end ServiceContract
