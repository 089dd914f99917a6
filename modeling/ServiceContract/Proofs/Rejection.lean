import ServiceContract.Proofs.Ancestry
import ServiceContract.Proofs.FaultChains

/-!
# When a contract is rejected

A compilation is aborted by the fault registry, by a type that is not registered, or for want of
keys.  Everything else is a matter of single operations and aborts nothing; in particular the
hierarchy of the generated types always resolves (`Contract.compile_of_allocate`).

`Contract.Sound` says without any search which contracts are compiled, and `Contract.FirstViolation`
which error the others give: the one of the first condition that is violated.  Registry entries come
before operations, and operations before keys.

* `abort?_eq_some_iff` and `abort?_eq_none_iff` settle the checks of types,
* `allocate_eq_error_iff` and `allocate_ok_iff` the allocation of keys,
* `compile_outcome` the whole compilation.
-/

namespace ServiceContract

/-- Two descriptions of a search, of its failure and of its results, are exact if each is sound and
one of them always applies. -/
theorem search_iff {α : Type} {result : Option α} {Fails : Prop} {Finds : α → Prop}
    (hfails : Fails → result = none) (hfinds : ∀ a, Finds a → result = some a)
    (hcases : Fails ∨ ∃ a, Finds a) :
    (result = none ↔ Fails) ∧ ∀ a, result = some a ↔ Finds a := by
  rcases hcases with hfail | ⟨b, hfind⟩
  · have hnone := hfails hfail
    refine ⟨iff_of_true hnone hfail, fun a => ⟨fun h => ?_, hfinds a⟩⟩
    rw [hnone] at h
    cases h
  · have hsome := hfinds b hfind
    refine ⟨⟨fun h => ?_, hfails⟩, fun a => ⟨fun h => ?_, hfinds a⟩⟩
    · rw [hsome] at h
      cases h
    · rw [hsome, Option.some.injEq] at h
      exact h ▸ hfind

namespace Contract

/-- Every type that an operation raises or streams is registered. -/
structure Resolves (c : Contract) (op : Operation) : Prop where
  faults : ∀ fault ∈ op.faults, c.Registers fault.payload
  input : ∀ item, op.inputStream = some item → item ∈ c.streamItems
  output : ∀ item, op.outputStream = some item → item ∈ c.streamItems

/-- A contract that can be compiled. -/
structure Sound (c : Contract) (options : Options) : Prop where
  registry : ∀ entry ∈ c.faultKinds, c.SoundEntry entry
  symbols : ∀ op ∈ c.operations, c.Resolves op
  /-- The last key that is handed out is within the limit. -/
  keys : c.operations ≠ [] →
    options.startKey + KeyTable.keyTotal c.operations - 1 ≤ options.keySpaceLimit

/-- The error of a registry entry.  A base that is not registered goes before a base that leads back
to the entry. -/
inductive EntryViolation (c : Contract) (entry : FaultKind) : CompileError → Prop
  | unresolved {base : DataType} (hbase : entry.base = some base) (hunknown : ¬ c.Registers base) :
      EntryViolation c entry (.unresolvedFaultBase entry.type base)
  | cyclic {base : DataType} (hbase : entry.base = some base) (hknown : c.Registers base)
      (hback : c.Reaches base entry.type) :
      EntryViolation c entry (.cyclicFaultHierarchy entry.type)

/-- The error of an operation: of its first fault that is not registered, or else of its input
stream, or else of its output stream. -/
inductive SymbolViolation (c : Contract) (op : Operation) : CompileError → Prop
  | fault {front back : List Fault} {fault : Fault} (hsplit : op.faults = front ++ fault :: back)
      (hfront : ∀ other ∈ front, c.Registers other.payload)
      (hunknown : ¬ c.Registers fault.payload) :
      SymbolViolation c op (.unresolvedFaultType op.name fault.payload op.location)
  | input {item : DataType} (hfaults : ∀ fault ∈ op.faults, c.Registers fault.payload)
      (hitem : op.inputStream = some item) (hunknown : item ∉ c.streamItems) :
      SymbolViolation c op (.unresolvedStreamItem op.name item op.location)
  | output {item : DataType} (hfaults : ∀ fault ∈ op.faults, c.Registers fault.payload)
      (hinput : ∀ item, op.inputStream = some item → item ∈ c.streamItems)
      (hitem : op.outputStream = some item) (hunknown : item ∉ c.streamItems) :
      SymbolViolation c op (.unresolvedStreamItem op.name item op.location)

/-- The last key of the block of the operation at a position. -/
def blockEnd (c : Contract) (options : Options) (i : Nat) : Nat :=
  options.startKey + KeyTable.keyTotal (c.operations.take (i + 1)) - 1

/-- The error of the first condition that a contract violates. -/
inductive FirstViolation (c : Contract) (options : Options) : CompileError → Prop
  | registry {front back : List FaultKind} {entry : FaultKind} {cause : CompileError}
      (hsplit : c.faultKinds = front ++ entry :: back)
      (hfront : ∀ other ∈ front, c.SoundEntry other)
      (hentry : c.EntryViolation entry cause) : FirstViolation c options cause
  | symbols {front back : List Operation} {op : Operation} {cause : CompileError}
      (hregistry : ∀ entry ∈ c.faultKinds, c.SoundEntry entry)
      (hsplit : c.operations = front ++ op :: back)
      (hfront : ∀ other ∈ front, c.Resolves other)
      (hop : c.SymbolViolation op cause) : FirstViolation c options cause
  | keys {i : Nat} {op : Operation}
      (hregistry : ∀ entry ∈ c.faultKinds, c.SoundEntry entry)
      (hsymbols : ∀ op ∈ c.operations, c.Resolves op)
      (hop : c.operations[i]? = some op)
      (hfront : ∀ j < i, c.blockEnd options j ≤ options.keySpaceLimit)
      (hlimit : options.keySpaceLimit < c.blockEnd options i) :
      FirstViolation c options
        (.keySpaceExhausted op.name (c.blockEnd options i) options.keySpaceLimit)

variable {c : Contract} {options : Options}

section Types

/-- Nothing is reported about a sound entry. -/
theorem registryProblem?_of_sound {entry : FaultKind} (hentry : entry ∈ c.faultKinds)
    (hsound : c.SoundEntry entry) : c.registryProblem? entry = none := by
  cases hbase : entry.base with
  | none => simp [registryProblem?, hbase]
  | some base =>
      obtain ⟨hknown, hback⟩ := hsound base hbase
      have hfound : ¬ (c.faultKind? base).isNone = true :=
        fun h => faultKind?_isNone_iff.1 h hknown
      have hleads : ¬ c.leadsTo entry.type c.faultKinds.length base = true :=
        fun h => hback ((leadsTo_iff_reaches hentry).1 h)
      simp only [registryProblem?, hbase, if_neg hfound, if_neg hleads]

/-- The violation of an entry is what is reported about it. -/
theorem registryProblem?_of_violation {entry : FaultKind} (hentry : entry ∈ c.faultKinds)
    {cause : CompileError} (hviolation : c.EntryViolation entry cause) :
    c.registryProblem? entry = some cause := by
  cases hviolation with
  | unresolved hbase hunknown =>
      simp only [registryProblem?, hbase, if_pos (faultKind?_isNone_iff.2 hunknown)]
  | @cyclic base hbase hknown hback =>
      have hfound : ¬ (c.faultKind? base).isNone = true :=
        fun h => faultKind?_isNone_iff.1 h hknown
      simp only [registryProblem?, hbase, if_neg hfound,
        if_pos ((leadsTo_iff_reaches hentry).2 hback)]

/-- An entry is sound or has an error. -/
theorem soundEntry_or_violation (entry : FaultKind) :
    c.SoundEntry entry ∨ ∃ cause, c.EntryViolation entry cause := by
  cases hbase : entry.base with
  | none =>
      left
      intro base hsome
      rw [hbase] at hsome
      cases hsome
  | some base =>
      by_cases hknown : c.Registers base
      · by_cases hback : c.Reaches base entry.type
        · exact .inr ⟨_, .cyclic hbase hknown hback⟩
        · left
          intro other hother
          rw [hbase, Option.some.injEq] at hother
          exact hother ▸ ⟨hknown, hback⟩
      · exact .inr ⟨_, .unresolved hbase hknown⟩

/-- The check of an entry finds its error, or nothing if the entry is sound. -/
theorem registryProblem?_iff {entry : FaultKind} (hentry : entry ∈ c.faultKinds) :
    (c.registryProblem? entry = none ↔ c.SoundEntry entry) ∧
      ∀ cause, c.registryProblem? entry = some cause ↔ c.EntryViolation entry cause :=
  search_iff (registryProblem?_of_sound hentry)
    (fun _ => registryProblem?_of_violation hentry) (soundEntry_or_violation entry)

/-- A fault passes exactly if its payload is registered. -/
theorem faultProblem?_eq_none_iff {op : Operation} {fault : Fault} :
    c.faultProblem? op fault = none ↔ c.Registers fault.payload := by
  rw [faultProblem?, ite_eq_right_iff, ← not_iff_not, ← faultKind?_isNone_iff]
  simp

/-- Otherwise the error names the operation and the payload. -/
theorem faultProblem?_eq_some_iff {op : Operation} {fault : Fault} {cause : CompileError} :
    c.faultProblem? op fault = some cause ↔ ¬ c.Registers fault.payload ∧
      cause = .unresolvedFaultType op.name fault.payload op.location := by
  rw [faultProblem?, Option.ite_none_right_eq_some, faultKind?_isNone_iff, Option.some.injEq,
    eq_comm (a := cause)]

/-- An item passes exactly if it is declared for streams. -/
theorem streamProblem?_eq_none_iff {op : Operation} {item : DataType} :
    c.streamProblem? op item = none ↔ item ∈ c.streamItems := by
  simp [streamProblem?]

/-- Otherwise the error names the operation and the item. -/
theorem streamProblem?_eq_some_iff {op : Operation} {item : DataType} {cause : CompileError} :
    c.streamProblem? op item = some cause ↔ item ∉ c.streamItems ∧
      cause = .unresolvedStreamItem op.name item op.location := by
  simp [streamProblem?, eq_comm (a := cause)]

/-- The check of an operation passes exactly if all its types are registered. -/
theorem symbolProblem?_eq_none_iff {op : Operation} :
    c.symbolProblem? op = none ↔ c.Resolves op := by
  simp only [symbolProblem?, Option.or_eq_none_iff, List.findSome?_eq_none_iff, List.mem_append,
    Option.mem_toList, faultProblem?_eq_none_iff, streamProblem?_eq_none_iff]
  constructor
  · rintro ⟨hfaults, hstreams⟩
    exact ⟨hfaults, fun item h => hstreams item (.inl h), fun item h => hstreams item (.inr h)⟩
  · rintro ⟨hfaults, hinput, houtput⟩
    refine ⟨hfaults, ?_⟩
    rintro item (h | h)
    · exact hinput item h
    · exact houtput item h

/-- The violation of an operation is what is reported about it. -/
theorem symbolProblem?_of_violation {op : Operation} {cause : CompileError}
    (hviolation : c.SymbolViolation op cause) : c.symbolProblem? op = some cause := by
  cases hviolation with
  | @fault front back fault hsplit hfront hunknown =>
      have hfound : op.faults.findSome? (c.faultProblem? op) =
          some (.unresolvedFaultType op.name fault.payload op.location) :=
        List.findSome?_eq_some_iff.2 ⟨front, fault, back, hsplit,
          faultProblem?_eq_some_iff.2 ⟨hunknown, rfl⟩,
          fun other h => faultProblem?_eq_none_iff.2 (hfront other h)⟩
      rw [symbolProblem?, hfound, Option.some_or]
  | @input item hfaults hitem hunknown =>
      have hnone : op.faults.findSome? (c.faultProblem? op) = none :=
        List.findSome?_eq_none_iff.2 fun fault h => faultProblem?_eq_none_iff.2 (hfaults fault h)
      have hproblem : c.streamProblem? op item =
          some (.unresolvedStreamItem op.name item op.location) :=
        streamProblem?_eq_some_iff.2 ⟨hunknown, rfl⟩
      simp [symbolProblem?, hnone, hitem, hproblem]
  | @output item hfaults hinput hitem hunknown =>
      have hnone : op.faults.findSome? (c.faultProblem? op) = none :=
        List.findSome?_eq_none_iff.2 fun fault h => faultProblem?_eq_none_iff.2 (hfaults fault h)
      have hproblem : c.streamProblem? op item =
          some (.unresolvedStreamItem op.name item op.location) :=
        streamProblem?_eq_some_iff.2 ⟨hunknown, rfl⟩
      have hfirst : op.inputStream.toList.findSome? (c.streamProblem? op) = none :=
        List.findSome?_eq_none_iff.2 fun item h =>
          streamProblem?_eq_none_iff.2 (hinput item (Option.mem_toList.1 h))
      simp [symbolProblem?, hnone, hfirst, hitem, hproblem, List.findSome?_append]

/-- The check of an operation finds its error. -/
theorem symbolProblem?_eq_some_iff {op : Operation} {cause : CompileError} :
    c.symbolProblem? op = some cause ↔ c.SymbolViolation op cause := by
  refine ⟨fun h => ?_, symbolProblem?_of_violation⟩
  rw [symbolProblem?, Option.or_eq_some_iff] at h
  rcases h with hfault | ⟨hfaults, hstream⟩
  · obtain ⟨front, fault, back, hsplit, hproblem, hfront⟩ := List.findSome?_eq_some_iff.1 hfault
    obtain ⟨hunknown, rfl⟩ := faultProblem?_eq_some_iff.1 hproblem
    exact .fault hsplit (fun other h => faultProblem?_eq_none_iff.1 (hfront other h)) hunknown
  · have hknown : ∀ fault ∈ op.faults, c.Registers fault.payload := fun fault h =>
      faultProblem?_eq_none_iff.1 (List.findSome?_eq_none_iff.1 hfaults fault h)
    rw [List.findSome?_append, Option.or_eq_some_iff] at hstream
    rcases hstream with hinput | ⟨hinput, houtput⟩
    · obtain ⟨item, hitem, hproblem⟩ := List.exists_of_findSome?_eq_some hinput
      obtain ⟨hunknown, rfl⟩ := streamProblem?_eq_some_iff.1 hproblem
      exact .input hknown (Option.mem_toList.1 hitem) hunknown
    · obtain ⟨item, hitem, hproblem⟩ := List.exists_of_findSome?_eq_some houtput
      obtain ⟨hunknown, rfl⟩ := streamProblem?_eq_some_iff.1 hproblem
      refine .output hknown ?_ (Option.mem_toList.1 hitem) hunknown
      intro first hfirst
      exact streamProblem?_eq_none_iff.1
        (List.findSome?_eq_none_iff.1 hinput first (Option.mem_toList.2 hfirst))

/-- The registry passes exactly if all its entries are sound. -/
theorem findSome?_registryProblem?_eq_none_iff :
    c.faultKinds.findSome? c.registryProblem? = none ↔
      ∀ entry ∈ c.faultKinds, c.SoundEntry entry := by
  rw [List.findSome?_eq_none_iff]
  exact forall₂_congr fun entry hentry => (registryProblem?_iff hentry).1

/-- **The checks of types pass** exactly if the registry is sound and every type is registered. -/
theorem abort?_eq_none_iff :
    c.abort? = none ↔
      (∀ entry ∈ c.faultKinds, c.SoundEntry entry) ∧ ∀ op ∈ c.operations, c.Resolves op := by
  rw [abort?, Option.or_eq_none_iff, findSome?_registryProblem?_eq_none_iff,
    List.findSome?_eq_none_iff]
  simp only [symbolProblem?_eq_none_iff]

/-- **The checks of types find** the error of the first entry that is not sound, or else of the
first operation with a type that is not registered. -/
theorem abort?_eq_some_iff {cause : CompileError} :
    c.abort? = some cause ↔
      (∃ front entry back, c.faultKinds = front ++ entry :: back ∧
        (∀ other ∈ front, c.SoundEntry other) ∧ c.EntryViolation entry cause) ∨
      ((∀ entry ∈ c.faultKinds, c.SoundEntry entry) ∧
        ∃ front op back, c.operations = front ++ op :: back ∧
          (∀ other ∈ front, c.Resolves other) ∧ c.SymbolViolation op cause) := by
  rw [abort?, Option.or_eq_some_iff, findSome?_registryProblem?_eq_none_iff,
    List.findSome?_eq_some_iff, List.findSome?_eq_some_iff]
  refine or_congr ?_ (and_congr_right fun _ => ?_)
  · refine exists₃_congr fun front entry back => and_congr_right fun hsplit => ?_
    have hfront : ∀ other ∈ front, other ∈ c.faultKinds := fun other h => by simp [hsplit, h]
    have hentry : entry ∈ c.faultKinds := by simp [hsplit]
    rw [(registryProblem?_iff hentry).2, and_comm]
    exact and_congr_left fun _ =>
      forall₂_congr fun other h => (registryProblem?_iff (hfront other h)).1
  · refine exists₃_congr fun front op back => and_congr_right fun _ => ?_
    simp only [symbolProblem?_eq_some_iff, symbolProblem?_eq_none_iff, and_comm]

end Types

section Keys

/-- **Keys suffice** exactly if the last one is within the limit. -/
theorem allocate_ok_iff :
    (∃ keys, KeyTable.allocate c options = .ok keys) ↔
      (c.operations ≠ [] →
        options.startKey + KeyTable.keyTotal c.operations - 1 ≤ options.keySpaceLimit) := by
  rw [← KeyTable.blocksFrom_ok_iff, KeyTable.allocate]
  cases KeyTable.blocksFrom options.keySpaceLimit options.startKey c.operations <;> simp

/-- **Keys run out** at the first operation whose block ends above the limit. -/
theorem allocate_eq_error_iff {cause : CompileError} :
    KeyTable.allocate c options = .error cause ↔
      ∃ i op, c.operations[i]? = some op ∧
        (∀ j < i, c.blockEnd options j ≤ options.keySpaceLimit) ∧
        options.keySpaceLimit < c.blockEnd options i ∧
        cause = .keySpaceExhausted op.name (c.blockEnd options i) options.keySpaceLimit := by
  unfold blockEnd
  rw [← KeyTable.blocksFrom_eq_error_iff, KeyTable.allocate]
  cases KeyTable.blocksFrom options.keySpaceLimit options.startKey c.operations <;> simp

end Keys

section Whole

/-- Sound contracts are the ones that are compiled. -/
theorem exists_compile_iff_sound :
    (∃ compiled, c.compile options = .ok compiled) ↔ c.Sound options := by
  constructor
  · rintro ⟨compiled, h⟩
    obtain ⟨habort, hkeys, -⟩ := compile_ok h
    obtain ⟨hregistry, hsymbols⟩ := abort?_eq_none_iff.1 habort
    exact ⟨hregistry, hsymbols, allocate_ok_iff.1 ⟨_, hkeys⟩⟩
  · rintro ⟨hregistry, hsymbols, hfits⟩
    obtain ⟨keys, hkeys⟩ := allocate_ok_iff.2 hfits
    exact ⟨_, compile_of_allocate (abort?_eq_none_iff.2 ⟨hregistry, hsymbols⟩) hkeys⟩

/-- What goes wrong in a compilation went wrong in the checks of types, or after them in the
allocation of keys. -/
theorem compile_eq_error_iff {cause : CompileError} :
    c.compile options = .error cause ↔
      c.abort? = some cause ∨ (c.abort? = none ∧ KeyTable.allocate c options = .error cause) := by
  cases habort : c.abort? with
  | some other => simp [compile, habort]
  | none =>
      cases hkeys : KeyTable.allocate c options with
      | error other => simp [compile, habort, hkeys]
      | ok keys => simp [compile_of_allocate habort hkeys]

/-- The error of a contract that is not compiled is that of the first violated condition. -/
theorem compile_eq_error_iff_firstViolation {cause : CompileError} :
    c.compile options = .error cause ↔ c.FirstViolation options cause := by
  rw [compile_eq_error_iff, abort?_eq_some_iff, abort?_eq_none_iff, allocate_eq_error_iff]
  constructor
  · rintro ((⟨front, entry, back, hsplit, hfront, hentry⟩ |
      ⟨hregistry, front, op, back, hsplit, hfront, hop⟩) |
      ⟨⟨hregistry, hsymbols⟩, i, op, hop, hfront, hlimit, rfl⟩)
    · exact .registry hsplit hfront hentry
    · exact .symbols hregistry hsplit hfront hop
    · exact .keys hregistry hsymbols hop hfront hlimit
  · intro hviolation
    cases hviolation with
    | registry hsplit hfront hentry => exact .inl (.inl ⟨_, _, _, hsplit, hfront, hentry⟩)
    | symbols hregistry hsplit hfront hop =>
        exact .inl (.inr ⟨hregistry, _, _, _, hsplit, hfront, hop⟩)
    | keys hregistry hsymbols hop hfront hlimit =>
        exact .inr ⟨⟨hregistry, hsymbols⟩, _, _, hop, hfront, hlimit, rfl⟩

/-- No violated condition is a broken hierarchy or a serializer that is not offered. -/
theorem FirstViolation.cause_cases {cause : CompileError} (h : c.FirstViolation options cause) :
    (∀ broken, cause ≠ .hierarchy broken) ∧
      ∀ requested contract configured,
        cause ≠ .serializerNotConfigured requested contract configured := by
  cases h with
  | registry _ _ hentry => cases hentry <;> simp
  | symbols _ _ _ hop => cases hop <;> simp
  | keys => simp

/-- **Exactly when a compilation is aborted, and with which error.**  A contract is compiled if and
only if it is sound; otherwise the error is that of the first condition that it violates.  Nothing
about single operations is among these conditions, and the hierarchy of types is never broken. -/
theorem compile_outcome (c : Contract) (options : Options) :
    ((∃ compiled, c.compile options = .ok compiled) ↔ c.Sound options) ∧
      (∀ cause, c.compile options = .error cause ↔ c.FirstViolation options cause) ∧
      (∀ broken, c.compile options ≠ .error (.hierarchy broken)) ∧
      ∀ requested contract configured,
        c.compile options ≠ .error (.serializerNotConfigured requested contract configured) := by
  refine ⟨exists_compile_iff_sound, fun _ => compile_eq_error_iff_firstViolation, ?_, ?_⟩
  · intro broken h
    exact (compile_eq_error_iff_firstViolation.1 h).cause_cases.1 broken rfl
  · intro requested contract configured h
    exact (compile_eq_error_iff_firstViolation.1 h).cause_cases.2 requested contract configured rfl

end Whole

end Contract

end ServiceContract
