import Mathlib.Data.List.Nodup
import ServiceContract.Compiled
import ServiceContract.Proofs.KeyBlocks
import ServiceContract.Proofs.Placement

/-!
# What a successful compilation gives

`Contract.compile_ok` opens a compilation once; everything after it is about the compiled contract
itself.  Its catalog is read off the placements of the contract: `Contract.placements` lists the
generated operations in the order of declaration, each with its position, its keys and the numbers
of its types.
-/

namespace ServiceContract

namespace Contract

/-- What becomes of each operation of a contract with the given keys. -/
def outcomes (c : Contract) (keys : KeyTable) : List (Option Placement) :=
  (Assembly.start c).outcomes c (c.candidates (c.verdicts.map isAccepted) keys)

/-- The operations that enter the catalog of a contract with the given keys. -/
def placements (c : Contract) (keys : KeyTable) : List Placement :=
  (Assembly.start c).placed c (c.candidates (c.verdicts.map isAccepted) keys)

variable {c : Contract} {options : Options} {compiled : Compiled}

/-- A compilation that succeeds allocated its keys, resolved its hierarchy and planned the rest. -/
theorem compile_ok (h : c.compile options = .ok compiled) :
    c.abort? = none ∧ KeyTable.allocate c options = .ok compiled.keys ∧
      ∃ hierarchy,
        Hierarchy.build ((c.assembly compiled.keys).nodes.map Node.registration) = .ok hierarchy ∧
        compiled = c.plan options compiled.keys (c.assembly compiled.keys) hierarchy := by
  unfold compile at h
  split at h
  · cases h
  · next habort =>
      split at h
      · cases h
      · next keys hkeys =>
          dsimp only at h
          split at h
          · cases h
          · next hierarchy hbuild =>
              cases h
              exact ⟨habort, hkeys, hierarchy, hbuild, rfl⟩

/-- A compiled contract is kept. -/
theorem compile_contract (h : c.compile options = .ok compiled) : compiled.contract = c := by
  obtain ⟨-, -, hierarchy, -, hplan⟩ := compile_ok h
  rw [hplan]
  rfl

/-- Its keys are the ones that were allocated. -/
theorem compile_keys (h : c.compile options = .ok compiled) :
    KeyTable.allocate c options = .ok compiled.keys :=
  (compile_ok h).2.1

/-- Its catalog is that of the assembly. -/
theorem compile_catalog (h : c.compile options = .ok compiled) :
    compiled.catalog = (c.assembly compiled.keys).catalog := by
  obtain ⟨-, -, hierarchy, -, hplan⟩ := compile_ok h
  rw [hplan]
  rfl

theorem compile_generated (h : c.compile options = .ok compiled) :
    compiled.generated = (c.assembly compiled.keys).generated := by
  obtain ⟨-, -, hierarchy, -, hplan⟩ := compile_ok h
  rw [hplan]
  rfl

/-- The surface of a peer, as it was built. -/
theorem compile_surface (h : c.compile options = .ok compiled) (peer : Peer) :
    compiled.surface peer =
      Surface.build c compiled.catalog peer (c.chooseSerializers options).default := by
  obtain ⟨-, -, hierarchy, -, hplan⟩ := compile_ok h
  rw [hplan]
  cases peer <;> rfl

/-- The plan of a peer, as it was built. -/
theorem compile_dispatch (h : c.compile options = .ok compiled) (peer : Peer) :
    compiled.dispatch peer = DispatchPlan.build c compiled.keys compiled.catalog peer := by
  obtain ⟨-, -, hierarchy, -, hplan⟩ := compile_ok h
  rw [hplan]
  cases peer <;> rfl

/-- The binding of the serializers, as it was built. -/
theorem compile_binding (h : c.compile options = .ok compiled) :
    compiled.binding =
      .build c compiled.catalog compiled.hierarchy (c.chooseSerializers options) := by
  obtain ⟨-, -, hierarchy, -, hplan⟩ := compile_ok h
  rw [hplan]
  rfl

/-- The serializers in use are configured, whatever the default among them. -/
theorem configured_chooseSerializers (c : Contract) (options : Options) :
    (c.chooseSerializers options).configured = c.serializersInUse := by
  unfold chooseSerializers
  split
  · rfl
  · split
    · rfl
    · rfl

/-- There is always a serializer in use. -/
theorem serializersInUse_ne_nil (c : Contract) : c.serializersInUse ≠ [] := by
  unfold serializersInUse
  split
  · exact List.cons_ne_nil _ _
  · next h => simpa using h

/-- There is an adapter for each serializer in use. -/
theorem compile_adapters (h : c.compile options = .ok compiled) :
    compiled.binding.adapters =
      c.serializersInUse.map (Binding.adapterFor c compiled.catalog compiled.hierarchy) := by
  rw [compile_binding h, Binding.build, configured_chooseSerializers]

/-- The diagnostics of a compilation, in the order they were found. -/
theorem compile_diagnostics (h : c.compile options = .ok compiled) :
    compiled.diagnostics = c.verdicts.flatten ++ (c.chooseSerializers options).warnings ++
      (c.assembly compiled.keys).diagnostics := by
  obtain ⟨-, -, hierarchy, -, hplan⟩ := compile_ok h
  rw [hplan]
  rfl

end Contract

section Candidates

variable {c : Contract} {accepted : List Bool} {keys : KeyTable}

/-- A candidate is numbered by its position and belongs to the operation, the verdict and the keys
there. -/
theorem Contract.getElem?_candidates {i : Nat} {candidate : Candidate}
    (h : (c.candidates accepted keys)[i]? = some candidate) :
    candidate.index = i ∧ c.operations[i]? = some candidate.operation ∧
      accepted[i]? = some candidate.accepted ∧
      ∃ block, keys.block? i = some block ∧ candidate.keys = block.keys := by
  simp only [candidates, List.getElem?_map, List.getElem?_zipIdx, Option.map_map,
    Option.map_eq_some_iff] at h
  obtain ⟨⟨op, verdict, block⟩, hzip, rfl⟩ := h
  obtain ⟨hop, hrest⟩ := List.getElem?_zip_eq_some.1 hzip
  obtain ⟨hverdict, hblock⟩ := List.getElem?_zip_eq_some.1 hrest
  exact ⟨by simp, hop, hverdict, block, hblock, rfl⟩

/-- The candidates are numbered like the operations. -/
theorem Contract.map_index_candidates :
    (c.candidates accepted keys).map Candidate.index =
      List.range' 0 (c.candidates accepted keys).length := by
  rw [candidates, List.map_map, List.length_map, List.length_zipIdx]
  exact List.zipIdx_map_snd 0 _

/-- The operations of the candidates, if none is left over. -/
theorem Contract.map_operation_candidates
    (hlength : (c.candidates accepted keys).length = c.operations.length) :
    (c.candidates accepted keys).map Candidate.operation = c.operations := by
  apply List.ext_getElem (by rw [List.length_map, hlength])
  intro i _ hi
  have hcandidate := List.getElem?_eq_getElem (hlength ▸ hi)
  have hop := (getElem?_candidates hcandidate).2.1
  rw [List.getElem?_eq_getElem hi, Option.some_inj] at hop
  rw [List.getElem_map, hop]

/-- The keys of the candidates, if no block is left over. -/
theorem Contract.map_keys_candidates
    (hlength : (c.candidates accepted keys).length = keys.blocks.length) :
    (c.candidates accepted keys).map Candidate.keys = keys.blocks.map KeyBlock.keys := by
  apply List.ext_getElem (by rw [List.length_map, List.length_map, hlength])
  intro i _ hi
  rw [List.length_map] at hi
  have hcandidate := List.getElem?_eq_getElem (hlength ▸ hi)
  obtain ⟨-, -, -, block, hblock, hkeys⟩ := getElem?_candidates hcandidate
  rw [KeyTable.block?, List.getElem?_eq_getElem hi, Option.some_inj] at hblock
  rw [List.getElem_map, List.getElem_map, hkeys, hblock]

/-- There is a verdict on each operation. -/
theorem length_verdictsFrom (seen : List String) (ops : List Operation) :
    (verdictsFrom seen ops).length = ops.length := by
  induction ops generalizing seen with
  | nil => rfl
  | cons op rest ih => simp [verdictsFrom, ih]

/-- What is wrong with an operation depends on the ones before it only. -/
theorem verdictsFrom_append (seen : List String) (ops more : List Operation) :
    ∃ seen', verdictsFrom seen (ops ++ more) =
      verdictsFrom seen ops ++ verdictsFrom seen' more := by
  induction ops generalizing seen with
  | nil => exact ⟨seen, rfl⟩
  | cons op rest ih =>
      obtain ⟨seen', hrest⟩ := ih (Text.camel op.name :: seen)
      exact ⟨seen', by simp [verdictsFrom, hrest]⟩

/-- Every operation of a contract is a candidate. -/
theorem Contract.length_candidates {options : Options}
    (h : KeyTable.allocate c options = .ok keys) :
    (c.candidates (c.verdicts.map isAccepted) keys).length = c.operations.length := by
  simp [candidates, verdicts, length_verdictsFrom, KeyTable.allocate_blocks h]

/-- Every operation of a contract has an outcome. -/
theorem Contract.length_outcomes {options : Options}
    (h : KeyTable.allocate c options = .ok keys) :
    (c.outcomes keys).length = c.operations.length := by
  rw [outcomes, Assembly.length_outcomes, length_candidates h]

end Candidates

namespace Placement

/-- A placed operation with its position and its types. -/
def generated (p : Placement) : Generated :=
  ⟨p.candidate.index, p.candidate.operation, p.messages⟩

end Placement

namespace Assembly

variable {c : Contract} {a : Assembly}

/-- The operations of a run that have types, with their positions, are the placed ones. -/
theorem generated_outcomes {candidates : List Candidate} {n : Nat}
    (hindex : candidates.map Candidate.index = List.range' n candidates.length) :
    (((a.outcomes c candidates).map (Option.map Placement.messages)).zipIdx n).filterMap
        (fun entry => entry.1.map fun messages => (entry.2, messages)) =
      (a.placed c candidates).map fun p => (p.candidate.index, p.messages) := by
  induction candidates generalizing a n with
  | nil => rfl
  | cons candidate rest ih =>
      simp only [List.map_cons, List.length_cons, List.range'_succ, List.cons.injEq] at hindex
      have hrest := ih (a := a.step c candidate) hindex.2
      cases hplace : a.place? candidate with
      | none => simpa [placed, outcomes, hplace] using hrest
      | some p =>
          obtain ⟨-, -, hcandidate, -⟩ | ⟨hnone, -⟩ := step_cases c a candidate
          · rw [hplace, Option.some.injEq] at hcandidate
            subst hcandidate
            simpa [placed, outcomes, hplace, hindex.1] using hrest
          · simp [hnone] at hplace

/-- Picking the positions that have an outcome picks the placed operations. -/
theorem filter_outcomes {candidates : List Candidate} {ops : List Operation} {n : Nat}
    {keep : Nat → Bool} (hops : candidates.map Candidate.operation = ops)
    (hindex : candidates.map Candidate.index = List.range' n candidates.length)
    (hkeep : ∀ i, keep (n + i) = ((a.outcomes c candidates)[i]?.join).isSome) :
    ((ops.zipIdx n).map fun entry => (entry.2, entry.1)).filter (fun entry => keep entry.1) =
      (a.placed c candidates).map fun p => (p.candidate.index, p.candidate.operation) := by
  subst hops
  induction candidates generalizing a n with
  | nil => rfl
  | cons candidate rest ih =>
      simp only [List.map_cons, List.length_cons, List.range'_succ, List.cons.injEq] at hindex
      have hrest := ih (a := a.step c candidate) hindex.2 fun i => by
        have := hkeep (i + 1)
        rw [outcomes, List.getElem?_cons_succ] at this
        rw [← this]
        congr 1
        omega
      have hhead : keep n = (a.place? candidate).isSome := by
        simpa [outcomes] using hkeep 0
      cases hplace : a.place? candidate with
      | none => simpa [placed, outcomes, hplace, hhead] using hrest
      | some p =>
          obtain ⟨-, -, hcandidate, -⟩ | ⟨hnone, -⟩ := step_cases c a candidate
          · rw [hplace, Option.some.injEq] at hcandidate
            subst hcandidate
            simpa [placed, outcomes, hplace, hhead, hindex.1] using hrest
          · simp [hnone] at hplace

end Assembly

namespace Compiled

variable {c : Contract} {options : Options} {compiled : Compiled}

/-- The generated operations of a compiled contract, as they were placed. -/
def placements (compiled : Compiled) : List Placement :=
  compiled.contract.placements compiled.keys

/-- **The nodes of a catalog.**  Those that every catalog starts with, then those of each placed
operation. -/
theorem catalog_nodes (h : c.compile options = .ok compiled) :
    compiled.catalog.nodes = Draft.finalizeFrom c.qualifiedName 0 c.systemDrafts ++
      compiled.placements.flatMap (Placement.nodes c) := by
  rw [Contract.compile_catalog h, placements, Contract.compile_contract h]
  exact Assembly.foldl_step_nodes c _ _

/-- The fault sets are those of the placements, in their order. -/
theorem catalog_faultSets (h : c.compile options = .ok compiled) :
    compiled.catalog.faultSets = compiled.placements.filterMap (Placement.faultSet? c) := by
  rw [Contract.compile_catalog h, placements, Contract.compile_contract h]
  exact Assembly.foldl_step_faultSets c _ _

/-- Placements are numbered from behind the nodes that every catalog starts with. -/
theorem placements_chain (h : c.compile options = .ok compiled) :
    Placement.Chain c 9 compiled.placements := by
  rw [placements, Contract.compile_contract h]
  exact Assembly.placed_chain c (Assembly.start c) _

/-- The messages of the operations are those of their placements, if they were placed. -/
theorem catalog_operations (h : c.compile options = .ok compiled) :
    compiled.catalog.operations =
      (c.outcomes compiled.keys).map (Option.map Placement.messages) := by
  rw [Contract.compile_catalog h]
  exact Assembly.foldl_step_operations c (Assembly.start c) _

/-- An operation is generated exactly if it has types. -/
theorem isGenerated_eq (h : c.compile options = .ok compiled) (i : Nat) :
    compiled.isGenerated i = (compiled.catalog.operation? i).isSome := by
  have hflags : compiled.generated = (c.outcomes compiled.keys).map Option.isSome := by
    rw [Contract.compile_generated h]
    exact Assembly.foldl_step_generated c (Assembly.start c) _
  rw [isGenerated, hflags, Catalog.operation?, catalog_operations h, List.getElem?_map,
    List.getElem?_map]
  rcases (c.outcomes compiled.keys)[i]? with _ | _ | p <;> rfl

/-- The generated operations are the placed ones, with their indices. -/
theorem catalog_generated (h : c.compile options = .ok compiled) :
    compiled.catalog.generated =
      compiled.placements.map fun p => (p.candidate.index, p.messages) := by
  rw [Catalog.generated, catalog_operations h, placements, Contract.compile_contract h]
  exact Assembly.generated_outcomes Contract.map_index_candidates

/-- A placement at an operation: where it is declared, the verdict on it and its keys. -/
theorem mem_placements (h : c.compile options = .ok compiled) {p : Placement}
    (hp : p ∈ compiled.placements) :
    c.operations[p.candidate.index]? = some p.candidate.operation ∧
      (c.verdicts.map isAccepted)[p.candidate.index]? = some true ∧
      ∃ block, compiled.keys.block? p.candidate.index = some block ∧
        p.candidate.keys = block.keys := by
  rw [placements, Contract.compile_contract h] at hp
  obtain ⟨o, ho, rfl⟩ := List.mem_filterMap.1 hp
  obtain ⟨i, hi⟩ := List.mem_iff_getElem?.1 ho
  obtain ⟨hcandidate, haccepted⟩ := Assembly.getElem?_outcomes hi
  obtain ⟨rfl, hop, hverdict, hblock⟩ := Contract.getElem?_candidates hcandidate
  exact ⟨hop, haccepted ▸ hverdict, hblock⟩

/-- The block of a placed operation. -/
theorem exists_block (h : c.compile options = .ok compiled) {p : Placement}
    (hp : p ∈ compiled.placements) :
    ∃ first, compiled.keys.block? p.candidate.index =
        some ⟨p.candidate.operation.name, first, p.candidate.operation.keysFrom first⟩ ∧
      p.candidate.keys = p.candidate.operation.keysFrom first := by
  obtain ⟨hop, -, block, hblock, hkeys⟩ := mem_placements h hp
  have hat := hblock
  rw [KeyTable.block?, KeyTable.allocate_blocks (Contract.compile_keys h)] at hat
  obtain ⟨op, first, hop', rfl⟩ := KeyTable.getElem?_blocksAt hat
  rw [hop, Option.some_inj] at hop'
  subst hop'
  exact ⟨first, hblock, hkeys⟩

/-- The positions of placed operations ascend. -/
theorem placements_pairwise_index (h : c.compile options = .ok compiled) :
    (compiled.placements.map fun p => p.candidate.index).Pairwise (· < ·) := by
  have hsub : (compiled.placements.map fun p => p.candidate.index).Sublist
      ((c.candidates (c.verdicts.map isAccepted) compiled.keys).map Candidate.index) := by
    rw [placements, Contract.compile_contract h]
    simpa [Contract.placements, Function.comp_def] using
      (Assembly.placed_sublist c _ _).map Candidate.index
  refine List.Pairwise.sublist hsub ?_
  rw [Contract.map_index_candidates]
  exact List.pairwise_lt_range'

/-- An operation is placed once. -/
theorem eq_of_index_eq (h : c.compile options = .ok compiled) {p q : Placement}
    (hp : p ∈ compiled.placements) (hq : q ∈ compiled.placements)
    (hindex : p.candidate.index = q.candidate.index) : p = q := by
  have hnodup : (compiled.placements.map fun p => p.candidate.index).Nodup :=
    (placements_pairwise_index h).imp fun hlt => Nat.ne_of_lt hlt
  exact List.inj_on_of_nodup_map hnodup hp hq hindex

/-- The fault set found under the position of a placed operation is its own. -/
theorem catalog_faultSet? (h : c.compile options = .ok compiled) {p : Placement}
    (hp : p ∈ compiled.placements) :
    compiled.catalog.faultSet? p.candidate.index = p.faultSet? c := by
  have hoperation : ∀ q set, Placement.faultSet? c q = some set →
      set.operation = q.candidate.index := by
    intro q set hset
    rw [Placement.faultSet?, Operation.faultSet?, Option.ite_none_left_eq_some] at hset
    exact Option.some.inj hset.2 ▸ rfl
  rw [Catalog.faultSet?, catalog_faultSets h]
  cases hfound : (compiled.placements.filterMap (Placement.faultSet? c)).find?
      (fun set => set.operation = p.candidate.index) with
  | some set =>
      obtain ⟨q, hq, hset⟩ := List.mem_filterMap.1 (List.mem_of_find?_eq_some hfound)
      have hindex : set.operation = p.candidate.index := by simpa using List.find?_some hfound
      rw [← eq_of_index_eq h hq hp ((hoperation q set hset).symm.trans hindex), hset]
  | none =>
      cases hset : p.faultSet? c with
      | none => rfl
      | some set =>
          have hmem : set ∈ compiled.placements.filterMap (Placement.faultSet? c) :=
            List.mem_filterMap.2 ⟨p, hp, hset⟩
          have hdiffers := List.find?_eq_none.1 hfound set hmem
          simp [hoperation p set hset] at hdiffers

/-- The generated operations are the placed ones, in the order of declaration. -/
theorem generatedOperations_eq (h : c.compile options = .ok compiled) :
    compiled.generatedOperations =
      compiled.placements.map fun p => (p.candidate.index, p.candidate.operation) := by
  have hlength := Contract.length_candidates (Contract.compile_keys h)
  rw [generatedOperations, placements, Contract.compile_contract h]
  refine Assembly.filter_outcomes (Contract.map_operation_candidates hlength)
    Contract.map_index_candidates ?_
  intro i
  rw [isGenerated_eq h, Catalog.operation?, catalog_operations h, List.getElem?_map, Nat.zero_add]
  change _ = ((c.outcomes compiled.keys)[i]?.join).isSome
  rcases (c.outcomes compiled.keys)[i]? with _ | _ | p <;> rfl

/-- The operations of a direction are the placed ones of that direction. -/
theorem directed_eq (h : c.compile options = .ok compiled) (direction : Direction) :
    compiled.catalog.directed c direction =
      (compiled.placements.map Placement.generated).filter
        fun entry => entry.operation.kind.direction = direction := by
  rw [Catalog.directed, catalog_generated h, List.filterMap_map]
  congr 1
  refine List.filterMap_eq_map_iff_forall_eq_some.2 ?_
  intro p hp
  simp [(mem_placements h hp).1, Placement.generated]

end Compiled

/-- A contract with a call that may fail, a send that can be built ahead of time, a streamed
callback, and one operation that is skipped, because its request would be named like a system
message. -/
def Contract.chat : Contract where
  space := "acme"
  name := "Chat"
  operations :=
    [{ name := "Echo", kind := ⟨.requestResponse, .toServer⟩
       arguments := [⟨.primitive .string, some "text"⟩]
       result := some (.primitive .string)
       faults := [⟨7, .named "Busy"⟩, ⟨3, .named "Closed"⟩] },
     { name := "Ping", kind := ⟨.oneWay, .toServer⟩, prebuild := true },
     { name := "Cancel", kind := ⟨.requestResponse, .toServer⟩ },
     { name := "Watch", kind := ⟨.requestResponse, .toClient⟩
       inputStream := some (.primitive .bytes), outputStream := some (.primitive .u32) }]
  serializers := [.json, .postcard]
  faultKinds := [⟨.named "Busy", none⟩, ⟨.named "Closed", some (.named "Busy")⟩]
  streamItems := [.primitive .bytes, .primitive .u32]

/-- A contract with some operations and one serializer. -/
def Contract.sample (name : String) (operations : List Operation) : Contract where
  space := "acme"
  name := name
  operations := operations
  serializers := [.json]

/-- A check of a compiled contract that evaluates to true shows that the contract compiles. -/
theorem Contract.exists_compile (c : Contract) (options : Options) (check : Compiled → Bool)
    (h : (c.compile options).toOption.any check = true) :
    ∃ compiled, c.compile options = .ok compiled ∧ check compiled = true := by
  cases hcompile : c.compile options with
  | error cause => simp [hcompile, Except.toOption] at h
  | ok compiled => exact ⟨compiled, rfl, by simpa [hcompile, Except.toOption] using h⟩

end ServiceContract
