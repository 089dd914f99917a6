import ServiceContract.Proofs.Composition
import ServiceContract.Proofs.Rejection
import ServiceContract.Proofs.Renumbering
import ServiceContract.Proofs.WellFormed

/-!
# Skipped operations leave no trace

An operation can be skipped at three places: by the checks on it, for the name of a type, and for
the name of a method.  Wherever that happens, everything else comes out as if the operation had
never been declared.

`Compiled.withoutSkipped` is the contract without the skipped operations.  Its compilation follows
the first one step by step.

* It is sound (`Contract.Sound.of_sublist`), and every operation is accepted, since names that were
  new among all operations are new among fewer.
* What was placed is placed again, and nothing is left out: an operation that is left out takes no
  names with it (`Assembly.outcomes_placed`).
* Operations move up and keys close ranks.  `KeyTable.standsFor` tells which key each new one stands
  for, and apart from these numbers nothing changes.
-/

namespace ServiceContract

namespace Assembly

variable {c : Contract} {a : Assembly}

/-- **A second run.**  The candidates that were placed are placed again, where they were, if they
are the only ones. -/
theorem outcomes_placed (candidates : List Candidate) :
    a.outcomes c ((a.placed c candidates).map Placement.candidate) =
      (a.placed c candidates).map some := by
  induction candidates generalizing a with
  | nil => rfl
  | cons candidate rest ih =>
      obtain ⟨-, -, hplace, -⟩ | ⟨hplace, problems, hstep⟩ := step_cases c a candidate
      · have hplaced : a.placed c (candidate :: rest) =
            ⟨candidate, a.nodes.length⟩ :: (a.step c candidate).placed c rest := by
          simp [placed, outcomes, hplace]
        rw [hplaced, List.map_cons, List.map_cons, outcomes, hplace, ih]
      · have hplaced : a.placed c (candidate :: rest) = (a.leaveOut problems).placed c rest := by
          simp [placed, outcomes, hplace, hstep]
        -- The second run never sees the candidate, and the first one took no names for it.
        have hsame : SameNames (a.leaveOut problems) a := ⟨rfl, rfl, rfl⟩
        rw [hplaced, hsame.outcomes_eq (c := c), ih]

/-- A run that leaves nothing out finds no problems. -/
theorem foldl_step_diagnostics {candidates : List Candidate}
    (hplaced : ∀ outcome ∈ a.outcomes c candidates, outcome ≠ none) :
    (candidates.foldl (step c) a).diagnostics = a.diagnostics := by
  induction candidates generalizing a with
  | nil => rfl
  | cons candidate rest ih =>
      rw [outcomes, List.forall_mem_cons] at hplaced
      rw [List.foldl_cons, ih hplaced.2]
      obtain ⟨-, -, -, hstep⟩ | ⟨hplace, -⟩ := step_cases c a candidate
      · rw [hstep]
        rfl
      · exact absurd hplace hplaced.1

end Assembly

section Keys

/-- The keys of an operation under other numbers, if these follow each other as well. -/
theorem Operation.keysFrom_renumber {r : Renumbering} (op : Operation) {first first' : Nat}
    (hkeys : ∀ i < op.keyCount, r.key (first' + i) = first + i) :
    (op.keysFrom first').renumber r = op.keysFrom first := by
  by_cases hone : op.kind.isOneWay
  · have hfirst := hkeys 0 op.keyCount_pos
    simpa [keysFrom, hone, OperationKeys.renumber] using hfirst
  · have hcount : op.keyCount = 3 + op.streamDirections := by simp [keyCount, hone]
    have hinput : (op.inputStream.map fun _ => first' + 3).map r.key =
        op.inputStream.map fun _ => first + 3 := by
      cases hin : op.inputStream with
      | none => rfl
      | some item =>
          have hlt : 3 < op.keyCount := by
            simp only [hcount, streamDirections, hin, Option.isSome_some, Bool.toNat_true]
            omega
          rw [Option.map_some, Option.map_some, Option.map_some, hkeys 3 hlt]
    have houtput : (op.outputStream.map fun _ => first' + 3 + op.inputStream.isSome.toNat).map
        r.key = op.outputStream.map fun _ => first + 3 + op.inputStream.isSome.toNat := by
      cases hout : op.outputStream with
      | none => rfl
      | some item =>
          have hlt : 3 + op.inputStream.isSome.toNat < op.keyCount := by
            simp [hcount, streamDirections, hout]
          rw [Option.map_some, Option.map_some, Option.map_some, Nat.add_assoc, hkeys _ hlt,
            Nat.add_assoc]
    have h0 : r.key first' = first := hkeys 0 (by omega)
    have h1 := hkeys 1 (by omega)
    have h2 := hkeys 2 (by omega)
    simp only [keysFrom, if_neg hone, OperationKeys.renumber, hinput, houtput, h0, h1, h2]

namespace KeyTable

/-- Some operations get their keys from `next` on; each of them had a block that started elsewhere.
The key of the old blocks that a new key stands for. -/
def standsFor : Nat → List (Operation × Nat) → Nat → Nat
  | _, [], key => key
  | next, (op, first) :: rest, key =>
    if key < next then key
    else if key < next + op.keyCount then first + (key - next)
    else standsFor (next + op.keyCount) rest key

/-- Lower keys are not handed out again. -/
theorem standsFor_of_lt {next key : Nat} (entries : List (Operation × Nat))
    (h : key < next) : standsFor next entries key = key := by
  cases entries with
  | nil => rfl
  | cons entry rest => rw [standsFor, if_pos h]

/-- The keys of an operation stand for the keys that it had. -/
theorem standsFor_block {entries : List (Operation × Nat)} {next i : Nat} {op : Operation}
    {first : Nat} (hentry : entries[i]? = some (op, first)) {j : Nat} (hj : j < op.keyCount) :
    standsFor next entries (next + keyTotal ((entries.map Prod.fst).take i) + j) = first + j := by
  induction entries generalizing next i with
  | nil => cases hentry
  | cons entry rest ih =>
      cases i with
      | zero =>
          cases hentry
          rw [standsFor, List.take_zero, keyTotal, if_neg (by omega), if_pos (by omega)]
          omega
      | succ i =>
          have hkey : next + keyTotal ((List.map Prod.fst (entry :: rest)).take (i + 1)) + j =
              next + entry.1.keyCount + keyTotal ((rest.map Prod.fst).take i) + j := by
            rw [List.map_cons, List.take_succ_cons, keyTotal]
            omega
          rw [hkey, standsFor, if_neg (by omega), if_neg (by omega)]
          exact ih hentry

end KeyTable

end Keys

/-- The key a caller sends is the first one of the operation. -/
theorem Operation.outbound_keysFrom (op : Operation) (first : MessageKey) :
    (op.keysFrom first).outbound = first := by
  unfold keysFrom
  split <;> rfl

/-- Some of the operations of a sound contract make up a sound contract. -/
theorem Contract.Sound.of_sublist {c : Contract} {options : Options} {ops : List Operation}
    (h : c.Sound options) (hsub : ops.Sublist c.operations) :
    Contract.Sound { c with operations := ops } options where
  registry := h.registry
  symbols op hop :=
    have hresolves := h.symbols op (hsub.subset hop)
    ⟨hresolves.faults, hresolves.input, hresolves.output⟩
  keys hne := by
    have htotal := KeyTable.keyTotal_le_of_sublist hsub
    have hall : c.operations ≠ [] := by
      intro hnil
      rw [hnil, List.sublist_nil] at hsub
      exact hne hsub
    exact Nat.le_trans (Nat.sub_le_sub_right (Nat.add_le_add_left htotal _) 1) (h.keys hall)

/-- The choice of serializers skips no operation. -/
theorem Contract.warnings_chooseSerializers {c : Contract} {options : Options}
    {diagnostic : Diagnostic} (h : diagnostic ∈ (c.chooseSerializers options).warnings) :
    diagnostic.isError = false := by
  have hfallback : ∀ warning ∈ c.fallbackWarnings, warning.isError = false := by
    intro warning hwarning
    unfold fallbackWarnings at hwarning
    split at hwarning
    · rw [List.mem_singleton.1 hwarning]
      rfl
    · cases hwarning
  unfold chooseSerializers at h
  split at h
  · exact hfallback _ h
  · split at h
    · exact hfallback _ h
    · rcases List.mem_append.1 h with h | h
      · exact hfallback _ h
      · rw [List.mem_singleton.1 h]
        rfl

namespace Compiled

/-- The contract without the operations that were skipped. -/
def withoutSkipped (compiled : Compiled) : Contract :=
  { compiled.contract with operations := compiled.generatedOperations.map Prod.snd }

/-- What the numbers of `compiled.withoutSkipped` stand for: its operations for the generated ones,
and its keys for theirs. -/
def renumbering (compiled : Compiled) (options : Options) : Renumbering where
  index i := (compiled.placements[i]?.map fun p => p.candidate.index).getD i
  key := KeyTable.standsFor options.startKey
    (compiled.placements.map fun p => (p.candidate.operation, p.outboundKey))

/-- An operation stands for the one that was placed at its turn. -/
theorem index_renumbering {compiled : Compiled} (options : Options) {i : Nat} {p : Placement}
    (hp : compiled.placements[i]? = some p) :
    (compiled.renumbering options).index i = p.candidate.index := by
  simp [renumbering, hp]

section Reduced

variable {c : Contract} {options : Options} {compiled : Compiled}
  (h : c.compile options = .ok compiled)
include h

/-- The block of a placed operation. -/
theorem block?_placement {p : Placement} (hp : p ∈ compiled.placements) :
    compiled.keys.block? p.candidate.index = some ⟨p.candidate.operation.name, p.outboundKey,
      p.candidate.operation.keysFrom p.outboundKey⟩ ∧
      p.candidate.keys = p.candidate.operation.keysFrom p.outboundKey := by
  obtain ⟨first, hblock, hkeys⟩ := exists_block h hp
  have hfirst : p.outboundKey = first := by
    rw [Placement.outboundKey, hkeys, Operation.outbound_keysFrom]
  rw [hfirst]
  exact ⟨hblock, hkeys⟩

/-- Only an operation that is accepted is placed. -/
theorem accepted_placement {p : Placement} (hp : p ∈ compiled.placements) :
    p.candidate.accepted = true := by
  rw [placements, Contract.compile_contract h] at hp
  obtain ⟨outcome, houtcome, rfl⟩ := List.mem_filterMap.1 hp
  obtain ⟨i, hi⟩ := List.mem_iff_getElem?.1 houtcome
  exact (Assembly.getElem?_outcomes hi).2

/-- What is left is the contract with the placed operations only. -/
theorem withoutSkipped_eq : compiled.withoutSkipped =
    { c with operations := compiled.placements.map fun p => p.candidate.operation } := by
  obtain rfl := Contract.compile_contract h
  rw [withoutSkipped, generatedOperations_eq h, List.map_map]
  rfl

/-- So its operations are those that were placed. -/
theorem operations_withoutSkipped :
    compiled.withoutSkipped.operations =
      compiled.placements.map fun p => p.candidate.operation := by
  rw [withoutSkipped_eq h]

/-- The name of the contract stays. -/
theorem typeName_withoutSkipped : compiled.withoutSkipped.typeName = c.typeName := by
  rw [withoutSkipped_eq h]
  rfl

theorem qualifiedName_withoutSkipped :
    compiled.withoutSkipped.qualifiedName = c.qualifiedName := by
  rw [withoutSkipped_eq h]
  rfl

/-- So the nodes before those of the operations are the same. -/
theorem start_withoutSkipped : Assembly.start compiled.withoutSkipped = Assembly.start c :=
  Assembly.start_congr (typeName_withoutSkipped h) (qualifiedName_withoutSkipped h)

/-- The operations that are left stand in the order of the placements. -/
theorem getElem?_withoutSkipped {i : Nat} {p : Placement} (hp : compiled.placements[i]? = some p) :
    compiled.withoutSkipped.operations[i]? = some p.candidate.operation := by
  rw [operations_withoutSkipped h, List.getElem?_map, hp, Option.map_some]

/-- What is left is sound, since leaving operations out breaks no rule. -/
theorem withoutSkipped_sound : compiled.withoutSkipped.Sound options := by
  have hsound := Contract.exists_compile_iff_sound.1 ⟨compiled, h⟩
  have hlength := Contract.length_candidates (Contract.compile_keys h)
  rw [withoutSkipped_eq h]
  refine hsound.of_sublist ?_
  rw [← Contract.map_operation_candidates hlength, placements, Contract.compile_contract h]
  simpa [Contract.placements, Function.comp_def] using
    (Assembly.placed_sublist c _ _).map Candidate.operation

/-- Every operation that is left is accepted: it is well-formed, and its name was new among more
operations. -/
theorem withoutSkipped_accepted {i : Nat} {p : Placement} (hp : compiled.placements[i]? = some p) :
    (compiled.withoutSkipped.verdicts.map isAccepted)[i]? = some true := by
  have hmem := List.mem_of_getElem? hp
  obtain ⟨hop, hverdict, -⟩ := mem_placements h hmem
  refine (Contract.accepted_iff (getElem?_withoutSkipped h hp)).2 ⟨wellFormed h hmem, ?_⟩
  intro hused
  rw [operations_withoutSkipped h, ← List.map_take, List.map_map] at hused
  obtain ⟨q, hq, hname⟩ := List.mem_map.1 hused
  -- An operation that is placed before `p` is declared before it, where its name was seen.
  have hbefore : q.candidate.index < p.candidate.index := by
    have hascends := placements_pairwise_index h
    rw [← List.take_append_drop i compiled.placements, List.map_append, List.pairwise_append]
      at hascends
    have hlater : p ∈ compiled.placements.drop i :=
      List.mem_of_getElem? (i := 0) (by rw [List.getElem?_drop]; exact hp)
    exact hascends.2.2 _ (List.mem_map.2 ⟨q, hq, rfl⟩) _ (List.mem_map.2 ⟨p, hlater, rfl⟩)
  have hseen : q.candidate.operation ∈ c.operations.take p.candidate.index := by
    refine List.mem_of_getElem? (i := q.candidate.index) ?_
    rw [List.getElem?_take_of_lt hbefore]
    exact (mem_placements h (List.mem_of_mem_take hq)).1
  exact ((Contract.accepted_iff hop).1 hverdict).2 (List.mem_map.2 ⟨_, hseen, hname⟩)

/-- An operation that is left stands for the placed one, and its block for that one's block. -/
theorem block?_renumber {keys : KeyTable}
    (hkeys : KeyTable.allocate compiled.withoutSkipped options = .ok keys) {i : Nat}
    {p : Placement} (hp : compiled.placements[i]? = some p) :
    (keys.block? i).map (KeyBlock.renumber (compiled.renumbering options)) =
      some ⟨p.candidate.operation.name, p.outboundKey,
        p.candidate.operation.keysFrom p.outboundKey⟩ := by
  have hentry : (compiled.placements.map fun p => (p.candidate.operation, p.outboundKey))[i]? =
      some (p.candidate.operation, p.outboundKey) := by
    rw [List.getElem?_map, hp, Option.map_some]
  have hstands : ∀ j < p.candidate.operation.keyCount, (compiled.renumbering options).key
      (options.startKey + KeyTable.keyTotal (compiled.withoutSkipped.operations.take i) + j) =
        p.outboundKey + j := by
    intro j hj
    have hblock : KeyTable.standsFor options.startKey _ (options.startKey + _ + j) = _ :=
      KeyTable.standsFor_block hentry hj
    rw [List.map_map] at hblock
    rw [operations_withoutSkipped h]
    exact hblock
  rw [KeyTable.block?, KeyTable.allocate_blocks hkeys, KeyTable.getElem?_blocksAt_eq,
    getElem?_withoutSkipped h hp, Option.map_some, Option.map_some, KeyBlock.renumber,
    Operation.keysFrom_renumber _ hstands]
  have hfirst := hstands 0 (Operation.keyCount_pos _)
  rw [Nat.add_zero, Nat.add_zero] at hfirst
  rw [hfirst]

/-- **What is left.**  The candidates of the contract without skipped operations are, renumbered,
the candidates that were placed. -/
theorem candidates_renumber {keys : KeyTable}
    (hkeys : KeyTable.allocate compiled.withoutSkipped options = .ok keys) :
    (compiled.withoutSkipped.candidates (compiled.withoutSkipped.verdicts.map isAccepted) keys).map
        (Candidate.renumber (compiled.renumbering options)) =
      compiled.placements.map Placement.candidate := by
  have hlength := Contract.length_candidates hkeys
  rw [operations_withoutSkipped h, List.length_map] at hlength
  refine List.ext_getElem (by rw [List.length_map, List.length_map, hlength]) ?_
  intro i hi hi'
  rw [List.length_map] at hi hi'
  rw [List.getElem_map, List.getElem_map]
  have hp := List.getElem?_eq_getElem hi'
  have hmem := List.mem_of_getElem? hp
  obtain ⟨hposition, hop, hverdict, block, hblock, hkeys'⟩ :=
    Contract.getElem?_candidates (List.getElem?_eq_getElem hi)
  rw [getElem?_withoutSkipped h hp, Option.some_inj] at hop
  rw [withoutSkipped_accepted h hp, ← accepted_placement h hmem, Option.some_inj] at hverdict
  have hrenumbered := block?_renumber h hkeys hp
  rw [hblock, Option.map_some, Option.some_inj] at hrenumbered
  rw [Candidate.renumber, hposition, ← hop, ← hverdict, hkeys']
  have hsame : block.keys.renumber (compiled.renumbering options) =
      compiled.placements[i].candidate.keys :=
    (congrArg KeyBlock.keys hrenumbered).trans (block?_placement h hmem).2.symm
  rw [index_renumbering options hp, hsame]

/-- **Nothing is left out.**  Every operation of the contract without skipped operations is placed,
and it is placed where it was. -/
theorem outcomes_withoutSkipped {keys : KeyTable}
    (hkeys : KeyTable.allocate compiled.withoutSkipped options = .ok keys) :
    (compiled.withoutSkipped.outcomes keys).map
        (Option.map (Placement.renumber (compiled.renumbering options))) =
      compiled.placements.map some := by
  have hsame : Assembly.SameNames (Assembly.start compiled.withoutSkipped) (Assembly.start c) := by
    rw [start_withoutSkipped h]
    exact .refl _
  have hrun : (Assembly.start c).outcomes c ((compiled.withoutSkipped.candidates
        (compiled.withoutSkipped.verdicts.map isAccepted) keys).map
          (Candidate.renumber (compiled.renumbering options))) =
      (compiled.withoutSkipped.outcomes keys).map
        (Option.map (Placement.renumber (compiled.renumbering options))) :=
    hsame.outcomes_renumber _ _
  rw [← hrun, candidates_renumber h hkeys, placements, Contract.compile_contract h]
  exact Assembly.outcomes_placed _

/-- No operation of what is left is skipped again. -/
theorem ne_none_of_mem_outcomes {keys : KeyTable}
    (hkeys : KeyTable.allocate compiled.withoutSkipped options = .ok keys)
    {outcome : Option Placement} (houtcome : outcome ∈ compiled.withoutSkipped.outcomes keys) :
    outcome ≠ none := by
  rintro rfl
  have hplaced : none ∈ compiled.placements.map some := by
    rw [← outcomes_withoutSkipped h hkeys]
    exact List.mem_map.2 ⟨none, houtcome, rfl⟩
  simp at hplaced

/-- The faults of a placed operation are numbered anew with it. -/
theorem faultSet?_renumber (p : Placement) :
    (p.renumber (compiled.renumbering options)).faultSet? c =
      (p.faultSet? compiled.withoutSkipped).map
        (FaultSet.renumber (compiled.renumbering options)) := by
  have hset : p.faultSet? compiled.withoutSkipped = p.faultSet? c := by
    refine Operation.faultSet?_congr (fun fault _ => Contract.specificity_congr ?_ _) _ _
    rw [withoutSkipped_eq h]
  rw [hset, Placement.faultSet?_renumber]

end Reduced

/-- Apart from the numbers of operations and keys, `compiled` is what `reduced` is. -/
structure SameUpTo (r : Renumbering) (compiled reduced : Compiled) : Prop where
  /-- An operation stands for the generated one at the same place among the generated ones. -/
  index : ∀ i < reduced.contract.operations.length,
    (compiled.generatedOperations.map Prod.fst)[i]? = some (r.index i)
  /-- Its block of keys stands for the block of that one. -/
  keys : ∀ i < reduced.contract.operations.length,
    compiled.keys.block? (r.index i) = (reduced.keys.block? i).map (KeyBlock.renumber r)
  nodes : compiled.catalog.nodes = reduced.catalog.nodes.map (Node.renumber r)
  faultSets : compiled.catalog.faultSets = reduced.catalog.faultSets.map (FaultSet.renumber r)
  surface : ∀ peer, compiled.surface peer = (reduced.surface peer).renumber r
  dispatch : ∀ peer, compiled.dispatch peer = (reduced.dispatch peer).renumber r

section Recompiled

variable {c : Contract} {options : Options} {compiled reduced : Compiled}
  (h : c.compile options = .ok compiled)
  (h' : compiled.withoutSkipped.compile options = .ok reduced)
include h h'

/-- The placements are those of the rest with other numbers. -/
theorem placements_renumber :
    compiled.placements =
      reduced.placements.map (Placement.renumber (compiled.renumbering options)) := by
  have houtcomes := outcomes_withoutSkipped h (Contract.compile_keys h')
  have hreduced : reduced.placements =
      (compiled.withoutSkipped.outcomes reduced.keys).filterMap id := by
    rw [placements, Contract.compile_contract h']
    rfl
  have hplaced := congrArg (List.filterMap id) houtcomes
  rw [List.filterMap_map, List.filterMap_map, Function.id_comp, Function.id_comp,
    List.filterMap_some] at hplaced
  rw [← hplaced, hreduced, List.map_filterMap]
  rfl

theorem directed_renumber (direction : Direction) :
    compiled.directed direction =
      (reduced.directed direction).map (Placement.renumber (compiled.renumbering options)) := by
  rw [directed, directed, placements_renumber h h', List.filter_map]
  rfl

/-- Every operation of the contract without skipped operations is generated. -/
theorem isGenerated_withoutSkipped {i : Nat} (hi : i < reduced.contract.operations.length) :
    reduced.isGenerated i = true := by
  have hkeys := Contract.compile_keys h'
  have hlength : (compiled.withoutSkipped.outcomes reduced.keys).length =
      reduced.contract.operations.length := by
    rw [Contract.compile_contract h', Contract.length_outcomes hkeys]
  have houtcome := List.getElem?_eq_getElem (hlength ▸ hi)
  obtain ⟨p, hp⟩ := Option.ne_none_iff_exists'.1
    (ne_none_of_mem_outcomes h hkeys (List.mem_of_getElem? houtcome))
  rw [isGenerated_eq h', Catalog.operation?, catalog_operations h', List.getElem?_map, houtcome, hp]
  rfl

/-- So are the nodes of the catalog. -/
theorem nodes_renumber :
    compiled.catalog.nodes =
      reduced.catalog.nodes.map (Node.renumber (compiled.renumbering options)) := by
  have hsystem : ∀ message : SystemMessage,
      (compiled.renumbering options).key message.key = message.key := by
    intro message
    have hreserved : message.key ≤ reservedKeys := by cases message <;> decide
    exact KeyTable.standsFor_of_lt _
      (Nat.lt_of_le_of_lt hreserved (KeyTable.reservedKeys_lt_startKey options))
  have hstart : Draft.finalizeFrom compiled.withoutSkipped.qualifiedName 0
        compiled.withoutSkipped.systemDrafts =
      Draft.finalizeFrom c.qualifiedName 0 c.systemDrafts :=
    congrArg Assembly.nodes (start_withoutSkipped h)
  rw [catalog_nodes h, catalog_nodes h', hstart,
    Placement.nodes_congr (typeName_withoutSkipped h) (qualifiedName_withoutSkipped h),
    List.map_append, ← Draft.finalizeFrom_renumber, Contract.systemDrafts_renumber _ _ hsystem,
    placements_renumber h h', List.flatMap_map, List.map_flatMap]
  simp only [Placement.nodes_renumber]

theorem faultSets_renumber :
    compiled.catalog.faultSets =
      reduced.catalog.faultSets.map (FaultSet.renumber (compiled.renumbering options)) := by
  rw [catalog_faultSets h, catalog_faultSets h', placements_renumber h h', List.filterMap_map,
    List.map_filterMap]
  exact List.filterMap_congr fun p _ => faultSet?_renumber h p

/-- So are the surfaces. -/
theorem surface_renumber (peer : Peer) :
    compiled.surface peer = (reduced.surface peer).renumber (compiled.renumbering options) := by
  have hchoice : c.chooseSerializers options =
      compiled.withoutSkipped.chooseSerializers options := by
    rw [withoutSkipped_eq h]
    rfl
  rw [Contract.compile_surface h, Contract.compile_surface h', hchoice]
  refine Surface.build_renumber _ _ (typeName_withoutSkipped h).symm ?_
  rw [catalog_directed_eq h, catalog_directed_eq h', directed_renumber h h', List.map_map,
    List.map_map]
  rfl

/-- An arm has its numbers changed in the same way. -/
theorem arm_renumber {p : Placement} (hp : p ∈ reduced.placements) :
    (p.renumber (compiled.renumbering options)).generated.arm compiled.catalog
        (p.renumber (compiled.renumbering options)).outboundKey =
      (p.generated.arm reduced.catalog p.outboundKey).renumber (compiled.renumbering options) := by
  have hp' : p.renumber (compiled.renumbering options) ∈ compiled.placements := by
    rw [placements_renumber h h']
    exact List.mem_map.2 ⟨p, hp, rfl⟩
  have hset := catalog_faultSet? h hp'
  rw [faultSet?_renumber h, ← catalog_faultSet? h' hp] at hset
  have hchain : compiled.catalog.catchChain
        ((compiled.renumbering options).index p.generated.index) =
      reduced.catalog.catchChain p.generated.index := by
    have hcarriers : (compiled.catalog.faultSet?
          ((compiled.renumbering options).index p.generated.index)).map FaultSet.carriers =
        (reduced.catalog.faultSet? p.generated.index).map FaultSet.carriers := by
      refine (congrArg (Option.map FaultSet.carriers) hset).trans ?_
      rw [Option.map_map]
      rfl
    rw [Catalog.catchChain, Catalog.catchChain, hcarriers]
  rw [Placement.outboundKey_renumber, Placement.generated_renumber]
  exact Generated.arm_renumber _ _ _ hchain

/-- So have the dispatch plans. -/
theorem dispatch_renumber (peer : Peer) :
    compiled.dispatch peer = (reduced.dispatch peer).renumber (compiled.renumbering options) := by
  have hhandlers : (compiled.dispatch peer).handlers =
      (reduced.dispatch peer).handlers.map (Handler.renumber (compiled.renumbering options)) := by
    rw [handlers_eq h, handlers_eq h', directed_renumber h h', List.map_map, List.map_map]
    rfl
  have harms : (compiled.dispatch peer).arms =
      (reduced.dispatch peer).arms.map (Arm.renumber (compiled.renumbering options)) := by
    rw [arms_eq h, arms_eq h', directed_renumber h h', List.map_map, List.map_map]
    exact List.map_congr_left fun p hp => arm_renumber h h' (mem_directed.1 hp).1
  rw [Contract.compile_dispatch h, Contract.compile_dispatch h'] at hhandlers harms ⊢
  exact DispatchPlan.build_renumber _ (typeName_withoutSkipped h).symm hhandlers harms

/-- Nothing is wrong with the operations that are left. -/
theorem diagnostics_withoutSkipped :
    ∀ diagnostic ∈ reduced.diagnostics, diagnostic.isError = false := by
  have hverdicts : ∀ verdict ∈ compiled.withoutSkipped.verdicts, isAccepted verdict = true := by
    intro verdict hverdict
    obtain ⟨i, hi⟩ := List.mem_iff_getElem?.1 hverdict
    have hlt : i < compiled.placements.length := by
      have hlength := (List.getElem?_eq_some_iff.1 hi).1
      rwa [Contract.verdicts, length_verdictsFrom, operations_withoutSkipped h, List.length_map]
        at hlength
    have haccepted := withoutSkipped_accepted h (List.getElem?_eq_getElem hlt)
    rwa [List.getElem?_map, hi, Option.map_some, Option.some_inj] at haccepted
  have hassembly : (compiled.withoutSkipped.assembly reduced.keys).diagnostics = [] := by
    exact Assembly.foldl_step_diagnostics fun _ =>
      ne_none_of_mem_outcomes h (Contract.compile_keys h')
  rw [Contract.compile_diagnostics h', hassembly, List.append_nil]
  intro diagnostic hdiagnostic
  rcases List.mem_append.1 hdiagnostic with hfound | hwarning
  · obtain ⟨verdict, hverdict, hmem⟩ := List.mem_flatten.1 hfound
    have haccepted := hverdicts verdict hverdict
    rw [isAccepted, Bool.not_eq_true', List.any_eq_false] at haccepted
    simpa using haccepted diagnostic hmem
  · exact Contract.warnings_chooseSerializers hwarning

/-- Position by position, operations and blocks stand for the placed ones. -/
theorem block?_withoutSkipped {i : Nat} (hi : i < reduced.contract.operations.length) :
    (compiled.generatedOperations.map Prod.fst)[i]? =
        some ((compiled.renumbering options).index i) ∧
      compiled.keys.block? ((compiled.renumbering options).index i) =
        (reduced.keys.block? i).map (KeyBlock.renumber (compiled.renumbering options)) := by
  rw [Contract.compile_contract h', operations_withoutSkipped h, List.length_map] at hi
  have hp := List.getElem?_eq_getElem hi
  rw [block?_renumber h (Contract.compile_keys h') hp, index_renumbering options hp]
  refine ⟨?_, (block?_placement h (List.mem_of_getElem? hp)).1⟩
  rw [generatedOperations_eq h, List.map_map, List.getElem?_map, hp]
  rfl

end Recompiled

/-- **Skipped operations leave no trace.**  The contract without the operations that were skipped is
compiled, all its operations are generated without any error, and apart from the numbers of
operations and keys the result is what it was. -/
theorem skipped_leave_no_trace {c : Contract} {options : Options} {compiled : Compiled}
    (h : c.compile options = .ok compiled) :
    ∃ reduced, compiled.withoutSkipped.compile options = .ok reduced ∧
      (∀ i < reduced.contract.operations.length, reduced.isGenerated i = true) ∧
      (∀ diagnostic ∈ reduced.diagnostics, diagnostic.isError = false) ∧
      ∃ r, SameUpTo r compiled reduced := by
  obtain ⟨reduced, h'⟩ := Contract.exists_compile_iff_sound.2 (withoutSkipped_sound h)
  refine ⟨reduced, h', fun i hi => isGenerated_withoutSkipped h h' hi,
    diagnostics_withoutSkipped h h', compiled.renumbering options, ?_⟩
  exact
    { index := fun i hi => (block?_withoutSkipped h h' hi).1
      keys := fun i hi => (block?_withoutSkipped h h' hi).2
      nodes := nodes_renumber h h'
      faultSets := faultSets_renumber h h'
      surface := surface_renumber h h'
      dispatch := dispatch_renumber h h' }

/-- In the sample contract the third of four operations is skipped. -/
theorem chat_skipped_leave_no_trace :
    ∃ compiled, Contract.chat.compile {} = .ok compiled ∧
      compiled.generatedOperations.map Prod.fst = [0, 1, 3] ∧
      ∃ reduced, compiled.withoutSkipped.compile {} = .ok reduced ∧
        (∀ i < reduced.contract.operations.length, reduced.isGenerated i = true) ∧
        (∀ diagnostic ∈ reduced.diagnostics, diagnostic.isError = false) ∧
        ∃ r, SameUpTo r compiled reduced := by
  obtain ⟨compiled, h, hcheck⟩ := Contract.exists_compile Contract.chat {}
    (fun compiled => compiled.generatedOperations.map Prod.fst = [0, 1, 3]) (by decide +kernel)
  exact ⟨compiled, h, of_decide_eq_true hcheck, skipped_leave_no_trace h⟩

end Compiled

end ServiceContract
