import Mathlib.Data.List.Infix
import ServiceContract.Proofs.Rejection
import ServiceContract.Proofs.Renumbering

/-!
# Append-only evolution

A contract evolves: operations, fault payloads and stream items are declared behind those it has.
Peers that were built before keep working, because nothing they rely on moves.  Whatever was
compiled is still there in the new compilation, at its old place and under its old numbers, and
everything new stands behind it.

All of this comes down to one fact: each step of a compilation looks backwards only.  Keys and
verdicts depend on the operations before, and so does the assembly (`Contract.ExtendedBy.outcomes`).
The one look forward is the order of fault carriers, which reads the whole fault registry; but a
registry that passed its check has all the bases of its payloads, so further entries are never met
(`Contract.specificity_of_extension`).

`Compiled.wire_compatible` collects what is kept.
-/

namespace ServiceContract

/-- `c'` declares what `c` declares, and possibly more behind it. -/
structure Contract.ExtendedBy (c c' : Contract) : Prop where
  space : c'.space = c.space
  name : c'.name = c.name
  serializers : c'.serializers = c.serializers
  defaultSerializer : c'.defaultSerializer = c.defaultSerializer
  operations : c.operations <+: c'.operations
  faultKinds : c.faultKinds <+: c'.faultKinds
  streamItems : c.streamItems <+: c'.streamItems

namespace Contract.ExtendedBy

variable {c c' : Contract} {options : Options} (hext : c.ExtendedBy c')
include hext

/-- An extension keeps the name of the contract. -/
theorem typeName_eq : c'.typeName = c.typeName := by
  rw [typeName, typeName, hext.name]

theorem qualifiedName_eq : c'.qualifiedName = c.qualifiedName := by
  rw [qualifiedName, qualifiedName, hext.name, hext.space]

/-- The serializers are chosen as before. -/
theorem chooseSerializers_eq : c'.chooseSerializers options = c.chooseSerializers options := by
  have huse : c'.serializersInUse = c.serializersInUse := by
    rw [serializersInUse, serializersInUse, hext.serializers]
  have hfirst : c'.firstSerializer = c.firstSerializer := by
    rw [firstSerializer, firstSerializer, hext.serializers]
  have hwarnings : c'.fallbackWarnings = c.fallbackWarnings := by
    rw [fallbackWarnings, fallbackWarnings, hext.serializers, hext.qualifiedName_eq]
  rw [chooseSerializers, chooseSerializers, huse, hfirst, hwarnings, hext.defaultSerializer,
    hext.qualifiedName_eq]

/-- So the nodes before those of the operations are the same. -/
theorem start_eq : Assembly.start c' = Assembly.start c :=
  Assembly.start_congr hext.typeName_eq hext.qualifiedName_eq

variable {keys keys' : KeyTable} (hkeys : KeyTable.allocate c options = .ok keys)
  (hkeys' : KeyTable.allocate c' options = .ok keys')
include hkeys hkeys'

/-- **Keys look backwards.** -/
theorem blocks : keys.blocks <+: keys'.blocks := by
  obtain ⟨more, hmore⟩ := hext.operations
  rw [KeyTable.allocate_blocks hkeys, KeyTable.allocate_blocks hkeys', ← hmore,
    KeyTable.blocksAt_append]
  exact List.prefix_append _ _

/-- The operations of `c` are the first candidates of `c'`. -/
theorem candidates :
    c.candidates (c.verdicts.map isAccepted) keys <+:
      c'.candidates (c'.verdicts.map isAccepted) keys' := by
  obtain ⟨moreOperations, hoperations⟩ := hext.operations
  obtain ⟨moreBlocks, hblocks⟩ := hext.blocks hkeys hkeys'
  obtain ⟨seen, hverdicts⟩ := verdictsFrom_append [] c.operations moreOperations
  have hlength : keys.blocks.length = c.operations.length := by
    rw [KeyTable.allocate_blocks hkeys, KeyTable.length_blocksAt]
  rw [Contract.candidates, Contract.candidates, ← hoperations, ← hblocks, verdicts, verdicts,
    ← hoperations, hverdicts, List.map_append, List.zip_append, List.zip_append, List.zipIdx_append,
    List.map_append]
  · exact List.prefix_append _ _
  · simp [length_verdictsFrom, hlength]
  · simp [length_verdictsFrom, hlength]

/-- **The assembly looks backwards.**  Each operation of `c` has the same outcome in `c'`. -/
theorem outcomes : c.outcomes keys <+: c'.outcomes keys' := by
  obtain ⟨more, hmore⟩ := hext.candidates hkeys hkeys'
  have hsame : (Assembly.start c').outcomes c' (c.candidates (c.verdicts.map isAccepted) keys) =
      c.outcomes keys := by
    rw [hext.start_eq]
    exact (Assembly.SameNames.refl _).outcomes_eq _
  change c.outcomes keys <+: (Assembly.start c').outcomes c' _
  rw [← hmore, Assembly.outcomes_append, hsame]
  exact List.prefix_append _ _

end Contract.ExtendedBy

/-- A longer table of arms finds whatever its first part finds. -/
theorem DispatchPlan.dispatch_of_extension {plan plan' : DispatchPlan}
    (harms : plan.arms <+: plan'.arms) {key : MessageKey} {arm : Arm}
    (h : plan.dispatch key = .arm arm) : plan'.dispatch key = .arm arm := by
  obtain ⟨more, hmore⟩ := harms
  unfold dispatch at h
  split at h
  · next found hfound =>
      rw [dispatch, ← hmore, List.find?_append, hfound, Option.some_or]
      exact h
  · cases h

namespace Compiled

/-- Whatever `old` has is still there in `new`, at its place, and the rest stands behind it. -/
structure KeptBy (old new : Compiled) : Prop where
  keys : old.keys.blocks <+: new.keys.blocks
  generated : ∀ i < old.contract.operations.length, new.isGenerated i = old.isGenerated i
  nodes : old.catalog.nodes <+: new.catalog.nodes
  operations : old.catalog.operations <+: new.catalog.operations
  faultSets : old.catalog.faultSets <+: new.catalog.faultSets
  methods : ∀ peer, (old.surface peer).methods <+: (new.surface peer).methods
  streams : ∀ peer, (old.surface peer).streams <+: (new.surface peer).streams
  prebuild : ∀ peer, (old.surface peer).prebuild <+: (new.surface peer).prebuild
  handlers : ∀ peer, (old.dispatch peer).handlers <+: (new.dispatch peer).handlers
  arms : ∀ peer, (old.dispatch peer).arms <+: (new.dispatch peer).arms
  /-- A key that was handled is handled the same way. -/
  dispatch : ∀ peer key arm, (old.dispatch peer).dispatch key = .arm arm →
    (new.dispatch peer).dispatch key = .arm arm

section Kept

variable {c c' : Contract} {options : Options} {old new : Compiled}
  (hext : c.ExtendedBy c') (h : c.compile options = .ok old)
include hext h

/-- The fault set of a placed operation stays: its payloads are as specific as before. -/
theorem faultSet?_kept {p : Placement} (hp : p ∈ old.placements) :
    p.faultSet? c' = p.faultSet? c := by
  obtain ⟨hregistry, hsymbols, -⟩ := Contract.exists_compile_iff_sound.1 ⟨old, h⟩
  have hop := List.mem_of_getElem? (mem_placements h hp).1
  refine Operation.faultSet?_congr ?_ _ _
  intro fault hfault
  exact Contract.specificity_of_extension hregistry hext.faultKinds
    ((hsymbols _ hop).faults fault hfault)

variable (h' : c'.compile options = .ok new)
include h'

/-- What was placed is placed again in the same way, before anything new. -/
theorem placements_kept : old.placements <+: new.placements := by
  rw [placements, placements, Contract.compile_contract h, Contract.compile_contract h']
  exact (hext.outcomes (Contract.compile_keys h) (Contract.compile_keys h')).filterMap id

theorem directed_kept (direction : Direction) :
    old.directed direction <+: new.directed direction :=
  (placements_kept hext h h').filter _

/-- The nodes of the catalog keep their numbers. -/
theorem nodes_kept : old.catalog.nodes <+: new.catalog.nodes := by
  have hstart : Draft.finalizeFrom c'.qualifiedName 0 c'.systemDrafts =
      Draft.finalizeFrom c.qualifiedName 0 c.systemDrafts :=
    congrArg Assembly.nodes hext.start_eq
  rw [catalog_nodes h, catalog_nodes h', hstart,
    Placement.nodes_congr hext.typeName_eq hext.qualifiedName_eq, List.prefix_append_right_inj]
  exact (placements_kept hext h h').flatMap _

theorem operations_kept : old.catalog.operations <+: new.catalog.operations := by
  rw [catalog_operations h, catalog_operations h']
  exact (hext.outcomes (Contract.compile_keys h) (Contract.compile_keys h')).map _

theorem faultSets_kept : old.catalog.faultSets <+: new.catalog.faultSets := by
  rw [catalog_faultSets h, catalog_faultSets h',
    ← List.filterMap_congr fun p hp => faultSet?_kept hext h hp]
  exact (placements_kept hext h h').filterMap _

/-- An arm stays as it was, with its catch chain. -/
theorem arm_kept {p : Placement} (hp : p ∈ old.placements) :
    p.generated.arm new.catalog p.outboundKey = p.generated.arm old.catalog p.outboundKey := by
  have hp' : p ∈ new.placements := (placements_kept hext h h').mem hp
  have hset : new.catalog.faultSet? p.generated.index = old.catalog.faultSet? p.generated.index :=
    calc new.catalog.faultSet? p.generated.index
      _ = p.faultSet? c' := catalog_faultSet? h' hp'
      _ = p.faultSet? c := faultSet?_kept hext h hp
      _ = old.catalog.faultSet? p.generated.index := (catalog_faultSet? h hp).symm
  simp only [Generated.arm, Catalog.catchChain, hset]

/-- The arms of a plan stay before the new ones. -/
theorem arms_kept (peer : Peer) : (old.dispatch peer).arms <+: (new.dispatch peer).arms := by
  have hold : (old.directed peer.handles).map
        (fun p => p.generated.arm new.catalog p.outboundKey) =
      (old.directed peer.handles).map fun p => p.generated.arm old.catalog p.outboundKey :=
    List.map_congr_left fun p hp => arm_kept hext h h' (mem_directed.1 hp).1
  rw [arms_eq h, arms_eq h', ← hold]
  exact (directed_kept hext h h' _).map _

/-- Whether an old operation is generated does not change. -/
theorem isGenerated_kept {i : Nat} (hi : i < c.operations.length) :
    new.isGenerated i = old.isGenerated i := by
  have hlength : old.catalog.operations.length = c.operations.length := by
    rw [catalog_operations h, List.length_map, Contract.length_outcomes (Contract.compile_keys h)]
  obtain ⟨more, hmore⟩ := operations_kept hext h h'
  rw [isGenerated_eq h', isGenerated_eq h, Catalog.operation?, Catalog.operation?, ← hmore,
    List.getElem?_append_left (hlength ▸ hi)]

end Kept

/-- **Append-only evolution is wire compatible.**  If a contract is extended behind its declarations
and both are compiled, the new compilation keeps everything of the old one: keys, types, fault sets,
stubs, handlers, arms, and the arm that each known key leads to. -/
theorem wire_compatible {c c' : Contract} {options : Options} {old new : Compiled}
    (hext : c.ExtendedBy c') (h : c.compile options = .ok old)
    (h' : c'.compile options = .ok new) : old.KeptBy new where
  keys := hext.blocks (Contract.compile_keys h) (Contract.compile_keys h')
  generated i hi := isGenerated_kept hext h h' (Contract.compile_contract h ▸ hi)
  nodes := nodes_kept hext h h'
  operations := operations_kept hext h h'
  faultSets := faultSets_kept hext h h'
  methods peer := by
    rw [methods_eq h, methods_eq h']
    exact (directed_kept hext h h' _).flatMap _
  streams peer := by
    rw [streams_eq h, streams_eq h']
    exact (directed_kept hext h h' _).filterMap _
  prebuild peer := by
    rw [prebuild_eq h, prebuild_eq h', hext.chooseSerializers_eq]
    exact (directed_kept hext h h' _).filterMap _
  handlers peer := by
    rw [handlers_eq h, handlers_eq h']
    exact (directed_kept hext h h' _).map _
  arms := arms_kept hext h h'
  dispatch peer _ _ harm := DispatchPlan.dispatch_of_extension (arms_kept hext h h' peer) harm

end Compiled

/-- The sample contract, extended by an operation that is skipped, because its name is used, one
that is generated, a registry entry that has no effect, and a more specific payload. -/
def Contract.chatExtended : Contract :=
  { chat with
    operations := chat.operations ++
      [{ name := "echo", kind := ⟨.oneWay, .toServer⟩ },
       { name := "Fetch", kind := ⟨.requestResponse, .toServer⟩
         faults := [⟨1, .named "Busy"⟩, ⟨2, .named "Stale"⟩] }]
    faultKinds := chat.faultKinds ++
      [⟨.named "Busy", none⟩, ⟨.named "Stale", some (.named "Closed")⟩] }

/-- A chat and an extension of it compile, and the extension keeps the chat. -/
theorem Compiled.chat_wire_compatible :
    Contract.chat.ExtendedBy Contract.chatExtended ∧
      ∃ old new, Contract.chat.compile {} = .ok old ∧ Contract.chatExtended.compile {} = .ok new ∧
        (old.catalog.nodes.length = 21 ∧ new.catalog.nodes.length = 27 ∧
          new.generatedOperations.map Prod.fst = [0, 1, 3, 5]) ∧
        old.KeptBy new := by
  have hext : Contract.chat.ExtendedBy Contract.chatExtended :=
    ⟨rfl, rfl, rfl, rfl, List.prefix_append _ _, List.prefix_append _ _, List.prefix_refl _⟩
  obtain ⟨old, h, hold⟩ := Contract.exists_compile Contract.chat {}
    (fun compiled => compiled.catalog.nodes.length = 21) (by decide +kernel)
  obtain ⟨new, h', hnew⟩ := Contract.exists_compile Contract.chatExtended {}
    (fun compiled => compiled.catalog.nodes.length = 27 ∧
      compiled.generatedOperations.map Prod.fst = [0, 1, 3, 5]) (by decide +kernel)
  exact ⟨hext, old, new, h, h', ⟨of_decide_eq_true hold, of_decide_eq_true hnew⟩,
    wire_compatible hext h h'⟩

end ServiceContract
