import ServiceContract.Proofs.FreshNames
import ServiceContract.Proofs.Unions

/-!
# Every number leads to its type

Types are referred to by their numbers, which are places in the catalog.  Numbers are handed out by
position: the marker of an operation's faults lists its carriers before there are any, and the
surfaces, plans and unions copy numbers from the catalog.  A `Reference` is a number together with
the role and the operation that its place requires, and each part of a compiled contract has a
function that lists the references it holds.

Everything comes down to the placements.  The numbers of a placed operation are those of its drafts
(`Operation.exists_draft_of_reference`), so they resolve (`Compiled.resolves_messages`), and so do
the numbers of its carriers (`Compiled.resolves_carrier`); whatever else is referred to was copied
from these.

The main statement is `Compiled.references_resolve`.
-/

namespace ServiceContract

/-- The number of a type, with what its place requires of the type. -/
structure Reference where
  id : NodeId
  role : Role
  operation : Option Nat := none
  deriving DecidableEq, Repr

/-! ## What is referred to -/

/-- The pages of the operation at a position. -/
def pageReferences (operation : Nat) (inputPage outputPage : Option NodeId) : List Reference :=
  (inputPage.toList.map fun id => ⟨id, .inputPage, some operation⟩) ++
    outputPage.toList.map fun id => ⟨id, .outputPage, some operation⟩

/-- The marker that a field binds. -/
def FieldType.marker? : FieldType → Option NodeId
  | faultData marker => some marker
  | _ => none

/-- The base of a node, the types declared inside it, and the markers its fields bind.  A carrier
descends from the marker of its operation and any other node from the message base; carriers are
declared inside the marker, and the marker inside the fault. -/
def Node.references (node : Node) : List Reference :=
  (node.base.toList.map fun id =>
    if node.role = .faultCarrier then ⟨id, .faultData, node.operation⟩
    else ⟨id, .messageBase, none⟩) ++
  (node.nested.map fun id =>
    ⟨id, if node.role = .faultData then .faultCarrier else .faultData, node.operation⟩) ++
  ((node.fields.filterMap fun field => field.type.marker?).map fun id =>
    ⟨id, .faultData, node.operation⟩)

/-- The types of the operation at a position. -/
def OperationMessages.references (operation : Nat) : OperationMessages → List Reference
  | oneWay message => [⟨message, .oneWay, some operation⟩]
  | request messages =>
    [⟨messages.request, .request, some operation⟩, ⟨messages.response, .response, some operation⟩,
      ⟨messages.fault, .fault, some operation⟩] ++
    pageReferences operation messages.inputPage messages.outputPage ++
    messages.faultData.toList.map fun id => ⟨id, .faultData, some operation⟩

/-- The marker of a fault set and its carriers. -/
def FaultSet.references (set : FaultSet) : List Reference :=
  ⟨set.marker, .faultData, some set.operation⟩ ::
    set.carriers.map fun carrier => ⟨carrier.node, .faultCarrier, some set.operation⟩

/-- The message a stub sends. -/
def Stub.references (stub : Stub) : List Reference :=
  [⟨stub.message, if stub.oneWay then .oneWay else .request, some stub.operation⟩]

/-- The control messages of a stream. -/
def StreamControl.references (control : StreamControl) : List Reference :=
  [⟨control.pageAck, .system .pageAck, none⟩, ⟨control.cancel, .system .streamCancel, none⟩,
    ⟨control.close, .system .streamClose, none⟩,
    ⟨control.closeAck, .system .streamCloseAck, none⟩]

/-- The messages of a stream. -/
def StreamOpener.references (opener : StreamOpener) : List Reference :=
  [⟨opener.request, .request, some opener.operation⟩,
    ⟨opener.response, .response, some opener.operation⟩,
    ⟨opener.fault, .fault, some opener.operation⟩] ++
  pageReferences opener.operation opener.inputPage opener.outputPage ++ opener.control.references

/-- The message that is built ahead of time. -/
def PrebuildHelper.references (helper : PrebuildHelper) : List Reference :=
  [⟨helper.message, .oneWay, some helper.operation⟩]

/-- Everything a surface refers to. -/
def Surface.references (surface : Surface) : List Reference :=
  surface.methods.flatMap Stub.references ++ surface.streams.flatMap StreamOpener.references ++
    surface.prebuild.flatMap PrebuildHelper.references

/-- The pages of a context. -/
def CallContext.references (operation : Nat) : CallContext → List Reference
  | plain => []
  | streaming inputPage outputPage => pageReferences operation inputPage outputPage

/-- The carrier of a catch branch. -/
def CatchBranch.references (operation : Nat) : CatchBranch → List Reference
  | custom _ _ carrier => [⟨carrier, .faultCarrier, some operation⟩]
  | _ => []

/-- Everything an arm refers to. -/
def Arm.references : Arm → List Reference
  | oneWay _ _ operation _ message => [⟨message, .oneWay, some operation⟩]
  | request arm =>
    [⟨arm.request, .request, some arm.operation⟩, ⟨arm.response, .response, some arm.operation⟩,
      ⟨arm.fault, .fault, some arm.operation⟩] ++
    arm.context.references arm.operation ++
    arm.catchChain.flatMap (CatchBranch.references arm.operation)

/-- Everything a catalog refers to: the message base and the system messages, and whatever its
nodes, operations and fault sets hold. -/
def Catalog.references (catalog : Catalog) : List Reference :=
  ⟨messageBase, .messageBase, none⟩ ::
    (SystemMessage.all.map fun message => ⟨message.node, .system message, none⟩) ++
  catalog.nodes.flatMap Node.references ++
  (catalog.generated.flatMap fun entry => entry.2.references entry.1) ++
  catalog.faultSets.flatMap FaultSet.references

/-- The root and the members of a union of the faults of the operation at a position. -/
def Union.references (operation : Nat) (union : Union) : List Reference :=
  ⟨union.root, .faultData, some operation⟩ ::
    union.members.map fun member => ⟨member.node, .faultCarrier, some operation⟩

/-- Everything the catalog, the surfaces and the plans of a compiled contract refer to. -/
def Compiled.references (compiled : Compiled) : List Reference :=
  compiled.catalog.references ++
    ([Peer.client, .server].flatMap fun peer => (compiled.surface peer).references) ++
    [Peer.client, .server].flatMap fun peer => (compiled.dispatch peer).arms.flatMap Arm.references

/-! ## What it means to resolve -/

namespace Catalog

/-- The number is that of a node with the required role and operation. -/
def Resolves (catalog : Catalog) (reference : Reference) : Prop :=
  ∃ node, catalog.node reference.id = .ok node ∧ node.role = reference.role ∧
    node.operation = reference.operation

/-- The nodes of the carriers of the operation at a position. -/
def carriersOf (catalog : Catalog) (operation : Nat) : List Node :=
  catalog.nodes.filter fun node => node.role = .faultCarrier ∧ node.operation = some operation

/-- A node is found under its number, which is its place. -/
theorem node_eq_ok_iff {catalog : Catalog} {id : NodeId} {node : Node} :
    catalog.node id = .ok node ↔ catalog.nodes[id]? = some node := by
  unfold Catalog.node get?
  cases catalog.nodes[id]? <;> simp

end Catalog

namespace Compiled

/-- A marker lists the carriers of the faults of its operation. -/
structure ListsCarriers (compiled : Compiled) (marker : Node) (index : Nat) (op : Operation) :
    Prop where
  operation_eq : marker.operation = some index
  generated : (index, op) ∈ compiled.generatedOperations
  /-- The listed numbers are those of the carriers, in the order the faults are declared. -/
  nested_eq : marker.nested = (compiled.catalog.carriersOf index).map Node.id
  declared : (compiled.catalog.carriersOf index).map Node.faultKey =
    op.faults.map fun fault => some fault.key
  /-- The hierarchy has the same types below the marker. -/
  children_perm : (compiled.hierarchy.children marker.id).Perm marker.nested

/-- Every number of a compiled contract leads to the type that its place requires. -/
structure Linked (compiled : Compiled) : Prop where
  /-- A number that the catalog knows is the one its node has. -/
  ids : ∀ id node, compiled.catalog.node id = .ok node → node.id = id
  /-- The catalog, the surfaces and the plans. -/
  references : ∀ reference ∈ compiled.references, compiled.catalog.Resolves reference
  /-- A name stands for the node that has it. -/
  names : ∀ entry ∈ compiled.catalog.index.entries, ∃ node,
    compiled.catalog.node entry.2 = .ok node ∧ node.name = entry.1
  /-- The hierarchy is about the nodes of the catalog and their bases. -/
  hierarchy : ∀ entry ∈ compiled.hierarchy.entries, ∃ node,
    compiled.catalog.node entry.node = .ok node ∧ node.base = entry.base
  /-- The union of all messages has the message base as its root and nodes with a key below it. -/
  messageUnion : ∀ adapter ∈ compiled.binding.adapters,
    compiled.catalog.Resolves ⟨adapter.messageUnion.root, .messageBase, none⟩ ∧
      ∀ member ∈ adapter.messageUnion.members, ∃ node,
        compiled.catalog.node member.node = .ok node ∧ node.key = some member.tag
  /-- The union of the faults of an operation has their marker as its root and their carriers below
  it. -/
  faultUnions : ∀ adapter ∈ compiled.binding.adapters,
    List.Forall₂ (fun set union => ∀ reference ∈ Union.references set.operation union,
      compiled.catalog.Resolves reference) compiled.catalog.faultSets adapter.faultUnions
  /-- Every marker lists the carriers of its operation. -/
  markers : ∀ marker ∈ compiled.catalog.nodes, marker.role = .faultData →
    ∃ index op, compiled.ListsCarriers marker index op

end Compiled

/-! ## The numbers of one operation -/

namespace Operation

variable (c : Contract) (index : Nat) (op : Operation) (first : NodeId)

/-- The number of the fault of an operation: the marker and the carriers stand before it. -/
def faultNumber (op : Operation) (first : NodeId) : NodeId :=
  first + 2 + if !op.faults.isEmpty then op.faults.length + 1 else 0

/-- The drafts of a call with an answer, with their numbers. -/
theorem zipIdx_drafts (hone : op.kind.isOneWay = false) (key : MessageKey) :
    (op.drafts c index (op.keysFrom key) first).zipIdx first =
      [(op.requestDraft c index key, first), (op.responseDraft c index (key + 1), first + 1)] ++
      (op.faultDrafts index (if op.faults.isEmpty then none else some (first + 2))).zipIdx
        (first + 2) ++
      [(op.faultDraft c index (key + 2) (if op.faults.isEmpty then none else some (first + 2)),
        op.faultNumber first)] ++
      (op.inputStream.toList.map fun item =>
        (op.pageDraft c index .inputPage (key + 3) item, op.faultNumber first + 1)) ++
      op.outputStream.toList.map fun item =>
        (op.pageDraft c index .outputPage (key + 3 + op.inputStream.isSome.toNat) item,
          op.faultNumber first + 1 + op.inputStream.isSome.toNat) := by
  have hlength : (op.faultDrafts index (if op.faults = [] then none else some (first + 2))).length =
      if op.faults = [] then 0 else op.faults.length + 1 := by
    by_cases hfaults : op.faults = [] <;> simp [hfaults, faultDrafts]
  cases hin : op.inputStream <;> cases hout : op.outputStream <;>
    simp [drafts, requestDrafts, keysFrom, hone, hin, hout, pageDrafts, List.zipIdx_append,
      hlength, faultNumber, Nat.add_assoc]

/-- **The numbers of an operation.**  Each of them is that of a draft with the required role. -/
theorem exists_draft_of_reference (key : MessageKey) {reference : Reference}
    (h : reference ∈ (op.messagesFrom first).references index) :
    ∃ draft, (draft, reference.id) ∈ (op.drafts c index (op.keysFrom key) first).zipIdx first ∧
      draft.role = reference.role ∧ draft.operation = reference.operation := by
  cases hone : op.kind.isOneWay with
  | true =>
      simp only [messagesFrom, hone, if_true, OperationMessages.references,
        List.mem_singleton] at h
      subst h
      exact ⟨op.oneWayDraft c index key, by simp [drafts, keysFrom, hone], rfl, rfl⟩
  | false =>
      rw [zipIdx_drafts c index op first hone key]
      simp only [messagesFrom, hone, Bool.false_eq_true, if_false, OperationMessages.references,
        pageReferences, List.mem_append, List.mem_cons, List.not_mem_nil, or_false, List.mem_map,
        Option.mem_toList, Option.map_eq_some_iff] at h
      rcases h with ((rfl | rfl | rfl) | ⟨_, ⟨item, hitem, rfl⟩, rfl⟩ |
        ⟨_, ⟨item, hitem, rfl⟩, rfl⟩) | ⟨marker, hmarker, rfl⟩
      · exact ⟨op.requestDraft c index key, by simp, rfl, rfl⟩
      · exact ⟨op.responseDraft c index (key + 1), by simp, rfl, rfl⟩
      · exact ⟨op.faultDraft c index (key + 2)
          (if op.faults.isEmpty then none else some (first + 2)), by simp [faultNumber], rfl, rfl⟩
      · exact ⟨op.pageDraft c index .inputPage (key + 3) item, by simp [hitem, faultNumber], rfl,
          rfl⟩
      · exact ⟨op.pageDraft c index .outputPage (key + 3 + op.inputStream.isSome.toNat) item,
          by simp [hitem, faultNumber], rfl, rfl⟩
      · rw [Option.ite_none_right_eq_some] at hmarker
        obtain ⟨hfaults, hmarker⟩ := hmarker
        cases hmarker
        rw [Bool.not_eq_true'] at hfaults
        exact ⟨op.markerDraft index (first + 2), by simp [hfaults, faultDrafts], rfl, rfl⟩

/-- Only an operation that declares faults has a marker. -/
theorem faults_ne_nil_of_marker {keys : OperationKeys} {marker : NodeId}
    (h : op.markerDraft index marker ∈ op.drafts c index keys first) : op.faults ≠ [] := by
  have hdrafts : ∀ draft ∈ op.drafts c index keys first,
      draft.role = .faultData → op.faults ≠ [] := by
    apply forall_mem_drafts
    case marker => exact fun _ _ hfaults _ => hfaults
    case carrier => exact fun _ _ fault hfault _ => List.ne_nil_of_mem hfault
    all_goals
      intros
      contradiction
  exact hdrafts _ h rfl

/-- What a caller sends is a one-way message or a request. -/
theorem outbound_mem_references :
    ⟨(op.messagesFrom first).outbound, if op.kind.isOneWay then .oneWay else .request,
      some index⟩ ∈ (op.messagesFrom first).references index := by
  cases hone : op.kind.isOneWay <;>
    simp [messagesFrom, hone, OperationMessages.outbound, OperationMessages.references]

end Operation

/-! ## What callers and handlers copy -/

namespace Placement

variable {p : Placement} {reference : Reference}

/-- A stub refers to the messages of its operation. -/
theorem references_stub {stub : Stub} (h : stub ∈ p.generated.stubs)
    (hreference : reference ∈ stub.references) :
    reference ∈ p.messages.references p.candidate.index := by
  obtain ⟨base, prebuilt, h⟩ := p.generated.mem_stubsNamed h
  obtain ⟨style, -, rfl⟩ := List.mem_map.1 h
  rw [List.mem_singleton.1 hreference]
  exact p.candidate.operation.outbound_mem_references _ _

/-- A method that opens a stream also refers to the control messages. -/
theorem references_opener {opener : StreamOpener} (h : p.generated.opener? = some opener)
    (hreference : reference ∈ opener.references) :
    reference ∈ p.messages.references p.candidate.index ∨
      reference ∈ StreamControl.standard.references := by
  unfold Generated.opener? at h
  split at h
  · cases h
  · next messages hmessages =>
      rw [Option.ite_none_right_eq_some] at h
      obtain ⟨-, h⟩ := h
      rw [show p.messages = .request messages from hmessages]
      rw [← Option.some.inj h] at hreference
      exact (List.mem_append.1 hreference).imp_left (List.mem_append_left _)

/-- A function that builds a message ahead of time refers to that message. -/
theorem references_helper {serializer : Serializer} {helper : PrebuildHelper}
    (h : p.generated.prebuildHelper? serializer = some helper)
    (hreference : reference ∈ helper.references) :
    reference ∈ p.messages.references p.candidate.index := by
  rw [Generated.prebuildHelper?, Option.ite_none_right_eq_some, Bool.and_eq_true,
    Operation.offersPrebuilt, Bool.and_eq_true] at h
  obtain ⟨⟨-, hone, -⟩, h⟩ := h
  have hsent := p.candidate.operation.outbound_mem_references p.candidate.index p.first
  rw [show p.candidate.operation.kind.isOneWay = true from hone, if_pos rfl] at hsent
  rw [← Option.some.inj h] at hreference
  rw [List.mem_singleton.1 hreference]
  exact hsent

/-- An arm refers to types of its operation, or to what its catch chain binds. -/
theorem references_arm {catalog : Catalog} {key : MessageKey}
    (hreference : reference ∈ (p.generated.arm catalog key).references) :
    reference ∈ p.messages.references p.candidate.index ∨
      reference ∈ (catalog.catchChain p.candidate.index).flatMap
        (CatchBranch.references p.candidate.index) := by
  unfold Generated.arm at hreference
  split at hreference
  · next message hmessages =>
      rw [show p.messages = .oneWay message from hmessages]
      exact .inl hreference
  · next messages hmessages =>
      rw [show p.messages = .request messages from hmessages]
      refine (List.mem_append.1 hreference).imp_left ?_
      intro hreference
      rcases List.mem_append.1 hreference with hreference | hreference
      · exact List.mem_append_left _ (List.mem_append_left _ hreference)
      · dsimp only at hreference
        split at hreference
        · exact List.mem_append_left _ (List.mem_append_right _ hreference)
        · cases hreference

end Placement

/-! ## The catalog -/

namespace Compiled

variable {c : Contract} {options : Options} {compiled : Compiled}

section Resolving

variable (h : c.compile options = .ok compiled)
include h

/-- A node of the catalog is found under its number. -/
theorem node_eq_ok {node : Node} (hnode : node ∈ compiled.catalog.nodes) :
    compiled.catalog.node node.id = .ok node :=
  Catalog.node_eq_ok_iff.2 ((tiered h).getElem?_id hnode)

/-- The message base is where it is expected. -/
theorem resolves_messageBase : compiled.catalog.Resolves ⟨messageBase, .messageBase, none⟩ := by
  refine ⟨c.baseDraft.finalize 0 c.qualifiedName, Catalog.node_eq_ok_iff.2 ?_, rfl, rfl⟩
  rw [Contract.compile_catalog h]
  exact Contract.getElem?_assembly_messageBase

theorem resolves_system (message : SystemMessage) :
    compiled.catalog.Resolves ⟨message.node, .system message, none⟩ := by
  refine ⟨message.draft.finalize message.node c.qualifiedName, Catalog.node_eq_ok_iff.2 ?_, rfl,
    rfl⟩
  rw [catalog_nodes h]
  cases message <;> rfl

section Placed

variable {p : Placement} (hp : p ∈ compiled.placements)
include hp

/-- The numbers of a placed operation lead to its types. -/
theorem resolves_messages {reference : Reference}
    (hreference : reference ∈ p.messages.references p.candidate.index) :
    compiled.catalog.Resolves reference := by
  obtain ⟨key, -, hkeys⟩ := exists_block h hp
  obtain ⟨draft, hdraft, hrole, hoperation⟩ :=
    p.candidate.operation.exists_draft_of_reference c p.candidate.index p.first key hreference
  have hnode : draft.finalize reference.id c.qualifiedName ∈ compiled.catalog.nodes := by
    rw [catalog_nodes h]
    refine List.mem_append_right _ (List.mem_flatMap.2 ⟨p, hp, ?_⟩)
    rw [Placement.nodes, Placement.drafts, hkeys]
    exact List.mem_map.2 ⟨_, hdraft, rfl⟩
  exact ⟨_, node_eq_ok h hnode, hrole, hoperation⟩

/-- Only a call with an answer declares faults. -/
theorem isOneWay_of_faults (hfaults : p.candidate.operation.faults ≠ []) :
    p.candidate.operation.kind.isOneWay = false := by
  cases hone : p.candidate.operation.kind.isOneWay with
  | false => rfl
  | true => exact absurd ((wellFormed h hp).one_way hone).2.2 hfaults

/-- The marker of an operation that declares faults is one of its types. -/
theorem resolves_marker (hfaults : p.candidate.operation.faults ≠ []) :
    compiled.catalog.Resolves ⟨p.first + 2, .faultData, some p.candidate.index⟩ := by
  have hone := isOneWay_of_faults h hp hfaults
  apply resolves_messages h hp
  simp [Placement.messages, Operation.messagesFrom, hone, hfaults, OperationMessages.references]

/-- The numbers after the marker lead to the carriers. -/
theorem node_carrier {entry : Fault × Nat}
    (hentry : entry ∈ p.candidate.operation.faults.zipIdx (p.first + 3)) :
    compiled.catalog.node entry.2 = .ok ((p.candidate.operation.carrierDraft p.candidate.index
      (p.first + 2) entry.1).finalize entry.2 c.qualifiedName) := by
  have hfaults := List.ne_nil_of_mem (List.fst_mem_of_mem_zipIdx hentry)
  exact node_eq_ok h (carrier_mem_nodes h hp (isOneWay_of_faults h hp hfaults) hfaults hentry)

theorem resolves_carrier {carrier : FaultCarrier} (hcarrier : carrier ∈
      (p.candidate.operation.faultSet c p.candidate.index (p.first + 2)).carriers) :
    compiled.catalog.Resolves ⟨carrier.node, .faultCarrier, some p.candidate.index⟩ := by
  obtain ⟨entry, hentry, rfl⟩ := Operation.exists_of_mem_carriers hcarrier
  exact ⟨_, node_carrier h hp hentry, rfl, rfl⟩

/-- The catch chain of a placed operation tests the carriers of its faults. -/
theorem catchChain_eq :
    compiled.catalog.catchChain p.candidate.index =
      (p.candidate.operation.faultSet c p.candidate.index (p.first + 2)).carriers.map
        (fun carrier => .custom carrier.faultKey carrier.payload carrier.node) ++
      [.declared, .unexpected] := by
  rw [Catalog.catchChain, catalog_faultSet? h hp, Placement.faultSet?, Operation.faultSet?]
  by_cases hfaults : p.candidate.operation.faults = []
  · simp [hfaults, Operation.faultSet, FaultCarrier.inTestOrder, stableSort]
  · rw [isOneWay_of_faults h hp hfaults, Bool.false_or, List.isEmpty_eq_false_iff.2 hfaults]
    rfl

/-- The catch chain tests for the carriers of the operation and then for any other fault. -/
theorem mem_catchChain {branch : CatchBranch}
    (hbranch : branch ∈ compiled.catalog.catchChain p.candidate.index) :
    (∃ carrier ∈ (p.candidate.operation.faultSet c p.candidate.index (p.first + 2)).carriers,
      branch = .custom carrier.faultKey carrier.payload carrier.node) ∨
    branch = .declared ∨ branch = .unexpected := by
  rw [catchChain_eq h hp, List.mem_append, List.mem_map] at hbranch
  simpa [eq_comm] using hbranch

end Placed

/-- A message that neither declares nor binds anything refers to the message base only. -/
theorem resolves_plain {draft : Draft} {id : NodeId} (hbase : draft.base = some messageBase)
    (hrole : draft.role ≠ .faultCarrier) (hnested : draft.nested = [])
    (hfields : (draft.fields.filterMap fun field => field.type.marker?) = []) :
    ∀ reference ∈ (draft.finalize id c.qualifiedName).references,
      compiled.catalog.Resolves reference := by
  intro reference hreference
  simp only [Node.references, Draft.finalize, hbase, hrole, hnested, hfields, Option.toList_some,
    List.map_cons, List.map_nil, if_false, List.append_nil, List.mem_singleton] at hreference
  rw [hreference]
  exact resolves_messageBase h

/-- **References of the nodes.**  One case for each kind of type that an operation gets. -/
theorem resolves_placed {p : Placement} (hp : p ∈ compiled.placements) {node : Node}
    (hnode : node ∈ p.nodes c) :
    ∀ reference ∈ node.references, compiled.catalog.Resolves reference := by
  obtain ⟨draft, hdraft, id, rfl⟩ := Draft.mem_finalizeFrom hnode
  clear hnode
  revert draft
  apply Operation.forall_mem_drafts
  case oneWay =>
    intro key _
    refine resolves_plain h rfl (by simp [Operation.oneWayDraft]) rfl ?_
    simp [Operation.oneWayDraft, Operation.argumentFields, FieldType.marker?]
  case request =>
    intro key
    refine resolves_plain h rfl (by simp [Operation.requestDraft]) rfl ?_
    simp [Operation.requestDraft, Operation.argumentFields, callIdField, FieldType.marker?]
  case response =>
    intro key
    refine resolves_plain h rfl (by simp [Operation.responseDraft]) rfl ?_
    simp [Operation.responseDraft, Operation.resultFields, callIdField, FieldType.marker?]
  case marker =>
    -- The numbers that the marker lists are those its carriers got.
    intro _ _ _ reference hreference
    simp only [Node.references, Draft.finalize, Operation.markerDraft, Option.toList_none,
      List.map_nil, if_true, List.nil_append, List.filterMap_nil, List.append_nil,
      ← List.zipIdx_map_snd, List.map_map, List.mem_map] at hreference
    obtain ⟨entry, hentry, rfl⟩ := hreference
    exact ⟨_, node_carrier h hp hentry, rfl, rfl⟩
  case carrier =>
    intro _ _ fault hfault reference hreference
    simp only [Node.references, Draft.finalize, Operation.carrierDraft, Option.toList_some,
      List.map_cons, List.map_nil, if_true, List.filterMap_cons, FieldType.marker?,
      List.filterMap_nil, List.append_nil, List.mem_singleton] at hreference
    rw [hreference]
    exact resolves_marker h hp (List.ne_nil_of_mem hfault)
  case fault =>
    intro _ _ reference hreference
    simp [Node.references, Draft.finalize, Operation.faultDraft, callIdField,
      FieldType.marker?] at hreference
    rcases hreference with rfl | ⟨hfaults, rfl⟩
    · exact resolves_messageBase h
    · exact resolves_marker h hp hfaults
  case inputPage =>
    intro key item _
    exact resolves_plain h rfl (by simp [Operation.pageDraft]) rfl rfl
  case outputPage =>
    intro key item _
    exact resolves_plain h rfl (by simp [Operation.pageDraft]) rfl rfl

/-- What a node refers to is there. -/
theorem resolves_nodes {node : Node} (hnode : node ∈ compiled.catalog.nodes) :
    ∀ reference ∈ node.references, compiled.catalog.Resolves reference := by
  rw [catalog_nodes h, List.mem_append] at hnode
  rcases hnode with hnode | hnode
  · obtain ⟨draft, hdraft, id, rfl⟩ := Draft.mem_finalizeFrom hnode
    rcases List.mem_cons.1 hdraft with rfl | hdraft
    · intro reference hreference
      cases hreference
    · obtain ⟨message, -, rfl⟩ := List.mem_map.1 hdraft
      refine resolves_plain h rfl (by simp [SystemMessage.draft]) rfl ?_
      cases message <;> rfl
  · obtain ⟨p, hp, hnode⟩ := List.mem_flatMap.1 hnode
    exact resolves_placed h hp hnode

/-- So is what the catalog refers to. -/
theorem resolves_catalog :
    ∀ reference ∈ compiled.catalog.references, compiled.catalog.Resolves reference := by
  intro reference hreference
  simp only [Catalog.references, List.cons_append, List.mem_cons, List.mem_append,
    List.mem_flatMap, List.mem_map] at hreference
  rcases hreference with rfl | ((⟨message, -, rfl⟩ | ⟨node, hnode, hreference⟩) |
    ⟨entry, hentry, hreference⟩) | ⟨set, hset, hreference⟩
  · exact resolves_messageBase h
  · exact resolves_system h message
  · exact resolves_nodes h hnode reference hreference
  · rw [catalog_generated h] at hentry
    obtain ⟨p, hp, rfl⟩ := List.mem_map.1 hentry
    exact resolves_messages h hp hreference
  · obtain ⟨p, hp, -, hfaults, rfl⟩ := mem_faultSets h hset
    rcases List.mem_cons.1 hreference with rfl | hreference
    · exact resolves_marker h hp hfaults
    · obtain ⟨carrier, hcarrier, rfl⟩ := List.mem_map.1 hreference
      exact resolves_carrier h hp hcarrier

/-! ## Surfaces, plans and unions -/

/-- So is what a surface refers to. -/
theorem resolves_surface (peer : Peer) :
    ∀ reference ∈ (compiled.surface peer).references, compiled.catalog.Resolves reference := by
  have hplaced : ∀ p ∈ compiled.directed peer.calls, p ∈ compiled.placements :=
    fun p hp => (mem_directed.1 hp).1
  intro reference hreference
  simp only [Surface.references, methods_eq h, streams_eq h, prebuild_eq h, List.mem_append,
    List.mem_flatMap, List.mem_filterMap] at hreference
  rcases hreference with (⟨stub, ⟨p, hp, hstub⟩, hreference⟩ |
    ⟨opener, ⟨p, hp, hopener⟩, hreference⟩) | ⟨helper, ⟨p, hp, hhelper⟩, hreference⟩
  · exact resolves_messages h (hplaced p hp) (Placement.references_stub hstub hreference)
  · rcases Placement.references_opener hopener hreference with hreference | hreference
    · exact resolves_messages h (hplaced p hp) hreference
    · simp only [StreamControl.references, StreamControl.standard, List.mem_cons,
        List.not_mem_nil, or_false] at hreference
      rcases hreference with rfl | rfl | rfl | rfl <;> exact resolves_system h _
  · exact resolves_messages h (hplaced p hp) (Placement.references_helper hhelper hreference)

theorem resolves_arms (peer : Peer) :
    ∀ reference ∈ (compiled.dispatch peer).arms.flatMap Arm.references,
      compiled.catalog.Resolves reference := by
  intro reference hreference
  obtain ⟨arm, harm, hreference⟩ := List.mem_flatMap.1 hreference
  rw [arms_eq h] at harm
  obtain ⟨p, hp, rfl⟩ := List.mem_map.1 harm
  rcases Placement.references_arm hreference with hreference | hreference
  · exact resolves_messages h (mem_directed.1 hp).1 hreference
  · obtain ⟨branch, hbranch, hreference⟩ := List.mem_flatMap.1 hreference
    obtain ⟨carrier, hcarrier, rfl⟩ | rfl | rfl := mem_catchChain h (mem_directed.1 hp).1 hbranch
    · rw [List.mem_singleton.1 hreference]
      exact resolves_carrier h (mem_directed.1 hp).1 hcarrier
    · cases hreference
    · cases hreference

/-! ## Markers -/

/-- The carriers of a placed operation are the nodes below its marker. -/
theorem carriersOf_eq {p : Placement} (hp : p ∈ compiled.placements) :
    compiled.catalog.carriersOf p.candidate.index =
      compiled.catalog.nodes.filter fun node => node.base = some (p.first + 2) := by
  have hplacements : compiled.placements = c.placements compiled.keys := by
    rw [placements, Contract.compile_contract h]
  have hfirst : ∀ q ∈ compiled.placements, q.first = p.first → q = p := by
    intro q hq heq
    have hnodup : (compiled.placements.map Placement.first).Nodup :=
      (List.pairwise_map.2 (placements_chain h).pairwise_first.2).imp Nat.ne_of_lt
    exact List.inj_on_of_nodup_map hnodup hq hp heq
  refine List.filter_congr ?_
  intro node hnode
  rw [Contract.compile_catalog h] at hnode
  obtain ⟨draft, id, rfl, rfl | hmessage | ⟨q, hq, -, rfl | ⟨fault, -, rfl⟩⟩⟩ :=
    Contract.mem_assembly_nodes hnode
  · rfl
  · have hrole := hmessage.not_carrier
    simp [Draft.finalize, hmessage.base_eq, hrole, messageBase]
  · rfl
  · rw [← hplacements] at hq
    rw [decide_eq_decide]
    constructor
    · rintro ⟨-, hindex⟩
      rw [eq_of_index_eq h hq hp (Option.some.inj hindex)]
      rfl
    · intro hbase
      rw [hfirst q hq (Nat.add_right_cancel (Option.some.inj hbase))]
      exact ⟨rfl, rfl⟩

/-- The marker of a placed operation has its carriers below it, one for each fault. -/
theorem listsCarriers {p : Placement} (hp : p ∈ compiled.placements)
    (hfaults : p.candidate.operation.faults ≠ []) :
    compiled.ListsCarriers ((p.candidate.operation.markerDraft p.candidate.index
        (p.first + 2)).finalize (p.first + 2) c.qualifiedName)
      p.candidate.index p.candidate.operation := by
  have hbelow := filter_base_marker h hp (isOneWay_of_faults h hp hfaults) hfaults
  have hcarriers := (carriersOf_eq h hp).trans hbelow
  have hids : (compiled.catalog.carriersOf p.candidate.index).map Node.id =
      List.range' (p.first + 3) p.candidate.operation.faults.length := by
    rw [hcarriers, Draft.map_id_finalizeFrom, List.length_map]
  refine ⟨rfl, ?_, hids.symm, ?_, ?_⟩
  · rw [generatedOperations_eq h]
    exact List.mem_map.2 ⟨p, hp, rfl⟩
  · rw [hcarriers, Draft.map_finalizeFrom _ _ _ fun _ _ => rfl, List.map_map]
    rfl
  · rw [hierarchy_eq h, Tiered.children_eq]
    refine ((stableSort_perm _).map Node.id).trans (.of_eq ?_)
    exact (congrArg (List.map Node.id) (carriersOf_eq h hp).symm).trans hids

/-- Every marker in the catalog is that of a placed operation. -/
theorem listsCarriers_of_role {marker : Node} (hmarker : marker ∈ compiled.catalog.nodes)
    (hrole : marker.role = .faultData) : ∃ index op, compiled.ListsCarriers marker index op := by
  have hnodes : compiled.catalog.nodes = (c.assembly compiled.keys).nodes := by
    rw [Contract.compile_catalog h]
    rfl
  obtain ⟨draft, id, rfl, rfl | hmessage | ⟨p, hp, hthird, rfl | ⟨fault, -, rfl⟩⟩⟩ :=
    Contract.mem_assembly_nodes (hnodes ▸ hmarker)
  · cases hrole
  · have hnot := hmessage.not_marker
    rw [show draft.role = .faultData from hrole] at hnot
    cases hnot
  · -- No other node has the name of the marker, so this one stands at the marker's number.
    have hplaced := List.mem_of_getElem? (Contract.getElem?_assembly_marker hp hthird)
    rw [← hnodes] at hplaced
    rw [List.inj_on_of_nodup_map (index_lists h).nodup hmarker hplaced rfl]
    refine ⟨_, _, listsCarriers h ?_
      (Operation.faults_ne_nil_of_marker _ _ _ _ (List.mem_of_getElem? hthird))⟩
    rwa [placements, Contract.compile_contract h]
  · cases hrole

/-- What the union of a fault set lists is there. -/
theorem resolves_faultUnion {set : FaultSet} (hset : set ∈ compiled.catalog.faultSets) :
    ∀ reference ∈ (Union.below compiled.catalog compiled.hierarchy set.marker).references
      set.operation, compiled.catalog.Resolves reference := by
  obtain ⟨p, hp, hone, hfaults, rfl⟩ := mem_faultSets h hset
  have hunion := lists_carriers h hp hone hfaults
  intro reference hreference
  rcases List.mem_cons.1 hreference with rfl | hreference
  · exact resolves_marker h hp hfaults
  · obtain ⟨member, hmember, rfl⟩ := List.mem_map.1 hreference
    obtain ⟨carrier, hcarrier, rfl⟩ := List.mem_map.1 (hunion.members_perm.mem_iff.1 hmember)
    exact resolves_carrier h hp hcarrier

end Resolving

/-- **Every number leads to its type.**  Whatever a compiled contract refers to by number is in the
catalog, with the role and the operation that the place of the number requires. -/
theorem references_resolve (h : c.compile options = .ok compiled) : compiled.Linked := by
  have hadapter : ∀ adapter ∈ compiled.binding.adapters,
      adapter.messageUnion = .below compiled.catalog compiled.hierarchy messageBase ∧
      adapter.faultUnions = compiled.catalog.faultSets.map fun set =>
        .below compiled.catalog compiled.hierarchy set.marker := by
    intro adapter hmem
    rw [Contract.compile_adapters h] at hmem
    obtain ⟨serializer, -, rfl⟩ := List.mem_map.1 hmem
    exact ⟨rfl, rfl⟩
  refine ⟨?_, ?_, ?_, ?_, ?_, ?_, fun marker => listsCarriers_of_role h⟩
  · intro id node hnode
    exact (tiered h).id_eq (Catalog.node_eq_ok_iff.1 hnode)
  · intro reference hreference
    simp only [Compiled.references, List.mem_append, List.mem_flatMap] at hreference
    rcases hreference with (hreference | ⟨peer, -, hreference⟩) | ⟨peer, -, hreference⟩
    · exact resolves_catalog h reference hreference
    · exact resolves_surface h peer reference hreference
    · exact resolves_arms h peer reference (List.mem_flatMap.2 hreference)
  · intro entry hentry
    rw [(index_lists h).entries] at hentry
    obtain ⟨node, hnode, rfl⟩ := List.mem_map.1 hentry
    exact ⟨node, node_eq_ok h hnode, rfl⟩
  · intro entry hentry
    rw [hierarchy_eq h] at hentry
    obtain ⟨node, hnode, rfl⟩ := List.mem_map.1 hentry
    exact ⟨node, node_eq_ok h hnode, rfl⟩
  · intro adapter hmem
    rw [(hadapter adapter hmem).1]
    refine ⟨resolves_messageBase h, ?_⟩
    intro member hmember
    obtain ⟨node, hnode, hmessage⟩ := List.mem_filterMap.1
      ((lists_messages h).members_perm.mem_iff.1 hmember)
    obtain ⟨key, hkey, rfl⟩ := Option.map_eq_some_iff.1 hmessage
    exact ⟨node, node_eq_ok h (List.mem_filter.1 hnode).1, hkey⟩
  · intro adapter hmem
    rw [(hadapter adapter hmem).2, List.forall₂_map_right_iff, List.forall₂_same]
    exact fun set hset => resolves_faultUnion h hset

/-- In the sample contract there are 78 references.  The marker of its only fault set lists two
carriers, which the hierarchy sorts by their keys. -/
theorem chat_references_resolve :
    ∃ compiled, Contract.chat.compile {} = .ok compiled ∧
      (compiled.references.length = 78 ∧
        (compiled.catalog.get? 11).map Node.nested = some [12, 13] ∧
        compiled.hierarchy.children 11 = [13, 12]) ∧
      compiled.Linked := by
  obtain ⟨compiled, h, hcheck⟩ := Contract.exists_compile Contract.chat {}
    (fun compiled => compiled.references.length = 78 ∧
      (compiled.catalog.get? 11).map Node.nested = some [12, 13] ∧
      compiled.hierarchy.children 11 = [13, 12])
    (by decide +kernel)
  exact ⟨compiled, h, of_decide_eq_true hcheck, references_resolve h⟩

end Compiled

end ServiceContract
