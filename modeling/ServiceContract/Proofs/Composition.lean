import Mathlib.Data.List.Flatten
import ServiceContract.Proofs.Compilation

/-!
# What a catalog is made of

The catalog of a compiled contract is described node by node.  A `Sheet` is what a node is for, the
operation it belongs to, its key or fault key, and its fields.  `Operation.sheets` lists the sheets
of one operation straight from its declaration and the key table, and `Compiled.sheets` those of a
whole contract.

The main statement is `Compiled.catalog_composition`: the nodes of the catalog have exactly these
sheets, in this order, and the keys of the messages ascend.
-/

namespace ServiceContract

/-- What a node is for and what it carries. -/
structure Sheet where
  role : Role
  operation : Option Nat := none
  key : Option MessageKey := none
  faultKey : Option Nat := none
  fields : List Field := []
  deriving DecidableEq, Repr

/-- The sheet of a node. -/
def Node.sheet (node : Node) : Sheet :=
  ⟨node.role, node.operation, node.key, node.faultKey, node.fields⟩

/-- The sheet of a node before it has a number. -/
def Draft.sheet (draft : Draft) : Sheet :=
  ⟨draft.role, draft.operation, draft.key, draft.faultKey, draft.fields⟩

/-- The keys of finalized drafts are the keys of the drafts. -/
theorem Draft.filterMap_key_finalizeFrom (qualifier : String) (first : NodeId)
    (drafts : List Draft) :
    (finalizeFrom qualifier first drafts).filterMap Node.key = drafts.filterMap Draft.key := by
  have hmap := map_finalizeFrom (f := Node.key) (g := Draft.key) qualifier first drafts
    (fun _ _ => rfl)
  simpa [List.filterMap_map] using congrArg (List.filterMap id) hmap

/-- The key of the message with a role among the keys of an operation. -/
def OperationKeys.forRole : OperationKeys → Role → Option MessageKey
  | oneWay message, .oneWay => some message
  | request keys, .request => some keys.request
  | request keys, .response => some keys.response
  | request keys, .fault => some keys.fault
  | request keys, .inputPage => keys.inputPage
  | request keys, .outputPage => keys.outputPage
  | _, _ => none

/-- The key of the message with a role of the operation at a position. -/
def KeyTable.keyFor (table : KeyTable) (index : Nat) (role : Role) : Option MessageKey :=
  (table.block? index).bind fun block => block.keys.forRole role

namespace Operation

/-- One field for each argument: `Arg1`, `Arg2` and so on. -/
def numberedFields (op : Operation) : List Field :=
  op.arguments.zipIdx.map fun entry => ⟨"Arg" ++ toString (entry.2 + 1), .declared entry.1.type⟩

/-- The sheets of the operation at a position, if its first type is numbered `first`. -/
def sheets (table : KeyTable) (index : Nat) (op : Operation) (first : NodeId) : List Sheet :=
  let message (role : Role) (fields : List Field) : Sheet :=
    { role := role, operation := some index, key := table.keyFor index role, fields := fields }
  let page (role : Role) (item : DataType) : Sheet :=
    message role [⟨"CallId", .callId⟩, ⟨"Items", .declared (.list item)⟩]
  match op.kind.exchange with
  | .oneWay => [message .oneWay op.numberedFields]
  | .requestResponse =>
    [message .request ([⟨"CallId", .callId⟩, ⟨"Options", .callOptions⟩] ++ op.numberedFields ++
        if op.inputStream = none ∧ op.outputStream = none then []
        else [⟨"WindowSize", .windowSize⟩]),
      message .response (⟨"CallId", .callId⟩ ::
        op.result.toList.map fun type => ⟨"Result", .declared type⟩)] ++
    (if op.faults = [] then []
      else { role := .faultData, operation := some index } ::
        op.faults.map fun fault =>
          { role := .faultCarrier, operation := some index, faultKey := some fault.key
            fields := [⟨"Payload", .declared fault.payload⟩] }) ++
    [message .fault ([⟨"CallId", .callId⟩, ⟨"Text", .text⟩, ⟨"Code", .faultCode⟩] ++
        if op.faults = [] then [] else [⟨"FaultData", .faultData (first + 2)⟩])] ++
    op.inputStream.toList.map (page .inputPage) ++
    op.outputStream.toList.map (page .outputPage)

/-- The sheets of operations whose types are numbered from `first` on. -/
def sheetsFrom (table : KeyTable) (first : NodeId) : List (Nat × Operation) → List Sheet
  | [] => []
  | (index, op) :: rest =>
    op.sheets table index first ++
      sheetsFrom table (first + (op.sheets table index first).length) rest

end Operation

/-- The sheets of the system messages, which are the same for every contract. -/
def SystemMessage.sheets : List Sheet :=
  let sheet (message : SystemMessage) (key : MessageKey) (fields : List Field) : Sheet :=
    { role := .system message, key := some key, fields := fields }
  [sheet .login 1 [⟨"Credentials", .credentials⟩, ⟨"Accepted", .declared (.primitive .bool)⟩],
    sheet .logout 2 [],
    sheet .heartbeat 3 [],
    sheet .cancelRequest 4 [⟨"CallId", .callId⟩],
    sheet .pageAck 5 [⟨"CallId", .callId⟩, ⟨"Consumed", .consumed⟩],
    sheet .streamCancel 6
      [⟨"CallId", .callId⟩, ⟨"Reason", .declared (.option (.primitive .string))⟩],
    sheet .streamClose 7 [⟨"CallId", .callId⟩],
    sheet .streamCloseAck 8 [⟨"CallId", .callId⟩]]

/-- The sheets of a compiled contract: the message base, the system messages, and those of each
generated operation. -/
def Compiled.sheets (compiled : Compiled) : List Sheet :=
  { role := .messageBase } :: SystemMessage.sheets ++
    Operation.sheetsFrom compiled.keys 9 compiled.generatedOperations

/-- A draft of a message: it has a key and descends from the message base. -/
structure Draft.IsMessage (draft : Draft) : Prop where
  has_key : draft.key.isSome = true
  base_eq : draft.base = some messageBase
  not_marker : draft.role.isMarker = false
  not_carrier : draft.role ≠ .faultCarrier

/-- Only markers and carriers have no key. -/
theorem Draft.IsMessage.key_eq_none_iff {draft : Draft} (h : draft.IsMessage) :
    draft.key = none ↔ draft.role.isMarker ∨ draft.role = .faultCarrier := by
  have hkey : draft.key ≠ none := Option.isSome_iff_ne_none.1 h.has_key
  simp [hkey, h.not_marker, h.not_carrier]

/-- The system messages are messages. -/
theorem SystemMessage.isMessage_draft (message : SystemMessage) : message.draft.IsMessage :=
  ⟨rfl, rfl, rfl, by simp [draft]⟩

namespace Operation

variable (c : Contract) (index : Nat) (op : Operation) (first : NodeId)

/-- The arguments as they are numbered. -/
theorem argumentFields_eq : op.argumentFields = op.numberedFields := by
  rw [argumentFields, params, numberedFields, List.map_map]
  apply List.ext_getElem?
  intro i
  simp only [List.getElem?_map, List.getElem?_zipIdx, Option.map_map]
  congr 1
  funext argument
  simp [Param.wireName, Nat.add_comm]

/-- The field of the result, if there is one. -/
theorem resultFields_eq :
    op.resultFields = op.result.toList.map fun type => ⟨"Result", .declared type⟩ := by
  cases hresult : op.result <;>
    simp [resultFields, resultParam, hresult, Param.result, Param.wireName]

/-- The carriers of the declared faults, and the marker above them. -/
theorem map_sheet_faultDrafts (marker : NodeId) :
    (op.faultDrafts index (some marker)).map Draft.sheet =
      { role := .faultData, operation := some index } ::
        op.faults.map fun fault =>
          { role := .faultCarrier, operation := some index, faultKey := some fault.key
            fields := [⟨"Payload", .declared fault.payload⟩] } := by
  simp [faultDrafts, Draft.sheet, markerDraft, carrierDraft, Function.comp_def]

/-- A direction has pages if it has an item, which is when it has a key. -/
theorem map_sheet_pageDrafts (role : Role) (key : Option MessageKey) (item : Option DataType)
    (hkey : item.isSome → key.isSome) :
    (op.pageDrafts c index role key item).map Draft.sheet =
      item.toList.map fun item =>
        { role := role, operation := some index, key := key
          fields := [⟨"CallId", .callId⟩, ⟨"Items", .declared (.list item)⟩] } := by
  cases item with
  | none => cases key <;> rfl
  | some item =>
      cases key with
      | none => simp at hkey
      | some key => rfl

/-- The drafts of an operation have its sheets. -/
theorem map_sheet_drafts {table : KeyTable} {block : KeyBlock} {key : MessageKey}
    (hblock : table.block? index = some block) (hkeys : block.keys = op.keysFrom key) :
    (op.drafts c index block.keys first).map Draft.sheet = op.sheets table index first := by
  have hkey : ∀ role, table.keyFor index role = (op.keysFrom key).forRole role := by
    intro role
    rw [KeyTable.keyFor, hblock, Option.bind_some, hkeys]
  have hwindow : (if op.isStreaming then [⟨"WindowSize", .windowSize⟩] else [] : List Field) =
      if op.inputStream = none ∧ op.outputStream = none then []
      else [⟨"WindowSize", .windowSize⟩] := by
    cases hin : op.inputStream <;> cases hout : op.outputStream <;> simp [isStreaming, hin, hout]
  rw [hkeys]
  cases hkind : op.kind.exchange with
  | oneWay =>
      simp [drafts, sheets, keysFrom, CallKind.isOneWay, hkind, hkey, OperationKeys.forRole,
        oneWayDraft, Draft.sheet, argumentFields_eq]
  | requestResponse =>
      by_cases hfaults : op.faults = []
      · simp [drafts, requestDrafts, sheets, keysFrom, CallKind.isOneWay, hkind, hkey, hfaults,
          OperationKeys.forRole, map_sheet_pageDrafts, faultDrafts, requestDraft, responseDraft,
          faultDraft, Draft.sheet, callIdField, argumentFields_eq, resultFields_eq, hwindow]
      · simp [drafts, requestDrafts, sheets, keysFrom, CallKind.isOneWay, hkind, hkey, hfaults,
          OperationKeys.forRole, map_sheet_pageDrafts, map_sheet_faultDrafts, requestDraft,
          responseDraft, faultDraft, Draft.sheet, callIdField, argumentFields_eq, resultFields_eq,
          hwindow]

/-- The keys of the drafts of an operation, in order, are its keys. -/
theorem filterMap_key_drafts (key : MessageKey) :
    (op.drafts c index (op.keysFrom key) first).filterMap Draft.key =
      (op.keysFrom key).toList := by
  have hcarriers : ∀ marker, (op.faultDrafts index marker).filterMap Draft.key = [] := by
    intro marker
    cases marker <;> simp [faultDrafts, markerDraft, carrierDraft]
  cases hkind : op.kind.exchange with
  | oneWay =>
      simp [drafts, keysFrom, CallKind.isOneWay, hkind, oneWayDraft, OperationKeys.toList]
  | requestResponse =>
      cases hin : op.inputStream <;> cases hout : op.outputStream <;>
        simp [drafts, requestDrafts, keysFrom, CallKind.isOneWay, hkind, hcarriers, hin, hout,
          requestDraft, responseDraft, faultDraft, pageDrafts, pageDraft, OperationKeys.toList]

/-- **What is generated for an operation.**  To show something of all its drafts, show it of each
kind; a kind may rely on the declarations that bring it about. -/
theorem forall_mem_drafts {keys : OperationKeys} {motive : Draft → Prop}
    (oneWay : ∀ key, keys = .oneWay key → motive (op.oneWayDraft c index key))
    (request : ∀ key, motive (op.requestDraft c index key))
    (response : ∀ key, motive (op.responseDraft c index key))
    (marker : ∀ call, keys = .request call → op.faults ≠ [] →
      motive (op.markerDraft index (first + 2)))
    (carrier : ∀ call, keys = .request call → ∀ fault ∈ op.faults,
      motive (op.carrierDraft index (first + 2) fault))
    (fault : ∀ call, keys = .request call →
      motive (op.faultDraft c index call.fault
        (if op.faults.isEmpty then none else some (first + 2))))
    (inputPage : ∀ key item, op.inputStream = some item →
      motive (op.pageDraft c index .inputPage key item))
    (outputPage : ∀ key item, op.outputStream = some item →
      motive (op.pageDraft c index .outputPage key item)) :
    ∀ draft ∈ op.drafts c index keys first, motive draft := by
  have hpage : ∀ role key stream, (∀ key item, stream = some item →
      motive (op.pageDraft c index role key item)) →
      ∀ draft ∈ op.pageDrafts c index role key stream, motive draft := by
    intro role key stream h draft hdraft
    unfold pageDrafts at hdraft
    split at hdraft
    · rw [List.mem_singleton.1 hdraft]
      exact h _ _ rfl
    · cases hdraft
  intro draft hdraft
  cases keys with
  | oneWay key =>
      obtain rfl := List.mem_singleton.1 hdraft
      exact oneWay key rfl
  | request call =>
      simp only [drafts, requestDrafts, List.mem_append, List.mem_cons, List.not_mem_nil,
        or_false] at hdraft
      rcases hdraft with ((((rfl | rfl) | hdraft) | rfl) | hdraft) | hdraft
      · exact request _
      · exact response _
      · split at hdraft
        · cases hdraft
        · next hfaults =>
            rcases List.mem_cons.1 hdraft with rfl | hdraft
            · exact marker call rfl (by simpa using hfaults)
            · obtain ⟨raised, hraised, rfl⟩ := List.mem_map.1 hdraft
              exact carrier call rfl raised hraised
      · exact fault call rfl
      · exact hpage _ _ _ inputPage draft hdraft
      · exact hpage _ _ _ outputPage draft hdraft

/-- A draft of an operation is a message, the marker of its faults, or the carrier of one of them.
The marker stands in front of its carriers, as the third of the drafts. -/
theorem mem_drafts {keys : OperationKeys} {draft : Draft}
    (h : draft ∈ op.drafts c index keys first) :
    draft.IsMessage ∨
      ((op.drafts c index keys first)[2]? = some (op.markerDraft index (first + 2)) ∧
        (draft = op.markerDraft index (first + 2) ∨
          ∃ fault ∈ op.faults, draft = op.carrierDraft index (first + 2) fault)) := by
  have hthird : ∀ call, keys = .request call → op.faults ≠ [] →
      (op.drafts c index keys first)[2]? = some (op.markerDraft index (first + 2)) := by
    rintro call rfl hfaults
    simp [drafts, requestDrafts, hfaults, faultDrafts]
  revert draft
  apply forall_mem_drafts
  case oneWay => exact fun _ _ => .inl ⟨rfl, rfl, rfl, by simp [oneWayDraft]⟩
  case request => exact fun _ => .inl ⟨rfl, rfl, rfl, by simp [requestDraft]⟩
  case response => exact fun _ => .inl ⟨rfl, rfl, rfl, by simp [responseDraft]⟩
  case marker => exact fun call hkeys hfaults => .inr ⟨hthird call hkeys hfaults, .inl rfl⟩
  case carrier =>
    exact fun call hkeys fault hfault =>
      .inr ⟨hthird call hkeys (List.ne_nil_of_mem hfault), .inr ⟨fault, hfault, rfl⟩⟩
  case fault => exact fun _ _ => .inl ⟨rfl, rfl, rfl, by simp [faultDraft]⟩
  case inputPage => exact fun _ _ _ => .inl ⟨rfl, rfl, rfl, by simp [pageDraft]⟩
  case outputPage => exact fun _ _ _ => .inl ⟨rfl, rfl, rfl, by simp [pageDraft]⟩

/-- A draft of an operation has a key unless it is a marker or a carrier. -/
theorem key_eq_none_of_mem_drafts {keys : OperationKeys} {draft : Draft}
    (h : draft ∈ op.drafts c index keys first) :
    draft.key = none ↔ draft.role.isMarker ∨ draft.role = .faultCarrier := by
  obtain hmessage | ⟨-, rfl | ⟨fault, -, rfl⟩⟩ := op.mem_drafts c index first h
  · exact hmessage.key_eq_none_iff
  · simp [markerDraft, Role.isMarker]
  · simp [carrierDraft]

end Operation

namespace Compiled

variable {c : Contract} {options : Options} {compiled : Compiled}

/-- The nodes of a placed operation have its sheets. -/
theorem map_sheet_placement (h : c.compile options = .ok compiled) {p : Placement}
    (hp : p ∈ compiled.placements) :
    (p.nodes c).map Node.sheet =
      p.candidate.operation.sheets compiled.keys p.candidate.index p.first := by
  obtain ⟨key, hblock, hkeys⟩ := exists_block h hp
  rw [Placement.nodes, Draft.map_finalizeFrom (g := Draft.sheet) _ _ _ (fun _ _ => rfl),
    Placement.drafts, hkeys]
  exact Operation.map_sheet_drafts c _ _ _ hblock rfl

/-- The sheets of placements that follow each other. -/
theorem flatMap_sheet_placements (h : c.compile options = .ok compiled)
    {placements : List Placement} {first : NodeId}
    (hmem : ∀ p ∈ placements, p ∈ compiled.placements)
    (hchain : Placement.Chain c first placements) :
    placements.flatMap (fun p => (p.nodes c).map Node.sheet) =
      Operation.sheetsFrom compiled.keys first
        (placements.map fun p => (p.candidate.index, p.candidate.operation)) := by
  induction placements generalizing first with
  | nil => rfl
  | cons p rest ih =>
      obtain ⟨rfl, hrest⟩ := hchain
      have hsheets := map_sheet_placement h (hmem p (by simp))
      have hlength : (p.drafts c).length = (p.candidate.operation.sheets compiled.keys
          p.candidate.index p.first).length := by
        rw [← hsheets]
        simp [Placement.nodes]
      rw [List.flatMap_cons, List.map_cons, Operation.sheetsFrom, hsheets, ← hlength,
        ih (fun q hq => hmem q (by simp [hq])) hrest]

/-- The keys of all nodes, in the order of the catalog. -/
theorem filterMap_key_nodes (h : c.compile options = .ok compiled) :
    compiled.catalog.nodes.filterMap Node.key =
      SystemMessage.all.map SystemMessage.key ++
        compiled.placements.flatMap fun p => p.candidate.keys.toList := by
  have hplacement : ∀ p ∈ compiled.placements,
      (p.nodes c).filterMap Node.key = p.candidate.keys.toList := by
    intro p hp
    obtain ⟨key, -, hkeys⟩ := exists_block h hp
    rw [Placement.nodes, Draft.filterMap_key_finalizeFrom, Placement.drafts, hkeys]
    exact Operation.filterMap_key_drafts c _ _ _ key
  rw [catalog_nodes h, List.filterMap_append, Draft.filterMap_key_finalizeFrom,
    List.filterMap_flatMap, List.flatMap_congr hplacement]
  rfl

/-- The keys of all nodes are some of the keys of the table, in its order. -/
theorem filterMap_key_nodes_sublist (h : c.compile options = .ok compiled) :
    (compiled.catalog.nodes.filterMap Node.key).Sublist compiled.keys.all := by
  have hlength := Contract.length_candidates (Contract.compile_keys h)
  have hblocks : (c.candidates (c.verdicts.map isAccepted) compiled.keys).map Candidate.keys =
      compiled.keys.blocks.map KeyBlock.keys :=
    Contract.map_keys_candidates (by
      rw [hlength, KeyTable.allocate_blocks (Contract.compile_keys h), KeyTable.length_blocksAt])
  have hplaced : (compiled.placements.map fun p => p.candidate.keys).Sublist
      (compiled.keys.blocks.map KeyBlock.keys) := by
    rw [← hblocks, placements, Contract.compile_contract h]
    simpa [Contract.placements, Function.comp_def] using
      (Assembly.placed_sublist c _ _).map Candidate.keys
  rw [filterMap_key_nodes h, KeyTable.all]
  refine (List.Sublist.refl _).append ?_
  simpa [List.flatMap_map] using hplaced.flatMap OperationKeys.toList

/-- The messages of a catalog carry ascending keys. -/
theorem messages_keys_pairwise (h : c.compile options = .ok compiled) :
    (compiled.catalog.messages.filterMap Node.key).Pairwise (· < ·) := by
  have hmessages : compiled.catalog.messages.filterMap Node.key =
      compiled.catalog.nodes.filterMap Node.key := by
    rw [Catalog.messages, List.filterMap_filter]
    congr 1
    funext node
    cases node.key <;> rfl
  rw [hmessages]
  exact (KeyTable.all_pairwise_lt (Contract.compile_keys h)).sublist (filterMap_key_nodes_sublist h)

/-- Exactly the markers and the fault carriers have no key. -/
theorem key_eq_none_iff (h : c.compile options = .ok compiled) {node : Node}
    (hnode : node ∈ compiled.catalog.nodes) :
    node.key = none ↔ node.role.isMarker ∨ node.role = .faultCarrier := by
  rw [catalog_nodes h, List.mem_append] at hnode
  rcases hnode with hnode | hnode
  · obtain ⟨draft, hdraft, id, rfl⟩ := Draft.mem_finalizeFrom hnode
    rcases List.mem_cons.1 hdraft with rfl | hdraft
    · simp [Draft.finalize, Contract.baseDraft, Role.isMarker]
    · obtain ⟨message, -, rfl⟩ := List.mem_map.1 hdraft
      exact message.isMessage_draft.key_eq_none_iff
  · obtain ⟨p, -, hnode⟩ := List.mem_flatMap.1 hnode
    obtain ⟨draft, hdraft, id, rfl⟩ := Draft.mem_finalizeFrom hnode
    exact Operation.key_eq_none_of_mem_drafts c _ _ _ hdraft

/-- **What a catalog is made of.**  Its nodes are the message base, the system messages, and the
types of each generated operation in the order of declaration, with the fields and keys that their
sheets say.  Only markers and fault carriers have no key, and the keys ascend. -/
theorem catalog_composition (h : c.compile options = .ok compiled) :
    compiled.catalog.nodes.map Node.sheet = compiled.sheets ∧
    (∀ node ∈ compiled.catalog.nodes,
      node.key = none ↔ node.role.isMarker ∨ node.role = .faultCarrier) ∧
    (compiled.catalog.messages.filterMap Node.key).Pairwise (· < ·) := by
  refine ⟨?_, fun node hnode => key_eq_none_iff h hnode, messages_keys_pairwise h⟩
  rw [catalog_nodes h, List.map_append, List.map_flatMap, sheets, generatedOperations_eq h,
    flatMap_sheet_placements h (fun _ hp => hp) (placements_chain h)]
  rfl

/-- The catalog of the sample contract has 21 nodes. -/
theorem chat_catalog_composition :
    ∃ compiled, Contract.chat.compile {} = .ok compiled ∧
      compiled.catalog.nodes.length = 21 ∧
      compiled.catalog.nodes.map Node.sheet = compiled.sheets ∧
      (∀ node ∈ compiled.catalog.nodes,
        node.key = none ↔ node.role.isMarker ∨ node.role = .faultCarrier) ∧
      (compiled.catalog.messages.filterMap Node.key).Pairwise (· < ·) := by
  obtain ⟨compiled, h, hcheck⟩ := Contract.exists_compile Contract.chat {}
    (fun compiled => compiled.catalog.nodes.length = 21) (by decide +kernel)
  exact ⟨compiled, h, of_decide_eq_true hcheck, catalog_composition h⟩

end Compiled

end ServiceContract
