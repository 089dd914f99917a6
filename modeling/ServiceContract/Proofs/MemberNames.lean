import ServiceContract.Proofs.References
import ServiceContract.Proofs.Words

/-!
# Members of the generated types

A field of a message becomes a member of its type, under the field's name in snake case.  An
argument is carried by a field named after its number, `Arg1`, `Arg2` and so on; each of these is a
single word, so no two of them become one member (`Param.fieldName_eq`).

`Catalog.HasMembers` says what the members of a type are, and the lemmas `members_` tell it for each
type of a placed operation.  In every type of a catalog the members are told apart by their names
(`Compiled.nodup_memberNames`).
-/

namespace ServiceContract

/-! ## One word -/

namespace Text

/-- A run in which no upper case letter follows the first character is a single word. -/
theorem runWords_eq_singleton {stretch : Stretch} {word run : List Char} (hrun : run ≠ [])
    (htail : ∀ c ∈ run.tail, isUpper c = false)
    (hstart : stretch ≠ .upper ∨ ∀ c ∈ run, isUpper c = false) :
    runWords stretch word run = [word.reverse ++ run] := by
  induction run generalizing stretch word with
  | nil => contradiction
  | cons c rest ih =>
      cases rest with
      | nil => simp [runWords]
      | cons next rest =>
          have hnext : isUpper next = false := htail next (by simp)
          have hstay : ¬ (stretch = .upper ∧ isUpper c = true ∧ isLower next = true) := by
            rintro ⟨hupper, hc, -⟩
            rcases hstart with hstart | hstart
            · exact hstart hupper
            · rw [hstart c (by simp)] at hc
              cases hc
          have hrest : ∀ d ∈ next :: rest, isUpper d = false := htail
          rw [runWords, if_neg (by simp [hnext]), if_neg hstay,
            ih (by simp) (fun d hd => hrest d (List.mem_of_mem_tail hd)) (.inr hrest)]
          simp

/-- The snake case of such a name is the name in lower case. -/
theorem snakeChars_of_one_word {name : List Char} (hname : name ≠ [])
    (hplain : ∀ c ∈ name, IsPlain c) (htail : ∀ c ∈ name.tail, isUpper c = false) :
    snakeChars name = name.map Char.toLower := by
  have hwords : words name = [name] := by
    rw [words_of_plain hplain, runWords_eq_singleton hname htail (.inl (by decide))]
    rfl
  rw [snakeChars, hwords]
  simp [lowerWord_of_plain hplain]

/-- A digit has no case. -/
theorem of_isDigit {c : Char} (h : c.isDigit = true) :
    IsPlain c ∧ isUpper c = false ∧ c.toLower = c := by
  have halnum : c.isAlphanum = true := by simp [Char.isAlphanum, h]
  exact forall_ascii (P := fun c => c.isDigit = true → IsPlain c ∧ isUpper c = false ∧
    c.toLower = c) (by decide +kernel) (toNat_lt_of_isAlphanum halnum) h

/-- The digits of a number stay as they are in snake case, behind a capitalised word. -/
theorem snake_arg (n : Nat) : snake ("Arg" ++ toString n) = "arg" ++ toString n := by
  have hdigits : ∀ c ∈ (toString n).toList, IsPlain c ∧ isUpper c = false ∧ c.toLower = c := by
    intro c hc
    rw [Nat.toString_eq_ofList_toDigits, String.toList_ofList] at hc
    exact of_isDigit (Nat.isDigit_of_mem_toDigits (by decide) (by decide) hc)
  have hlower : (toString n).toList.map Char.toLower = (toString n).toList :=
    (List.map_congr_left fun c hc => (hdigits c hc).2.2).trans (List.map_id _)
  rw [snake, String.toList_append, snakeChars_of_one_word (by simp)]
  · rw [List.map_append, hlower, String.ofList_append, String.ofList_toList]
    rfl
  · intro c hc
    rcases List.mem_append.1 hc with hc | hc
    · exact isPlain_of_all (by decide) c hc
    · exact (hdigits c hc).1
  · intro c hc
    change c ∈ ['r', 'g'] ++ (toString n).toList at hc
    rcases List.mem_append.1 hc with hc | hc
    · have hlow : (['r', 'g'].all fun c => !isUpper c) = true := by decide
      simpa using List.all_eq_true.1 hlow c hc
    · exact (hdigits c hc).2.1

end Text

/-! ## Members of one operation -/

/-- The names of the members that some fields become. -/
def memberNames (fields : List Field) : List String := fields.map fun field => fieldName field.name

/-- The members that are not named after a number. -/
theorem fieldName_fixed :
    fieldName "CallId" = "call_id" ∧ fieldName "Options" = "options" ∧
    fieldName "WindowSize" = "window_size" ∧ fieldName "Result" = "result" ∧
    fieldName "Text" = "text" ∧ fieldName "Code" = "code" ∧
    fieldName "FaultData" = "fault_data" ∧ fieldName "Payload" = "payload" ∧
    fieldName "Items" = "items" := by
  decide +kernel

/-- The member of an argument, by its number. -/
theorem Param.fieldName_eq {param : Param} (h : param.index ≠ 0) :
    param.fieldName = "arg" ++ toString param.index := by
  rw [fieldName, wireName, if_neg h]
  exact Text.snake_arg _

namespace Operation

variable (c : Contract) (index : Nat) (op : Operation)

/-- The parameters are numbered from one. -/
theorem map_index_params : op.params.map Param.index = List.range' 1 op.params.length := by
  rw [params, List.map_map, List.length_map, List.length_zipIdx]
  exact List.zipIdx_map_snd 1 _

/-- The field of an argument is called after the number of its parameter. -/
theorem fieldName_of_mem_params {param : Param} (h : param ∈ op.params) :
    param.fieldName = "arg" ++ toString param.index := by
  have hindex : param.index ∈ List.range' 1 op.params.length :=
    op.map_index_params ▸ List.mem_map_of_mem h
  exact Param.fieldName_eq (Nat.ne_of_gt (List.mem_range'_1.1 hindex).1)

/-- Arguments have members of their own. -/
theorem nodup_fieldName_params : (op.params.map Param.fieldName).Nodup := by
  have hmembers : op.params.map Param.fieldName =
      (op.params.map Param.index).map fun n => "arg" ++ toString n := by
    rw [List.map_map]
    exact List.map_congr_left fun param hparam => op.fieldName_of_mem_params hparam
  rw [hmembers, map_index_params]
  refine List.Nodup.map ?_ List.nodup_range'
  intro m n heq
  have hdigits : Nat.toDigits 10 m = Nat.toDigits 10 n := by
    rw [String.append_right_inj, Nat.toString_eq_ofList_toDigits, Nat.toString_eq_ofList_toDigits,
      String.ofList_inj] at heq
    exact heq
  rw [← Nat.ofDigitChars_ten_toDigits (n := m), hdigits, Nat.ofDigitChars_ten_toDigits]

/-- A name that starts otherwise is not the member of an argument. -/
theorem notMem_fieldName_params {name : String} (h : name.toList.head? ≠ some 'a') :
    name ∉ op.params.map Param.fieldName := by
  intro hname
  obtain ⟨param, hparam, rfl⟩ := List.mem_map.1 hname
  rw [op.fieldName_of_mem_params hparam, String.toList_append] at h
  exact h rfl

/-- The members for the arguments, in the order of the parameters. -/
theorem memberNames_argumentFields :
    memberNames op.argumentFields = op.params.map Param.fieldName := by
  rw [memberNames, argumentFields, List.map_map]
  rfl

/-- A one-way message has its arguments only. -/
theorem memberNames_oneWayDraft (key : MessageKey) :
    memberNames (op.oneWayDraft c index key).fields = op.params.map Param.fieldName :=
  op.memberNames_argumentFields

/-- A request has the call and its options before the arguments, and a window behind them if it
streams. -/
theorem memberNames_requestDraft (key : MessageKey) :
    memberNames (op.requestDraft c index key).fields =
      ["call_id", "options"] ++ op.params.map Param.fieldName ++
        if op.isStreaming then ["window_size"] else [] := by
  obtain ⟨hcall, hoptions, hwindow, -⟩ := fieldName_fixed
  rw [← memberNames_argumentFields]
  cases hstreaming : op.isStreaming <;>
    simp [requestDraft, memberNames, callIdField, hcall, hoptions, hwindow, hstreaming]

/-- A response has the call, and the result if there is one. -/
theorem memberNames_responseDraft (key : MessageKey) :
    memberNames (op.responseDraft c index key).fields =
      "call_id" :: if op.result.isSome then ["result"] else [] := by
  obtain ⟨hcall, -, -, hresult, -⟩ := fieldName_fixed
  cases hdeclared : op.result <;>
    simp [responseDraft, memberNames, callIdField, resultFields_eq, hcall, hresult, hdeclared]

/-- A fault message has a text and a code, and data if there are carriers. -/
theorem memberNames_faultDraft (key : MessageKey) (marker : Option NodeId) :
    memberNames (op.faultDraft c index key marker).fields =
      ["call_id", "text", "code"] ++ if marker.isSome then ["fault_data"] else [] := by
  obtain ⟨hcall, -, -, -, htext, hcode, hdata, -⟩ := fieldName_fixed
  cases marker <;> simp [faultDraft, memberNames, callIdField, hcall, htext, hcode, hdata]

/-- A page has the call and its items. -/
theorem memberNames_pageDraft (role : Role) (key : MessageKey) (item : DataType) :
    memberNames (op.pageDraft c index role key item).fields = ["call_id", "items"] := by
  obtain ⟨hcall, -, -, -, -, -, -, -, hitems⟩ := fieldName_fixed
  simp [pageDraft, memberNames, callIdField, hcall, hitems]

/-- A carrier has its payload only. -/
theorem memberNames_carrierDraft (marker : NodeId) (fault : Fault) :
    memberNames (op.carrierDraft index marker fault).fields = ["payload"] := by
  obtain ⟨-, -, -, -, -, -, -, hpayload, -⟩ := fieldName_fixed
  simp [carrierDraft, memberNames, hpayload]

/-- **Members are told apart.**  No type of an operation has two members of one name. -/
theorem nodup_memberNames_drafts {keys : OperationKeys} {first : NodeId} :
    ∀ draft ∈ op.drafts c index keys first, (memberNames draft.fields).Nodup := by
  apply forall_mem_drafts
  case oneWay =>
    intro key _
    rw [memberNames_oneWayDraft]
    exact op.nodup_fieldName_params
  case request =>
    intro key
    have hcall : "call_id" ∉ op.params.map Param.fieldName :=
      op.notMem_fieldName_params (by decide)
    have hoptions : "options" ∉ op.params.map Param.fieldName :=
      op.notMem_fieldName_params (by decide)
    have hwindow : "window_size" ∉ op.params.map Param.fieldName :=
      op.notMem_fieldName_params (by decide)
    have hparams := op.nodup_fieldName_params
    rw [memberNames_requestDraft]
    split <;> simp_all [List.nodup_append, List.nodup_cons]
  case response =>
    intro key
    rw [memberNames_responseDraft]
    cases op.result.isSome <;> decide
  case marker => exact fun _ _ _ => List.nodup_nil
  case carrier =>
    intro _ _ fault _
    rw [memberNames_carrierDraft]
    decide
  case fault =>
    intro _ _
    rw [memberNames_faultDraft]
    exact (by decide : ∀ faulty : Bool,
      (["call_id", "text", "code"] ++ if faulty then ["fault_data"] else []).Nodup) _
  case inputPage =>
    intro key item _
    rw [memberNames_pageDraft]
    decide
  case outputPage =>
    intro key item _
    rw [memberNames_pageDraft]
    decide

/-- The numbers of a call with an answer. -/
theorem messagesFrom_eq_request {first : NodeId} {messages : RequestMessages}
    (h : op.messagesFrom first = .request messages) :
    op.kind.isOneWay = false ∧ messages.request = first ∧ messages.response = first + 1 ∧
      messages.fault = op.faultNumber first ∧
      messages.outputPage = op.outputStream.map fun _ =>
        op.faultNumber first + 1 + op.inputStream.isSome.toNat := by
  unfold messagesFrom at h
  split at h
  · cases h
  · next hone =>
      cases h
      exact ⟨by simpa using hone, rfl, rfl, rfl, rfl⟩

/-- Only a one-way operation has a single message, which is its first node. -/
theorem messagesFrom_eq_oneWay {first message : NodeId}
    (h : op.messagesFrom first = .oneWay message) :
    op.kind.isOneWay = true ∧ message = first := by
  unfold messagesFrom at h
  split at h
  · next hone =>
      cases h
      exact ⟨hone, rfl⟩
  · cases h

end Operation

/-- No system message has two members of one name. -/
theorem SystemMessage.nodup_memberNames (message : SystemMessage) :
    (memberNames message.fields).Nodup := by
  cases message <;> decide +kernel

/-! ## Members in the catalog -/

/-- The members of the type with a number, in order. -/
def Catalog.HasMembers (catalog : Catalog) (id : NodeId) (names : List String) : Prop :=
  ∃ node, catalog.node id = .ok node ∧ memberNames node.fields = names

namespace Compiled

variable {c : Contract} {options : Options} {compiled : Compiled}
variable (h : c.compile options = .ok compiled)
include h

/-- No type of a catalog has two members of one name. -/
theorem nodup_memberNames {node : Node} (hnode : node ∈ compiled.catalog.nodes) :
    (memberNames node.fields).Nodup := by
  rw [catalog_nodes h, List.mem_append] at hnode
  rcases hnode with hnode | hnode
  · obtain ⟨draft, hdraft, id, rfl⟩ := Draft.mem_finalizeFrom hnode
    rcases List.mem_cons.1 hdraft with rfl | hdraft
    · exact List.nodup_nil
    · obtain ⟨message, -, rfl⟩ := List.mem_map.1 hdraft
      exact message.nodup_memberNames
  · obtain ⟨p, -, hnode⟩ := List.mem_flatMap.1 hnode
    obtain ⟨draft, hdraft, id, rfl⟩ := Draft.mem_finalizeFrom hnode
    exact Operation.nodup_memberNames_drafts _ _ _ draft hdraft

section Placed

variable {p : Placement} (hp : p ∈ compiled.placements)
include hp

/-- The number of a draft leads to its type.  The key of an operation is not known here, so the
draft is given for every key. -/
theorem node_of_draft (draft : MessageKey → Draft) {id : NodeId}
    (hdraft : ∀ key, (draft key, id) ∈ (p.candidate.operation.drafts c p.candidate.index
      (p.candidate.operation.keysFrom key) p.first).zipIdx p.first) :
    ∃ key, compiled.catalog.node id = .ok ((draft key).finalize id c.qualifiedName) := by
  obtain ⟨key, -, hkeys⟩ := exists_block h hp
  have hnode : (draft key).finalize id c.qualifiedName ∈ compiled.catalog.nodes := by
    rw [catalog_nodes h]
    refine List.mem_append_right _ (List.mem_flatMap.2 ⟨p, hp, ?_⟩)
    rw [Placement.nodes, Placement.drafts, hkeys]
    exact List.mem_map.2 ⟨_, hdraft key, rfl⟩
  exact ⟨key, node_eq_ok h hnode⟩

/-- The members of a type are those of its draft. -/
theorem members_of_draft (draft : MessageKey → Draft) {id : NodeId} {names : List String}
    (hdraft : ∀ key, (draft key, id) ∈ (p.candidate.operation.drafts c p.candidate.index
      (p.candidate.operation.keysFrom key) p.first).zipIdx p.first)
    (hnames : ∀ key, memberNames (draft key).fields = names) :
    compiled.catalog.HasMembers id names := by
  obtain ⟨key, hnode⟩ := node_of_draft h hp draft hdraft
  exact ⟨_, hnode, hnames key⟩

/-- The message of a placed one-way operation, in the catalog. -/
theorem members_oneWay {message : NodeId} (hmessages : p.messages = .oneWay message) :
    compiled.catalog.HasMembers message (p.candidate.operation.params.map Param.fieldName) := by
  obtain ⟨hone, rfl⟩ := Operation.messagesFrom_eq_oneWay _ hmessages
  apply members_of_draft h hp (p.candidate.operation.oneWayDraft c p.candidate.index)
  · simp [Operation.drafts, Operation.keysFrom, hone]
  · exact Operation.memberNames_oneWayDraft c _ _

/-- A carrier of a placed operation, in the catalog. -/
theorem members_carrier {carrier : FaultCarrier} (hcarrier : carrier ∈
      (p.candidate.operation.faultSet c p.candidate.index (p.first + 2)).carriers) :
    compiled.catalog.HasMembers carrier.node ["payload"] := by
  obtain ⟨entry, hentry, rfl⟩ := Operation.exists_of_mem_carriers hcarrier
  exact ⟨_, node_carrier h hp hentry,
    p.candidate.operation.memberNames_carrierDraft p.candidate.index (p.first + 2) entry.1⟩

section Request

variable {messages : RequestMessages} (hmessages : p.messages = .request messages)
include hmessages

/-- The request of a placed operation, in the catalog. -/
theorem members_request :
    compiled.catalog.HasMembers messages.request
      (["call_id", "options"] ++ p.candidate.operation.params.map Param.fieldName ++
        if p.candidate.operation.isStreaming then ["window_size"] else []) := by
  obtain ⟨hone, hid, -⟩ := Operation.messagesFrom_eq_request _ hmessages
  apply members_of_draft h hp (p.candidate.operation.requestDraft c p.candidate.index)
  · simp [Operation.zipIdx_drafts _ _ _ _ hone, hid]
  · exact Operation.memberNames_requestDraft c _ _

theorem members_response :
    compiled.catalog.HasMembers messages.response
      ("call_id" :: if p.candidate.operation.result.isSome then ["result"] else []) := by
  obtain ⟨hone, -, hid, -⟩ := Operation.messagesFrom_eq_request _ hmessages
  apply members_of_draft h hp fun key =>
    p.candidate.operation.responseDraft c p.candidate.index (key + 1)
  · simp [Operation.zipIdx_drafts _ _ _ _ hone, hid]
  · exact fun key => Operation.memberNames_responseDraft c _ _ _

/-- The fault message of a placed operation points to the marker if faults are declared. -/
theorem node_fault :
    ∃ key, compiled.catalog.node messages.fault =
      .ok ((p.candidate.operation.faultDraft c p.candidate.index key
        (if p.candidate.operation.faults.isEmpty then none else some (p.first + 2))).finalize
          messages.fault c.qualifiedName) := by
  obtain ⟨hone, -, -, hid, -⟩ := Operation.messagesFrom_eq_request _ hmessages
  rw [hid]
  obtain ⟨key, hnode⟩ := node_of_draft h hp (fun key =>
    p.candidate.operation.faultDraft c p.candidate.index (key + 2)
      (if p.candidate.operation.faults.isEmpty then none else some (p.first + 2)))
    fun key => by
      rw [Operation.zipIdx_drafts _ _ _ _ hone]
      exact List.mem_append_left _ (List.mem_append_left _ (List.mem_append_right _
        (List.mem_singleton.2 rfl)))
  exact ⟨key + 2, hnode⟩

/-- So the fault message has data exactly if faults are declared. -/
theorem members_fault :
    compiled.catalog.HasMembers messages.fault
      (["call_id", "text", "code"] ++
        if p.candidate.operation.faults.isEmpty then [] else ["fault_data"]) := by
  obtain ⟨key, hnode⟩ := node_fault h hp hmessages
  refine ⟨_, hnode, ?_⟩
  change memberNames (p.candidate.operation.faultDraft c p.candidate.index key _).fields = _
  rw [Operation.memberNames_faultDraft]
  cases p.candidate.operation.faults.isEmpty <;> rfl

/-- A page that the handler streams. -/
theorem members_outputPage {page : NodeId} (hpage : messages.outputPage = some page) :
    compiled.catalog.HasMembers page ["call_id", "items"] := by
  obtain ⟨hone, -, -, -, hid⟩ := Operation.messagesFrom_eq_request _ hmessages
  rw [hid, Option.map_eq_some_iff] at hpage
  obtain ⟨item, hitem, rfl⟩ := hpage
  apply members_of_draft h hp fun key => p.candidate.operation.pageDraft c p.candidate.index
    .outputPage (key + 3 + p.candidate.operation.inputStream.isSome.toNat) item
  · simp [Operation.zipIdx_drafts _ _ _ _ hone, hitem]
  · exact fun key => Operation.memberNames_pageDraft c _ _ _ _ _

end Request

end Placed

end Compiled

end ServiceContract
