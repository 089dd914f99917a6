import ServiceContract.Proofs.MarkedSource
import ServiceContract.Proofs.MemberNames

/-!
# Literals fit their types

The type of a message is written from the catalog.  The literals that build messages are written
from parameter lists, from what an operation declares, and with names that are spelled out; the code
that takes messages apart reads members in the same way.  They agree: a literal sets the members of
its type, all of them, in order and once, and a read names a member of the type that its variable
has.

Both are stated of marked code (`Marked.Fits`), which is checked piece by piece in the scope of the
variables around it.  The main statement is `Source.literals_fit`.
-/

namespace ServiceContract

/-- A literal sets the members of the type it names, in order and once each. -/
def Literal.Fits (catalog : Catalog) (literal : Literal) : Prop :=
  ∃ node, catalog.byName? literal.type = some node ∧
    literal.inits.map FieldInit.field = memberNames node.fields ∧
    (literal.inits.map FieldInit.field).Nodup

/-- A part of a line agrees with the catalog.  What is read is a member of the type that the
innermost variable of that name has. -/
def Span.Fits (catalog : Catalog) (scope : Scope) : Span → Prop
  | plain _ => True
  | literal value => value.Fits catalog
  | read holder field => ∃ id node, scope.lookup holder = some id ∧
      catalog.node id = .ok node ∧ field ∈ memberNames node.fields

/-- A text binds variables by matching messages of their types. -/
def Scope.BoundIn (catalog : Catalog) (text : String) (binds : Scope) : Prop :=
  ∀ bind ∈ binds, (catalog.name bind.2 ++ "(" ++ bind.1 ++ ")").toList <:+: text.toList

/-- Marked code agrees with the catalog, in the scope of some variables.  What a line or the header
of a block binds is in the scope of its parts. -/
inductive Marked.Fits (catalog : Catalog) : Scope → Marked → Prop
  | plain {scope code} : Fits catalog scope (.plain code)
  | line {scope spans binds} : binds.BoundIn catalog (String.join (spans.map Span.text)) →
      (∀ span ∈ spans, span.Fits catalog (binds ++ scope)) →
      Fits catalog scope (.line spans binds)
  | block {scope header body binds close} : binds.BoundIn catalog header →
      (∀ piece ∈ body, Fits catalog (binds ++ scope) piece) →
      Fits catalog scope (.block header body binds close)

/-- All pieces of marked code agree with the catalog. -/
def Marked.FitsAll (catalog : Catalog) (scope : Scope) (body : List Marked) : Prop :=
  ∀ piece ∈ body, piece.Fits catalog scope

/-! ## Marked code piece by piece -/

section Pieces

variable {catalog : Catalog} {scope : Scope}

@[simp]
theorem Scope.boundIn_nil (text : String) : BoundIn catalog text [] := by simp [BoundIn]

@[simp]
theorem Span.fits_plain (text : String) : (plain text).Fits catalog scope := trivial

/-- A literal fits whatever variables are in scope. -/
@[simp]
theorem Span.fits_literal (value : Literal) :
    (literal value).Fits catalog scope ↔ value.Fits catalog := .rfl

/-- A read of a member, if the members are known. -/
theorem Span.fits_read {holder field : String} {id : NodeId} {names : List String}
    (hscope : scope.lookup holder = some id) (hmembers : catalog.HasMembers id names)
    (hfield : field ∈ names) : (read holder field).Fits catalog scope := by
  obtain ⟨node, hnode, rfl⟩ := hmembers
  exact ⟨id, node, hscope, hnode, hfield⟩

/-- The commas between spans claim nothing. -/
theorem Span.fits_of_mem_commaSpans {spans : List Span}
    (h : ∀ span ∈ spans, span.Fits catalog scope) :
    ∀ span ∈ commaSpans spans, span.Fits catalog scope := by
  induction spans with
  | nil => simp [commaSpans]
  | cons first rest ih =>
      cases rest with
      | nil => simpa [commaSpans] using h
      | cons next rest =>
          have hrest := ih fun span hspan => h span (List.mem_cons_of_mem _ hspan)
          intro span hspan
          rw [commaSpans, List.intersperse_cons_cons, List.mem_cons, List.mem_cons] at hspan
          rcases hspan with rfl | rfl | hspan
          · exact h _ List.mem_cons_self
          · exact fits_plain _
          · exact hrest span hspan

namespace Marked

@[simp]
theorem fits_plain (code : Code) : (Marked.plain code).Fits catalog scope := .plain

/-- A line fits if its spans do, with what the line itself binds. -/
@[simp]
theorem fits_line {spans : List Span} {binds : Scope} :
    (Marked.line spans binds).Fits catalog scope ↔
      binds.BoundIn catalog (String.join (spans.map Span.text)) ∧
        ∀ span ∈ spans, span.Fits catalog (binds ++ scope) :=
  ⟨fun | .line hbinds hspans => ⟨hbinds, hspans⟩, fun h => .line h.1 h.2⟩

/-- A block fits if its body does, with what its header binds. -/
@[simp]
theorem fits_block {header close : String} {body : List Marked} {binds : Scope} :
    (Marked.block header body binds close).Fits catalog scope ↔
      binds.BoundIn catalog header ∧ FitsAll catalog (binds ++ scope) body :=
  ⟨fun | .block hbinds hbody => ⟨hbinds, hbody⟩, fun h => .block h.1 h.2⟩

@[simp]
theorem fitsAll_nil : FitsAll catalog scope [] := by simp [FitsAll]

/-- Marked code fits piece by piece. -/
@[simp]
theorem fitsAll_cons {piece : Marked} {rest : List Marked} :
    FitsAll catalog scope (piece :: rest) ↔
      piece.Fits catalog scope ∧ FitsAll catalog scope rest := by
  simp [FitsAll]

/-- Marked code behind marked code fits if both do. -/
@[simp]
theorem fitsAll_append {front back : List Marked} :
    FitsAll catalog scope (front ++ back) ↔
      FitsAll catalog scope front ∧ FitsAll catalog scope back := by
  simp [FitsAll, or_imp, forall_and]

/-- Code without marks claims nothing. -/
@[simp]
theorem fitsAll_map_plain (code : List Code) : FitsAll catalog scope (code.map .plain) := by
  simp [FitsAll]

end Marked

end Pieces

/-! ## Literals of a compiled contract -/

namespace Compiled

variable {c : Contract} {options : Options} {compiled : Compiled}
variable (h : c.compile options = .ok compiled)
include h

/-- A literal fits if it sets the members of the type with a number, under the name of the type. -/
theorem literal_fits {id : NodeId} {inits : List FieldInit}
    (hmembers : compiled.catalog.HasMembers id (inits.map FieldInit.field)) :
    Literal.Fits compiled.catalog ⟨compiled.catalog.name id, inits⟩ := by
  obtain ⟨node, hid, hnames⟩ := hmembers
  have hget := Catalog.node_eq_ok_iff.1 hid
  have hnode : node ∈ compiled.catalog.nodes := List.mem_of_getElem? hget
  have hname : compiled.catalog.name id = node.name := by
    simp [Catalog.name, Catalog.get?, hget]
  refine ⟨node, ?_, hnames.symm, hnames ▸ nodup_memberNames h hnode⟩
  -- The name leads back to the type, since no two types share one.
  rw [hname, Catalog.byName?, (index_lists h).find?_eq_some hnode, Option.bind_some]
  exact (tiered h).getElem?_id hnode

/-- A placed operation is found under its position, with its types. -/
theorem operation?_placed {p : Placement} (hp : p ∈ compiled.placements) :
    compiled.catalog.operation? p.candidate.index = some p.messages := by
  have hmem : (p.candidate.index, p.messages) ∈ compiled.catalog.generated := by
    rw [catalog_generated h]
    exact List.mem_map_of_mem hp
  obtain ⟨⟨found, index⟩, hentry, hfound⟩ := List.mem_filterMap.1 hmem
  obtain ⟨messages, rfl, heq⟩ := Option.map_eq_some_iff.1 hfound
  cases heq
  rw [Catalog.operation?, List.mem_zipIdx_iff_getElem?.1 hentry]
  rfl

/-- A fault message has a place for a carrier exactly if the operation declares faults. -/
theorem carriesFaultData_fault {p : Placement} (hp : p ∈ compiled.placements)
    {messages : RequestMessages} (hmessages : p.messages = .request messages) :
    compiled.catalog.carriesFaultData messages.fault = !p.candidate.operation.faults.isEmpty := by
  obtain ⟨key, hnode⟩ := node_fault h hp hmessages
  have hget : compiled.catalog.get? messages.fault = _ := Catalog.node_eq_ok_iff.1 hnode
  rw [Catalog.carriesFaultData, hget, Option.bind_some]
  cases p.candidate.operation.faults.isEmpty <;> rfl

end Compiled

theorem Param.field_init (param : Param) : param.init.field = param.fieldName := by
  unfold init
  split <;> rfl

/-- The arguments are written into the fields that carry them. -/
theorem map_field_init (params : List Param) :
    (params.map Param.init).map FieldInit.field = params.map Param.fieldName := by
  rw [List.map_map]
  exact List.map_congr_left fun param _ => param.field_init

/-- What a stub copies.  There are stubs only for an operation that is not opened. -/
theorem Generated.of_mem_stubs {entry : Generated} {stub : Stub} (h : stub ∈ entry.stubs) :
    entry.opener? = none ∧ stub.operation = entry.index ∧
      stub.message = entry.messages.outbound ∧ stub.oneWay = entry.operation.kind.isOneWay ∧
      (stub.prebuilt = false → stub.params = entry.operation.params) := by
  obtain ⟨base, prebuilt, hnamed⟩ := entry.mem_stubsNamed h
  obtain ⟨style, -, rfl⟩ := List.mem_map.1 hnamed
  refine ⟨?_, rfl, rfl, rfl, fun hprebuilt => if_neg (by simpa using hprebuilt)⟩
  cases hopener : entry.opener? with
  | none => rfl
  | some opener => simp [stubs, hopener] at h

/-- A call with an answer that is not opened does not stream. -/
theorem Generated.isStreaming_of_not_opened {entry : Generated} {messages : RequestMessages}
    (hmessages : entry.messages = .request messages) (h : entry.opener? = none) :
    entry.operation.isStreaming = false := by
  rw [opener?, hmessages] at h
  cases hopen : entry.operation.isStreaming with
  | false => rfl
  | true => simp [hopen] at h

/-! ## One operation -/

namespace Source

open Marked Compiled

variable {c : Contract} {options : Options} {s : Source}
variable (h : c.compile options = .ok s.compiled)
variable {p : Placement} (hp : p ∈ s.compiled.placements)

/-- A case of a choice between messages binds a variable of its type. -/
theorem boundIn_case (s : Source) (holder : String) (id : NodeId) (back : String) {text : String}
    (htext : text = s.base ++ "::" ++ s.nodeName id ++ "(" ++ holder ++ ")" ++ back) :
    Scope.BoundIn s.catalog text [(holder, id)] := by
  intro bind hbind
  rw [List.mem_singleton.1 hbind, htext]
  exact ⟨(s.base ++ "::").toList, back.toList, by simp [nodeName]⟩

section Placed

include h hp

/-- The contract declares a placed operation under its index. -/
theorem declared_placed : s.operation? p.candidate.index = some p.candidate.operation := by
  rw [Source.operation?, Contract.compile_contract h]
  exact (mem_placements h hp).1

theorem operationParams_placed :
    s.operationParams p.candidate.index = p.candidate.operation.params := by
  rw [operationParams, declared_placed h hp]
  rfl

/-- The field of the result is there exactly if a result is declared. -/
theorem resultField?_placed :
    s.resultField? p.candidate.index =
      if p.candidate.operation.result.isSome then some "result" else none := by
  obtain ⟨-, -, -, hname, -⟩ := fieldName_fixed
  rw [resultField?, declared_placed h hp, Option.bind_some, Operation.resultParam,
    Option.map_map]
  cases p.candidate.operation.result with
  | none => rfl
  | some type => exact congrArg some hname

/-- The arguments of an operation are read from members of its message. -/
theorem fits_markedReads {scope : Scope} {holder : String} {id : NodeId} {names : List String}
    (hscope : scope.lookup holder = some id) (hmembers : s.catalog.HasMembers id names)
    (hnames : p.candidate.operation.params.map Param.fieldName ⊆ names) :
    ∀ span ∈ s.markedReads holder p.candidate.index, span.Fits s.catalog scope := by
  intro span hspan
  rw [markedReads, operationParams_placed h hp] at hspan
  obtain ⟨param, hparam, rfl⟩ := List.mem_map.1 hspan
  exact Span.fits_read hscope hmembers (hnames (List.mem_map_of_mem hparam))

/-- The literal of a one-way message sets the fields of its node. -/
theorem fits_oneWayLiteral {message : NodeId} (hmessages : p.messages = .oneWay message) :
    (s.oneWayLiteral message p.candidate.operation.params).Fits s.catalog := by
  apply literal_fits h
  rw [map_field_init]
  exact members_oneWay h hp hmessages

/-- The arm of a one-way message reads only fields that the message has. -/
theorem fits_markedOneWay {message : NodeId} (hmessages : p.messages = .oneWay message)
    (handler : String) :
    FitsAll s.catalog [("message", message)]
      (s.markedOneWay p.candidate.index handler message) := by
  have hreads : ∀ span ∈ Span.commaSpans (s.markedReads "message" p.candidate.index),
      span.Fits s.catalog [("message", message)] :=
    Span.fits_of_mem_commaSpans (fits_markedReads h hp rfl (members_oneWay h hp hmessages)
      (List.Subset.refl _))
  simpa [markedOneWay, or_imp, forall_and] using hreads

section Request

variable {messages : RequestMessages} (hmessages : p.messages = .request messages)
include hmessages

/-- The literal of a request without streams sets the fields of its node. -/
theorem fits_requestLiteral (hstreaming : p.candidate.operation.isStreaming = false) :
    (s.requestLiteral messages.request p.candidate.operation.params).Fits s.catalog := by
  have hmembers := members_request h hp hmessages
  rw [hstreaming, if_neg Bool.false_ne_true, List.append_nil] at hmembers
  apply literal_fits h
  rw [List.map_append, map_field_init]
  exact hmembers

/-- With a stream the request has a window, which the opening literal sets. -/
theorem fits_openingLiteral (hstreaming : p.candidate.operation.isStreaming = true) :
    (s.openingLiteral messages.request p.candidate.operation.params).Fits s.catalog := by
  have hmembers := members_request h hp hmessages
  rw [hstreaming, if_pos rfl] at hmembers
  apply literal_fits h
  rw [List.map_append, List.map_append, map_field_init]
  exact hmembers

/-- A literal for a fault without a carrier sets all fields of the fault message. -/
theorem fits_faultLiteral (text code : String) :
    (s.faultLiteral messages.fault text code).Fits s.catalog := by
  have hmembers := members_fault h hp hmessages
  have hcarries : s.catalog.carriesFaultData messages.fault = _ :=
    carriesFaultData_fault h hp hmessages
  apply literal_fits h
  rw [hcarries]
  cases hfaults : p.candidate.operation.faults.isEmpty <;>
    simpa [hfaults, FieldInit.field] using hmembers

/-- With a carrier, the place for it has to be there, so a fault must be declared. -/
theorem fits_carrierFaultLiteral (hfaults : p.candidate.operation.faults ≠ []) :
    (s.carrierFaultLiteral messages.fault).Fits s.catalog := by
  have hmembers := members_fault h hp hmessages
  rw [List.isEmpty_eq_false_iff.2 hfaults] at hmembers
  exact literal_fits h hmembers

/-- A fault message is taken apart by its members. -/
theorem fits_markedFaultArm (scope : Scope) (first last : String) :
    (s.markedFaultArm messages.fault first last).Fits s.catalog scope := by
  have hread : ∀ field ∈ ["call_id", "text", "code"] ++
        (if p.candidate.operation.faults.isEmpty then [] else ["fault_data"]),
      (Span.read "fault" field).Fits s.catalog (("fault", messages.fault) :: scope) :=
    fun field => Span.fits_read rfl (members_fault h hp hmessages)
  have hcarries : s.catalog.carriesFaultData messages.fault = _ :=
    carriesFaultData_fault h hp hmessages
  unfold markedFaultArm
  rw [hcarries]
  cases hfaults : p.candidate.operation.faults.isEmpty with
  | true =>
      refine fits_line.2 ⟨s.boundIn_case "fault" messages.fault
        (" => " ++ first ++ "CallError::remote(fault.code, fault.text, None)" ++ last ++ ",")
        ?_, ?_⟩
      · simp [← String.toList_inj]
      · simp [hread]
  | false =>
      refine fits_block.2 ⟨s.boundIn_case "fault" messages.fault " =>" ?_, ?_⟩
      · simp [← String.toList_inj]
      · simp [hread, hfaults]

/-- So is a response. -/
theorem fits_markedResponseArm (scope : Scope) (first last : String) :
    (s.markedResponseArm p.candidate.index messages.response first last).Fits s.catalog scope := by
  have hmembers := members_response h hp hmessages
  unfold markedResponseArm
  rw [resultField?_placed h hp]
  cases hresult : p.candidate.operation.result.isSome with
  | false => exact .plain
  | true =>
      rw [hresult] at hmembers
      have hread : (Span.read "response" "result").Fits s.catalog
          ([("response", messages.response)] ++ scope) :=
        Span.fits_read rfl hmembers (by decide)
      refine fits_line.2 ⟨s.boundIn_case "response" messages.response
        (" => " ++ first ++ "response.result" ++ last ++ ",") ?_, ?_⟩
      · simp [← String.toList_inj]
      · simpa using hread

/-- The literal of a response sets the result exactly if one is declared. -/
theorem fits_responseLiteral {arm : RequestArm} (hoperation : arm.operation = p.candidate.index)
    (hresponse : arm.response = messages.response)
    (hresult : arm.hasResult = p.candidate.operation.result.isSome) :
    (s.responseLiteral arm).Fits s.catalog := by
  have hmembers := members_response h hp hmessages
  rw [responseLiteral, hoperation, hresponse, hresult, resultField?_placed h hp]
  apply literal_fits h
  cases hdeclared : p.candidate.operation.result.isSome <;>
    simpa [hdeclared, FieldInit.field] using hmembers

/-- Every test of the catch chain answers with messages that fit. -/
theorem fits_markedBranch (scope : Scope) {branch : CatchBranch}
    (hbranch : branch ∈ s.catalog.catchChain p.candidate.index) :
    FitsAll s.catalog scope (s.markedBranch messages.fault branch) := by
  rcases mem_catchChain h hp hbranch with ⟨carrier, hcarrier, rfl⟩ | rfl | rfl
  · -- Where there is a carrier, faults are declared, and the fault message has a place for it.
    have hfaults : p.candidate.operation.faults ≠ [] := by
      obtain ⟨entry, hentry, -⟩ := Operation.exists_of_mem_carriers hcarrier
      exact List.ne_nil_of_mem (List.fst_mem_of_mem_zipIdx hentry)
    have hcarries : (s.carrierLiteral carrier.node).Fits s.catalog :=
      literal_fits h (members_carrier h hp hcarrier)
    have hfault := fits_carrierFaultLiteral h hp hmessages hfaults
    simp [markedBranch, markedReply, hcarries, hfault]
  · have hfault := fits_faultLiteral h hp hmessages "fault.to_string()" "Declared"
    simp [markedBranch, markedReply, hfault]
  · exact fitsAll_nil

/-- The arm of a request makes and reads only messages as the catalog has them. -/
theorem fits_markedRequest {arm : RequestArm} (hoperation : arm.operation = p.candidate.index)
    (hresponse : arm.response = messages.response) (hfault : arm.fault = messages.fault)
    (hstreaming : arm.context.isStreaming = p.candidate.operation.isStreaming)
    (hresult : arm.hasResult = p.candidate.operation.result.isSome)
    (hchain : arm.catchChain = s.catalog.catchChain p.candidate.index) :
    FitsAll s.catalog [("request", messages.request)] (s.markedRequest arm) := by
  have hread : ∀ field ∈ ["call_id", "options"] ++
        p.candidate.operation.params.map Param.fieldName ++
        (if p.candidate.operation.isStreaming then ["window_size"] else []),
      (Span.read "request" field).Fits s.catalog [("request", messages.request)] :=
    fun field => Span.fits_read rfl (members_request h hp hmessages)
  have hcontext : ∀ span ∈ s.markedContext p.candidate.operation.isStreaming,
      span.Fits s.catalog [("request", messages.request)] := by
    cases hopen : p.candidate.operation.isStreaming <;> simp [markedContext, hread, hopen]
  have hreads : ∀ span ∈ Span.commaSpans
        (.plain "&call" :: s.markedReads "request" p.candidate.index),
      span.Fits s.catalog [("request", messages.request)] := by
    refine Span.fits_of_mem_commaSpans (List.forall_mem_cons.2 ⟨Span.fits_plain _, ?_⟩)
    exact fits_markedReads h hp rfl (members_request h hp hmessages)
      (List.subset_append_of_subset_left _ (List.subset_append_right ..))
  have hanswer : (s.markedResponse arm).Fits s.catalog [("request", messages.request)] := by
    have hliteral := fits_responseLiteral h hp hmessages hoperation hresponse hresult
    unfold markedResponse
    split
    · cases arm.sentHook <;> simp [markedReply, hliteral]
    · simp [markedReply, hliteral]
  have hcaught : FitsAll s.catalog [("request", messages.request)]
      (arm.catchChain.flatMap (s.markedBranch messages.fault)) := by
    intro piece hpiece
    obtain ⟨branch, hbranch, hpiece⟩ := List.mem_flatMap.1 hpiece
    exact fits_markedBranch h hp hmessages _ (hchain ▸ hbranch) piece hpiece
  have hpanic := fits_faultLiteral h hp hmessages "panic.to_string()" "Unexpected"
  rw [markedRequest, hoperation, hfault, hstreaming]
  simpa [markedReply, or_imp, forall_and, hread, hanswer, hcaught, hpanic] using
    ⟨hcontext, hreads⟩

end Request

/-- **Handlers.**  The method of an arm reads and builds messages by their members. -/
theorem fits_markedArm (key : MessageKey) :
    FitsAll s.catalog
      [((p.generated.arm s.catalog key).holder, (p.generated.arm s.catalog key).inbound)]
      (s.markedArm (p.generated.arm s.catalog key)) := by
  unfold Generated.arm
  split
  · next message hmessages => exact fits_markedOneWay h hp hmessages _
  · next messages hmessages =>
      refine fits_markedRequest h hp hmessages rfl rfl rfl ?_ rfl rfl
      change CallContext.isStreaming (if p.candidate.operation.isStreaming then _ else _) = _
      cases p.candidate.operation.isStreaming <;> rfl

/-- **Stubs.**  A stub that sends a message builds it by its members, and takes the answer apart by
theirs. -/
theorem fits_markedSend {stub : Stub} (hstub : stub ∈ p.generated.stubs) :
    FitsAll s.catalog [] (s.markedSend stub) := by
  obtain ⟨hopener, hoperation, hmessage, hone, hparams⟩ := Generated.of_mem_stubs hstub
  unfold markedSend
  split
  · -- A message that was built ahead of time is sent as it is.
    exact fitsAll_map_plain _
  · next hprebuilt =>
      rw [hparams (by simpa using hprebuilt), hmessage, hone, hoperation]
      simp only [Placement.generated]
      cases hmessages : p.messages with
      | oneWay message =>
          have hkind := (Operation.messagesFrom_eq_oneWay _ hmessages).1
          have hliteral := fits_oneWayLiteral h hp hmessages
          simpa [hkind, OperationMessages.outbound] using hliteral
      | request messages =>
          have hkind := (Operation.messagesFrom_eq_request _ hmessages).1
          have htypes : s.catalog.operation? p.candidate.index = some (.request messages) :=
            (operation?_placed h hp).trans (congrArg some hmessages)
          have hliteral := fits_requestLiteral h hp hmessages
            (Generated.isStreaming_of_not_opened hmessages hopener)
          have hresponse := fits_markedResponseArm h hp hmessages [] "Ok(" ")"
          have hfault := fits_markedFaultArm h hp hmessages [] "Err(" ")"
          simpa [hkind, htypes, OperationMessages.outbound] using ⟨hliteral, hresponse, hfault⟩

/-- Every stub of an operation makes its message as the catalog has it. -/
theorem fits_markedStub {stub : Stub} (hstub : stub ∈ p.generated.stubs) :
    FitsAll s.catalog [] (s.markedStub stub) := by
  unfold markedStub
  split
  · exact fits_markedSend h hp hstub
  · exact fitsAll_map_plain _

/-- **Streams.**  A stream is opened with the members of its request, and takes pages and answers
apart by theirs. -/
theorem fits_opener {opener : StreamOpener} (hopener : p.generated.opener? = some opener) :
    FitsAll s.catalog [] (s.markedOpening opener) ∧ FitsAll s.catalog [] (s.markedItems opener) ∧
      FitsAll s.catalog [] (s.markedSettle opener) := by
  unfold Generated.opener? at hopener
  split at hopener
  · cases hopener
  · next messages hmessages =>
      rw [Option.ite_none_right_eq_some] at hopener
      obtain ⟨hstreaming, hopener⟩ := hopener
      rw [← Option.some.inj hopener]
      have hmessages : p.messages = .request messages := hmessages
      refine ⟨?_, ?_, ?_⟩
      · have hliteral := fits_openingLiteral h hp hmessages hstreaming
        simpa [markedOpening, Placement.generated] using hliteral
      · cases hpage : messages.outputPage with
        | none => simp [markedItems]
        | some page =>
            have hread : (Span.read "page" "items").Fits s.catalog [("page", page)] :=
              Span.fits_read rfl (members_outputPage h hp hmessages hpage) (by decide)
            have hbound : Scope.BoundIn s.catalog
                (s.base ++ "::" ++ s.nodeName page ++ "(page) => Ok(" ++ "page.items),")
                [("page", page)] :=
              s.boundIn_case "page" page " => Ok(page.items)," (by simp [← String.toList_inj])
            simpa [markedItems, hpage] using ⟨hbound, hread⟩
      · have hresponse := fits_markedResponseArm h hp hmessages [] "Ok(Ok(" "))"
        have hfault := fits_markedFaultArm h hp hmessages [] "Ok(Err(" "))"
        simpa [markedSettle, Placement.generated] using ⟨hresponse, hfault⟩

/-- So does the function that builds the message ahead of time. -/
theorem fits_prebuild {serializer : Serializer} {helper : PrebuildHelper}
    (hhelper : p.generated.prebuildHelper? serializer = some helper) :
    FitsAll s.catalog [] (s.markedPrebuild helper) := by
  rw [Generated.prebuildHelper?, Option.ite_none_right_eq_some, Bool.and_eq_true,
    Operation.offersPrebuilt, Bool.and_eq_true] at hhelper
  obtain ⟨⟨-, hone, -⟩, hhelper⟩ := hhelper
  have hmessages : p.messages = .oneWay p.first := if_pos hone
  have hliteral := fits_oneWayLiteral h hp hmessages
  rw [← Option.some.inj hhelper]
  simpa [markedPrebuild, Placement.generated, hmessages, OperationMessages.outbound] using hliteral

end Placed

/-- What a peer calls and handles agrees with the types of the messages: each method is written from
marked code, and the marked code fits. -/
structure LiteralsFit (s : Source) (peer : Peer) : Prop where
  arms : ∀ arm ∈ (s.compiled.dispatch peer).arms,
    Declares (s.armMethod arm) ⟨arm.holder, s.nodeName arm.inbound⟩ ∧
    EndsWith (s.armMethod arm) (writtenOut (codeAll (s.markedArm arm))) ∧
    FitsAll s.catalog [(arm.holder, arm.inbound)] (s.markedArm arm)
  stubs : ∀ stub ∈ (s.compiled.surface peer).methods,
    EndsWith (s.stubMethod stub) (codeAll (s.markedStub stub)) ∧
    FitsAll s.catalog [] (s.markedStub stub)
  openers : ∀ opener ∈ (s.compiled.surface peer).streams,
    EndsWith (s.openerMethod opener) (codeAll (s.markedOpening opener)) ∧
    FitsAll s.catalog [] (s.markedOpening opener)
  wirings : ∀ opener ∈ (s.compiled.surface peer).streams,
    ∀ body ∈ [s.markedItems opener, s.markedSettle opener],
      (∃ method ∈ s.wiringMethods opener, EndsWith method (codeAll body)) ∧
      FitsAll s.catalog [] body
  prebuild : ∀ helper ∈ (s.compiled.surface peer).prebuild,
    EndsWith (s.prebuildFunction helper) (codeAll (s.markedPrebuild helper)) ∧
    FitsAll s.catalog [] (s.markedPrebuild helper)

/-- **Literals fit their types.**  In the source of a compiled contract every literal sets the
members of its type, in order and once, and every read of a message names a member of its type. -/
theorem literals_fit (h : c.compile options = .ok s.compiled) (peer : Peer) :
    s.LiteralsFit peer := by
  refine ⟨?_, ?_, ?_, ?_, ?_⟩
  · intro arm harm
    rw [arms_eq h] at harm
    obtain ⟨p, hp, rfl⟩ := List.mem_map.1 harm
    exact ⟨s.declares_armMethod _, s.endsWith_armMethod _, fits_markedArm h (mem_directed.1 hp).1 _⟩
  · intro stub hstub
    rw [methods_eq h] at hstub
    obtain ⟨p, hp, hstub⟩ := List.mem_flatMap.1 hstub
    exact ⟨s.endsWith_stubMethod stub, fits_markedStub h (mem_directed.1 hp).1 hstub⟩
  · intro opener hopener
    rw [streams_eq h] at hopener
    obtain ⟨p, hp, hopener⟩ := List.mem_filterMap.1 hopener
    exact ⟨s.endsWith_openerMethod opener, (fits_opener h (mem_directed.1 hp).1 hopener).1⟩
  · intro opener hopener
    rw [streams_eq h] at hopener
    obtain ⟨p, hp, hopener⟩ := List.mem_filterMap.1 hopener
    obtain ⟨-, hitems, hsettle⟩ := fits_opener h (mem_directed.1 hp).1 hopener
    obtain ⟨hwriteItems, hwriteSettle⟩ := s.endsWith_wiringMethods opener
    simpa using ⟨⟨hwriteItems, hitems⟩, hwriteSettle, hsettle⟩
  · intro helper hhelper
    rw [prebuild_eq h] at hhelper
    obtain ⟨p, hp, hhelper⟩ := List.mem_filterMap.1 hhelper
    exact ⟨s.endsWith_prebuildFunction helper, fits_prebuild h (mem_directed.1 hp).1 hhelper⟩

/-- In the sample contract the argument of the call is declared under a name of its own, and its
message keeps it as the first argument.  Its fault has a place for a carrier, that of the stream has
none. -/
theorem chat_literals_fit :
    ∃ s : Source, Contract.chat.compile {} = .ok s.compiled ∧
      ((s.compiled.serverDispatch.arms.length, s.compiled.client.methods.length) = (2, 12) ∧
        (s.compiled.callbackProxy.streams.length, s.compiled.client.prebuild.length) = (1, 1) ∧
        (s.compiled.client.methods.take 1).map
            (fun stub => (s.requestLiteral stub.message stub.params).text) =
          ["EchoRequest \x7b call_id, options: CallOptions::default(), arg1: text \x7d"] ∧
        [14, 18].map s.catalog.carriesFaultData = [true, false]) ∧
      ∀ peer, s.LiteralsFit peer := by
  obtain ⟨compiled, h, hcheck⟩ := Contract.exists_compile Contract.chat {}
    (fun compiled =>
      let s : Source := { compiled := compiled }
      (compiled.serverDispatch.arms.length, compiled.client.methods.length) = (2, 12) ∧
        (compiled.callbackProxy.streams.length, compiled.client.prebuild.length) = (1, 1) ∧
        (compiled.client.methods.take 1).map
            (fun stub => (s.requestLiteral stub.message stub.params).text) =
          ["EchoRequest \x7b call_id, options: CallOptions::default(), arg1: text \x7d"] ∧
        [14, 18].map s.catalog.carriesFaultData = [true, false])
    (by decide +kernel)
  exact ⟨{ compiled := compiled }, h, of_decide_eq_true hcheck, fun peer => literals_fit h peer⟩

end Source

end ServiceContract
