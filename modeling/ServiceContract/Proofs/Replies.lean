import ServiceContract.Proofs.CarriedTypes
import ServiceContract.Proofs.Literals
import ServiceContract.Proofs.OneLineNames

/-!
# A request is closed once and answered once

The method that dispatches a request runs its handler, closes the context of the call, and chooses
between the ways the handler may have ended.  Each way sends one reply and ends the call.

The statements are about the lines of that method.  `repliesIn` reads the replies off them: each
with the line before it, and with the lines after it up to the one that ends the call.  For a
compiled contract these are the response, a fault for each carrier of the catch chain, the fault
that was raised on purpose and the unexpected one, each followed by the end of the call, and in
between only by the hook that is told about a result.

The main statement is `Source.requests_answered_once`.
-/

namespace ServiceContract

open Text

/-! ## Reading the lines of a dispatcher -/

/-- Does the text start like this? -/
def startsLike (start text : String) : Bool := start.toList.isPrefixOf text.toList

/-- Does the line send a reply? -/
def sendsReply (text : String) : Bool := startsLike "replies.send(" text

/-- Does the line close the context of a call? -/
def closesCall (text : String) : Bool := startsLike "call.close" text

/-- Does the line end the call? -/
def endsCall (text : String) : Bool := text = "Ok(())" || text = "return Ok(());"

/-- The lines up to the first one that ends the call. -/
def throughEnd : List String → List String
  | [] => []
  | text :: rest => if endsCall text then [text] else text :: throughEnd rest

/-- A reply in the lines of a dispatcher. -/
structure SentReply where
  /-- The line before the one that sends. -/
  before : String
  send : String
  /-- The lines behind it, up to the end of the call. -/
  after : List String
  deriving DecidableEq, Repr

/-- The lines of a reply. -/
def SentReply.texts (reply : SentReply) : List String := reply.before :: reply.send :: reply.after

/-- The replies that lines send, in order, given the line before them. -/
def repliesIn (previous : String) : List String → List SentReply
  | [] => []
  | text :: rest =>
    if sendsReply text then ⟨previous, text, throughEnd rest⟩ :: repliesIn text rest
    else repliesIn text rest

/-- One reply is read for each line that sends. -/
theorem length_repliesIn (previous : String) (texts : List String) :
    (repliesIn previous texts).length = (texts.filter sendsReply).length := by
  induction texts generalizing previous with
  | nil => rfl
  | cons text rest ih =>
      rw [repliesIn, List.filter_cons]
      split
      · rw [List.length_cons, List.length_cons, ih]
      · exact ih text

/-- A line that does not send only becomes the line before. -/
theorem repliesIn_cons_of_not {text : String} (h : sendsReply text = false) (previous : String)
    (rest : List String) : repliesIn previous (text :: rest) = repliesIn text rest := by
  rw [repliesIn, h, if_neg Bool.false_ne_true]

theorem repliesIn_append_of_not {texts : List String} (h : ∀ text ∈ texts, sendsReply text = false)
    (previous : String) (rest : List String) :
    repliesIn previous (texts ++ rest) = repliesIn (texts.getLastD previous) rest := by
  induction texts generalizing previous with
  | nil => rfl
  | cons text texts ih =>
      rw [List.cons_append, repliesIn_cons_of_not (h text List.mem_cons_self),
        ih fun other hother => h other (List.mem_cons_of_mem _ hother), List.getLastD_cons]

/-- The lines are read up to the first one that ends the call. -/
theorem throughEnd_append {middle : List String} (hmiddle : ∀ text ∈ middle, endsCall text = false)
    {last : String} (hlast : endsCall last = true) (rest : List String) :
    throughEnd (middle ++ last :: rest) = middle ++ [last] := by
  induction middle with
  | nil => rw [List.nil_append, throughEnd, if_pos hlast, List.nil_append]
  | cons text middle ih =>
      rw [List.cons_append, throughEnd, hmiddle text List.mem_cons_self,
        if_neg Bool.false_ne_true,
        ih fun other hother => hmiddle other (List.mem_cons_of_mem _ hother), List.cons_append]

theorem startsLike_append (start rest : String) : startsLike start (start ++ rest) = true := by
  rw [startsLike, String.toList_append, List.isPrefixOf_iff_prefix]
  exact List.prefix_append ..

/-- Texts whose starts differ before either ends do not start like each other. -/
theorem startsLike_append_of_apart {start lead : String}
    (h : ¬ start.toList <+: lead.toList ∧ ¬ lead.toList <+: start.toList) (rest : String) :
    startsLike start (lead ++ rest) = false := by
  rw [startsLike, Bool.eq_false_iff]
  intro hprefix
  rw [List.isPrefixOf_iff_prefix, String.toList_append] at hprefix
  rcases List.prefix_or_prefix_of_prefix hprefix (List.prefix_append ..) with hle | hle
  · exact h.1 hle
  · exact h.2 hle

/-- Nothing is sent before a close if all replies stand behind all lines that close. -/
theorem pairwise_closes_first {front back : List String}
    (hfront : ∀ text ∈ front, sendsReply text = false)
    (hback : ∀ text ∈ back, closesCall text = false) :
    (front ++ back).Pairwise fun a b => sendsReply a = true → closesCall b = false := by
  rw [List.pairwise_append]
  refine ⟨?_, ?_, ?_⟩
  · refine List.pairwise_of_forall_mem_list fun a ha b _ hsend => ?_
    exact absurd hsend (Bool.eq_false_iff.1 (hfront a ha))
  · exact List.pairwise_of_forall_mem_list fun a _ b hb _ => hback b hb
  · exact fun a _ b hb _ => hback b hb

/-- A line of its own that does not close the context of a call. -/
structure KeepsOpen (text : String) : Prop where
  snug : Snug text
  no_close : closesCall text = false

/-- A line that neither closes the context of a call nor sends a reply. -/
structure Quiet (text : String) : Prop extends KeepsOpen text where
  no_send : sendsReply text = false

/-- What the lines of a dispatcher start with that neither send nor close. -/
def quietLeads : List String :=
  ["let call = ", "let outcome = ", "let data = ", "let fault = match fault.into_custom::<",
    "::tracing::debug!(contract = ", "self.handler.on_"]

/-- A line with one of the known starts is told apart by that start. -/
theorem quiet_lead {lead rest : String} (h : lead ∈ quietLeads) (hrest : Ends rest) :
    Quiet (lead ++ rest) := by
  have hleads : ∀ lead ∈ quietLeads,
      ('\n' ∉ lead.toList ∧ lead.toList ≠ [] ∧ noBlank lead.toList.head? = true) ∧
      ∀ start ∈ ["replies.send(", "call.close"],
        ¬ start.toList <+: lead.toList ∧ ¬ lead.toList <+: start.toList := by
    decide +kernel
  obtain ⟨hopens, hapart⟩ := hleads lead h
  have hlead : Opens lead := String.ofList_toList (s := lead) ▸ opens_ofList hopens
  exact ⟨⟨hlead.snug hrest, startsLike_append_of_apart (hapart _ (by decide)) rest⟩,
    startsLike_append_of_apart (hapart _ (by decide)) rest⟩

/-- The lines of a dispatcher that are the same for every call. -/
def fixedLines : List String :=
  ["let call_id = request.call_id;", "match outcome \x7b", "Ok(Ok(result)) => \x7b",
    "Ok(Ok(())) => \x7b", "Ok(Err(fault)) => \x7b", "Ok(custom) => \x7b", "Err(panic) => \x7b",
    "Err(fault) => fault,", "return Ok(());", "Ok(())", "\x7d", "\x7d;"]

/-- The fixed lines, checked one by one. -/
theorem quiet_fixed {text : String} (h : text ∈ fixedLines) : Quiet text := by
  have hfixed : ∀ text ∈ fixedLines,
      ('\n' ∉ text.toList ∧ noBlank text.toList.head? = true ∧
        noBlank text.toList.getLast? = true) ∧
      closesCall text = false ∧ sendsReply text = false := by
    decide +kernel
  obtain ⟨hsnug, hclose, hsend⟩ := hfixed text h
  exact ⟨⟨String.ofList_toList (s := text) ▸ snug_ofList hsnug, hclose⟩, hsend⟩

theorem keepsOpen_fixed {texts : List String} (h : texts ⊆ fixedLines) :
    ∀ text ∈ texts, KeepsOpen text :=
  fun _ htext => (quiet_fixed (h htext)).toKeepsOpen

/-- The reply stands in lines as it should: it is sent on a line of its own, and the lines behind it
are quiet up to the first one that ends the call. -/
structure SentReply.Proper (reply : SentReply) : Prop where
  before : Quiet reply.before
  send : KeepsOpen reply.send
  sends : sendsReply reply.send = true
  after : ∀ text ∈ reply.after, Quiet text
  ends : ∃ middle last, reply.after = middle ++ [last] ∧
    (∀ text ∈ middle, endsCall text = false) ∧ endsCall last = true

/-- A proper reply is read back. -/
theorem repliesIn_reply {reply : SentReply} (h : reply.Proper) {next : String}
    (hnext : sendsReply next = false) (rest : List String) :
    repliesIn reply.before (reply.send :: (reply.after ++ next :: rest)) =
      reply :: repliesIn next rest := by
  obtain ⟨middle, last, hafter, hmiddle, hlast⟩ := h.ends
  have hthrough : throughEnd (reply.after ++ next :: rest) = reply.after := by
    rw [hafter, List.append_assoc]
    exact throughEnd_append hmiddle hlast _
  rw [repliesIn, h.sends, if_pos rfl, hthrough,
    repliesIn_append_of_not (fun text htext => (h.after text htext).no_send),
    repliesIn_cons_of_not hnext]

/-- The same with the line before it. -/
theorem repliesIn_texts {reply : SentReply} (h : reply.Proper) {next : String}
    (hnext : sendsReply next = false) (previous : String) (rest : List String) :
    repliesIn previous (reply.texts ++ next :: rest) = reply :: repliesIn next rest := by
  rw [SentReply.texts, List.cons_append, List.cons_append, repliesIn_cons_of_not h.before.no_send,
    repliesIn_reply h hnext]

/-- No line of a proper reply closes the context. -/
theorem SentReply.Proper.keepsOpen {reply : SentReply} (h : reply.Proper) :
    ∀ text ∈ reply.texts, KeepsOpen text := by
  intro text htext
  rcases List.mem_cons.1 htext with rfl | htext
  · exact h.before.toKeepsOpen
  · rcases List.mem_cons.1 htext with rfl | htext
    · exact h.send
    · exact (h.after text htext).toKeepsOpen

/-! ## What is expected -/

/-- The carrier that a test of the catch chain answers with. -/
def CatchBranch.carrier? : CatchBranch → Option NodeId
  | custom _ _ carrier => some carrier
  | _ => none

namespace Source

/-- The line that sends a message of a call, with some members besides the number of the call. -/
def sendLine (type members : String) : String :=
  "replies.send(" ++ type ++ " \x7b call_id" ++ members ++ " \x7d.into()).await?;"

/-- The pieces of the line that sends. -/
theorem sendLine_eq (type members : String) : sendLine type members =
    "replies.send(" ++ type ++ " \x7b call_id" ++ members ++ " \x7d.into()).await?;" := rfl

variable (s : Source)

/-- The response to a request.  The hook is told about a result before the call ends. -/
def responseReply (op : Operation) (arm : RequestArm) : SentReply :=
  if op.result.isSome then
    { before := "Ok(Ok(result)) => \x7b"
      send := sendLine (s.nodeName arm.response) ", result: result.clone()"
      after := ["self.handler.on_" ++ op.methodBase ++ "_sent(&result);", "Ok(())"] }
  else
    { before := "Ok(Ok(())) => \x7b"
      send := sendLine (s.nodeName arm.response) ""
      after := ["Ok(())"] }

/-- The line that makes the carrier of a fault. -/
def carrierLine (carrier : NodeId) : String :=
  "let data = " ++ s.carrierUnion carrier ++ "::" ++ s.catalog.faultVariant carrier ++
    "(" ++ s.nodeName carrier ++ " \x7b payload: custom.payload \x7d);"

theorem carrierLine_eq (carrier : NodeId) : s.carrierLine carrier =
    "let data = " ++ s.carrierUnion carrier ++ "::" ++ s.catalog.faultVariant carrier ++
      "(" ++ s.nodeName carrier ++ " \x7b payload: custom.payload \x7d);" := rfl

/-- The fault that brings a carrier. -/
def carrierReply (arm : RequestArm) (carrier : NodeId) : SentReply where
  before := s.carrierLine carrier
  send := sendLine (s.nodeName arm.fault)
    ", text: custom.text, code: FaultCode::Custom, fault_data: Some(data)"
  after := ["return Ok(());"]

/-- A fault without a carrier. -/
def plainFaultReply (op : Operation) (arm : RequestArm) (before text code : String) :
    SentReply where
  before := before
  send := sendLine (s.nodeName arm.fault) (", text: " ++ text ++ ", code: FaultCode::" ++ code ++
    if op.faults.isEmpty then "" else ", fault_data: None")
  after := ["Ok(())"]

/-- One reply for each way the handler may have ended: the response, the carriers in the order of
the catch chain, the fault that was raised on purpose, and the unexpected one. -/
def expectedReplies (op : Operation) (arm : RequestArm) : List SentReply :=
  [s.responseReply op arm] ++
    (arm.catchChain.filterMap CatchBranch.carrier?).map (s.carrierReply arm) ++
    [s.plainFaultReply op arm (if op.faults.isEmpty then "Ok(Err(fault)) => \x7b" else "\x7d;")
        "fault.to_string()" "Declared",
      s.plainFaultReply op arm "Err(panic) => \x7b" "panic.to_string()" "Unexpected"]

/-- The lines, without their indentation, close the context of the call once, then answer each way
the handler may have ended with one reply, and then end the call. -/
structure AnswersOnce (op : Operation) (arm : RequestArm) (texts : List String) : Prop where
  closes : texts.filter closesCall =
    [if arm.context.isStreaming then "call.close().await;" else "call.close();"]
  /-- Nothing is sent before the context is closed. -/
  closes_first : texts.Pairwise fun a b => sendsReply a = true → closesCall b = false
  sends : (texts.filter sendsReply).length =
    (arm.catchChain.filterMap CatchBranch.carrier?).length + 3
  replies : repliesIn "" texts = s.expectedReplies op arm

end Source

/-! ## Arms of placed requests -/

/-- The carriers of the faults of a placed operation, in the order they are tested for. -/
def Placement.carriers (c : Contract) (p : Placement) : List FaultCarrier :=
  (p.candidate.operation.faultSet c p.candidate.index (p.first + 2)).carriers

/-- There is a carrier exactly if a fault is declared. -/
theorem Placement.isEmpty_carriers (c : Contract) (p : Placement) :
    (p.carriers c).isEmpty = p.candidate.operation.faults.isEmpty := by
  have hlength : (p.carriers c).length = p.candidate.operation.faults.length := by
    rw [carriers, (Operation.carriers_perm ..).length_eq, List.length_map, List.length_zipIdx]
  rw [Bool.eq_iff_iff, List.isEmpty_iff_length_eq_zero, List.isEmpty_iff_length_eq_zero, hlength]

namespace Compiled

/-- The arm belongs to a placed request. -/
structure ArmOf (compiled : Compiled) (p : Placement) (arm : RequestArm) : Prop where
  placed : p ∈ compiled.placements
  fault : ∃ messages, p.messages = .request messages ∧ arm.fault = messages.fault
  operation : arm.operation = p.candidate.index
  handler : arm.handler = p.candidate.operation.methodBase
  hasResult : arm.hasResult = p.candidate.operation.result.isSome
  sentHook : arm.sentHook = p.candidate.operation.sentHook?
  catchChain : arm.catchChain = compiled.catalog.catchChain p.candidate.index

variable {c : Contract} {options : Options} {compiled : Compiled}

/-- Every arm that handles a request belongs to a placed operation. -/
theorem exists_armOf (h : c.compile options = .ok compiled) {peer : Peer} {arm : RequestArm}
    (harm : Arm.request arm ∈ (compiled.dispatch peer).arms) : ∃ p, compiled.ArmOf p arm := by
  rw [arms_eq h] at harm
  obtain ⟨p, hp, harm⟩ := List.mem_map.1 harm
  refine ⟨p, ?_⟩
  unfold Generated.arm at harm
  split at harm
  · cases harm
  · next messages hmessages =>
      rw [← Arm.request.inj harm]
      exact ⟨(mem_directed.1 hp).1, ⟨messages, hmessages, rfl⟩, rfl, rfl, rfl, rfl, rfl⟩

namespace ArmOf

variable {p : Placement} {arm : RequestArm} (harm : compiled.ArmOf p arm)

include harm

/-- The operation of such an arm is one that answers. -/
theorem isRequestResponse : p.candidate.operation.kind.isRequestResponse = true := by
  obtain ⟨messages, hmessages, -⟩ := harm.fault
  have hone := (Operation.messagesFrom_eq_request _ hmessages).1
  cases hexchange : p.candidate.operation.kind.exchange with
  | oneWay => exact absurd (decide_eq_true hexchange) (Bool.eq_false_iff.1 hone)
  | requestResponse => exact decide_eq_true hexchange

/-- The chain tests for the carriers and then falls back. -/
theorem catchChain_eq (h : c.compile options = .ok compiled) :
    arm.catchChain = (p.carriers c).map (fun carrier =>
      .custom carrier.faultKey carrier.payload carrier.node) ++ [.declared, .unexpected] :=
  harm.catchChain.trans (Compiled.catchChain_eq h harm.placed)

/-- The carriers of the chain are those of the fault set, in its order. -/
theorem filterMap_carrier (h : c.compile options = .ok compiled) :
    arm.catchChain.filterMap CatchBranch.carrier? = (p.carriers c).map FaultCarrier.node := by
  rw [harm.catchChain_eq h, List.filterMap_append, List.filterMap_map]
  exact (List.append_nil _).trans (congrFun List.filterMap_eq_map _)

end ArmOf

end Compiled

namespace Source

variable (s : Source)

/-! ## The texts of a dispatcher -/

/-- What a dispatcher does until its handler has ended. -/
def setup (arm : RequestArm) : List Code :=
  [.line "let call_id = request.call_id;"] ++ s.traceLines arm.operation arm.request ++
    [.line (if arm.context.isStreaming then
        "let call = " ++
          s.inRuntime "StreamContext::open(call_id, request.options, request.window_size);"
      else "let call = " ++ s.inRuntime "CallContext::new(call_id, request.options);"),
      .line ("let outcome = " ++ s.inRuntime "catch_unwind(self.handler." ++ arm.handler ++ "(" ++
        commaList ("&call" :: s.argumentReads "request" arm.operation) ++ ")).await;")]

/-- How the context of a call is closed. -/
def closeLine (arm : RequestArm) : String :=
  if arm.context.isStreaming then "call.close().await;" else "call.close();"

/-- The header of a test of the catch chain. -/
def testLine (payload : DataType) (carrier : NodeId) : String :=
  "let fault = match fault.into_custom::<" ++ payload.spelling ++ ">(" ++ s.nodeName carrier ++
    "::FAULT_KEY) \x7b"

theorem testLine_eq (payload : DataType) (carrier : NodeId) : s.testLine payload carrier =
    "let fault = match fault.into_custom::<" ++ payload.spelling ++ ">(" ++ s.nodeName carrier ++
      "::FAULT_KEY) \x7b" := rfl

/-- The texts of one test of the catch chain. -/
def testTexts (arm : RequestArm) (carrier : FaultCarrier) : List String :=
  [s.testLine carrier.payload carrier.node, "Ok(custom) => \x7b"] ++
    (s.carrierReply arm carrier.node).texts ++ ["\x7d", "Err(fault) => fault,", "\x7d;"]

/-- The texts behind the one that closes the context of the call. -/
def answerTexts (op : Operation) (arm : RequestArm) (carriers : List FaultCarrier) : List String :=
  let declared := s.plainFaultReply op arm "" "fault.to_string()" "Declared"
  let unexpected :=
    s.plainFaultReply op arm "Err(panic) => \x7b" "panic.to_string()" "Unexpected"
  ["match outcome \x7b"] ++ (s.responseReply op arm).texts ++ ["\x7d", "Ok(Err(fault)) => \x7b"] ++
    carriers.flatMap (s.testTexts arm) ++ (declared.send :: declared.after) ++ ["\x7d"] ++
    unexpected.texts ++ ["\x7d", "\x7d"]

/-- The brace of a block stands behind the last piece of its header. -/
theorem opening_append (a : String) {b : String} (hb : b ≠ "") :
    Code.opening (a ++ b) = a ++ (b ++ " \x7b") := by
  have hne : ¬ (a ++ b).isEmpty = true := by
    rw [String.isEmpty_iff, String.append_eq_empty_iff]
    exact fun hempty => hb hempty.2
  rw [Code.opening, if_neg hne, String.append_assoc]

/-- The first line of a test, as it is written. -/
theorem opening_testLine (payload : DataType) (carrier : NodeId) :
    Code.opening ("let fault = match fault.into_custom::<" ++ payload.spelling ++ ">(" ++
      s.nodeName carrier ++ "::FAULT_KEY)") = s.testLine payload carrier := by
  have hend : "::FAULT_KEY)" ++ " \x7b" = "::FAULT_KEY) \x7b" := rfl
  exact (opening_append _ (by decide)).trans (congrArg (fun tail => _ ++ tail) hend)

/-- A reply of a literal, as a line. -/
theorem texts_reply (literal : Literal) {members : String}
    (h : commaList (literal.inits.map FieldInit.text) = "call_id" ++ members) :
    (reply literal).texts = [sendLine literal.type members] := by
  rw [reply, Code.texts_line, Literal.text, h, sendLine_eq, braced]
  simp [← String.toList_inj]

/-- The texts of one test of the catch chain. -/
theorem textsAll_catchBranch (arm : RequestArm) (carrier : FaultCarrier) :
    Code.textsAll (s.catchBranch arm.fault
      (.custom carrier.faultKey carrier.payload carrier.node)) = s.testTexts arm carrier := by
  have hsend : (reply (s.carrierFaultLiteral arm.fault)).texts =
      [(s.carrierReply arm carrier.node).send] := by
    refine texts_reply _ ?_
    rfl
  have hdata : "let data = " ++ s.carrierUnion carrier.node ++ "::" ++
      s.catalog.faultVariant carrier.node ++ "(" ++ (s.carrierLiteral carrier.node).text ++ ");" =
      s.carrierLine carrier.node := by
    simp [carrierLine_eq, carrierLiteral, Literal.text, braced, commaList, FieldInit.text,
      ← String.toList_inj]
  have hopen : Code.opening "Ok(custom) =>" = "Ok(custom) => \x7b" := rfl
  simp only [catchBranch, Code.textsAll_cons, Code.textsAll_nil, Code.texts_block, Code.texts_line,
    opening_testLine, hsend, hdata, hopen, List.cons_append, List.nil_append, List.append_nil]
  rfl

section Placed

variable {s}
variable {c : Contract} {options : Options}
variable (h : c.compile options = .ok s.compiled)
variable {p : Placement} {arm : RequestArm} (harm : s.compiled.ArmOf p arm)

include h harm

/-- The texts that send a fault without a carrier and end the call. -/
theorem textsAll_plainFault (before text code : String) :
    Code.textsAll [reply (s.faultLiteral arm.fault text code), .line "Ok(())"] =
      (s.plainFaultReply p.candidate.operation arm before text code).send ::
        (s.plainFaultReply p.candidate.operation arm before text code).after := by
  have hsend : (reply (s.faultLiteral arm.fault text code)).texts =
      [(s.plainFaultReply p.candidate.operation arm before text code).send] := by
    refine texts_reply _ ?_
    obtain ⟨messages, hmessages, hfault⟩ := harm.fault
    have hcarries : s.catalog.carriesFaultData arm.fault =
        !p.candidate.operation.faults.isEmpty :=
      hfault ▸ Compiled.carriesFaultData_fault h harm.placed hmessages
    rw [faultLiteral, hcarries]
    cases p.candidate.operation.faults.isEmpty <;>
      simp [commaList, FieldInit.text, ← String.toList_inj]
  rw [Code.textsAll_cons, hsend, Code.textsAll_cons, Code.texts_line, Code.textsAll_nil]
  rfl

/-- The texts of the answer to a handler that succeeded. -/
theorem texts_responseBlock :
    (s.responseBlock arm).texts =
      (s.responseReply p.candidate.operation arm).texts ++ ["\x7d"] := by
  have hresult := harm.hasResult
  have hfield := resultField?_placed h harm.placed
  cases hsome : p.candidate.operation.result.isSome with
  | true =>
      have hopen : Code.opening "Ok(Ok(result)) =>" = "Ok(Ok(result)) => \x7b" := rfl
      have hsent : arm.sentHook = some ("on_" ++ p.candidate.operation.methodBase ++ "_sent") := by
        rw [harm.sentHook, Operation.sentHook?, harm.isRequestResponse, hsome]
        rfl
      have hsend : (reply (s.responseLiteral arm)).texts =
          [sendLine (s.nodeName arm.response) ", result: result.clone()"] := by
        refine texts_reply _ ?_
        rw [responseLiteral, hresult, hsome, harm.operation, hfield, hsome, hsent]
        rfl
      have hline : "self.handler." ++ ("on_" ++ p.candidate.operation.methodBase ++ "_sent") ++
          "(&result);" =
          "self.handler.on_" ++ p.candidate.operation.methodBase ++ "_sent(&result);" := by
        simp [← String.toList_inj]
      rw [responseBlock, hresult, hsome, if_pos rfl, hsent, responseReply, hsome, if_pos rfl]
      simp only [Code.texts_block, Code.textsAll_cons, Code.textsAll_nil, Code.texts_line,
        Option.toList_some, List.map_cons, List.map_nil, hopen, hsend, hline, SentReply.texts,
        List.cons_append, List.nil_append, List.append_nil]
  | false =>
      have hopen : Code.opening "Ok(Ok(())) =>" = "Ok(Ok(())) => \x7b" := rfl
      have hsend : (reply (s.responseLiteral arm)).texts =
          [sendLine (s.nodeName arm.response) ""] := by
        refine texts_reply _ ?_
        rw [responseLiteral, hresult, hsome]
        rfl
      rw [responseBlock, hresult, hsome, if_neg Bool.false_ne_true, responseReply, hsome,
        if_neg Bool.false_ne_true]
      simp only [Code.texts_block, Code.textsAll_cons, Code.textsAll_nil, Code.texts_line, hopen,
        hsend, SentReply.texts, List.cons_append, List.nil_append, List.append_nil]

/-- The texts of the dispatcher of a placed request. -/
theorem textsAll_requestBody :
    Code.textsAll (s.requestBody arm) = Code.textsAll (s.setup arm) ++
      closeLine arm :: s.answerTexts p.candidate.operation arm (p.carriers c) := by
  have hbody : s.requestBody arm = s.setup arm ++ [.line (closeLine arm),
      .block "match outcome"
        [s.responseBlock arm,
          .block "Ok(Err(fault)) =>" (arm.catchChain.flatMap (s.catchBranch arm.fault)),
          .block "Err(panic) =>"
            [reply (s.faultLiteral arm.fault "panic.to_string()" "Unexpected"),
              .line "Ok(())"]]] := by
    simp only [requestBody, setup, closeLine, List.append_assoc, List.cons_append, List.nil_append]
  have hopens : Code.opening "match outcome" = "match outcome \x7b" ∧
      Code.opening "Ok(Err(fault)) =>" = "Ok(Err(fault)) => \x7b" ∧
      Code.opening "Err(panic) =>" = "Err(panic) => \x7b" :=
    ⟨rfl, rfl, rfl⟩
  have hresponse := texts_responseBlock h harm
  have hunexpected := textsAll_plainFault h harm "Err(panic) => \x7b" "panic.to_string()"
    "Unexpected"
  have hcaught : Code.textsAll (arm.catchChain.flatMap (s.catchBranch arm.fault)) =
      (p.carriers c).flatMap (s.testTexts arm) ++
      (s.plainFaultReply p.candidate.operation arm "" "fault.to_string()" "Declared").send ::
      (s.plainFaultReply p.candidate.operation arm "" "fault.to_string()" "Declared").after := by
    rw [harm.catchChain_eq h, List.flatMap_append, Code.textsAll_append, Code.textsAll_flatMap,
      List.flatMap_map]
    refine congrArg₂ (· ++ ·) ?_ ?_
    · exact List.flatMap_congr fun carrier _ => s.textsAll_catchBranch arm carrier
    · exact textsAll_plainFault h harm "" "fault.to_string()" "Declared"
  rw [hbody, Code.textsAll_append]
  refine congrArg (Code.textsAll (s.setup arm) ++ ·) ?_
  rw [Code.textsAll_cons, Code.texts_line, Code.textsAll_cons, Code.texts_block,
    Code.textsAll_cons, hresponse, Code.textsAll_cons, Code.texts_block, hcaught,
    Code.textsAll_cons, Code.texts_block, hunexpected, hopens.1, hopens.2.1, hopens.2.2]
  simp only [Code.textsAll_nil, answerTexts, SentReply.texts, List.append_assoc, List.cons_append,
    List.nil_append, List.append_nil]
  rfl

end Placed

/-! ## Reading the texts of a dispatcher -/

/-- A sent message is read as a reply. -/
theorem sends_sendLine (type members : String) : sendsReply (sendLine type members) = true := by
  rw [sendLine_eq]
  simp only [String.append_assoc]
  exact startsLike_append _ _

/-- Sending does not close the context. -/
theorem keepsOpen_sendLine {type members : String} (htype : OneLine type)
    (hmembers : OneLine members) : KeepsOpen (sendLine type members) := by
  have hlead : Opens "replies.send(" := opens_ofList (by decide)
  have hrest : Ends (type ++ (" \x7b call_id" ++ (members ++ " \x7d.into()).await?;"))) :=
    (((ends_ofList (by decide)).behind hmembers).behind (oneLine_ofList (by decide))).behind htype
  rw [sendLine_eq]
  simp only [String.append_assoc]
  exact ⟨hlead.snug hrest, startsLike_append_of_apart (by decide) _⟩

/-- A message is sent properly between quiet lines, of which only the last one ends the call. -/
theorem proper_sending {before type members last : String} (middle : List String)
    (hbefore : Quiet before) (htype : OneLine type) (hmembers : OneLine members)
    (hmiddle : ∀ text ∈ middle, Quiet text ∧ endsCall text = false)
    (hlast : last = "Ok(())" ∨ last = "return Ok(());") :
    SentReply.Proper ⟨before, sendLine type members, middle ++ [last]⟩ where
  before := hbefore
  send := keepsOpen_sendLine htype hmembers
  sends := sends_sendLine type members
  after := by
    intro text htext
    rcases List.mem_append.1 htext with htext | htext
    · exact (hmiddle text htext).1
    · rw [List.mem_singleton.1 htext]
      rcases hlast with rfl | rfl <;> exact quiet_fixed (by decide)
  ends := by
    refine ⟨middle, last, rfl, fun text htext => (hmiddle text htext).2, ?_⟩
    rcases hlast with rfl | rfl <;> decide

/-- Telling the hook neither sends nor closes. -/
theorem quiet_hookLine (op : Operation) :
    Quiet ("self.handler.on_" ++ op.methodBase ++ "_sent(&result);") := by
  rw [String.append_assoc]
  exact quiet_lead (by decide) ((ends_ofList (by decide)).behind (oneLine_snake _))

theorem endsCall_hookLine (op : Operation) :
    endsCall ("self.handler.on_" ++ op.methodBase ++ "_sent(&result);") = false := by
  simp [endsCall, ← String.toList_inj]

theorem oneLine_quoted {text : String} (htext : OneLine text) : OneLine (quoted text) :=
  ((oneLine_ofList (by decide)).append htext).append (oneLine_ofList (by decide))

section Reading

variable {s}
variable {c : Contract} {options : Options}
variable (h : c.compile options = .ok s.compiled) (hc : c.OneLineNames)

include h hc

theorem oneLine_nodeName (id : NodeId) : OneLine (s.nodeName id) := Compiled.oneLine_name h hc id

/-- The union of a carrier has the name of a node. -/
theorem oneLine_carrierUnion (carrier : NodeId) : OneLine (s.carrierUnion carrier) := by
  unfold carrierUnion
  cases (s.catalog.get? carrier).bind Node.base with
  | none => exact madeOf_empty
  | some base => exact oneLine_nodeName h hc base

/-- Making a carrier neither sends nor closes. -/
theorem quiet_carrierLine (carrier : NodeId) : Quiet (s.carrierLine carrier) := by
  have hend : Ends (s.nodeName carrier ++ " \x7b payload: custom.payload \x7d);") :=
    (ends_ofList (by decide)).behind (oneLine_nodeName h hc carrier)
  have hvariant : OneLine (s.catalog.faultVariant carrier) :=
    Compiled.oneLine_faultVariant h hc carrier
  rw [carrierLine_eq]
  simp only [String.append_assoc]
  refine quiet_lead (by decide) (Ends.behind ?_ (oneLine_carrierUnion h hc carrier))
  refine Ends.behind ?_ (oneLine_ofList (by decide))
  exact (hend.behind (oneLine_ofList (by decide))).behind hvariant

/-- Neither does the test for a fault. -/
theorem quiet_testLine {payload : DataType} (hpayload : OneLine payload.spelling)
    (carrier : NodeId) : Quiet (s.testLine payload carrier) := by
  have hend : Ends (s.nodeName carrier ++ "::FAULT_KEY) \x7b") :=
    (ends_ofList (by decide)).behind (oneLine_nodeName h hc carrier)
  rw [testLine_eq]
  simp only [String.append_assoc]
  exact quiet_lead (by decide) ((hend.behind (oneLine_ofList (by decide))).behind hpayload)

/-- **The response** is a proper reply, with the hook or without it. -/
theorem proper_responseReply (op : Operation) (arm : RequestArm) :
    (s.responseReply op arm).Proper := by
  have htype := oneLine_nodeName h hc arm.response
  unfold responseReply
  split
  · -- The hook is told on a line that does not end the call.
    refine proper_sending [_] (quiet_fixed (by decide)) htype
      (oneLine_ofList (by decide)) ?_ (.inl rfl)
    intro text htext
    rw [List.mem_singleton.1 htext]
    exact ⟨quiet_hookLine op, endsCall_hookLine op⟩
  · exact proper_sending [] (quiet_fixed (by decide)) htype madeOf_empty
      (fun _ hnone => (nomatch hnone)) (.inl rfl)

/-- **A fault that brings a carrier** is a proper reply. -/
theorem proper_carrierReply (arm : RequestArm) (carrier : NodeId) :
    (s.carrierReply arm carrier).Proper :=
  proper_sending [] (quiet_carrierLine h hc carrier) (oneLine_nodeName h hc arm.fault)
    (oneLine_ofList (by decide)) (fun _ hnone => (nomatch hnone)) (.inr rfl)

/-- **A fault without a carrier** is a proper reply. -/
theorem proper_plainFaultReply (op : Operation) (arm : RequestArm) {before text code : String}
    (hbefore : before ∈ fixedLines) (htext : OneLine text) (hcode : OneLine code) :
    (s.plainFaultReply op arm before text code).Proper := by
  have hdata : OneLine (if op.faults.isEmpty then "" else ", fault_data: None") := by
    split
    · exact madeOf_empty
    · exact oneLine_ofList (by decide)
  refine proper_sending [] (quiet_fixed hbefore) (oneLine_nodeName h hc arm.fault) ?_
    (fun _ hnone => (nomatch hnone)) (.inl rfl)
  exact ((((oneLine_ofList (by decide)).append htext).append (oneLine_ofList (by decide))).append
    hcode).append hdata

/-! ### All texts together -/

section Setup

variable {p : Placement} {arm : RequestArm} (harm : s.compiled.ArmOf p arm)

include harm

/-- A record of the call neither sends nor closes. -/
theorem quiet_traceLines : ∀ text ∈ Code.textsAll (s.traceLines arm.operation arm.request),
    Quiet text := by
  have hcontract : OneLine s.contractName := by
    rw [contractName, Contract.compile_contract h]
    exact hc.qualifiedName
  have hname : OneLine (s.operationName arm.operation) := by
    rw [harm.operation, operationName, declared_placed h harm.placed]
    exact oneLine_of_isIdentifier (Compiled.wellFormed h harm.placed).name_identifier
  intro text htext
  unfold traceLines at htext
  split at htext
  · rw [Code.textsAll_cons, Code.texts_line, Code.textsAll_nil, List.append_nil,
      List.mem_singleton] at htext
    have hend : Ends (", key = " ++ (s.nodeName arm.request ++ ("::KEY, " ++
        (quoted "dispatch" ++ ");")))) :=
      ((((ends_ofList (by decide)).behind (oneLine_quoted (oneLine_ofList (by decide)))).behind
        (oneLine_ofList (by decide))).behind (oneLine_nodeName h hc arm.request)).behind
          (oneLine_ofList (by decide))
    rw [htext]
    simp only [String.append_assoc]
    refine quiet_lead (by decide) (Ends.behind ?_ (oneLine_quoted hcontract))
    exact (hend.behind (oneLine_quoted hname)).behind (oneLine_ofList (by decide))
  · cases htext

/-- Nothing is sent or closed before the handler has ended. -/
theorem quiet_setup (hruntime : OneLine s.runtime) :
    ∀ text ∈ Code.textsAll (s.setup arm), Quiet text := by
  have hrun : ∀ name, Ends name → Ends (s.inRuntime name) := by
    intro name hname
    exact hname.behind (hruntime.append (oneLine_ofList (by decide)))
  have hcall : ∀ name, Ends name → Quiet ("let call = " ++ s.inRuntime name) := by
    intro name hname
    exact quiet_lead (by decide) (hrun name hname)
  have hcontext : Quiet (if arm.context.isStreaming then
      "let call = " ++
        s.inRuntime "StreamContext::open(call_id, request.options, request.window_size);"
      else "let call = " ++ s.inRuntime "CallContext::new(call_id, request.options);") := by
    split
    · exact hcall _ (ends_ofList (by decide))
    · exact hcall _ (ends_ofList (by decide))
  have harguments : OneLine (commaList ("&call" :: s.argumentReads "request" arm.operation)) := by
    refine madeOf_intercalate (oneLine_ofList (by decide)) ?_
    intro text htext
    rcases List.mem_cons.1 htext with rfl | htext
    · exact oneLine_ofList (by decide)
    · obtain ⟨param, -, rfl⟩ := List.mem_map.1 htext
      exact ((oneLine_ofList (by decide)).append (oneLine_ofList (by decide))).append
        (oneLine_snake _)
  have houtcome : Quiet ("let outcome = " ++ s.inRuntime "catch_unwind(self.handler." ++
      arm.handler ++ "(" ++ commaList ("&call" :: s.argumentReads "request" arm.operation) ++
      ")).await;") := by
    have hcatch := (hrun "catch_unwind(self.handler." (ends_ofList (by decide))).oneLine
    have hhandler : OneLine arm.handler := harm.handler ▸ oneLine_snake _
    simp only [String.append_assoc]
    refine quiet_lead (by decide) (Ends.behind (Ends.behind ?_ hhandler) hcatch)
    exact ((ends_ofList (by decide)).behind harguments).behind (oneLine_ofList (by decide))
  rw [setup, Code.textsAll_append, Code.textsAll_append]
  simp only [List.forall_mem_append, Code.textsAll_cons, Code.textsAll_nil, Code.texts_line,
    List.append_nil, List.forall_mem_singleton]
  exact ⟨⟨quiet_fixed (by decide), quiet_traceLines h hc harm⟩, hcontext, houtcome⟩

end Setup

/-- The tests of a catch chain send the carriers, one after the other. -/
theorem repliesIn_tests (arm : RequestArm) {carriers : List FaultCarrier}
    (hspelling : ∀ carrier ∈ carriers, OneLine carrier.payload.spelling) (previous : String)
    (rest : List String) :
    repliesIn previous (carriers.flatMap (s.testTexts arm) ++ rest) =
      carriers.map (fun carrier => s.carrierReply arm carrier.node) ++
        repliesIn (if carriers.isEmpty then previous else "\x7d;") rest := by
  induction carriers generalizing previous with
  | nil => rfl
  | cons carrier carriers ih =>
      have htest := quiet_testLine h hc (hspelling carrier List.mem_cons_self) carrier.node
      have hproper := proper_carrierReply h hc arm carrier.node
      have hcustom : Quiet "Ok(custom) => \x7b" := quiet_fixed (by decide)
      have hbrace : Quiet "\x7d" := quiet_fixed (by decide)
      have hother : Quiet "Err(fault) => fault," := quiet_fixed (by decide)
      have hclose : Quiet "\x7d;" := quiet_fixed (by decide)
      rw [List.flatMap_cons, testTexts]
      simp only [List.append_assoc, List.cons_append, List.nil_append]
      rw [repliesIn_cons_of_not htest.no_send, repliesIn_cons_of_not hcustom.no_send,
        repliesIn_texts hproper hbrace.no_send, repliesIn_cons_of_not hother.no_send,
        repliesIn_cons_of_not hclose.no_send,
        ih fun other hmem => hspelling other (List.mem_cons_of_mem _ hmem), ite_self]
      rfl

/-- The answers to the ways a handler may have ended, read back. -/
theorem repliesIn_answerTexts (op : Operation) (arm : RequestArm) {carriers : List FaultCarrier}
    (hspelling : ∀ carrier ∈ carriers, OneLine carrier.payload.spelling) (previous : String) :
    repliesIn previous (s.answerTexts op arm carriers) =
      [s.responseReply op arm] ++
        carriers.map (fun carrier => s.carrierReply arm carrier.node) ++
        [s.plainFaultReply op arm
            (if carriers.isEmpty then "Ok(Err(fault)) => \x7b" else "\x7d;")
            "fault.to_string()" "Declared",
          s.plainFaultReply op arm "Err(panic) => \x7b" "panic.to_string()" "Unexpected"] := by
  have hresponse := proper_responseReply h hc op arm
  have hdeclared : (s.plainFaultReply op arm
      (if carriers.isEmpty then "Ok(Err(fault)) => \x7b" else "\x7d;")
      "fault.to_string()" "Declared").Proper :=
    proper_plainFaultReply h hc op arm (by split <;> decide) (oneLine_ofList (by decide))
      (oneLine_ofList (by decide))
  have hunexpected : (s.plainFaultReply op arm "Err(panic) => \x7b" "panic.to_string()"
      "Unexpected").Proper :=
    proper_plainFaultReply h hc op arm (by decide) (oneLine_ofList (by decide))
      (oneLine_ofList (by decide))
  have hmatch : Quiet "match outcome \x7b" := quiet_fixed (by decide)
  have hbrace : Quiet "\x7d" := quiet_fixed (by decide)
  have hraised : Quiet "Ok(Err(fault)) => \x7b" := quiet_fixed (by decide)
  rw [answerTexts]
  simp only [List.append_assoc, List.cons_append, List.nil_append]
  rw [repliesIn_cons_of_not hmatch.no_send, repliesIn_texts hresponse hbrace.no_send,
    repliesIn_cons_of_not hraised.no_send, repliesIn_tests h hc arm hspelling]
  refine congrArg (fun faults => _ :: (_ ++ faults)) ?_
  refine (repliesIn_reply hdeclared hbrace.no_send _).trans ?_
  rw [repliesIn_texts hunexpected hbrace.no_send, repliesIn_cons_of_not hbrace.no_send]
  rfl

/-- A test of the catch chain does not close the context. -/
theorem keepsOpen_testTexts (arm : RequestArm) {carrier : FaultCarrier}
    (hspelling : OneLine carrier.payload.spelling) :
    ∀ text ∈ s.testTexts arm carrier, KeepsOpen text := by
  have htest := quiet_testLine h hc hspelling carrier.node
  have hproper := proper_carrierReply h hc arm carrier.node
  simp only [testTexts, List.forall_mem_append]
  refine ⟨⟨?_, hproper.keepsOpen⟩, keepsOpen_fixed (by decide)⟩
  exact List.forall_mem_cons.2 ⟨htest.toKeepsOpen, keepsOpen_fixed (by decide)⟩

/-- No line of the answers closes the context again. -/
theorem keepsOpen_answerTexts (op : Operation) (arm : RequestArm) {carriers : List FaultCarrier}
    (hspelling : ∀ carrier ∈ carriers, OneLine carrier.payload.spelling) :
    ∀ text ∈ s.answerTexts op arm carriers, KeepsOpen text := by
  have hplain : ∀ text code, OneLine text → OneLine code →
      (s.plainFaultReply op arm "Err(panic) => \x7b" text code).Proper :=
    fun _ _ => proper_plainFaultReply h hc op arm (by decide)
  have hdeclared := hplain "fault.to_string()" "Declared" (oneLine_ofList (by decide))
    (oneLine_ofList (by decide))
  have hunexpected := hplain "panic.to_string()" "Unexpected" (oneLine_ofList (by decide))
    (oneLine_ofList (by decide))
  have htests : ∀ text ∈ carriers.flatMap (s.testTexts arm), KeepsOpen text := by
    intro text htext
    obtain ⟨carrier, hcarrier, htext⟩ := List.mem_flatMap.1 htext
    exact keepsOpen_testTexts h hc arm (hspelling carrier hcarrier) text htext
  simp only [answerTexts, List.forall_mem_append]
  refine ⟨⟨⟨⟨⟨⟨⟨keepsOpen_fixed (by decide), (proper_responseReply h hc op arm).keepsOpen⟩,
    keepsOpen_fixed (by decide)⟩, htests⟩, ?_⟩, keepsOpen_fixed (by decide)⟩,
    hunexpected.keepsOpen⟩, keepsOpen_fixed (by decide)⟩
  exact fun text htext => hdeclared.keepsOpen text (List.mem_cons_of_mem _ htext)

end Reading

/-! ## Every request is answered once -/

/-- The line that closes the context is read as such, and sends nothing. -/
theorem closes_closeLine (arm : RequestArm) :
    closesCall (closeLine arm) = true ∧ sendsReply (closeLine arm) = false ∧
      Snug (closeLine arm) := by
  unfold closeLine
  split
  · exact ⟨by decide, by decide, snug_ofList (by decide)⟩
  · exact ⟨by decide, by decide, snug_ofList (by decide)⟩

section Answers

variable {s}
variable {c : Contract} {options : Options}
variable (h : c.compile options = .ok s.compiled) (hc : c.OneLineNames)
variable {p : Placement} {arm : RequestArm} (harm : s.compiled.ArmOf p arm)

include h hc harm

/-- What a fault carries is spelled on one line. -/
theorem oneLine_payload : ∀ carrier ∈ p.carriers c, OneLine carrier.payload.spelling := by
  intro carrier hcarrier
  have hsupported := Compiled.supported_declared h harm.placed
    (Operation.payload_mem_types _ hcarrier)
  obtain ⟨entry, hentry, rfl⟩ := Operation.exists_of_mem_carriers hcarrier
  have hdeclared := List.mem_of_getElem? (Compiled.mem_placements h harm.placed).1
  exact DataType.oneLine_spelling hsupported
    (hc.paths _ hdeclared entry.1 (List.fst_mem_of_mem_zipIdx hentry))

variable (hruntime : OneLine s.runtime)

include hruntime

/-- Every text of a dispatcher is a line without blanks at its ends. -/
theorem snug_requestBody : ∀ text ∈ Code.textsAll (s.requestBody arm), Snug text := by
  have hsetup := quiet_setup h hc harm hruntime
  have hanswers := keepsOpen_answerTexts h hc p.candidate.operation arm
    (oneLine_payload h hc harm)
  intro text htext
  rw [textsAll_requestBody h harm, List.mem_append, List.mem_cons] at htext
  rcases htext with htext | rfl | htext
  · exact (hsetup text htext).snug
  · exact (closes_closeLine arm).2.2
  · exact (hanswers text htext).snug

/-- The texts of the dispatcher close once and answer once. -/
theorem answersOnce_requestBody :
    s.AnswersOnce p.candidate.operation arm (Code.textsAll (s.requestBody arm)) := by
  obtain ⟨hclose, hsilent, -⟩ := closes_closeLine arm
  have hspelling := oneLine_payload h hc harm
  have hsetup := quiet_setup h hc harm hruntime
  have hanswers := keepsOpen_answerTexts h hc p.candidate.operation arm hspelling
  have hreplies : repliesIn "" (Code.textsAll (s.requestBody arm)) =
      s.expectedReplies p.candidate.operation arm := by
    rw [textsAll_requestBody h harm, repliesIn_append_of_not fun text htext =>
      (hsetup text htext).no_send, repliesIn_cons_of_not hsilent,
      repliesIn_answerTexts h hc _ _ hspelling, p.isEmpty_carriers c, expectedReplies,
      harm.filterMap_carrier h, List.map_map]
    rfl
  refine ⟨?_, ?_, ?_, hreplies⟩
  · rw [textsAll_requestBody h harm, List.filter_append, List.filter_cons_of_pos hclose,
      List.filter_eq_nil_iff.2 fun text htext => Bool.eq_false_iff.1 (hsetup text htext).no_close,
      List.filter_eq_nil_iff.2 fun text htext =>
        Bool.eq_false_iff.1 (hanswers text htext).no_close]
    rfl
  · -- Nothing in front of the answers is sent, and nothing behind is closed.
    rw [textsAll_requestBody h harm, List.append_cons]
    refine pairwise_closes_first ?_ fun text htext => (hanswers text htext).no_close
    intro text htext
    rcases List.mem_append.1 htext with htext | htext
    · exact (hsetup text htext).no_send
    · rw [List.mem_singleton.1 htext]
      exact hsilent
  · rw [← length_repliesIn "", hreplies, expectedReplies]
    simp only [List.length_append, List.length_map, List.length_cons, List.length_nil]
    omega

end Answers

/-- **A request is closed once and answered once.**  The method that dispatches a request of a
compiled contract closes the context of the call once, before anything is sent.  Behind that, each
way the handler may have ended sends one reply, and then nothing happens but the end of the call;
only a result is first shown to the hook. -/
theorem requests_answered_once {s : Source} {c : Contract} {options : Options}
    (h : c.compile options = .ok s.compiled) (hc : c.OneLineNames)
    (hruntime : OneLine s.runtime) {peer : Peer} {arm : RequestArm}
    (harm : Arm.request arm ∈ (s.compiled.dispatch peer).arms) :
    ∃ op, (arm.operation, op) ∈ s.compiled.generatedOperations ∧
      s.AnswersOnce op arm
        ((Text.lines (Code.sectionText 0 (s.requestBody arm))).map Text.trim) := by
  obtain ⟨p, harm⟩ := Compiled.exists_armOf h harm
  refine ⟨p.candidate.operation, ?_, ?_⟩
  · rw [Compiled.generatedOperations_eq h]
    exact List.mem_map.2 ⟨p, harm.placed, by rw [harm.operation]⟩
  · rw [Code.map_trim_lines (snug_requestBody h hc harm hruntime)]
    exact answersOnce_requestBody h hc harm hruntime

/-- The first operation of the sample contract has a result and two faults, so its dispatcher, which
records calls here, sends in five places. -/
theorem chat_requests_answered_once :
    ∃ (s : Source) (arm : RequestArm), Contract.chat.compile {} = .ok s.compiled ∧
      Contract.chat.OneLineNames ∧ OneLine s.runtime ∧
      Arm.request arm ∈ (s.compiled.dispatch .server).arms ∧
      (s.tracing = true ∧ arm.operation = 0 ∧ arm.sentHook = some "on_echo_sent" ∧
        arm.catchChain.filterMap CatchBranch.carrier? = [13, 12]) ∧
      ∃ op, (arm.operation, op) ∈ s.compiled.generatedOperations ∧
        s.AnswersOnce op arm
          ((Text.lines (Code.sectionText 0 (s.requestBody arm))).map Text.trim) := by
  obtain ⟨compiled, h, hcheck⟩ := Contract.exists_compile Contract.chat {}
    (fun compiled => (compiled.dispatch .server).arms.any fun
      | .request arm => arm.operation = 0 ∧ arm.sentHook = some "on_echo_sent" ∧
          arm.catchChain.filterMap CatchBranch.carrier? = [13, 12]
      | .oneWay .. => false)
    (by decide +kernel)
  have hpaths : ∀ op ∈ Contract.chat.operations, ∀ fault ∈ op.faults,
      ∀ path ∈ fault.payload.paths, '\n' ∉ path.toList := by
    decide +kernel
  have hnames : Contract.chat.OneLineNames := by
    refine ⟨oneLine_ofList (by decide), oneLine_ofList (by decide), ?_⟩
    rintro op hop fault hfault path hpath _ hc rfl
    exact hpaths op hop fault hfault path hpath hc
  obtain ⟨arm, harm, hcheck⟩ := List.any_eq_true.1 hcheck
  cases arm with
  | oneWay => cases hcheck
  | request arm =>
      have hruntime : OneLine "::pact_runtime" := oneLine_ofList (by decide)
      exact ⟨{ compiled := compiled, tracing := true }, arm, h, hnames, hruntime, harm,
        ⟨rfl, of_decide_eq_true hcheck⟩, requests_answered_once h hnames hruntime harm⟩

end Source

end ServiceContract
