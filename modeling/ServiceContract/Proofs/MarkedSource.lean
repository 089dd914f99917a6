import ServiceContract.Source.Callers
import ServiceContract.Source.Handlers

/-!
# Marked source

Generated code is text, in which a message is built or read by the names of its members.  Marked
code keeps these places apart from the text around them: a literal sets the members of a new
message, and a read takes one member of a variable.  It also tells which variables hold messages,
and of which types.

Each body of the generated source that builds or reads messages has a marked form here, and without
its marks it is the body that is written (the lemmas `code_`).
-/

namespace ServiceContract

/-- Variables that hold messages, the innermost first, with the numbers of the types. -/
abbrev Scope := List (String × NodeId)

/-- A part of a line. -/
inductive Span
  | plain (text : String)
  | literal (value : Literal)
  /-- One member of what a variable holds. -/
  | read (holder field : String)
  deriving DecidableEq, Repr

namespace Span

/-- A part of a line as it is written. -/
@[simp]
def text : Span → String
  | plain text => text
  | literal value => value.text
  | read holder field => holder ++ "." ++ field

/-- Parts with commas between them. -/
def commaSpans (spans : List Span) : List Span := spans.intersperse (plain ", ")

/-- Spans with commas between them read like their texts with commas between them. -/
@[simp]
theorem join_text_commaSpans (spans : List Span) :
    String.join ((commaSpans spans).map text) = commaList (spans.map text) := by
  induction spans with
  | nil => rfl
  | cons span rest ih =>
      cases rest with
      | nil => simp [commaSpans, commaList]
      | cons next rest =>
          rw [commaList] at ih ⊢
          rw [List.map_cons, List.map_cons, String.intercalate_cons_cons, ← List.map_cons, ← ih]
          simp [commaSpans, String.append_assoc]

end Span

/-- Code with marks.  A line or a block may bind variables for itself. -/
inductive Marked
  | plain (code : Code)
  | line (spans : List Span) (binds : Scope := [])
  | block (header : String) (body : List Marked) (binds : Scope := []) (close : String := "\x7d")
  deriving Repr

namespace Marked

mutual

/-- Marked code as it is written. -/
def code : Marked → Code
  | plain code => code
  | line spans _ => .line (String.join (spans.map Span.text))
  | block header body _ close => .block header (codeAll body) close

/-- Pieces of marked code as they are written. -/
def codeAll : List Marked → List Code
  | [] => []
  | piece :: rest => piece.code :: codeAll rest

end

attribute [simp] code codeAll

/-- The code of marked pieces, piece by piece. -/
@[simp]
theorem codeAll_append (front back : List Marked) :
    codeAll (front ++ back) = codeAll front ++ codeAll back := by
  induction front with
  | nil => rfl
  | cons piece rest ih => simp [ih]

/-- Nothing is marked in plain code, so it comes back as it is. -/
@[simp]
theorem codeAll_map_plain (code : List Code) : codeAll (code.map plain) = code := by
  induction code with
  | nil => rfl
  | cons piece rest ih => simp [ih]

/-- The code of marked pieces that were made one group at a time. -/
@[simp]
theorem codeAll_flatMap {α : Type} (items : List α) (f : α → List Marked) :
    codeAll (items.flatMap f) = items.flatMap fun item => codeAll (f item) := by
  induction items with
  | nil => rfl
  | cons item rest ih => simp [ih]

end Marked

/-- The parameter in which the method of an arm gets its message. -/
def Arm.holder : Arm → String
  | oneWay .. => "message"
  | request _ => "request"

namespace Source

open Marked

variable (s : Source)

/-! ## Handlers -/

/-- The reads of the arguments of an operation. -/
def markedReads (holder : String) (operation : Nat) : List Span :=
  (s.operationParams operation).map fun param => .read holder param.fieldName

/-- The marked reads of the arguments are the texts the dispatcher passes on. -/
@[simp]
theorem map_text_markedReads (holder : String) (operation : Nat) :
    (s.markedReads holder operation).map Span.text = s.argumentReads holder operation := by
  simp [markedReads, argumentReads]

/-- How a one-way message is handled. -/
def markedOneWay (operation : Nat) (handler : String) (message : NodeId) : List Marked :=
  (s.traceLines operation message).map .plain ++
    [.line ([.plain ("self.handler." ++ handler ++ "(")] ++
        Span.commaSpans (s.markedReads "message" operation) ++ [.plain ").await;"]),
      .plain (.line "Ok(())")]

/-- Without its marks, this is how a message is handled. -/
theorem code_markedOneWay (operation : Nat) (handler : String) (message : NodeId) :
    codeAll (s.markedOneWay operation handler message) =
      s.oneWayBody operation handler message := by
  simp [markedOneWay, oneWayBody, String.append_assoc]

/-- Send a reply. -/
def markedReply (literal : Literal) : Marked :=
  .line [.plain "replies.send(", .literal literal, .plain ".into()).await?;"]

/-- Without its marks, this is the line that sends a reply. -/
@[simp]
theorem code_markedReply (literal : Literal) : (markedReply literal).code = reply literal := by
  simp [markedReply, reply, String.append_assoc]

/-- The answer to a handler that succeeded. -/
def markedResponse (arm : RequestArm) : Marked :=
  if arm.hasResult then
    .block "Ok(Ok(result)) =>"
      ([markedReply (s.responseLiteral arm)] ++
        (arm.sentHook.toList.map fun hook =>
          .plain (.line ("self.handler." ++ hook ++ "(&result);"))) ++
        [.plain (.line "Ok(())")])
  else
    .block "Ok(Ok(())) =>" [markedReply (s.responseLiteral arm), .plain (.line "Ok(())")]

/-- Without its marks, this is the answer to a handler that succeeded. -/
@[simp]
theorem code_markedResponse (arm : RequestArm) :
    (s.markedResponse arm).code = s.responseBlock arm := by
  cases hresult : arm.hasResult <;> cases hhook : arm.sentHook <;>
    simp [markedResponse, responseBlock, hresult, hhook]

/-- One test of the catch chain. -/
def markedBranch (fault : NodeId) : CatchBranch → List Marked
  | .custom _ payload carrier =>
    [.block ("let fault = match fault.into_custom::<" ++ payload.spelling ++ ">(" ++
        s.nodeName carrier ++ "::FAULT_KEY)")
      [.block "Ok(custom) =>"
          [.line [.plain ("let data = " ++ s.carrierUnion carrier ++ "::" ++
              s.catalog.faultVariant carrier ++ "("), .literal (s.carrierLiteral carrier),
              .plain ");"],
            markedReply (s.carrierFaultLiteral fault),
            .plain (.line "return Ok(());")],
        .plain (.line "Err(fault) => fault,")]
      [] "\x7d;"]
  | .declared =>
    [markedReply (s.faultLiteral fault "fault.to_string()" "Declared"), .plain (.line "Ok(())")]
  | .unexpected => []

/-- Without its marks, this is one test of the catch chain. -/
@[simp]
theorem code_markedBranch (fault : NodeId) (branch : CatchBranch) :
    codeAll (s.markedBranch fault branch) = s.catchBranch fault branch := by
  cases branch <;> simp [markedBranch, catchBranch, String.append_assoc]

/-- How the context of a request is made. -/
def markedContext (streaming : Bool) : List Span :=
  if streaming then
    [.plain ("let call = " ++ s.inRuntime "StreamContext::open(call_id, "),
      .read "request" "options", .plain ", ", .read "request" "window_size", .plain ");"]
  else
    [.plain ("let call = " ++ s.inRuntime "CallContext::new(call_id, "),
      .read "request" "options", .plain ");"]

/-- How a request is handled. -/
def markedRequest (arm : RequestArm) : List Marked :=
  [.line [.plain "let call_id = ", .read "request" "call_id", .plain ";"]] ++
    (s.traceLines arm.operation arm.request).map .plain ++
    [.line (s.markedContext arm.context.isStreaming),
      .line ([.plain ("let outcome = " ++ s.inRuntime "catch_unwind(self.handler." ++ arm.handler ++
          "(")] ++
        Span.commaSpans (.plain "&call" :: s.markedReads "request" arm.operation) ++
        [.plain ")).await;"]),
      .plain (.line (if arm.context.isStreaming then "call.close().await;" else "call.close();")),
      .block "match outcome"
        [s.markedResponse arm,
          .block "Ok(Err(fault)) =>" (arm.catchChain.flatMap (s.markedBranch arm.fault)),
          .block "Err(panic) =>"
            [markedReply (s.faultLiteral arm.fault "panic.to_string()" "Unexpected"),
              .plain (.line "Ok(())")]]]

/-- Without its marks, this is how a request is handled. -/
theorem code_markedRequest (arm : RequestArm) :
    codeAll (s.markedRequest arm) = s.requestBody arm := by
  cases hstreaming : arm.context.isStreaming <;>
    simp [markedRequest, markedContext, requestBody, inRuntime, hstreaming, String.append_assoc]

/-- How the message of an arm is handled. -/
def markedArm : Arm → List Marked
  | .oneWay _ _ operation handler message => s.markedOneWay operation handler message
  | .request arm => s.markedRequest arm

/-! ## Callers -/

/-- Settle a call that was answered by a fault message. -/
def markedFaultArm (fault : NodeId) (first last : String) : Marked :=
  let lead := s.base ++ "::" ++ s.nodeName fault ++ "(fault) =>"
  if s.catalog.carriesFaultData fault then
    .block lead
      [.line [.plain "let custom = ", .read "fault" "fault_data",
          .plain ".map(|data| data.into_fault(", .read "fault" "text", .plain ".clone()));"],
        .line [.plain (first ++ "CallError::remote("), .read "fault" "code", .plain ", ",
          .read "fault" "text", .plain (", custom)" ++ last)]]
      [("fault", fault)]
  else
    .line [.plain (lead ++ " " ++ first ++ "CallError::remote("), .read "fault" "code",
        .plain ", ", .read "fault" "text", .plain (", None)" ++ last ++ ",")]
      [("fault", fault)]

/-- Without its marks, this is what a caller does with a fault. -/
@[simp]
theorem code_markedFaultArm (fault : NodeId) (first last : String) :
    (s.markedFaultArm fault first last).code = s.faultArm fault first last := by
  cases hcarries : s.catalog.carriesFaultData fault <;>
    simp [markedFaultArm, faultArm, hcarries, ← String.toList_inj]

/-- Settle a call that was answered by its response. -/
def markedResponseArm (operation : Nat) (response : NodeId) (first last : String) : Marked :=
  let lead := s.base ++ "::" ++ s.nodeName response
  match s.resultField? operation with
  | some result =>
    .line [.plain (lead ++ "(response) => " ++ first), .read "response" result,
      .plain (last ++ ",")] [("response", response)]
  | none => .plain (.line (lead ++ "(_) => " ++ first ++ "()" ++ last ++ ","))

/-- Without its marks, this is what a caller does with a response. -/
@[simp]
theorem code_markedResponseArm (operation : Nat) (response : NodeId) (first last : String) :
    (s.markedResponseArm operation response first last).code =
      s.responseArm operation response first last := by
  cases hresult : s.resultField? operation <;>
    simp [markedResponseArm, responseArm, hresult, String.append_assoc]

/-- What an asynchronous stub does. -/
def markedSend (stub : Stub) : List Marked :=
  if stub.prebuilt then prebuiltSend.map .plain
  else if stub.oneWay then
    [.line [.plain "self.channel.send(self.serializer, ",
      .literal (s.oneWayLiteral stub.message stub.params), .plain ".into()).await"]]
  else
    match s.catalog.operation? stub.operation with
    | some (.request messages) =>
      [.plain (.line "let call_id = self.channel.next_call_id();"),
        .line [.plain "let request = ", .literal (s.requestLiteral stub.message stub.params),
          .plain ";"],
        .block "match self.channel.call(self.serializer, request.into()).await?"
          [s.markedResponseArm stub.operation messages.response "Ok(" ")",
            s.markedFaultArm messages.fault "Err(" ")",
            .plain (.line ("other => Err(CallError::UnexpectedMessage " ++
              braced "key: other.key()" ++ "),"))]]
    | _ => []

/-- What a stub does.  Only the asynchronous one builds a message. -/
def markedStub (stub : Stub) : List Marked :=
  if stub.style = .async then s.markedSend stub else (s.stubBody stub).map .plain

/-- Without its marks, this is how a stub sends. -/
theorem code_markedSend (stub : Stub) : codeAll (s.markedSend stub) = s.sendBody stub := by
  unfold markedSend sendBody
  split
  · exact codeAll_map_plain _
  · split
    · simp [String.append_assoc]
    · rcases s.catalog.operation? stub.operation with _ | (message | messages) <;>
        simp [requestSend, String.append_assoc]

/-- Without its marks, this is the body of a stub, whatever its style. -/
theorem code_markedStub (stub : Stub) : codeAll (s.markedStub stub) = s.stubBody stub := by
  unfold markedStub
  split
  · next hasync => simp [code_markedSend, stubBody, Stub.forwardsTo?, hasync]
  · exact codeAll_map_plain _

/-- What the method does that opens a stream. -/
def markedOpening (opener : StreamOpener) : List Marked :=
  [.plain (.line "let call_id = self.channel.next_call_id();"),
    .line [.plain "let request = ", .literal (s.openingLiteral opener.request opener.params),
      .plain ";"],
    .plain (.line (s.inRuntime "StreamCall::open(&self.channel, self.serializer, call_id, " ++
      "request.into(), window_size).await"))]

/-- What a stream does to take items from a page. -/
def markedItems (opener : StreamOpener) : List Marked :=
  match opener.outputPage with
  | some page =>
    [.block "match message"
      [.line [.plain (s.base ++ "::" ++ s.nodeName page ++ "(page) => Ok("), .read "page" "items",
          .plain "),"] [("page", page)],
        .plain (.line "other => Err(other),")]]
  | none => [.plain (.line "Err(message)")]

/-- What a stream does to settle its call. -/
def markedSettle (opener : StreamOpener) : List Marked :=
  [.block "match message"
    [s.markedResponseArm opener.operation opener.response "Ok(Ok(" "))",
      s.markedFaultArm opener.fault "Ok(Err(" "))",
      .plain (.line "other => Err(other),")]]

/-- What a function does that serializes a message ahead of time. -/
def markedPrebuild (helper : PrebuildHelper) : List Marked :=
  [.line [.plain (s.inRuntime "Prebuilt::encode(SerializerKind::" ++ helper.serializer.typeName ++
    ", "), .literal (s.oneWayLiteral helper.message helper.params), .plain ")"]]

/-! ## The methods around them -/

/-- A method ends with its body. -/
def EndsWith (method body : List Code) : Prop :=
  ∃ front header, method = front ++ [.block header body]

/-- A method starts with a signature that declares a parameter. -/
def Declares (method : List Code) (binder : Binder) : Prop :=
  ∃ signature, (∃ rest, method = .line signature :: rest ∨
      ∃ body, method = .block signature body :: rest) ∧
    binder.text.toList <:+: signature.toList

/-- The method of an arm ends with the code that was marked for it. -/
theorem endsWith_armMethod (arm : Arm) :
    EndsWith (s.armMethod arm) (writtenOut (codeAll (s.markedArm arm))) := by
  cases arm with
  | oneWay variant key operation handler message =>
      rw [markedArm, code_markedOneWay]
      exact ⟨[], _, rfl⟩
  | request arm =>
      rw [markedArm, code_markedRequest]
      exact ⟨[_, _], _, rfl⟩

/-- The method of an arm gets its message as its first argument. -/
theorem declares_armMethod (arm : Arm) :
    Declares (s.armMethod arm) ⟨arm.holder, s.nodeName arm.inbound⟩ := by
  cases arm with
  | oneWay variant key operation handler message =>
      refine ⟨_, ⟨[], .inr ⟨_, rfl⟩⟩, ("async fn dispatch_" ++ handler ++ "(&self, ").toList,
        (") -> " ++ s.dispatchOutput).toList, ?_⟩
      simp [methodParams, commaList, Arm.holder, Arm.inbound]
  | request arm =>
      refine ⟨_, ⟨[_, _], .inl rfl⟩, ("async fn dispatch_" ++ arm.handler ++ "<R>(&self, ").toList,
        (", replies: &R) -> " ++ s.dispatchOutput).toList, ?_⟩
      simp [methodParams, commaList, Arm.holder, Arm.inbound, Binder.text]

/-- The method of a stub ends with the code that was marked for it. -/
theorem endsWith_stubMethod (stub : Stub) :
    EndsWith (s.stubMethod stub) (codeAll (s.markedStub stub)) := by
  rw [code_markedStub]
  exact ⟨_, _, rfl⟩

/-- The method that opens a stream ends with the code that was marked for it. -/
theorem endsWith_openerMethod (opener : StreamOpener) :
    EndsWith (s.openerMethod opener) (codeAll (s.markedOpening opener)) := by
  have hbody : codeAll (s.markedOpening opener) =
      [.line "let call_id = self.channel.next_call_id();",
        .line ("let request = " ++ (s.openingLiteral opener.request opener.params).text ++ ";"),
        .line (s.inRuntime "StreamCall::open(&self.channel, self.serializer, call_id, " ++
          "request.into(), window_size).await")] := by
    simp [markedOpening, String.append_assoc]
  rw [hbody]
  exact ⟨_, _, rfl⟩

/-- The function that builds a message ahead of time ends with the code that was marked for it. -/
theorem endsWith_prebuildFunction (helper : PrebuildHelper) :
    EndsWith (s.prebuildFunction helper) (codeAll (s.markedPrebuild helper)) := by
  have hbody : codeAll (s.markedPrebuild helper) =
      [.line (s.inRuntime "Prebuilt::encode(SerializerKind::" ++ helper.serializer.typeName ++
        ", " ++ (s.oneWayLiteral helper.message helper.params).text ++ ")")] := by
    simp [markedPrebuild, String.append_assoc]
  rw [hbody]
  exact ⟨[_], _, rfl⟩

/-- The functions of a stream that read messages. -/
theorem endsWith_wiringMethods (opener : StreamOpener) :
    (∃ method ∈ s.wiringMethods opener, EndsWith method (codeAll (s.markedItems opener))) ∧
    ∃ method ∈ s.wiringMethods opener, EndsWith method (codeAll (s.markedSettle opener)) := by
  have hitems : codeAll (s.markedItems opener) =
      [match opener.outputPage with
        | some page =>
          matchBlock "message"
            [s.base ++ "::" ++ s.nodeName page ++ "(page) => Ok(page.items),",
              "other => Err(other),"]
        | none => .line "Err(message)"] := by
    unfold markedItems
    split <;> simp [matchBlock, String.append_assoc]
  have hsettle : codeAll (s.markedSettle opener) =
      [.block "match message"
        [s.responseArm opener.operation opener.response "Ok(Ok(" "))",
          s.faultArm opener.fault "Ok(Err(" "))",
          .line "other => Err(other),"]] := by
    simp [markedSettle]
  rw [hitems, hsettle]
  exact ⟨⟨_, .tail _ (.head _), [], _, rfl⟩, ⟨_, .tail _ (.tail _ (.head _)), [], _, rfl⟩⟩

end Source

end ServiceContract
