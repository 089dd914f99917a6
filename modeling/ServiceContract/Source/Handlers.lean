import ServiceContract.Code.Writer
import ServiceContract.Source.Messages

/-!
# Handlers and dispatchers in source

For a dispatch plan: the choice of incoming messages, the interface the implementation provides, and
the dispatcher that routes each message to its handler.

The dispatcher of a request runs the handler, closes the context of the call, and then sends exactly
one reply: the response, the carrier of a declared fault, a fault that was raised on purpose, or an
unexpected one.
-/

namespace ServiceContract

namespace Source

/-- The choice of the messages a plan handles. -/
def inboundType (s : Source) (plan : DispatchPlan) : List Code :=
  let message (arm : Arm) := s.nodeName arm.inbound
  [.doc ("Inbound messages `" ++ plan.handlerTrait ++ "` handles."),
    .attr "derive(Debug, Clone)",
    .block ("pub enum " ++ plan.inbound)
      (plan.arms.map (fun arm => .line (arm.variant ++ "(" ++ message arm ++ "),")) ++
        [.doc "A key outside this table.",
          .line ("Unknown " ++ braced "key: u32" ++ ",")]),
    .blank,
    .block ("impl " ++ plan.inbound)
      [.block ("pub fn from_message(message: " ++ s.base ++ ") -> Self")
          [matchBlock "message"
            (plan.arms.map (fun arm =>
                s.base ++ "::" ++ message arm ++ "(message) => Self::" ++ arm.variant ++
                  "(message),") ++
              ["other => Self::Unknown " ++ braced "key: other.key()" ++ ","])],
        .blank,
        .block "pub fn key(&self) -> u32"
          [matchBlock "self"
            (plan.arms.map (fun arm =>
                "Self::" ++ arm.variant ++ "(_) => " ++ message arm ++ "::KEY,") ++
              ["Self::Unknown " ++ braced "key" ++ " => *key,"])]]]

/-- The spelling of the context a handler is called with. -/
def contextType (s : Source) (handler : Handler) : String :=
  if handler.inputItem.isSome || handler.outputItem.isSome then
    "&" ++ s.inRuntime "StreamContext<" ++ DataType.spellingOr handler.inputItem ++ ", " ++
      DataType.spellingOr handler.outputItem ++ ">"
  else "&" ++ s.inRuntime "CallContext"

/-- The spelling of what a handler answers. -/
def handlerOutput (s : Source) (handler : Handler) : String :=
  if handler.oneWay then "()"
  else "Result<" ++ DataType.spellingOr handler.result ++ ", " ++ s.inRuntime "Fault>"

/-- The parameters of a handler; only a request has a context. -/
def handlerBinders (s : Source) (handler : Handler) : List Binder :=
  (if handler.oneWay then [] else [⟨"call", s.contextType handler⟩]) ++
    handler.params.map Param.binder

/-- The method that the implementation provides for an operation. -/
def handlerMethod (s : Source) (handler : Handler) : List Code :=
  Code.docOf handler.doc ++
    [.line ("fn " ++ handler.name ++ "(" ++ methodParams (s.handlerBinders handler) ++
      ") -> impl ::std::future::Future<Output = " ++ s.handlerOutput handler ++ "> + Send;")]

/-- The method that is told about a response that was sent. -/
def hookMethod (handler : Handler) (hook : String) (result : DataType) : List Code :=
  [.doc ("Called with the result of `" ++ handler.name ++ "` once its response was sent."),
    .block ("fn " ++ hook ++ "(" ++ methodParams [⟨"result", "&" ++ result.spelling⟩] ++ ")")
      [.line "let _ = result;"]]

/-- The methods of one handler. -/
def handlerMethods (s : Source) (handler : Handler) : List (List Code) :=
  match handler.sentHook, handler.result with
  | some hook, some result => [s.handlerMethod handler, hookMethod handler hook result]
  | _, _ => [s.handlerMethod handler]

/-- The interface the implementation of a plan provides. -/
def handlerTrait (s : Source) (plan : DispatchPlan) : List Code :=
  [.doc ("Operations of `" ++ s.contractName ++ "` this side implements."),
    .line ("pub trait " ++ plan.handlerTrait),
    .line "where Self: Send + Sync,",
    .block "" (Code.separated (plan.handlers.flatMap s.handlerMethods))]

/-- The record of a dispatched call, if calls are recorded. -/
def traceLines (s : Source) (operation : Nat) (message : NodeId) : List Code :=
  if s.tracing then
    [.line ("::tracing::debug!(contract = " ++ quoted s.contractName ++ ", operation = " ++
      quoted (s.operationName operation) ++ ", key = " ++ s.nodeName message ++ "::KEY, " ++
      quoted "dispatch" ++ ");")]
  else []

/-- The members of an incoming message that hold the arguments of an operation. -/
def argumentReads (s : Source) (holder : String) (operation : Nat) : List String :=
  (s.operationParams operation).map fun param => holder ++ "." ++ param.fieldName

/-- How a one-way message is handled. -/
def oneWayBody (s : Source) (operation : Nat) (handler : String) (message : NodeId) : List Code :=
  s.traceLines operation message ++
    [.line ("self.handler." ++ handler ++ "(" ++ commaList (s.argumentReads "message" operation) ++
        ").await;"),
      .line "Ok(())"]

/-- Send a reply. -/
def reply (literal : Literal) : Code :=
  .line ("replies.send(" ++ literal.text ++ ".into()).await?;")

/-- The response to a request.  A value that the hook will see is sent as a copy. -/
def responseLiteral (s : Source) (arm : RequestArm) : Literal :=
  let result :=
    if arm.hasResult then
      [.set ((s.resultField? arm.operation).getD "result")
        (if arm.sentHook.isSome then "result.clone()" else "result")]
    else []
  ⟨s.nodeName arm.response, .short "call_id" :: result⟩

/-- A fault message without a carrier. -/
def faultLiteral (s : Source) (fault : NodeId) (text code : String) : Literal :=
  ⟨s.nodeName fault, [.short "call_id", .set "text" text, .set "code" ("FaultCode::" ++ code)] ++
    if s.catalog.carriesFaultData fault then [.set "fault_data" "None"] else []⟩

/-- A fault message with a carrier. -/
def carrierFaultLiteral (s : Source) (fault : NodeId) : Literal :=
  ⟨s.nodeName fault, [.short "call_id", .set "text" "custom.text",
    .set "code" "FaultCode::Custom", .set "fault_data" "Some(data)"]⟩

/-- The carrier of a declared fault. -/
def carrierLiteral (s : Source) (carrier : NodeId) : Literal :=
  ⟨s.nodeName carrier, [.set "payload" "custom.payload"]⟩

/-- The name of the union that holds a carrier. -/
def carrierUnion (s : Source) (carrier : NodeId) : String :=
  (((s.catalog.get? carrier).bind Node.base).map s.nodeName).getD ""

/-- The answer to a handler that succeeded. -/
def responseBlock (s : Source) (arm : RequestArm) : Code :=
  if arm.hasResult then
    .block "Ok(Ok(result)) =>"
      ([reply (s.responseLiteral arm)] ++
        (arm.sentHook.toList.map fun hook => .line ("self.handler." ++ hook ++ "(&result);")) ++
        [.line "Ok(())"])
  else .block "Ok(Ok(())) =>" [reply (s.responseLiteral arm), .line "Ok(())"]

/-- One test of the catch chain.  Anything unexpected never gets here. -/
def catchBranch (s : Source) (fault : NodeId) : CatchBranch → List Code
  | .custom _ payload carrier =>
    [.block ("let fault = match fault.into_custom::<" ++ payload.spelling ++ ">(" ++
        s.nodeName carrier ++ "::FAULT_KEY)")
      [.block "Ok(custom) =>"
          [.line ("let data = " ++ s.carrierUnion carrier ++ "::" ++
              s.catalog.faultVariant carrier ++ "(" ++ (s.carrierLiteral carrier).text ++ ");"),
            reply (s.carrierFaultLiteral fault),
            .line "return Ok(());"],
        .line "Err(fault) => fault,"]
      "\x7d;"]
  | .declared => [reply (s.faultLiteral fault "fault.to_string()" "Declared"), .line "Ok(())"]
  | .unexpected => []

/-- How a request is handled. -/
def requestBody (s : Source) (arm : RequestArm) : List Code :=
  [.line "let call_id = request.call_id;"] ++ s.traceLines arm.operation arm.request ++
    [.line (if arm.context.isStreaming then
        "let call = " ++
          s.inRuntime "StreamContext::open(call_id, request.options, request.window_size);"
      else "let call = " ++ s.inRuntime "CallContext::new(call_id, request.options);"),
      .line ("let outcome = " ++ s.inRuntime "catch_unwind(self.handler." ++ arm.handler ++ "(" ++
        commaList ("&call" :: s.argumentReads "request" arm.operation) ++ ")).await;"),
      .line (if arm.context.isStreaming then "call.close().await;" else "call.close();"),
      .block "match outcome"
        [s.responseBlock arm,
          .block "Ok(Err(fault)) =>" (arm.catchChain.flatMap (s.catchBranch arm.fault)),
          .block "Err(panic) =>"
            [reply (s.faultLiteral arm.fault "panic.to_string()" "Unexpected"),
              .line "Ok(())"]]]

/-- Code as the lines it is written in. -/
def writtenOut (code : List Code) : List Code :=
  (Text.lines (Code.sectionText 0 code)).map .line

/-- The line that bounds the type of the replies. -/
def repliesBound (s : Source) : Code :=
  .line ("where R: " ++ s.inRuntime "Replies<" ++ s.base ++ ">,")

/-- The spelling of what a dispatching method answers. -/
def dispatchOutput (s : Source) : String := "Result<(), " ++ s.inRuntime "DispatchError>"

/-- The method that handles the message of an arm. -/
def armMethod (s : Source) (arm : Arm) : List Code :=
  match arm with
  | .oneWay _ _ operation handler message =>
    [.block ("async fn dispatch_" ++ handler ++ "(" ++
        methodParams [⟨"message", s.nodeName message⟩] ++ ") -> " ++ s.dispatchOutput)
      (writtenOut (s.oneWayBody operation handler message))]
  | .request request =>
    [.line ("async fn dispatch_" ++ request.handler ++ "<R>(" ++
        methodParams [⟨"request", s.nodeName request.request⟩, ⟨"replies", "&R"⟩] ++ ") -> " ++
        s.dispatchOutput),
      s.repliesBound,
      .block "" (writtenOut (s.requestBody request))]

/-- The choice between the arms of a plan. -/
def dispatchArms (s : Source) (plan : DispatchPlan) : List String :=
  (plan.arms.map fun arm =>
    match arm with
    | .oneWay variant _ _ handler _ =>
      plan.inbound ++ "::" ++ variant ++ "(message) => self.dispatch_" ++ handler ++
        "(message).await,"
    | .request request =>
      plan.inbound ++ "::" ++ request.variant ++ "(request) => self.dispatch_" ++
        request.handler ++ "(request, replies).await,") ++
    [plan.inbound ++ "::Unknown " ++ braced "key" ++ " => Err(" ++
      s.inRuntime "DispatchError::UnknownKey(key)),"]

/-- The type of the dispatcher of a plan. -/
def dispatcherType (plan : DispatchPlan) : List Code :=
  [.doc ("Routes decoded `" ++ plan.inbound ++ "` messages to a handler."),
    .block ("pub struct " ++ plan.dispatcher ++ "<H>") [.line "handler: H,"]]

/-- The methods that every dispatcher has. -/
def dispatcherMethods (s : Source) (plan : DispatchPlan) : List (List Code) :=
  [[.block "pub fn new(handler: H) -> Self" [.line ("Self " ++ braced "handler")]],
    [.block "pub fn handler(&self) -> &H" [.line "&self.handler"]],
    [.line ("pub async fn dispatch<R>(" ++
        methodParams [⟨"inbound", plan.inbound⟩, ⟨"replies", "&R"⟩] ++ ") -> " ++ s.dispatchOutput),
      s.repliesBound,
      .block "" [matchBlock "inbound" (s.dispatchArms plan)]],
    [.line ("pub async fn dispatch_message<R>(" ++
        methodParams [⟨"message", s.base⟩, ⟨"replies", "&R"⟩] ++ ") -> " ++ s.dispatchOutput),
      s.repliesBound,
      .block ""
        [.line ("self.dispatch(" ++ plan.inbound ++ "::from_message(message), replies).await")]]]

/-- The methods of the dispatcher of a plan. -/
def dispatcherImpl (s : Source) (plan : DispatchPlan) : List Code :=
  [.line ("impl<H> " ++ plan.dispatcher ++ "<H>"),
    .line ("where H: " ++ plan.handlerTrait ++ " + 'static,"),
    .block "" (Code.separated (s.dispatcherMethods plan ++ plan.arms.map s.armMethod))]

end Source

end ServiceContract
