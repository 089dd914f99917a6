import ServiceContract.Source.Messages

/-!
# Call surfaces in source

For a surface: the stubs in all styles, the openers of streams with what ties a stream to its
messages, the facades, and the functions that build messages ahead of time.

Only the asynchronous stub of a call sends anything.  The blocking stub waits for it, and the stubs
that return an outcome wrap one of the other two.
-/

namespace ServiceContract

/-- A style in words. -/
def CallStyle.label : CallStyle → String
  | .blocking => "blocking"
  | .async => "async"
  | .try => "try"
  | .tryAsync => "try-async"

/-- The method of a surface that gives its facade of a style. -/
def CallStyle.accessor? : CallStyle → Option String
  | .blocking => none
  | .async => some "as_async"
  | .try => some "as_try"
  | .tryAsync => some "as_try_async"

/-- The spelling of what a call hands back. -/
def ReturnShape.spelling : ReturnShape → String
  | unit => "Result<(), CallError>"
  | value type => "Result<" ++ type.spelling ++ ", CallError>"
  | outcome type => "Outcome<" ++ DataType.spellingOr type ++ ">"
  | awaitable settled => settled.spelling

/-- The name of the stub that another stub forwards to; an asynchronous stub forwards to none. -/
def Stub.forwardsTo? (stub : Stub) : Option String :=
  match stub.style with
  | .blocking => some (CallStyle.async.methodName stub.baseName)
  | .async => none
  | .try => some (CallStyle.blocking.methodName stub.baseName)
  | .tryAsync => some (CallStyle.async.methodName stub.baseName)

namespace Source

/-- Settle a call that was answered by a fault message.  The error stands between `first` and
`last`. -/
def faultArm (s : Source) (fault : NodeId) (first last : String) : Code :=
  let lead := s.base ++ "::" ++ s.nodeName fault ++ "(fault) =>"
  if s.catalog.carriesFaultData fault then
    .block lead
      [.line "let custom = fault.fault_data.map(|data| data.into_fault(fault.text.clone()));",
        .line (first ++ "CallError::remote(fault.code, fault.text, custom)" ++ last)]
  else .line (lead ++ " " ++ first ++ "CallError::remote(fault.code, fault.text, None)" ++ last ++ ",")

/-- Settle a call that was answered by its response.  The result stands between `first` and
`last`. -/
def responseArm (s : Source) (operation : Nat) (response : NodeId) (first last : String) : Code :=
  let lead := s.base ++ "::" ++ s.nodeName response
  match s.resultField? operation with
  | some result =>
    .line (lead ++ "(response) => " ++ first ++ "response." ++ result ++ last ++ ",")
  | none => .line (lead ++ "(_) => " ++ first ++ "()" ++ last ++ ",")

/-- The parameters of a stub. -/
def stubBinders (s : Source) (stub : Stub) : List Binder :=
  if stub.prebuilt then
    [⟨"message", "&" ++ s.inRuntime "Prebuilt<" ++ s.nodeName stub.message ++ ">"⟩]
  else stub.params.map Param.binder

/-- The signature of a stub under a name. -/
def stubHeader (s : Source) (stub : Stub) (name : String) : String :=
  "pub " ++ (if stub.returns.isAwaitable then "async " else "") ++ "fn " ++ name ++ "(" ++
    methodParams (s.stubBinders stub) ++ ") -> " ++ stub.returns.spelling

/-- Send a message that was built ahead of time, unless the surface uses another serializer. -/
def prebuiltSend : List Code :=
  [.block "if message.serializer() != self.serializer"
      [.line ("return Err(CallError::SerializerMismatch " ++
        braced "surface: self.serializer, prebuilt: message.serializer()" ++ ");")],
    .line "self.channel.send_prebuilt(message).await"]

/-- Send a request and wait for its answer. -/
def requestSend (s : Source) (stub : Stub) (messages : RequestMessages) : List Code :=
  [.line "let call_id = self.channel.next_call_id();",
    .line ("let request = " ++ (s.requestLiteral stub.message stub.params).text ++ ";"),
    .block "match self.channel.call(self.serializer, request.into()).await?"
      [s.responseArm stub.operation messages.response "Ok(" ")",
        s.faultArm messages.fault "Err(" ")",
        .line ("other => Err(CallError::UnexpectedMessage " ++ braced "key: other.key()" ++ "),")]]

/-- What an asynchronous stub does. -/
def sendBody (s : Source) (stub : Stub) : List Code :=
  if stub.prebuilt then prebuiltSend
  else if stub.oneWay then
    [.line ("self.channel.send(self.serializer, " ++
      (s.oneWayLiteral stub.message stub.params).text ++ ".into()).await")]
  else
    match s.catalog.operation? stub.operation with
    | some (.request messages) => s.requestSend stub messages
    | _ => []

/-- What a stub does. -/
def stubBody (s : Source) (stub : Stub) : List Code :=
  let args := forwarded (s.stubBinders stub)
  match stub.style, stub.forwardsTo? with
  | .blocking, some target =>
    [.line (s.inRuntime "block_on(self." ++ target ++ "(" ++ args ++ "))")]
  | .try, some target => [.line ("Outcome::from(self." ++ target ++ "(" ++ args ++ "))")]
  | .tryAsync, some target =>
    [.line ("Outcome::from(self." ++ target ++ "(" ++ args ++ ").await)")]
  | _, _ => s.sendBody stub

/-- A stub. -/
def stubMethod (s : Source) (stub : Stub) : List Code :=
  Code.docOf stub.doc ++ [.block (s.stubHeader stub stub.name) (s.stubBody stub)]

/-- The name of the type that ties a stream to its messages. -/
def wiringName (s : Source) (opener : StreamOpener) : String :=
  Text.camel (s.operationName opener.operation) ++ "Stream"

/-- A function of the wiring that builds a control message with the first method of its type. -/
def controlMethod (s : Source) (name : String) (node : NodeId) : List (List Code) :=
  match s.catalog.get? node with
  | none => []
  | some control =>
    control.methods.head?.toList.map fun factory =>
      let binders := control.fields.map s.fieldBinder
      [.block ("fn " ++ name ++ "(" ++ commaList (binders.map Binder.text) ++ ") -> " ++ s.base)
        [.line (control.name ++ "::" ++ factory.name ++ "(" ++ forwarded binders ++ ").into()")]]

/-- The functions of the wiring of a stream. -/
def wiringMethods (s : Source) (opener : StreamOpener) : List (List Code) :=
  [[.block ("fn input_page(call_id: u64, items: ::std::vec::Vec<Self::Input>) -> " ++
        "::std::option::Option<" ++ s.base ++ ">")
      [.line (match opener.inputPage with
        | some page => "Some(" ++ s.nodeName page ++ "::page(call_id, items).into())"
        | none => "None")]],
    [.block ("fn output_items(message: " ++ s.base ++ ") -> " ++
        "::std::result::Result<::std::vec::Vec<Self::Output>, " ++ s.base ++ ">")
      [match opener.outputPage with
        | some page =>
          matchBlock "message"
            [s.base ++ "::" ++ s.nodeName page ++ "(page) => Ok(page.items),", "other => Err(other),"]
        | none => .line "Err(message)"]],
    [.block ("fn settle(message: " ++ s.base ++ ") -> " ++
        "::std::result::Result<Result<Self::Result, CallError>, " ++ s.base ++ ">")
      [.block "match message"
        [s.responseArm opener.operation opener.response "Ok(Ok(" "))",
          s.faultArm opener.fault "Ok(Err(" "))",
          .line "other => Err(other),"]]]] ++
    s.controlMethod "page_ack" opener.control.pageAck ++
    s.controlMethod "cancel" opener.control.cancel ++
    s.controlMethod "close" opener.control.close ++
    s.controlMethod "close_ack" opener.control.closeAck

/-- What ties a stream to its pages and to the control messages. -/
def wiring (s : Source) (opener : StreamOpener) : List Code :=
  let name := s.wiringName opener
  [.doc ("Stream plumbing of `" ++ s.operationName opener.operation ++ "`."),
    .line ("pub struct " ++ name ++ ";"),
    .blank,
    .block ("impl " ++ s.inRuntime "StreamWiring for " ++ name)
      ([.line ("type Message = " ++ s.base ++ ";"),
          .line ("type Input = " ++ DataType.spellingOr opener.inputItem ++ ";"),
          .line ("type Output = " ++ DataType.spellingOr opener.outputItem ++ ";"),
          .line ("type Result = " ++ DataType.spellingOr opener.result ++ ";")] ++
        Code.spaced (s.wiringMethods opener))]

/-- The method that opens a stream. -/
def openerMethod (s : Source) (opener : StreamOpener) : List Code :=
  Code.docOf opener.doc ++
    [.block ("pub async fn " ++ opener.name ++ "(" ++
        methodParams (opener.params.map Param.binder ++ [⟨"window_size", "u32"⟩]) ++
        ") -> Result<" ++ s.inRuntime "StreamCall<'_, C, " ++ s.wiringName opener ++ ">, CallError>")
      [.line "let call_id = self.channel.next_call_id();",
        .line ("let request = " ++ (s.openingLiteral opener.request opener.params).text ++ ";"),
        .line (s.inRuntime "StreamCall::open(&self.channel, self.serializer, call_id, " ++
          "request.into(), window_size).await")]]

/-- The lines that bound the type of the channel. -/
def channelBound (s : Source) : List Code :=
  [.line "where", .line (Code.indentUnit ++ "C: " ++ s.inRuntime "Channel<" ++ s.base ++ ">,")]

/-- A method of a facade, which forwards to a stub. -/
def facadeMethod (s : Source) (surface : Surface) (entry : FacadeMethod) : Option (List Code) :=
  (surface.method? entry.target).map fun target =>
    [.block (s.stubHeader target entry.name)
      [.line ("self.0." ++ entry.target ++ "(" ++ forwarded (s.stubBinders target) ++ ")" ++
        if target.returns.isAwaitable then ".await" else "")]]

/-- A facade. -/
def facade (s : Source) (surface : Surface) (facade : Facade) : List Code :=
  [.doc ("`" ++ surface.name ++ "` calls in the " ++ facade.style.label ++
      " style, under their plain names."),
    .line ("pub struct " ++ facade.name ++ "<'a, C>(&'a " ++ surface.name ++ "<C>);"),
    .blank,
    .line ("impl<C> " ++ facade.name ++ "<'_, C>")] ++
    s.channelBound ++
    [.block "" (Code.separated (facade.methods.filterMap (s.facadeMethod surface)))]

/-- The methods that every surface has. -/
def surfaceMethods (s : Source) : List (List Code) :=
  let chooser := s.compiled.binding.chooser.name
  [[.doc "Uses the contract's default serializer.",
      .block "pub fn new(channel: C) -> Self"
        [.line ("Self " ++ braced ("channel, serializer: " ++ chooser ++ "::DEFAULT"))]],
    [.doc "Fails when `serializer` is not configured for this contract.",
      .block ("pub fn with_serializer(channel: C, serializer: SerializerKind) -> Result<Self, " ++
          s.inRuntime "ConfigError>")
        [.line ("let serializer = " ++ chooser ++ "::resolve(Some(serializer))?;"),
          .line ("Ok(Self " ++ braced "channel, serializer" ++ ")")]],
    [.block "pub fn serializer(&self) -> SerializerKind" [.line "self.serializer"]],
    [.block "pub fn channel(&self) -> &C" [.line "&self.channel"]]]

/-- The method of a surface that gives a facade. -/
def accessorMethod (facade : Facade) : Option (List Code) :=
  facade.style.accessor?.map fun accessor =>
    [.block ("pub fn " ++ accessor ++ "(&self) -> " ++ facade.name ++ "<'_, C>")
      [.line (facade.name ++ "(self)")]]

/-- What a surface is for. -/
def surfaceDoc (s : Source) : Peer → String
  | .client => "Calls `" ++ s.contractName ++ "` operations on the server."
  | .server => "Calls back into the client of `" ++ s.contractName ++ "`."

/-- A surface with its streams and facades. -/
def surface (s : Source) (surface : Surface) : List Code :=
  (surface.streams.flatMap fun opener => s.wiring opener ++ [.blank]) ++
    [.doc (s.surfaceDoc surface.peer),
      .block ("pub struct " ++ surface.name ++ "<C>")
        [.line "channel: C,", .line "serializer: SerializerKind,"],
      .blank,
      .line ("impl<C> " ++ surface.name ++ "<C>")] ++
    s.channelBound ++
    [.block "" (Code.separated
      (s.surfaceMethods ++ surface.facades.filterMap accessorMethod ++
        surface.methods.map s.stubMethod ++ surface.streams.map s.openerMethod))] ++
    Code.spaced (surface.facades.map (s.facade surface))

/-- A function that serializes a message ahead of time. -/
def prebuildFunction (s : Source) (helper : PrebuildHelper) : List Code :=
  let message := s.nodeName helper.message
  [.doc ("Serializes a `" ++ message ++ "` once with `" ++ helper.serializer.identity ++
      "`, for repeated sends."),
    .block ("pub fn " ++ helper.name ++ "(" ++
        commaList (helper.params.map fun param => param.binder.text) ++ ") -> Result<" ++
        s.inRuntime "Prebuilt<" ++ message ++ ">, " ++ s.inRuntime "EncodeError>")
      [.line (s.inRuntime "Prebuilt::encode(SerializerKind::" ++ helper.serializer.typeName ++
        ", " ++ (s.oneWayLiteral helper.message helper.params).text ++ ")")]]

/-- The functions of both peers that serialize messages ahead of time. -/
def prebuildFunctions (s : Source) : List Code :=
  Code.separated
    ((s.compiled.client.prebuild ++ s.compiled.callbackProxy.prebuild).map s.prebuildFunction)

end Source

end ServiceContract
