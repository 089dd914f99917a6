import ServiceContract.Catalog.Drafts
import ServiceContract.MethodClaim

/-!
# Call surfaces

What a peer uses to call the other one.  Every operation it calls is offered in four styles, except
that a streaming operation is *opened*.  One-way messages may also be sent prebuilt: serialized once,
ahead of time.  For each style but the blocking one a *facade* offers the calls of that style under
their plain names.
-/

namespace ServiceContract

/-- A generated operation with its position and its types. -/
structure Generated where
  index : Nat
  operation : Operation
  messages : OperationMessages
  deriving DecidableEq, Repr

/-- The generated operations of one direction. -/
def Catalog.directed (catalog : Catalog) (c : Contract) (direction : Direction) : List Generated :=
  (catalog.generated.filterMap fun (index, messages) =>
    c.operations[index]?.map fun op => ⟨index, op, messages⟩).filter fun entry =>
      entry.operation.kind.direction = direction

/-- What a call hands back. -/
inductive ReturnShape
  | unit
  | value (type : DataType)
  /-- The result, if there is one, or the fault. -/
  | outcome (type : Option DataType)
  | awaitable (settled : ReturnShape)
  deriving DecidableEq, Repr

namespace ReturnShape

/-- What a call hands back once it is settled. -/
def settled (style : CallStyle) (result : Option DataType) : ReturnShape :=
  if style.isTry then .outcome result
  else
    match result with
    | some type => .value type
    | none => .unit

/-- What a call of a style hands back. -/
def of (style : CallStyle) (result : Option DataType) : ReturnShape :=
  if style.isAsync then .awaitable (settled style result) else settled style result

/-- Must the result be awaited? -/
def isAwaitable : ReturnShape → Bool
  | awaitable _ => true
  | _ => false

end ReturnShape

/-- A method that calls an operation. -/
structure Stub where
  name : String
  /-- The name without the affixes of the style. -/
  baseName : String
  operation : Nat
  style : CallStyle
  params : List Param
  returns : ReturnShape
  /-- The message that is sent. -/
  message : NodeId
  /-- Takes a serialized message in place of arguments. -/
  prebuilt : Bool
  oneWay : Bool
  doc : Option String
  deriving DecidableEq, Repr

/-- The stream control messages that every open stream uses. -/
structure StreamControl where
  pageAck : NodeId
  cancel : NodeId
  close : NodeId
  closeAck : NodeId
  deriving DecidableEq, Repr

/-- The control messages of a catalog. -/
def StreamControl.standard : StreamControl where
  pageAck := SystemMessage.pageAck.node
  cancel := SystemMessage.streamCancel.node
  close := SystemMessage.streamClose.node
  closeAck := SystemMessage.streamCloseAck.node

/-- A method that opens a stream. -/
structure StreamOpener where
  name : String
  operation : Nat
  request : NodeId
  response : NodeId
  fault : NodeId
  params : List Param
  inputItem : Option DataType
  outputItem : Option DataType
  result : Option DataType
  inputPage : Option NodeId
  outputPage : Option NodeId
  control : StreamControl
  doc : Option String
  deriving DecidableEq, Repr

/-- A function that serializes a one-way message ahead of time. -/
structure PrebuildHelper where
  name : String
  operation : Nat
  message : NodeId
  params : List Param
  serializer : Serializer
  deriving DecidableEq, Repr

/-- A method of a facade and the stub it forwards to. -/
structure FacadeMethod where
  name : String
  target : String
  deriving DecidableEq, Repr

/-- The calls of one style under their plain names. -/
structure Facade where
  style : CallStyle
  name : String
  methods : List FacadeMethod
  deriving DecidableEq, Repr

/-- Everything a peer uses to call the other one. -/
structure Surface where
  peer : Peer
  name : String
  methods : List Stub
  streams : List StreamOpener
  prebuild : List PrebuildHelper
  facades : List Facade
  deriving DecidableEq, Repr

namespace Generated

/-- The stubs of all styles under one plain name. -/
def stubsNamed (entry : Generated) (base : String) (prebuilt : Bool) : List Stub :=
  CallStyle.all.map fun style =>
    { name := style.methodName base
      baseName := base
      operation := entry.index
      style := style
      params := if prebuilt then [] else entry.operation.params
      returns := .of style entry.operation.result
      message := entry.messages.outbound
      prebuilt := prebuilt
      oneWay := entry.operation.kind.isOneWay
      doc := entry.operation.doc }

/-- The opener of a streaming operation. -/
def opener? (entry : Generated) : Option StreamOpener :=
  match entry.messages with
  | .oneWay _ => none
  | .request messages =>
    if entry.operation.isStreaming then
      some
        { name := "open_" ++ entry.operation.methodBase
          operation := entry.index
          request := messages.request
          response := messages.response
          fault := messages.fault
          params := entry.operation.params
          inputItem := entry.operation.inputStream
          outputItem := entry.operation.outputStream
          result := entry.operation.result
          inputPage := messages.inputPage
          outputPage := messages.outputPage
          control := .standard
          doc := entry.operation.doc }
    else none

/-- The stubs of an operation: none if it is opened, and sends of prebuilt messages if offered. -/
def stubs (entry : Generated) : List Stub :=
  if entry.opener?.isSome then []
  else
    entry.stubsNamed entry.operation.methodBase false ++
      if entry.operation.offersPrebuilt then entry.stubsNamed entry.operation.prebuiltBase true
      else []

/-- The function that builds the message of an operation ahead of time, if offered. -/
def prebuildHelper? (entry : Generated) (serializer : Serializer) : Option PrebuildHelper :=
  if entry.opener?.isNone && entry.operation.offersPrebuilt then
    some
      { name := "prebuild_" ++ entry.operation.methodBase
        operation := entry.index
        message := entry.messages.outbound
        params := entry.operation.params
        serializer := serializer }
  else none

end Generated

/-- The facade of a style over some stubs, if the style has one. -/
def CallStyle.facade? (style : CallStyle) (surface : String) (stubs : List Stub) : Option Facade :=
  style.facadeSuffix.map fun suffix =>
    { style := style
      name := surface ++ suffix
      methods := (stubs.filter fun stub => stub.style = style).map fun stub =>
        ⟨stub.baseName, stub.name⟩ }

namespace Surface

/-- The name of the surface of a peer. -/
def nameOf (c : Contract) : Peer → String
  | .client => c.typeName ++ "Client"
  | .server => c.typeName ++ "CallbackProxy"

/-- The surface of a peer.  Prebuilt messages use the given serializer. -/
def build (c : Contract) (catalog : Catalog) (peer : Peer) (serializer : Serializer) : Surface :=
  let called := catalog.directed c peer.calls
  let stubs := called.flatMap Generated.stubs
  { peer := peer
    name := nameOf c peer
    methods := stubs
    streams := called.filterMap Generated.opener?
    prebuild := called.filterMap (·.prebuildHelper? serializer)
    facades := CallStyle.all.filterMap (·.facade? (nameOf c peer) stubs) }

/-- The stub with a name. -/
def method? (surface : Surface) (name : String) : Option Stub :=
  surface.methods.find? fun stub => stub.name = name

/-- The stubs of the operation at a position. -/
def methodsFor (surface : Surface) (operation : Nat) : List Stub :=
  surface.methods.filter fun stub => stub.operation = operation

/-- The opener of the operation at a position. -/
def stream? (surface : Surface) (operation : Nat) : Option StreamOpener :=
  surface.streams.find? fun opener => opener.operation = operation

/-- The facade of a style. -/
def facade? (surface : Surface) (style : CallStyle) : Option Facade :=
  surface.facades.find? fun facade => facade.style = style

/-- Does the peer call nothing? -/
def isEmpty (surface : Surface) : Bool :=
  surface.methods.isEmpty && surface.streams.isEmpty

end Surface

end ServiceContract
