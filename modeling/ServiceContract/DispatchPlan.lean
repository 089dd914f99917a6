import ServiceContract.Surface

/-!
# Dispatch plans

How a peer handles what the other one calls.  A plan is a table of *arms*, one for each operation
the peer handles, looked up by the key of the incoming message; any other key is unknown.

The arm of a request also says how a failed call is answered.  Its *catch chain* tests the declared
faults, the most specific first, then any other fault that was raised on purpose, and last anything
unexpected.
-/

namespace ServiceContract

/-- A method that the implementation of a service provides. -/
structure Handler where
  name : String
  operation : Nat
  params : List Param
  result : Option DataType
  oneWay : Bool
  inputItem : Option DataType
  outputItem : Option DataType
  /-- Told about the result after the response was sent. -/
  sentHook : Option String
  doc : Option String
  deriving DecidableEq, Repr

/-- The context in which a request is handled. -/
inductive CallContext
  | plain
  | streaming (inputPage outputPage : Option NodeId)
  deriving DecidableEq, Repr

/-- Does the context carry a stream? -/
def CallContext.isStreaming : CallContext → Bool
  | plain => false
  | streaming _ _ => true

/-- One test of a catch chain. -/
inductive CatchBranch
  /-- A declared fault, whose payload goes into its carrier. -/
  | custom (faultKey : Nat) (payload : DataType) (carrier : NodeId)
  /-- Any other fault that was raised on purpose. -/
  | declared
  /-- Anything else. -/
  | unexpected
  deriving DecidableEq, Repr

/-- How a request is handled. -/
structure RequestArm where
  variant : String
  key : MessageKey
  operation : Nat
  handler : String
  request : NodeId
  response : NodeId
  fault : NodeId
  context : CallContext
  hasResult : Bool
  sentHook : Option String
  catchChain : List CatchBranch
  deriving DecidableEq, Repr

/-- How an incoming message is handled. -/
inductive Arm
  | oneWay (variant : String) (key : MessageKey) (operation : Nat) (handler : String)
      (message : NodeId)
  | request (arm : RequestArm)
  deriving DecidableEq, Repr

namespace Arm

/-- The key of the message an arm handles. -/
def key : Arm → MessageKey
  | oneWay _ key _ _ _ => key
  | request arm => arm.key

/-- The name of the message among the incoming ones. -/
def variant : Arm → String
  | oneWay variant _ _ _ _ => variant
  | request arm => arm.variant

/-- The position of the operation an arm belongs to. -/
def operation : Arm → Nat
  | oneWay _ _ operation _ _ => operation
  | request arm => arm.operation

/-- The method that handles the message. -/
def handler : Arm → String
  | oneWay _ _ _ handler _ => handler
  | request arm => arm.handler

/-- The type of the message an arm handles. -/
def inbound : Arm → NodeId
  | oneWay _ _ _ _ message => message
  | request arm => arm.request

end Arm

/-- The result of looking up an incoming key. -/
inductive Dispatch
  | arm (arm : Arm)
  | unknown (key : MessageKey)
  deriving DecidableEq, Repr

/-- How a peer handles what the other one calls. -/
structure DispatchPlan where
  peer : Peer
  /-- The interface the implementation provides. -/
  handlerTrait : String
  dispatcher : String
  /-- The closed choice of incoming messages. -/
  inbound : String
  handlers : List Handler
  arms : List Arm
  deriving DecidableEq, Repr

/-- The catch chain of the operation at a position. -/
def Catalog.catchChain (catalog : Catalog) (operation : Nat) : List CatchBranch :=
  (((catalog.faultSet? operation).map FaultSet.carriers).getD []).map
      (fun carrier => .custom carrier.faultKey carrier.payload carrier.node) ++
    [.declared, .unexpected]

namespace Generated

/-- The handler of an operation. -/
def handler (entry : Generated) : Handler where
  name := entry.operation.methodBase
  operation := entry.index
  params := entry.operation.params
  result := entry.operation.result
  oneWay := entry.operation.kind.isOneWay
  inputItem := entry.operation.inputStream
  outputItem := entry.operation.outputStream
  sentHook := entry.operation.sentHook?
  doc := entry.operation.doc

/-- The arm of an operation that is called under a key. -/
def arm (catalog : Catalog) (entry : Generated) (key : MessageKey) : Arm :=
  let op := entry.operation
  match entry.messages with
  | .oneWay message => .oneWay op.typeName key entry.index op.methodBase message
  | .request messages =>
    .request
      { variant := op.typeName
        key := key
        operation := entry.index
        handler := op.methodBase
        request := messages.request
        response := messages.response
        fault := messages.fault
        context :=
          if op.isStreaming then .streaming messages.inputPage messages.outputPage else .plain
        hasResult := op.result.isSome
        sentHook := op.sentHook?
        catchChain := catalog.catchChain entry.index }

end Generated

namespace DispatchPlan

/-- The name of the interface a peer implements. -/
def traitName (c : Contract) : Peer → String
  | .server => c.typeName
  | .client => c.typeName ++ "Callbacks"

/-- The name of the dispatcher of a peer. -/
def dispatcherName (c : Contract) : Peer → String
  | .server => c.typeName ++ "Dispatcher"
  | .client => c.typeName ++ "CallbackDispatcher"

/-- The name of the choice of messages a peer handles. -/
def inboundName (c : Contract) : Peer → String
  | .server => c.typeName ++ "Inbound"
  | .client => c.typeName ++ "CallbackInbound"

/-- The operations a peer handles, each with the key it is called under. -/
def handled (c : Contract) (keys : KeyTable) (catalog : Catalog) (peer : Peer) :
    List (Generated × MessageKey) :=
  (catalog.directed c peer.handles).filterMap fun entry =>
    (keys.block? entry.index).map fun block => (entry, block.keys.outbound)

/-- The plan of a peer. -/
def build (c : Contract) (keys : KeyTable) (catalog : Catalog) (peer : Peer) : DispatchPlan where
  peer := peer
  handlerTrait := traitName c peer
  dispatcher := dispatcherName c peer
  inbound := inboundName c peer
  handlers := (handled c keys catalog peer).map fun entry => entry.1.handler
  arms := (handled c keys catalog peer).map fun entry => entry.1.arm catalog entry.2

/-- Look up the key of an incoming message. -/
def dispatch (plan : DispatchPlan) (key : MessageKey) : Dispatch :=
  match plan.arms.find? fun arm => arm.key = key with
  | some arm => .arm arm
  | none => .unknown key

/-- The arm of the operation at a position. -/
def armFor? (plan : DispatchPlan) (operation : Nat) : Option Arm :=
  plan.arms.find? fun arm => arm.operation = operation

/-- The handler with a name. -/
def handler? (plan : DispatchPlan) (name : String) : Option Handler :=
  plan.handlers.find? fun handler => handler.name = name

/-- Does the peer handle nothing? -/
def isEmpty (plan : DispatchPlan) : Bool := plan.arms.isEmpty

end DispatchPlan

end ServiceContract
