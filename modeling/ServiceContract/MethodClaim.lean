import ServiceContract.CallStyle
import ServiceContract.Text.Words

/-!
# Method names

Each operation adds methods to the generated code, and a scope must not declare a name twice.  An
operation *claims* all its methods at once: if one of them is taken, by the scope itself, by an
earlier operation or by the operation's own other methods, nothing is claimed and the operation is
skipped.
-/

namespace ServiceContract

/-- Where a generated method is declared. -/
inductive MethodScope
  /-- The surface that calls operations of a direction. -/
  | caller (direction : Direction)
  /-- The interface of the peer that handles operations of a direction. -/
  | handler (direction : Direction)
  /-- The dispatcher of that peer. -/
  | dispatcher (direction : Direction)
  /-- Free functions of the generated module. -/
  | module
  deriving DecidableEq, Repr

/-- A scope in words. -/
def MethodScope.text : MethodScope → String
  | caller .toServer => "the client"
  | caller .toClient => "the callback proxy"
  | handler .toServer => "the service trait"
  | handler .toClient => "the callback trait"
  | dispatcher .toServer => "the dispatcher"
  | dispatcher .toClient => "the callback dispatcher"
  | module => "the generated module"

/-- A method name in its scope. -/
structure MethodClaim where
  scope : MethodScope
  name : String
  deriving DecidableEq, Repr

/-- Methods that every caller surface has of its own. -/
def callerMethods : List String :=
  ["new", "with_serializer", "serializer", "channel", "as_async", "as_try", "as_try_async"]

/-- Methods that every dispatcher has of its own. -/
def dispatcherMethods : List String :=
  ["new", "handler", "dispatch", "dispatch_message"]

/-- The methods of the scopes themselves. -/
def reservedClaims : List MethodClaim :=
  [Direction.toServer, Direction.toClient].flatMap fun direction =>
    callerMethods.map (⟨.caller direction, ·⟩) ++
      dispatcherMethods.map (⟨.dispatcher direction, ·⟩)

/-- The first element that is taken, or stands in the list already. -/
def firstClash {α : Type} [DecidableEq α] (taken : List α) : List α → Option α
  | [] => none
  | a :: rest => if a ∈ taken then some a else firstClash (a :: taken) rest

namespace Operation

/-- The plain method name of an operation. -/
def methodBase (op : Operation) : String := Text.snake op.name

/-- The name of the hook that is told about a response that was sent, if there is one. -/
def sentHook? (op : Operation) : Option String :=
  if op.kind.isRequestResponse && op.result.isSome then some ("on_" ++ op.methodBase ++ "_sent")
  else none

/-- Does the operation offer sends of prebuilt messages? -/
def offersPrebuilt (op : Operation) : Bool := op.kind.isOneWay && op.prebuild

/-- Is the operation called by opening a stream? -/
def opensStream (op : Operation) : Bool := op.kind.isRequestResponse && op.isStreaming

/-- The plain name of the sends of prebuilt messages. -/
def prebuiltBase (op : Operation) : String := op.methodBase ++ "_prebuilt"

/-- The methods an operation adds to the surface that calls it. -/
def callerNames (op : Operation) : List String :=
  if op.opensStream then ["open_" ++ op.methodBase]
  else
    CallStyle.all.map (·.methodName op.methodBase) ++
      if op.offersPrebuilt then CallStyle.all.map (·.methodName op.prebuiltBase) else []

/-- The free functions an operation adds to the module. -/
def moduleNames (op : Operation) : List String :=
  if !op.opensStream && op.offersPrebuilt then ["prebuild_" ++ op.methodBase] else []

/-- Every method an operation adds, with its scope. -/
def claims (op : Operation) : List MethodClaim :=
  op.callerNames.map (⟨.caller op.kind.direction, ·⟩) ++
    op.moduleNames.map (⟨.module, ·⟩) ++
    (op.methodBase :: op.sentHook?.toList).map (⟨.handler op.kind.direction, ·⟩) ++
    [⟨.dispatcher op.kind.direction, "dispatch_" ++ op.methodBase⟩]

end Operation

end ServiceContract
