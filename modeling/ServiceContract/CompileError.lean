import ServiceContract.Contract
import ServiceContract.Diagnostic
import ServiceContract.Hierarchy

/-!
# Causes of an aborted compilation

A contract is rejected as a whole when its messages could not be laid out consistently: a type that
is not registered, a fault registry that runs in a circle, too few keys, or a broken hierarchy.
Asking a compiled contract for a serializer it does not offer is an error of the same kind.
-/

namespace ServiceContract

/-- Why a contract was rejected, or a request to its compiled form refused. -/
inductive CompileError
  | unresolvedFaultType (operation : String) (type : DataType) (location : Option Location)
  | unresolvedStreamItem (operation : String) (type : DataType) (location : Option Location)
  | unresolvedFaultBase (type base : DataType)
  | cyclicFaultHierarchy (type : DataType)
  | keySpaceExhausted (operation : String) (needed limit : Nat)
  | serializerNotConfigured (requested : Serializer) (contract : String)
      (configured : List Serializer)
  | hierarchy (cause : HierarchyError)
  deriving DecidableEq, Repr

/-- Serializers as a message lists them. -/
def serializerList (serializers : List Serializer) : String :=
  if serializers.isEmpty then "none" else ", ".intercalate (serializers.map Serializer.identity)

/-- The message for an aborted compilation. -/
def CompileError.message : CompileError → String
  | unresolvedFaultType operation type location =>
    locationLead location ++ "operation `" ++ operation ++ "` raises `" ++ type.text ++
      "`, which is not in the contract's fault registry"
  | unresolvedStreamItem operation type location =>
    locationLead location ++ "operation `" ++ operation ++ "` streams `" ++ type.text ++
      "`, which is not in the contract's stream item registry"
  | unresolvedFaultBase type base =>
    "fault type `" ++ type.text ++ "` extends `" ++ base.text ++
      "`, which is not in the contract's fault registry"
  | cyclicFaultHierarchy type =>
    "fault type `" ++ type.text ++ "` extends itself through its `extends` chain"
  | keySpaceExhausted operation needed limit =>
    "key space exhausted: operation `" ++ operation ++ "` needs key " ++ toString needed ++
      ", limit is " ++ toString limit
  | serializerNotConfigured requested contract configured =>
    "serializer `" ++ requested.identity ++ "` is not configured for contract `" ++ contract ++
      "` (configured: " ++ serializerList configured ++ ")"
  | hierarchy cause => cause.message

end ServiceContract
