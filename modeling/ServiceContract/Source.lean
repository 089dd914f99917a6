import ServiceContract.Code
import ServiceContract.Compiled
import ServiceContract.DataType.Spelling

/-!
# Generated source

A compiled contract together with the choices that shape the text of its module.  Everything that
is decided about names and keys is read from the compiled contract; here it is only spelled.
-/

namespace ServiceContract

/-- What is written, and how. -/
structure Source where
  compiled : Compiled
  /-- Record every dispatched call. -/
  tracing : Bool := false
  /-- The path of the library that the generated module uses. -/
  runtime : String := "::pact_runtime"
  deriving Repr

/-- What stands between two texts that enclose a third, if they do. -/
def between? (first last text : String) : Option String :=
  (first.toList.isPrefixOf? text.toList).bind fun rest =>
    (last.toList.isSuffixOf? rest).map String.ofList

/-- The variant of a fault union that holds a carrier: what the name of the carrier adds to the
names of the operation and of its role, or the whole name if that is nothing. -/
def Catalog.faultVariant (catalog : Catalog) (carrier : NodeId) : String :=
  let marker := ((catalog.get? carrier).bind Node.base).map catalog.name
  let operation := (marker.bind (between? "" Role.faultData.suffix)).getD ""
  let name := catalog.name carrier
  match between? operation Role.faultCarrier.suffix name with
  | some variant => if variant.isEmpty then name else variant
  | none => name

/-- Does a fault message have a place for a fault carrier? -/
def Catalog.carriesFaultData (catalog : Catalog) (fault : NodeId) : Bool :=
  ((catalog.get? fault).bind (·.field? "FaultData")).isSome

namespace Source

/-- A name of the library that the generated module uses. -/
def inRuntime (s : Source) (name : String) : String := s.runtime ++ "::" ++ name

/-- The catalog that is written. -/
def catalog (s : Source) : Catalog := s.compiled.catalog

/-- The name of a generated type. -/
def nodeName (s : Source) (id : NodeId) : String := s.catalog.name id

/-- The name of the union of all messages. -/
def base (s : Source) : String := s.nodeName messageBase

/-- The full name of the contract. -/
def contractName (s : Source) : String := s.compiled.contract.qualifiedName

/-- The operation at a position. -/
def operation? (s : Source) (index : Nat) : Option Operation :=
  s.compiled.contract.operations[index]?

/-- The name of the operation at a position. -/
def operationName (s : Source) (index : Nat) : String :=
  ((s.operation? index).map Operation.name).getD ""

/-- The parameters of the operation at a position. -/
def operationParams (s : Source) (index : Nat) : List Param :=
  ((s.operation? index).map Operation.params).getD []

/-- The member that carries the result of the operation at a position. -/
def resultField? (s : Source) (index : Nat) : Option String :=
  ((s.operation? index).bind Operation.resultParam).map Param.fieldName

/-- The spelling of the type of a message field. -/
def fieldType (s : Source) : FieldType → String
  | .declared type => type.spelling
  | .callId => "u64"
  | .callOptions => "CallOptions"
  | .faultCode => "FaultCode"
  | .windowSize => "u32"
  | .consumed => "u32"
  | .text => "::std::string::String"
  | .credentials => "Credentials"
  | .faultData marker => "::std::option::Option<" ++ s.nodeName marker ++ ">"

end Source

/-- Documentation, if there is any. -/
def Code.docOf : Option String → List Code
  | some text => [.doc text]
  | none => []

end ServiceContract
