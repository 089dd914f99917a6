import ServiceContract.Operation

/-!
# Diagnostics

Problems that do not stop a compilation.  An error belongs to one operation, which is skipped; a
warning changes nothing, or announces a fallback.  Diagnostics are kept in the order they are
found.
-/

namespace ServiceContract

/-- How bad a problem is. -/
inductive Severity
  | warning
  | error
  deriving DecidableEq, Repr

/-- A severity as messages show it. -/
def Severity.text : Severity → String
  | warning => "warning"
  | error => "error"

/-- A problem found while a contract is compiled. -/
structure Diagnostic where
  severity : Severity
  message : String
  /-- The name of the operation the problem belongs to. -/
  operation : Option String := none
  location : Option Location := none
  deriving DecidableEq, Repr

/-- The start of a message about a place in the source: the location and a colon. -/
def locationLead : Option Location → String
  | some location => location.text ++ ": "
  | none => ""

namespace Diagnostic

/-- An error about an operation that is skipped for it. -/
def skip (op : Operation) (message : String) : Diagnostic :=
  { severity := .error, message, operation := some op.name, location := op.location }

/-- A warning about an operation. -/
def caution (op : Operation) (message : String) : Diagnostic :=
  { severity := .warning, message, operation := some op.name, location := op.location }

/-- A warning about the contract as a whole. -/
def notice (message : String) : Diagnostic :=
  { severity := .warning, message }

/-- Does the diagnostic skip its operation? -/
def isError (diagnostic : Diagnostic) : Bool := diagnostic.severity = .error

/-- The operation of a diagnostic as messages show it. -/
def operationText : Option String → String
  | some name => " in `" ++ name ++ "`"
  | none => ""

/-- A diagnostic as one line of text. -/
def text (diagnostic : Diagnostic) : String :=
  locationLead diagnostic.location ++ diagnostic.severity.text ++
    operationText diagnostic.operation ++ ": " ++ diagnostic.message

end Diagnostic

/-- The errors among some diagnostics. -/
def errorsOf (diagnostics : List Diagnostic) : List Diagnostic :=
  diagnostics.filter Diagnostic.isError

/-- The warnings among some diagnostics. -/
def warningsOf (diagnostics : List Diagnostic) : List Diagnostic :=
  diagnostics.filter fun diagnostic => !diagnostic.isError

/-- The diagnostics about the operations called `name`. -/
def diagnosticsFor (name : String) (diagnostics : List Diagnostic) : List Diagnostic :=
  diagnostics.filter fun diagnostic => diagnostic.operation = some name

end ServiceContract
