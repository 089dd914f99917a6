import ServiceContract.Operation
import ServiceContract.Text.Words

/-!
# Identifiers in generated code

How the names of a contract are spelled in generated code.  Message fields and their constants keep
their words; an argument keeps its declared name where that is possible, and otherwise takes the
name of the field that carries it.
-/

namespace ServiceContract

/-- A letter, then letters, digits and underscores: what an operation may be called. -/
def isIdentifier (name : String) : Bool :=
  match name.toList with
  | [] => false
  | first :: rest => first.isAlpha && rest.all fun c => c.isAlphanum || c = '_'

/-- The constant that holds the key of a message type. -/
def constantName (typeName : String) : String := Text.shouty typeName

/-- The member of a generated type for a message field. -/
def fieldName (wireName : String) : String := Text.snake wireName

/-- Names that arguments must leave to the generated code around them. -/
def reservedIdents : List String :=
  ["self", "call", "call_id", "request", "replies", "message", "options", "window_size", "type",
    "fn", "match", "mod", "move", "ref", "impl", "loop", "async", "await"]

/-- The member that carries a parameter. -/
def Param.fieldName (param : Param) : String := ServiceContract.fieldName param.wireName

/-- The name of a parameter in signatures: its declared name, unless that leaves nothing or is
reserved. -/
def Param.ident (param : Param) : String :=
  match param.name with
  | some name =>
    let ident := Text.snake name
    if ident.isEmpty || ident ∈ reservedIdents then param.fieldName else ident
  | none => param.fieldName

end ServiceContract
