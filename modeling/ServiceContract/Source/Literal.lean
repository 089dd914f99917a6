import ServiceContract.Source

/-!
# Values and signatures

The recurring parts of generated code.  A `Literal` builds a value of a generated type by naming its
members in order; a `Binder` is a parameter of a generated method.
-/

namespace ServiceContract

/-- Texts with commas between them. -/
def commaList (texts : List String) : String := ", ".intercalate texts

/-- A text in quotes. -/
def quoted (text : String) : String := "\"" ++ text ++ "\""

/-- A text in braces. -/
def braced (text : String) : String := "\x7b " ++ text ++ " \x7d"

/-- One member of a literal. -/
inductive FieldInit
  /-- The member takes the variable of its own name. -/
  | short (field : String)
  | set (field value : String)
  deriving DecidableEq, Repr

namespace FieldInit

/-- The member that is set. -/
def field : FieldInit → String
  | short field => field
  | set field _ => field

/-- The text of one member. -/
def text : FieldInit → String
  | short field => field
  | set field value => field ++ ": " ++ value

end FieldInit

/-- A value of a generated type, written member by member. -/
structure Literal where
  type : String
  inits : List FieldInit
  deriving DecidableEq, Repr

/-- The text of a literal. -/
def Literal.text (literal : Literal) : String :=
  literal.type ++ " " ++ braced (commaList (literal.inits.map FieldInit.text))

/-- A parameter of a generated method. -/
structure Binder where
  name : String
  type : String
  deriving DecidableEq, Repr

/-- The text of a parameter. -/
def Binder.text (binder : Binder) : String := binder.name ++ ": " ++ binder.type

/-- A declared parameter in a signature. -/
def Param.binder (param : Param) : Binder := ⟨param.ident, param.type.spelling⟩

/-- A declared parameter in the literal of its message. -/
def Param.init (param : Param) : FieldInit :=
  if param.ident = param.fieldName then .short param.fieldName
  else .set param.fieldName param.ident

/-- The parameters of a method with a receiver. -/
def methodParams (binders : List Binder) : String :=
  commaList ("&self" :: binders.map Binder.text)

/-- Variables handed on. -/
def forwarded (binders : List Binder) : String := commaList (binders.map Binder.name)

/-- A message field as a parameter. -/
def Source.fieldBinder (s : Source) (field : Field) : Binder :=
  ⟨fieldName field.name, s.fieldType field.type⟩

namespace Source

/-- The one-way message of a call. -/
def oneWayLiteral (s : Source) (message : NodeId) (params : List Param) : Literal :=
  ⟨s.nodeName message, params.map Param.init⟩

/-- The members that every request starts with. -/
def requestInits : List FieldInit := [.short "call_id", .set "options" "CallOptions::default()"]

/-- The request of a call. -/
def requestLiteral (s : Source) (request : NodeId) (params : List Param) : Literal :=
  ⟨s.nodeName request, requestInits ++ params.map Param.init⟩

/-- The request that opens a stream. -/
def openingLiteral (s : Source) (request : NodeId) (params : List Param) : Literal :=
  ⟨s.nodeName request, requestInits ++ params.map Param.init ++ [.short "window_size"]⟩

end Source

end ServiceContract
