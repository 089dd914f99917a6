import ServiceContract.DataType

/-!
# Shapes

A shape describes a type of a host program: what it is called, how its values are laid out, and
what it wraps.  `Shape.dataType` derives the data type a contract sees.

* A transparent shape stands for what it wraps.
* A sequence of bytes is `bytes`; any other sequence is a list.
* A smart pointer stands for what it points at, and a plain pointer for its first parameter.
* Records and enumerations are named types.  Those with parameters are unsupported, because all
  their instances would share one name.
-/

namespace ServiceContract

/-- Shapes of single values. -/
inductive Scalar
  | unit | bool | char
  | borrowedText | ownedText | sharedText
  | f32 | f64
  | u8 | u16 | u32 | u64 | u128 | uword
  | i8 | i16 | i32 | i64 | i128 | iword
  /-- A single value of a type that contracts do not know. -/
  | foreign (id : String)
  deriving DecidableEq, Repr

mutual

/-- The shape of a type. -/
inductive Shape
  | scalar (kind : Scalar)
  | composite (id : String) (transparent : Bool) (inner : Option Shape) (form : Form)
      (kind : Kind) (params : List Shape)

/-- How the values of a composite type are accessed. -/
inductive Form
  | plain
  | list (element : Shape)
  | slice (element : Shape)
  | array (element : Shape) (length : Nat)
  | option (inner : Shape)
  | map (key value : Shape)
  | set (element : Shape)
  | pointer (pointee : Option Shape)
  | result (success failure : Shape)

/-- What sort of type a composite type is. -/
inductive Kind
  | undefined | primitive | sequence
  | record | tupleRecord | unitRecord | enumeration | union | foreign
  | reference | address | function
  | tuple (fields : List Shape)

end

/-- The data type of a single value. -/
def Scalar.dataType : Scalar → DataType
  | unit => .primitive .unit
  | bool => .primitive .bool
  | char => .primitive .char
  | borrowedText => .primitive .string
  | ownedText => .primitive .string
  | sharedText => .primitive .string
  | f32 => .primitive .f32
  | f64 => .primitive .f64
  | u8 => .primitive .u8
  | u16 => .primitive .u16
  | u32 => .primitive .u32
  | u64 => .primitive .u64
  | u128 => .primitive .u128
  | uword => .primitive .u64
  | i8 => .primitive .i8
  | i16 => .primitive .i16
  | i32 => .primitive .i32
  | i64 => .primitive .i64
  | i128 => .primitive .i128
  | iword => .primitive .i64
  | foreign id => .unsupported id

/-- A record or enumeration by its name, with the data types of its parameters.  A name that is
empty or reads like a tuple or an array cannot be referred to. -/
def nominalType (id : String) (params : List DataType) : DataType :=
  if params.isEmpty then
    match id.toList with
    | [] => .unsupported id
    | first :: _ => if first = '(' ∨ first = '[' then .unsupported id else .named id
  else
    .unsupported ("generic type " ++ id ++ "<" ++ ", ".intercalate (params.map DataType.text) ++ ">")

mutual

/-- The data type a shape stands for. -/
def Shape.dataType : Shape → DataType
  | .scalar kind => kind.dataType
  | .composite _ true (some wrapped) _ _ _ => wrapped.dataType
  | .composite id _ _ form kind params =>
    ((form.dataType id).getD (kind.dataType id (Shape.dataTypes params)))

/-- The data types of several shapes. -/
def Shape.dataTypes : List Shape → List DataType
  | [] => []
  | shape :: rest => shape.dataType :: Shape.dataTypes rest

/-- The data type that the form of a type called `id` decides, if it decides one. -/
def Form.dataType (id : String) : Form → Option DataType
  | .plain => none
  | .list (.scalar .u8) => some (.primitive .bytes)
  | .list element => some (.list element.dataType)
  | .slice (.scalar .u8) => some (.primitive .bytes)
  | .slice element => some (.list element.dataType)
  | .array element length => some (.array element.dataType length)
  | .option inner => some (.option inner.dataType)
  | .map key value => some (.map key.dataType value.dataType)
  | .set element => some (.set element.dataType)
  | .pointer none => none
  | .pointer (some pointee) => some pointee.dataType
  | .result _ _ => some (.unsupported id)

/-- The data type that the sort of a type called `id` decides, given the data types of its
parameters. -/
def Kind.dataType (id : String) (params : List DataType) : Kind → DataType
  | .tuple fields => .tuple (Shape.dataTypes fields)
  | .record => nominalType id params
  | .tupleRecord => nominalType id params
  | .unitRecord => nominalType id params
  | .enumeration => nominalType id params
  | .reference => params.headD (.unsupported id)
  | .address => params.headD (.unsupported id)
  | .function => params.headD (.unsupported id)
  | .undefined => .unsupported id
  | .primitive => .unsupported id
  | .sequence => .unsupported id
  | .union => .unsupported id
  | .foreign => .unsupported id

end

end ServiceContract
