/-!
# Data types

The types that arguments, results, stream items and fault payloads may have.  This is the
vocabulary that can be placed in a message.  Anything else is kept as an `unsupported` type with a
description, so that the operation that uses it can be reported by name.

* `DataType.text` is how a type reads in a message to the author of a contract.
* `DataType.fragment` is the piece it contributes to the name of a generated type.
* `DataType.firstUnsupported` finds what keeps a type out of a message.
-/

namespace ServiceContract

/-- The types without parts. -/
inductive Primitive
  | unit | bool
  | u8 | u16 | u32 | u64 | u128
  | i8 | i16 | i32 | i64 | i128
  | f32 | f64
  | char | string | bytes
  deriving DecidableEq, Repr, Ord

/-- A declared data type. -/
inductive DataType
  | primitive (kind : Primitive)
  | list (element : DataType)
  | option (inner : DataType)
  | map (key value : DataType)
  | set (element : DataType)
  | array (element : DataType) (length : Nat)
  | tuple (elements : List DataType)
  /-- A type of the contract's author, referred to by its path. -/
  | named (path : String)
  /-- Something no message can carry; the text describes it. -/
  | unsupported (what : String)
  deriving Repr, Inhabited

namespace Primitive

/-- How a primitive type reads. -/
def text : Primitive → String
  | unit => "()"
  | bool => "bool"
  | u8 => "u8"
  | u16 => "u16"
  | u32 => "u32"
  | u64 => "u64"
  | u128 => "u128"
  | i8 => "i8"
  | i16 => "i16"
  | i32 => "i32"
  | i64 => "i64"
  | i128 => "i128"
  | f32 => "f32"
  | f64 => "f64"
  | char => "char"
  | string => "String"
  | bytes => "bytes"

/-- The name of a primitive type inside a generated name. -/
def fragment : Primitive → String
  | unit => "Unit"
  | bool => "Bool"
  | u8 => "U8"
  | u16 => "U16"
  | u32 => "U32"
  | u64 => "U64"
  | u128 => "U128"
  | i8 => "I8"
  | i16 => "I16"
  | i32 => "I32"
  | i64 => "I64"
  | i128 => "I128"
  | f32 => "F32"
  | f64 => "F64"
  | char => "Char"
  | string => "String"
  | bytes => "Bytes"

end Primitive

/-- The characters before the first double colon, or all of them if there is none. -/
def untilDoubleColon : List Char → List Char
  | ':' :: ':' :: _ => []
  | [] => []
  | c :: rest => c :: untilDoubleColon rest

/-- The last segment of a path: what stands after its rightmost double colon. -/
def lastSegment (path : String) : String :=
  String.ofList (untilDoubleColon path.toList.reverse).reverse

namespace DataType

mutual

/-- The same type, part by part. -/
def same : DataType → DataType → Bool
  | primitive a, primitive b => decide (a = b)
  | list a, list b => same a b
  | option a, option b => same a b
  | map a c, map b d => same a b && same c d
  | set a, set b => same a b
  | array a m, array b n => same a b && decide (m = n)
  | tuple as, tuple bs => sameEach as bs
  | named a, named b => decide (a = b)
  | unsupported a, unsupported b => decide (a = b)
  | _, _ => false

/-- The same types in the same order. -/
def sameEach : List DataType → List DataType → Bool
  | [], [] => true
  | a :: as, b :: bs => same a b && sameEach as bs
  | _, _ => false

end

mutual

/-- The comparison decides equality. -/
theorem same_iff (a b : DataType) : same a b = true ↔ a = b := by
  cases a <;> cases b <;> simp [same, same_iff, sameEach_iff]

theorem sameEach_iff (as bs : List DataType) : sameEach as bs = true ↔ as = bs := by
  cases as <;> cases bs <;> simp [sameEach, same_iff, sameEach_iff]

end

instance : DecidableEq DataType := fun a b => decidable_of_iff _ (same_iff a b)

/-- The unit type, or the tuple of nothing: a result of this type carries no data. -/
def isUnit : DataType → Bool
  | primitive .unit => true
  | tuple [] => true
  | _ => false

mutual

/-- The first unsupported type inside a type, reading from the left. -/
def firstUnsupported : DataType → Option DataType
  | unsupported what => some (unsupported what)
  | list element => firstUnsupported element
  | option inner => firstUnsupported inner
  | set element => firstUnsupported element
  | array element _ => firstUnsupported element
  | map key value => (firstUnsupported key).or (firstUnsupported value)
  | tuple elements => firstUnsupportedOf elements
  | primitive _ => none
  | named _ => none

/-- The first unsupported type inside a list of types. -/
def firstUnsupportedOf : List DataType → Option DataType
  | [] => none
  | element :: rest => (firstUnsupported element).or (firstUnsupportedOf rest)

end

/-- Can a message carry this type? -/
def isSupported (type : DataType) : Bool :=
  (firstUnsupported type).isNone

mutual

/-- The piece a type contributes to the name of a generated type. -/
def fragment : DataType → String
  | primitive kind => kind.fragment
  | list element => "List" ++ fragment element
  | option inner => "Option" ++ fragment inner
  | map key value => "Map" ++ fragment key ++ fragment value
  | set element => "Set" ++ fragment element
  | array element length => "Array" ++ fragment element ++ "x" ++ toString length
  | tuple elements => "Tuple" ++ fragments elements
  | named path => lastSegment path
  | unsupported _ => "Unsupported"

/-- The fragments of several types, one after the other. -/
def fragments : List DataType → String
  | [] => ""
  | element :: rest => fragment element ++ fragments rest

end

mutual

/-- How a type reads in a message. -/
def text : DataType → String
  | primitive kind => kind.text
  | list element => "Vec<" ++ text element ++ ">"
  | option inner => "Option<" ++ text inner ++ ">"
  | map key value => "Map<" ++ text key ++ ", " ++ text value ++ ">"
  | set element => "Set<" ++ text element ++ ">"
  | array element length => "[" ++ text element ++ "; " ++ toString length ++ "]"
  | tuple elements => "(" ++ ", ".intercalate (texts elements) ++ ")"
  | named path => path
  | unsupported what => "<unsupported: " ++ what ++ ">"

/-- How each of several types reads. -/
def texts : List DataType → List String
  | [] => []
  | element :: rest => text element :: texts rest

end

/-- Types are read one by one. -/
theorem texts_eq_map (types : List DataType) : texts types = types.map text := by
  induction types with
  | nil => rfl
  | cons type rest ih => rw [texts, ih, List.map_cons]

instance : ToString DataType := ⟨text⟩

end DataType

end ServiceContract
