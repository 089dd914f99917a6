import ServiceContract.DataType

/-!
# Types in generated code

How a declared type is spelled inside a generated module.  Types of the contract's author live next
to the module, everything else is spelled by its full path.
-/

namespace ServiceContract

/-- The spelling of a primitive type. -/
def Primitive.spelling : Primitive → String
  | string => "::std::string::String"
  | bytes => "::std::vec::Vec<u8>"
  | kind => kind.text

namespace DataType

mutual

/-- The spelling of a type. -/
def spelling : DataType → String
  | primitive kind => kind.spelling
  | list element => "::std::vec::Vec<" ++ spelling element ++ ">"
  | option inner => "::std::option::Option<" ++ spelling inner ++ ">"
  | map key value =>
    "::std::collections::HashMap<" ++ spelling key ++ ", " ++ spelling value ++ ">"
  | set element => "::std::collections::HashSet<" ++ spelling element ++ ">"
  | array element length => "[" ++ spelling element ++ "; " ++ toString length ++ "]"
  | tuple [element] => "(" ++ spelling element ++ ",)"
  | tuple elements => "(" ++ ", ".intercalate (spellings elements) ++ ")"
  | named path => "super::" ++ path
  | unsupported what => "/* unsupported: " ++ what ++ " */"

/-- The spellings of several types. -/
def spellings : List DataType → List String
  | [] => []
  | element :: rest => spelling element :: spellings rest

end

/-- The spelling of what may be absent: nothing is the unit type. -/
def spellingOr (type : Option DataType) : String :=
  (type.map spelling).getD "()"

end DataType

end ServiceContract
