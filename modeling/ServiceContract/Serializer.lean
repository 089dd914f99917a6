import ServiceContract.Text.Blank
import ServiceContract.Text.Letter

/-!
# Serializers

The binary encodings a contract can bind its messages to.  Each has a stable identity, which is
what configuration texts spell; blanks around it and the case of its letters do not matter.
-/

namespace ServiceContract

/-- A serializer back end. -/
inductive Serializer
  | postcard
  | messagePack
  | bincode
  | json
  deriving DecidableEq, Repr

/-- A text that names no serializer. -/
structure UnknownSerializer where
  text : String
  deriving DecidableEq, Repr

/-- The message for a text that names no serializer. -/
def UnknownSerializer.message (unknown : UnknownSerializer) : String :=
  "unknown serializer `" ++ unknown.text ++
    "` (expected one of: postcard, msgpack, bincode, json)"

namespace Serializer

/-- Every serializer, in order. -/
def all : List Serializer := [postcard, messagePack, bincode, json]

/-- The identity that configuration texts spell. -/
def identity : Serializer → String
  | postcard => "postcard"
  | messagePack => "msgpack"
  | bincode => "bincode"
  | json => "json"

/-- The name inside generated type names. -/
def typeName : Serializer → String
  | postcard => "Postcard"
  | messagePack => "MessagePack"
  | bincode => "Bincode"
  | json => "Json"

instance : ToString Serializer := ⟨identity⟩

/-- The serializer a configuration text names. -/
def parse (text : String) : Except UnknownSerializer Serializer :=
  match Text.lowerAscii (Text.trim text) with
  | "postcard" => .ok postcard
  | "msgpack" => .ok messagePack
  | "messagepack" => .ok messagePack
  | "rmp" => .ok messagePack
  | "bincode" => .ok bincode
  | "json" => .ok json
  | _ => .error ⟨text⟩

end Serializer

end ServiceContract
