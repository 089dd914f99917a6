import ServiceContract.Source.Literal
import ServiceContract.StableSort

/-!
# Message types in source

The table of keys, one type for each node of the catalog that is no marker, and one choice type for
each marker: the union of an operation's fault carriers, told apart by fault key, and the union of
all messages, told apart by key.
-/

namespace ServiceContract

/-- A key in hexadecimal, with at least four digits. -/
def hexKey (key : MessageKey) : String :=
  let digits := Nat.toDigits 16 key
  "0x" ++ String.ofList (List.replicate (4 - digits.length) '0' ++ digits)

/-- The messages by ascending key, each as its name and its key. -/
def Catalog.keyEntries (catalog : Catalog) : List (String × MessageKey) :=
  (stableSort (fun a b => decide (a.2 ≤ b.2))
    (catalog.messages.filterMap fun node => node.key.map fun key => (node.name, key)))

/-- The attribute of every generated data type. -/
def dataAttribute : Code := .attr "derive(Debug, Clone, facet::Facet)"

/-- A choice by variants. -/
def matchBlock (subject : String) (arms : List String) : Code :=
  .block ("match " ++ subject) (arms.map .line)

namespace Source

/-- The table of keys. -/
def messageKeys (s : Source) : List Code :=
  [.doc "Wire keys of every message in this contract.",
    .block "pub mod message_key" (s.catalog.keyEntries.map fun (name, key) =>
      .line ("pub const " ++ constantName name ++ ": u32 = " ++ hexKey key ++ ";"))]

/-- A member of a message type. -/
def member (s : Source) (field : Field) : List Code :=
  [.line ("#[facet(rename = " ++ quoted field.name ++ ")]"),
    .line ("pub " ++ (s.fieldBinder field).text ++ ",")]

/-- The spelling of the payload of a fault carrier. -/
def payloadType (s : Source) (node : Node) : String :=
  ((node.field? "Payload").map fun field => s.fieldType field.type).getD "()"

/-- A method of a message type. -/
def messageMethod (s : Source) (node : Node) (method : Method) : List Code :=
  let factory : List Code :=
    [.block ("pub fn " ++ method.name ++ "(" ++
        commaList (node.fields.map fun field => (s.fieldBinder field).text) ++ ") -> Self")
      [.line (Literal.text ⟨"Self", node.fields.map fun field => .short (fieldName field.name)⟩)]]
  match method.kind with
  | .pageFactory => factory
  | .streamControl => factory
  | .faultPayload =>
    [.block ("pub fn " ++ method.name ++ "(&self) -> &" ++ s.payloadType node)
      [.line "&self.payload"]]
  | .intoFault =>
    [.doc "The typed fault this carrier was built from.",
      .block ("pub fn " ++ method.name ++ "(self, text: impl Into<::std::string::String>) -> " ++
          s.inRuntime "CustomFault<" ++ s.payloadType node ++ ">")
        [.line (s.inRuntime "CustomFault::new(Self::FAULT_KEY, self.payload, text.into())")]]

/-- The constants of a message type. -/
def messageConstants (node : Node) : List Code :=
  [.line ("pub const NAME: &'static str = " ++ quoted node.qualifiedName ++ ";")] ++
    (node.key.toList.map fun _ =>
      .line ("pub const KEY: u32 = message_key::" ++ constantName node.name ++ ";")) ++
    node.faultKey.toList.map fun faultKey =>
      .line ("pub const FAULT_KEY: u32 = " ++ toString faultKey ++ ";")

/-- The type of a node. -/
def messageType (s : Source) (node : Node) : List Code :=
  [.doc (node.doc.getD ("`" ++ node.displayName ++ "`.")),
    dataAttribute,
    .block ("pub struct " ++ node.name) (node.fields.flatMap s.member),
    .blank,
    .block ("impl " ++ node.name)
      (messageConstants node ++ Code.spaced (node.methods.map (s.messageMethod node)))]

/-- The types of all nodes but the markers. -/
def messageTypes (s : Source) : List Code :=
  Code.separated ((s.catalog.nodes.filter fun node => !node.role.isMarker).map s.messageType)

/-- The unions, which are the same for every serializer. -/
def unions? (s : Source) : Option Adapter := s.compiled.binding.adapters.head?

/-- What opens the definition of a union. -/
def unionHead (s : Source) (union : Union) : List Code :=
  Code.docOf ((s.catalog.get? union.root).bind Node.doc) ++ [dataAttribute, .attr "repr(u32)"]

/-- The union of the fault carriers of an operation. -/
def faultUnion (s : Source) (union : Union) : List Code :=
  let variant (member : UnionMember) := s.catalog.faultVariant member.node
  s.unionHead union ++
    [.block ("pub enum " ++ union.name) (union.members.map fun member =>
        .line (variant member ++ "(" ++ member.name ++ ") = " ++ toString member.tag ++ ",")),
      .blank,
      .block ("impl " ++ union.name)
        [.block "pub fn fault_key(&self) -> u32"
            [matchBlock "self" (union.members.map fun member =>
              "Self::" ++ variant member ++ "(_) => " ++ member.name ++ "::FAULT_KEY,")],
          .blank,
          .block ("pub fn into_fault(self, text: impl Into<::std::string::String>) -> " ++
              s.inRuntime "Fault")
            [matchBlock "self" (union.members.map fun member =>
              "Self::" ++ variant member ++ "(carrier) => carrier.into_fault(text).into(),")]]]

/-- The unions of the fault carriers. -/
def faultUnions (s : Source) : List Code :=
  match s.unions? with
  | some adapter => Code.separated (adapter.faultUnions.map s.faultUnion)
  | none => []

/-- The union of all messages. -/
def messageUnion (s : Source) (union : Union) : List Code :=
  s.unionHead union ++
    [.block ("pub enum " ++ union.name) (union.members.map fun member =>
        .line (member.name ++ "(" ++ member.name ++ ") = message_key::" ++
          constantName member.name ++ ",")),
      .blank,
      .block ("impl " ++ union.name)
        [.doc "Wire key of the wrapped message.",
          .block "pub fn key(&self) -> u32"
            [matchBlock "self" (union.members.map fun member =>
              "Self::" ++ member.name ++ "(_) => " ++ member.name ++ "::KEY,")],
          .blank,
          .block "pub fn name(&self) -> &'static str"
            [matchBlock "self" (union.members.map fun member =>
              "Self::" ++ member.name ++ "(_) => " ++ member.name ++ "::NAME,")]]] ++
    Code.spaced (union.members.map fun member =>
      [.block ("impl From<" ++ member.name ++ "> for " ++ union.name)
        [.block ("fn from(message: " ++ member.name ++ ") -> Self")
          [.line ("Self::" ++ member.name ++ "(message)")]]])

/-- The union of all messages, if any serializer is bound. -/
def messageBaseUnion (s : Source) : List Code :=
  match s.unions? with
  | some adapter => s.messageUnion adapter.messageUnion
  | none => []

end Source

end ServiceContract
