import ServiceContract.Source.Messages

/-!
# Serializers in source

One adapter for each configured serializer, with tables of the unions it encodes, and the chooser
that resolves the serializer a caller asks for.
-/

namespace ServiceContract

/-- A serializer as generated code names it. -/
def Serializer.spelling (serializer : Serializer) : String :=
  "SerializerKind::" ++ serializer.typeName

/-- A member of a union as an entry of a table. -/
def UnionMember.entry (member : UnionMember) : String :=
  "(" ++ toString member.tag ++ ", " ++ quoted member.name ++ ")"

/-- A union as an entry of a table. -/
def Union.entry (union : Union) : String :=
  "(" ++ quoted union.name ++ ", &[" ++ commaList (union.members.map UnionMember.entry) ++ "])"

namespace Source

/-- A table of constants, one entry a line. -/
def constantTable (header : String) (entries : List String) : Code :=
  .block header (entries.map fun entry => .line (entry ++ ",")) "];"

/-- The adapter of a serializer. -/
def adapter (s : Source) (adapter : Adapter) : List Code :=
  let base := adapter.messageUnion.name
  let codec := "codec::" ++ adapter.serializer.identity
  [.doc ("`" ++ adapter.serializer.identity ++ "` encoding of every `" ++ s.contractName ++
      "` message."),
    .line ("pub struct " ++ adapter.name ++ ";"),
    .blank,
    .block ("impl " ++ s.inRuntime "SerializerAdapter for " ++ adapter.name)
      [.line ("type Message = " ++ base ++ ";"),
        .line ("const KIND: SerializerKind = " ++ adapter.serializer.spelling ++ ";"),
        .blank,
        .doc "Message-base union, as `(key, type)`.",
        constantTable "const MESSAGES: &'static [(u32, &'static str)] = &["
          (adapter.messageUnion.members.map UnionMember.entry),
        .blank,
        .doc "Fault data unions, as `(union, [(fault key, type)])`.",
        constantTable "const FAULTS: &'static [(&'static str, &'static [(u32, &'static str)])] = &["
          (adapter.faultUnions.map Union.entry),
        .blank,
        .block ("fn encode(&self, message: &" ++ base ++ ") -> Result<::std::vec::Vec<u8>, " ++
            s.inRuntime "EncodeError>")
          [.line (s.inRuntime codec ++ "::encode(message)")],
        .blank,
        .block ("fn decode(&self, bytes: &[u8]) -> Result<" ++ base ++ ", " ++
            s.inRuntime "DecodeError>")
          [.line (s.inRuntime codec ++ "::decode(bytes)")]]]

/-- The error for a serializer that is not configured. -/
def notConfigured (s : Source) (requested : String) : String :=
  "Err(" ++ s.inRuntime "ConfigError::SerializerNotConfigured " ++
    braced ("requested: " ++ requested ++ ", contract: " ++ quoted s.contractName) ++ ")"

/-- The chooser. -/
def chooser (s : Source) (binding : Binding) : List Code :=
  let chooser := binding.chooser
  [.doc ("Serializers configured for `" ++ s.contractName ++ "`."),
    .line ("pub struct " ++ chooser.name ++ ";"),
    .blank,
    .block ("impl " ++ chooser.name)
      [.line ("pub const CONFIGURED: &'static [SerializerKind] = &[" ++
          commaList (chooser.configured.map Serializer.spelling) ++ "];"),
        .line ("pub const DEFAULT: SerializerKind = " ++ chooser.default.spelling ++ ";"),
        .blank,
        .doc "The serializer to use for `requested`, or the default for `None`.",
        .block ("pub fn resolve(requested: Option<SerializerKind>) -> Result<SerializerKind, " ++
            s.inRuntime "ConfigError>")
          [.line "let kind = requested.unwrap_or(Self::DEFAULT);",
            .block "if !Self::CONFIGURED.contains(&kind)"
              [.line ("return " ++ s.notConfigured "kind" ++ ";")],
            .line "Ok(kind)"],
        .blank,
        .block ("pub fn adapter(kind: SerializerKind) -> Result<::std::boxed::Box<dyn " ++
            s.inRuntime "DynAdapter<" ++ s.base ++ ">>, " ++ s.inRuntime "ConfigError>")
          [matchBlock "Self::resolve(Some(kind))?"
            (binding.adapters.map (fun adapter =>
                adapter.serializer.spelling ++ " => Ok(::std::boxed::Box::new(" ++ adapter.name ++
                  ")),") ++
              ["other => " ++ s.notConfigured "other" ++ ","])]]]

/-- All adapters, and the chooser. -/
def serializers (s : Source) : List Code :=
  (s.compiled.binding.adapters.flatMap fun adapter => s.adapter adapter ++ [.blank]) ++
    s.chooser s.compiled.binding

end Source

end ServiceContract
