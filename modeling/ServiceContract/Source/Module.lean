import ServiceContract.Code.Layout
import ServiceContract.Source.Callers
import ServiceContract.Source.Handlers
import ServiceContract.Source.Serializers

/-!
# The generated module

The text of the whole module of a contract: a header, the message types, the dispatchers, the call
surfaces and the serializers, in this order.  The server's dispatcher and the client's surface are
always there; those of the other direction only if the contract has such operations.
-/

namespace ServiceContract

namespace Source

/-- The table of keys as a text of its own. -/
def messageKeyText (s : Source) : String := Code.sectionText 0 s.messageKeys

/-- A line of documentation inside the module. -/
def innerDocLine (line : String) : String :=
  let trimmed := Text.trimEnd line
  "\n    //!" ++ if trimmed.isEmpty then "" else " " ++ trimmed

/-- What opens the module, with the documentation of the contract. -/
def moduleHeader (s : Source) : String :=
  let contract := s.compiled.contract
  "#[allow(clippy::all, unused)]\npub mod " ++ Text.snake contract.name ++ " \x7b" ++
    String.join ((Text.lines (contract.doc.getD "")).map innerDocLine)

/-- What the module takes from the library it uses. -/
def imports (s : Source) : List Item :=
  [.raw ("    pub use " ++ s.inRuntime "\x7b" ++
      "CallError, CallOptions, Credentials, FaultCode, Outcome, SerializerKind\x7d;"),
    .raw ("    #[allow(unused_imports)]\n    use " ++ s.inRuntime "__private::facet;")]

/-- A section inside the module, unless it is empty. -/
def moduleSection (code : List Code) : List Item :=
  (Item.section? (Code.sectionText 1 code)).toList

/-- Everything about handling what a peer is called for. -/
def dispatchItems (s : Source) (plan : DispatchPlan) : List Item :=
  moduleSection (s.inboundType plan) ++ [.code (s.handlerTrait plan)] ++
    moduleSection (dispatcherType plan) ++ [.code (s.dispatcherImpl plan)]

/-- The items of the module. -/
def moduleItems (s : Source) : List Item :=
  let compiled := s.compiled
  [.raw "// @generated by pact-codegen", .raw "// DO NOT EDIT - regenerate with build.rs\n",
    .raw s.moduleHeader] ++
    s.imports ++
    moduleSection s.messageKeys ++
    moduleSection s.messageTypes ++
    moduleSection s.faultUnions ++
    moduleSection s.messageBaseUnion ++
    s.dispatchItems compiled.serverDispatch ++
    (if compiled.callbackDispatch.isEmpty then [] else s.dispatchItems compiled.callbackDispatch) ++
    moduleSection (s.surface compiled.client) ++
    (if compiled.callbackProxy.isEmpty then []
      else moduleSection (s.surface compiled.callbackProxy)) ++
    moduleSection s.prebuildFunctions ++
    moduleSection s.serializers ++
    [.raw "\x7d"]

/-- The text of the module. -/
def moduleText (s : Source) : String := Item.fileText s.moduleItems

end Source

end ServiceContract
