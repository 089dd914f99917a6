import ServiceContract.Catalog.Drafts

/-!
# Serializer bindings

Each configured serializer gets an adapter, which declares the union of all messages and the union
of each operation's fault carriers.  Unions are read off the hierarchy, so they do not depend on the
order in which types were generated.  A chooser resolves the serializer a caller asks for.
-/

namespace ServiceContract

/-- A member of a union, told apart by its key or fault key. -/
structure UnionMember where
  node : NodeId
  name : String
  tag : Nat
  deriving DecidableEq, Repr

/-- A discriminated union of generated types. -/
structure Union where
  root : NodeId
  name : String
  members : List UnionMember
  deriving DecidableEq, Repr

/-- A node as a member of a union.  Markers, and nodes without a key, are no members. -/
def Node.member? (node : Node) : Option UnionMember :=
  if node.role.isMarker then none
  else (node.key.or node.faultKey).map fun tag => ⟨node.id, node.name, tag⟩

/-- The union of the descendants of a marker. -/
def Union.below (catalog : Catalog) (hierarchy : Hierarchy) (root : NodeId) : Union where
  root := root
  name := catalog.name root
  members := (hierarchy.walk root).filterMap fun id => (catalog.get? id).bind Node.member?

/-- The binding of one serializer. -/
structure Adapter where
  serializer : Serializer
  name : String
  messageUnion : Union
  faultUnions : List Union
  deriving DecidableEq, Repr

/-- Resolves the serializer a caller asks for. -/
structure Chooser where
  name : String
  contract : String
  configured : List Serializer
  default : Serializer
  deriving DecidableEq, Repr

/-- The serializer for a request; without one, the default. -/
def Chooser.resolve (chooser : Chooser) (requested : Option Serializer) :
    Except CompileError Serializer :=
  let serializer := requested.getD chooser.default
  if serializer ∈ chooser.configured then .ok serializer
  else .error (.serializerNotConfigured serializer chooser.contract chooser.configured)

/-- The serializers of a contract and how they are chosen. -/
structure Binding where
  adapters : List Adapter
  chooser : Chooser
  deriving DecidableEq, Repr

/-- The adapter of a serializer. -/
def Binding.adapter? (binding : Binding) (serializer : Serializer) : Option Adapter :=
  binding.adapters.find? fun adapter => adapter.serializer = serializer

/-- The serializers in use and the default among them, with the warnings that led there. -/
structure SerializerChoice where
  configured : List Serializer
  default : Serializer
  warnings : List Diagnostic
  deriving DecidableEq, Repr

/-- The first configured serializer.  A contract that configures none uses the first of all. -/
def Contract.firstSerializer (c : Contract) : Serializer :=
  c.serializers.headD .postcard

/-- The configured serializers, or the fallback. -/
def Contract.serializersInUse (c : Contract) : List Serializer :=
  if c.serializers.isEmpty then [.postcard] else c.serializers

/-- The warning that no serializer is configured. -/
def Contract.fallbackWarnings (c : Contract) : List Diagnostic :=
  if c.serializers.isEmpty then
    [.notice ("contract `" ++ c.qualifiedName ++ "` configures no serializer; falling back to `" ++
      Serializer.postcard.identity ++ "`")]
  else []

/-- Choose the serializers of a contract.  The default of the options goes before the default of
the contract; a default that is not configured gives way to the first configured serializer. -/
def Contract.chooseSerializers (c : Contract) (options : Options) : SerializerChoice :=
  match options.defaultSerializer.or c.defaultSerializer with
  | none => ⟨c.serializersInUse, c.firstSerializer, c.fallbackWarnings⟩
  | some wanted =>
    if wanted ∈ c.serializersInUse then ⟨c.serializersInUse, wanted, c.fallbackWarnings⟩
    else
      ⟨c.serializersInUse, c.firstSerializer, c.fallbackWarnings ++
        [.notice ("default serializer `" ++ wanted.identity ++ "` is not configured for `" ++
          c.qualifiedName ++ "`; using `" ++ c.firstSerializer.identity ++ "`")]⟩

namespace Binding

/-- The adapter of a serializer for a finished catalog. -/
def adapterFor (c : Contract) (catalog : Catalog) (hierarchy : Hierarchy)
    (serializer : Serializer) : Adapter where
  serializer := serializer
  name := c.typeName ++ serializer.typeName ++ "Adapter"
  messageUnion := .below catalog hierarchy messageBase
  faultUnions := catalog.faultSets.map fun set => .below catalog hierarchy set.marker

/-- Bind the chosen serializers to a finished catalog. -/
def build (c : Contract) (catalog : Catalog) (hierarchy : Hierarchy) (choice : SerializerChoice) :
    Binding where
  adapters := choice.configured.map (adapterFor c catalog hierarchy)
  chooser :=
    { name := c.typeName ++ "Serializers"
      contract := c.qualifiedName
      configured := choice.configured
      default := choice.default }

end Binding

end ServiceContract
