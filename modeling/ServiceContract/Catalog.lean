import ServiceContract.FaultSet

/-!
# The message catalog

The closed set of types generated for a contract.  Node 0 is the message base, nodes 1 to 8 are the
system messages, each under its key, and after them stand the types of the operations, in the order
of declaration.  A node's number is its place in the catalog.
-/

namespace ServiceContract

/-- The types of a call with an answer. -/
structure RequestMessages where
  request : NodeId
  response : NodeId
  fault : NodeId
  inputPage : Option NodeId
  outputPage : Option NodeId
  /-- The marker of the fault carriers, if the operation declares faults. -/
  faultData : Option NodeId
  deriving DecidableEq, Repr

/-- The types of one operation. -/
inductive OperationMessages
  | oneWay (message : NodeId)
  | request (messages : RequestMessages)
  deriving DecidableEq, Repr

namespace OperationMessages

/-- The message a caller sends. -/
def outbound : OperationMessages → NodeId
  | oneWay message => message
  | request messages => messages.request

/-- The page types, input before output. -/
def pages : OperationMessages → List NodeId
  | oneWay _ => []
  | request messages => messages.inputPage.toList ++ messages.outputPage.toList

end OperationMessages

/-- The number of the message base. -/
def messageBase : NodeId := 0

/-- The number of a system message in every catalog. -/
def SystemMessage.node (message : SystemMessage) : NodeId := message.key

/-- Which node each name stands for. -/
structure NameIndex where
  entries : List (String × NodeId) := []
  deriving DecidableEq, Repr

namespace NameIndex

/-- The names that stand for a node. -/
def names (index : NameIndex) : List String := index.entries.map Prod.fst

/-- The number of the node a name stands for. -/
def find? (index : NameIndex) (name : String) : Option NodeId :=
  (index.entries.find? fun entry => entry.1 = name).map Prod.snd

/-- Enter a node.  A name that is there already keeps its first node. -/
def enter (index : NameIndex) (node : Node) : NameIndex :=
  if node.name ∈ index.names then index else ⟨index.entries ++ [(node.name, node.id)]⟩

/-- Enter nodes one after the other. -/
def enterAll (index : NameIndex) (nodes : List Node) : NameIndex := nodes.foldl enter index

end NameIndex

/-- The types generated for a contract. -/
structure Catalog where
  nodes : List Node
  /-- The nodes by their names. -/
  index : NameIndex
  /-- For each operation its types, or nothing if it was skipped. -/
  operations : List (Option OperationMessages)
  faultSets : List FaultSet
  deriving DecidableEq, Repr

/-- A number that no node has. -/
structure NodeOutOfRange where
  size : Nat
  index : NodeId
  deriving DecidableEq, Repr

/-- The message for a number that no node has. -/
def NodeOutOfRange.message (cause : NodeOutOfRange) : String :=
  "index out of bounds: the len is " ++ toString cause.size ++ " but the index is " ++
    toString cause.index

namespace Catalog

/-- The node with a number, if there is one. -/
def get? (catalog : Catalog) (id : NodeId) : Option Node := catalog.nodes[id]?

/-- The node with a number. -/
def node (catalog : Catalog) (id : NodeId) : Except NodeOutOfRange Node :=
  match catalog.get? id with
  | some node => .ok node
  | none => .error ⟨catalog.nodes.length, id⟩

/-- The name of the node with a number. -/
def name (catalog : Catalog) (id : NodeId) : String :=
  ((catalog.get? id).map Node.name).getD ""

/-- The node with a name. -/
def byName? (catalog : Catalog) (name : String) : Option Node :=
  (catalog.index.find? name).bind catalog.get?

/-- The nodes that travel on the wire. -/
def messages (catalog : Catalog) : List Node :=
  catalog.nodes.filter fun node => node.key.isSome

/-- The types of the operation at a position, unless it was skipped. -/
def operation? (catalog : Catalog) (index : Nat) : Option OperationMessages :=
  catalog.operations[index]?.join

/-- The generated operations with their positions. -/
def generated (catalog : Catalog) : List (Nat × OperationMessages) :=
  catalog.operations.zipIdx.filterMap fun entry => entry.1.map fun messages => (entry.2, messages)

/-- The fault set of the operation at a position. -/
def faultSet? (catalog : Catalog) (operation : Nat) : Option FaultSet :=
  catalog.faultSets.find? fun set => set.operation = operation

end Catalog

end ServiceContract
