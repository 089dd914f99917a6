import ServiceContract.Acceptance
import ServiceContract.Binding
import ServiceContract.Catalog.Assembly
import ServiceContract.DispatchPlan

/-!
# Compiled contracts

`Contract.compile` checks a contract, numbers its messages, assembles its catalog and plans both
peers and all serializers.  The result is a value that is only read from then on.

Problems of single operations become diagnostics, in the order they are found: those of the checks,
those of the serializer choice, and those of repeated names.
-/

namespace ServiceContract

/-- Everything generated for a contract. -/
structure Compiled where
  contract : Contract
  /-- For each operation, whether it was generated. -/
  generated : List Bool
  keys : KeyTable
  catalog : Catalog
  hierarchy : Hierarchy
  /-- What the client uses to call the server. -/
  client : Surface
  /-- What the server uses to call back. -/
  callbackProxy : Surface
  /-- How the server handles calls. -/
  serverDispatch : DispatchPlan
  /-- How the client handles callbacks. -/
  callbackDispatch : DispatchPlan
  binding : Binding
  diagnostics : List Diagnostic
  deriving Repr

namespace Compiled

/-- Was the operation at a position generated? -/
def isGenerated (compiled : Compiled) (index : Nat) : Bool :=
  compiled.generated[index]?.getD false

/-- The generated operations with their positions. -/
def generatedOperations (compiled : Compiled) : List (Nat × Operation) :=
  (compiled.contract.operations.zipIdx.map fun entry => (entry.2, entry.1)).filter fun entry =>
    compiled.isGenerated entry.1

/-- What a peer uses to call the other one. -/
def surface (compiled : Compiled) : Peer → Surface
  | .client => compiled.client
  | .server => compiled.callbackProxy

/-- How a peer handles what the other one calls. -/
def dispatch (compiled : Compiled) : Peer → DispatchPlan
  | .server => compiled.serverDispatch
  | .client => compiled.callbackDispatch

/-- The serializer that is used unless another one is asked for. -/
def defaultSerializer (compiled : Compiled) : Serializer := compiled.binding.chooser.default

/-- The immediate descendants of a node. -/
def descendants (compiled : Compiled) (node : Node) : List Node :=
  (compiled.hierarchy.children node.id).filterMap compiled.catalog.get?

end Compiled

namespace Contract

/-- The assembled catalog of a contract with the given keys. -/
def assembly (c : Contract) (keys : KeyTable) : Assembly :=
  .assemble c (c.candidates (c.verdicts.map isAccepted) keys)

/-- What is planned around a finished assembly. -/
def plan (c : Contract) (options : Options) (keys : KeyTable) (assembly : Assembly)
    (hierarchy : Hierarchy) : Compiled :=
  let catalog := assembly.catalog
  let choice := c.chooseSerializers options
  { contract := c
    generated := assembly.generated
    keys := keys
    catalog := catalog
    hierarchy := hierarchy
    client := .build c catalog .client choice.default
    callbackProxy := .build c catalog .server choice.default
    serverDispatch := .build c keys catalog .server
    callbackDispatch := .build c keys catalog .client
    binding := .build c catalog hierarchy choice
    diagnostics := c.verdicts.flatten ++ choice.warnings ++ assembly.diagnostics }

/-- Compile a contract. -/
def compile (c : Contract) (options : Options) : Except CompileError Compiled :=
  match c.abort? with
  | some cause => .error cause
  | none =>
    match KeyTable.allocate c options with
    | .error cause => .error cause
    | .ok keys =>
      let assembly := c.assembly keys
      match Hierarchy.build (assembly.nodes.map Node.registration) with
      | .error cause => .error (.hierarchy cause)
      | .ok hierarchy => .ok (c.plan options keys assembly hierarchy)

end Contract

end ServiceContract
