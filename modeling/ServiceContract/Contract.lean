import ServiceContract.Operation
import ServiceContract.Serializer

/-!
# Contracts

A service contract: a named list of operations, the serializers its messages can be encoded with,
and two registries.  Operations may raise only faults whose payload is registered, and stream only
registered items.  A registered fault may extend another one, which it specialises.
-/

namespace ServiceContract

/-- An entry of the fault registry. -/
structure FaultKind where
  type : DataType
  base : Option DataType
  deriving DecidableEq, Repr

/-- A service contract. -/
structure Contract where
  space : String
  name : String
  operations : List Operation := []
  /-- The configured serializers, in the order they were declared. -/
  serializers : List Serializer := []
  defaultSerializer : Option Serializer := none
  faultKinds : List FaultKind := []
  streamItems : List DataType := []
  doc : Option String := none
  /-- No serializer is configured twice. -/
  serializers_nodup : serializers.Nodup := by decide
  deriving Repr

namespace Contract

/-- Declare one more operation. -/
def addOperation (c : Contract) (op : Operation) : Contract :=
  { c with operations := c.operations ++ [op] }

/-- Configure a serializer, unless it is configured already. -/
def addSerializer (c : Contract) (serializer : Serializer) : Contract :=
  if h : serializer ∈ c.serializers then c
  else
    { c with
      serializers := c.serializers ++ [serializer]
      serializers_nodup := by
        refine List.nodup_append.2 ⟨c.serializers_nodup, by simp, ?_⟩
        intro a ha b hb hab
        exact h (List.mem_singleton.1 hb ▸ hab ▸ ha) }

/-- Register a fault payload, with the registered payload it specialises if there is one. -/
def addFaultKind (c : Contract) (type : DataType) (base : Option DataType) : Contract :=
  { c with faultKinds := c.faultKinds ++ [⟨type, base⟩] }

/-- Register a stream item, unless it is registered already. -/
def addStreamItem (c : Contract) (type : DataType) : Contract :=
  if type ∈ c.streamItems then c else { c with streamItems := c.streamItems ++ [type] }

/-- The name of the contract inside its namespace. -/
def qualifiedName (c : Contract) : String :=
  if c.space.isEmpty then c.name else c.space ++ "." ++ c.name

/-- The registry entry of a payload: the first one for its type. -/
def faultKind? (c : Contract) (type : DataType) : Option FaultKind :=
  c.faultKinds.find? fun entry => entry.type = type

/-- The payload that a payload specialises, by its registry entry. -/
def faultBase? (c : Contract) (type : DataType) : Option DataType :=
  (c.faultKind? type).bind FaultKind.base

end Contract

end ServiceContract
