import ServiceContract.Message

/-!
# Faults of an operation

An operation that declares faults gets a marker for them and one *carrier* for each, which holds
the payload of a raised fault.  A dispatcher tests the carriers one after the other, so they are
ordered from the most specific payload to the least.

How specific a payload is, is the length of its chain of bases in the fault registry.  The chain is
followed for at most one step more than there are entries, so that the length is defined for every
registry.
-/

namespace ServiceContract

/-- The number of bases found from a payload on, in at most `steps` steps. -/
def Contract.baseCount (c : Contract) : Nat → DataType → Nat
  | 0, _ => 0
  | steps + 1, type =>
    match c.faultBase? type with
    | none => 0
    | some base => c.baseCount steps base + 1

/-- How specific a payload is: 0 if it extends nothing. -/
def Contract.specificity (c : Contract) (type : DataType) : Nat :=
  c.baseCount (c.faultKinds.length + 1) type

/-- The type that carries one declared fault. -/
structure FaultCarrier where
  node : NodeId
  faultKey : Nat
  payload : DataType
  specificity : Nat
  deriving DecidableEq, Repr

/-- The carriers of one operation, in the order a dispatcher tests them. -/
structure FaultSet where
  operation : Nat
  marker : NodeId
  carriers : List FaultCarrier
  deriving DecidableEq, Repr

/-- The carrier of a fault key. -/
def FaultSet.carrier? (set : FaultSet) (faultKey : Nat) : Option FaultCarrier :=
  set.carriers.find? fun carrier => carrier.faultKey = faultKey

/-- Carriers from the most specific payload to the least; declaration order decides between
equals. -/
def FaultCarrier.inTestOrder (carriers : List FaultCarrier) : List FaultCarrier :=
  stableSort (fun a b => b.specificity ≤ a.specificity) carriers

/-- The fault set of the operation at `index` whose marker has the number `marker`.  Its carriers
are numbered after the marker, in declaration order. -/
def Operation.faultSet (c : Contract) (index : Nat) (op : Operation) (marker : NodeId) : FaultSet where
  operation := index
  marker := marker
  carriers := FaultCarrier.inTestOrder <|
    (op.faults.zipIdx (marker + 1)).map fun entry =>
      ⟨entry.2, entry.1.key, entry.1.payload, c.specificity entry.1.payload⟩

end ServiceContract
