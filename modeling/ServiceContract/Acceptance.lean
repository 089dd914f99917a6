import ServiceContract.CompileError
import ServiceContract.Identifier

/-!
# Acceptance of a contract

Before anything is generated, a contract is checked.  Two kinds of problems are told apart.

* `Contract.abort?`: a payload or stream item that is not registered, or a fault registry that
  refers outside itself or runs in a circle, rejects the whole contract.  The first such problem is
  reported, registry entries before operations.
* `Contract.verdicts`: everything else belongs to one operation.  All its problems are reported,
  and any error among them skips the operation.
-/

namespace ServiceContract

namespace Contract

/-- Is `target` met on the chain of bases from `current` on, within `steps` steps? -/
def leadsTo (c : Contract) (target : DataType) : Nat → DataType → Bool
  | 0, _ => false
  | steps + 1, current =>
    current = target ||
      match c.faultBase? current with
      | some base => c.leadsTo target steps base
      | none => false

/-- What is wrong with the base of a registry entry. -/
def registryProblem? (c : Contract) (entry : FaultKind) : Option CompileError :=
  match entry.base with
  | none => none
  | some base =>
    if (c.faultKind? base).isNone then some (.unresolvedFaultBase entry.type base)
    else if c.leadsTo entry.type c.faultKinds.length base then
      some (.cyclicFaultHierarchy entry.type)
    else none

/-- A fault of the operation whose payload is not registered. -/
def faultProblem? (c : Contract) (op : Operation) (fault : Fault) : Option CompileError :=
  if (c.faultKind? fault.payload).isNone then
    some (.unresolvedFaultType op.name fault.payload op.location)
  else none

/-- A stream of the operation whose items are not registered. -/
def streamProblem? (c : Contract) (op : Operation) (item : DataType) : Option CompileError :=
  if item ∈ c.streamItems then none else some (.unresolvedStreamItem op.name item op.location)

/-- The first type of an operation that is not registered: faults, then streams. -/
def symbolProblem? (c : Contract) (op : Operation) : Option CompileError :=
  (op.faults.findSome? (c.faultProblem? op)).or
    ((op.inputStream.toList ++ op.outputStream.toList).findSome? (c.streamProblem? op))

/-- The first problem that rejects the whole contract. -/
def abort? (c : Contract) : Option CompileError :=
  (c.faultKinds.findSome? c.registryProblem?).or (c.operations.findSome? c.symbolProblem?)

end Contract

/-- The elements whose key occurs earlier, among `seen` or in the list. -/
def repeats {α β : Type} [DecidableEq β] (key : α → β) (seen : List β) : List α → List α
  | [] => []
  | a :: rest =>
    if key a ∈ seen then a :: repeats key seen rest else repeats key (key a :: seen) rest

namespace Operation

/-- A name that cannot be used in generated code. -/
def nameProblems (op : Operation) : List Diagnostic :=
  if isIdentifier op.name then []
  else [.skip op ("`" ++ op.name ++ "` is not a valid operation name")]

/-- A one-way call has no answer to carry a result, streams or faults; and only one-way messages
can be built ahead of time. -/
def exchangeProblems (op : Operation) : List Diagnostic :=
  if op.kind.isOneWay then
    (op.result.toList.map fun type =>
      .skip op ("one-way operations cannot return a value (returns `" ++ type.text ++ "`)")) ++
    (if op.isStreaming then [.skip op "one-way operations cannot declare streams"] else []) ++
    (if op.faults.isEmpty then [] else [.skip op "one-way operations cannot declare faults"])
  else if op.prebuild then
    [.caution op "pre-built sends only apply to one-way operations; flag ignored"]
  else []

/-- Fault keys that are used twice. -/
def faultKeyProblems (op : Operation) : List Diagnostic :=
  (repeats Fault.key [] op.faults).map fun fault =>
    .skip op ("duplicate fault key " ++ toString fault.key)

/-- Arguments that would share a name. -/
def argumentProblems (op : Operation) : List Diagnostic :=
  (repeats Param.ident [] op.params).map fun param =>
    .skip op ("argument " ++ param.wireName ++ " would be named `" ++ param.ident ++
      "`, like an earlier argument")

/-- Every declared type, with its place in words. -/
def declaredTypes (op : Operation) : List (String × DataType) :=
  (op.params.map fun param => ("argument " ++ param.wireName, param.type)) ++
    (op.result.toList.map fun type => ("return value", type)) ++
    (op.inputStream.toList.map fun type => ("input stream", type)) ++
    (op.outputStream.toList.map fun type => ("output stream", type)) ++
    (op.faults.map fun fault => ("fault " ++ toString fault.key, fault.payload))

/-- Types that no message can carry. -/
def typeProblems (op : Operation) : List Diagnostic :=
  op.declaredTypes.filterMap fun (place, type) =>
    type.firstUnsupported.map fun unsupported =>
      .skip op (place ++ " has type `" ++ type.text ++
        "`, which cannot be carried in a message (" ++ unsupported.text ++ ")")

/-- Every problem of an operation on its own. -/
def problems (op : Operation) : List Diagnostic :=
  op.nameProblems ++ op.exchangeProblems ++ op.faultKeyProblems ++ op.argumentProblems ++
    op.typeProblems

/-- The problem of an operation whose name in generated code was used before. -/
def repeatProblems (op : Operation) (seen : List String) : List Diagnostic :=
  if Text.camel op.name ∈ seen then
    [.skip op ("duplicate operation name `" ++ op.name ++ "`")]
  else []

end Operation

/-- The problems of each operation.  The name of an operation counts as used even when the operation
itself is skipped. -/
def verdictsFrom (seen : List String) : List Operation → List (List Diagnostic)
  | [] => []
  | op :: rest =>
    (op.problems ++ op.repeatProblems seen) :: verdictsFrom (Text.camel op.name :: seen) rest

/-- The problems of each operation of a contract. -/
def Contract.verdicts (c : Contract) : List (List Diagnostic) := verdictsFrom [] c.operations

/-- An operation is accepted if no error is among its problems. -/
def isAccepted (verdict : List Diagnostic) : Bool :=
  !verdict.any Diagnostic.isError

end ServiceContract
