import ServiceContract.Catalog.Drafts
import ServiceContract.MethodClaim

/-!
# Assembling the catalog

Operations enter the catalog one by one.  An operation that was not accepted, or one of whose
generated types or methods would repeat a name, leaves nothing behind but a diagnostic.
-/

namespace ServiceContract

/-- An operation that may enter the catalog. -/
structure Candidate where
  index : Nat
  operation : Operation
  accepted : Bool
  keys : OperationKeys
  deriving DecidableEq, Repr

/-- A catalog under construction, with the methods claimed so far and the problems found. -/
structure Assembly where
  nodes : List Node
  index : NameIndex
  operations : List (Option OperationMessages) := []
  /-- For each operation so far, whether it is generated. -/
  generated : List Bool := []
  faultSets : List FaultSet := []
  methods : List MethodClaim := reservedClaims
  diagnostics : List Diagnostic := []
  deriving DecidableEq, Repr

namespace Assembly

/-- The assembly before any operation. -/
def start (c : Contract) : Assembly :=
  let nodes := Draft.finalizeFrom c.qualifiedName 0 c.systemDrafts
  { nodes := nodes, index := NameIndex.enterAll {} nodes }

/-- Leave an operation out. -/
def leaveOut (a : Assembly) (problems : List Diagnostic) : Assembly :=
  { a with
    operations := a.operations ++ [none]
    generated := a.generated ++ [false]
    diagnostics := a.diagnostics ++ problems }

/-- The problem that keeps an accepted operation out: a repeated type name, or else a repeated
method name. -/
def clash? (a : Assembly) (op : Operation) : Option Diagnostic :=
  match firstClash a.index.names op.plannedNames with
  | some name =>
    some (.skip op ("generated type `" ++ name ++ "` collides with another generated type"))
  | none =>
    (firstClash a.methods op.claims).map fun claim =>
      .skip op ("generated method `" ++ claim.name ++ "` collides with another method of " ++
        claim.scope.text)

/-- Take an operation in. -/
def takeIn (c : Contract) (a : Assembly) (candidate : Candidate) : Assembly :=
  let op := candidate.operation
  let first := a.nodes.length
  let added := Draft.finalizeFrom c.qualifiedName first
    (op.drafts c candidate.index candidate.keys first)
  { a with
    nodes := a.nodes ++ added
    index := a.index.enterAll added
    operations := a.operations ++ [some (op.messagesFrom first)]
    generated := a.generated ++ [candidate.accepted]
    faultSets := a.faultSets ++ (op.faultSet? c candidate.index first).toList
    methods := a.methods ++ op.claims }

/-- Consider the next operation. -/
def step (c : Contract) (a : Assembly) (candidate : Candidate) : Assembly :=
  if candidate.accepted then
    match a.clash? candidate.operation with
    | some problem => a.leaveOut [problem]
    | none => a.takeIn c candidate
  else a.leaveOut []

/-- Assemble all operations. -/
def assemble (c : Contract) (candidates : List Candidate) : Assembly :=
  candidates.foldl (step c) (start c)

/-- The finished catalog. -/
def catalog (a : Assembly) : Catalog := ⟨a.nodes, a.index, a.operations, a.faultSets⟩

end Assembly

/-- The operations of a contract with their verdicts and keys. -/
def Contract.candidates (c : Contract) (accepted : List Bool) (keys : KeyTable) : List Candidate :=
  ((c.operations.zip (accepted.zip keys.blocks)).zipIdx).map fun entry =>
    ⟨entry.2, entry.1.1, entry.1.2.1, entry.1.2.2.keys⟩

end ServiceContract
