import ServiceContract.StableSort

/-!
# Hierarchies of generated types

Generated types form a forest: each names at most one base.  Types are *registered* one by one, in
any order, and a base may be registered after its descendants.  `Hierarchy.build` then checks the
registrations as a whole: no type is registered twice, every base is registered, and every chain of
bases ends.

The resolved hierarchy keeps one entry per type, sorted by its number, and orders siblings by their
rank.  It does not depend on the order of registration.
-/

namespace ServiceContract

/-- The number of a generated type. -/
abbrev NodeId := Nat

/-- A number of a generated type as messages show it. -/
def NodeId.text (node : NodeId) : String := "#" ++ toString node

/-- A generated type with its base; siblings are ordered by rank. -/
structure Registration where
  node : NodeId
  base : Option NodeId
  rank : Nat
  deriving DecidableEq, Repr

/-- Why registrations form no forest. -/
inductive HierarchyError
  | duplicateNode (node : NodeId)
  | unknownBase (node base : NodeId)
  | cycle (node : NodeId)
  deriving DecidableEq, Repr

/-- The message for a broken hierarchy. -/
def HierarchyError.message : HierarchyError → String
  | duplicateNode node => "node " ++ NodeId.text node ++ " was registered twice"
  | unknownBase node base =>
    "node " ++ NodeId.text node ++ " names base " ++ NodeId.text base ++
      ", which was never registered"
  | cycle node => "node " ++ NodeId.text node ++ " is its own ancestor"

namespace Registration

/-- The numbers of the registered types, each once. -/
def distinctNodes (registrations : List Registration) : List NodeId :=
  (registrations.map node).eraseDups

/-- The first registration of a type that was registered before, given the types seen so far. -/
def firstRepeated (seen : List NodeId) : List Registration → Option NodeId
  | [] => none
  | entry :: rest =>
    if entry.node ∈ seen then some entry.node else firstRepeated (entry.node :: seen) rest

/-- The base registered for a type. -/
def baseOf (registrations : List Registration) (node : NodeId) : Option NodeId :=
  (registrations.find? fun entry => entry.node = node).bind base

/-- Is the type registered? -/
def isRegistered (registrations : List Registration) (node : NodeId) : Bool :=
  registrations.any fun entry => entry.node = node

/-- The first entry whose base is not registered. -/
def firstUnknownBase (registrations : List Registration) : Option (NodeId × NodeId) :=
  registrations.findSome? fun entry =>
    match entry.base with
    | some base => if isRegistered registrations base then none else some (entry.node, base)
    | none => none

/-- Does the chain of bases from `current` lead back to `node`, or still go on after `steps` more
steps?  A chain that ends is shorter than the number of registrations. -/
def goesOn (registrations : List Registration) (node : NodeId) : Nat → NodeId → Bool
  | 0, current => (baseOf registrations current).isSome
  | steps + 1, current =>
    match baseOf registrations current with
    | none => false
    | some base => base = node || goesOn registrations node steps base

/-- The first entry whose chain of bases does not end. -/
def firstEndless (registrations : List Registration) : Option NodeId :=
  (registrations.map node).find? fun start =>
    goesOn registrations start registrations.length start

/-- Sibling order: by rank, then by number. -/
def before (a b : Registration) : Bool :=
  a.rank < b.rank || (a.rank = b.rank && a.node ≤ b.node)

end Registration

/-- A resolved forest of generated types: its entries, sorted by number. -/
structure Hierarchy where
  entries : List Registration
  deriving DecidableEq, Repr

namespace Hierarchy

open Registration

/-- Resolve registrations. -/
def build (registrations : List Registration) : Except HierarchyError Hierarchy :=
  match firstRepeated [] registrations with
  | some node => .error (.duplicateNode node)
  | none =>
    let entries := stableSort (fun a b => a.node ≤ b.node) registrations
    match firstUnknownBase entries with
    | some (node, base) => .error (.unknownBase node base)
    | none =>
      match firstEndless entries with
      | some node => .error (.cycle node)
      | none => .ok ⟨entries⟩

/-- The number of types. -/
def size (h : Hierarchy) : Nat := h.entries.length

/-- Is the type in the hierarchy? -/
def contains (h : Hierarchy) (node : NodeId) : Bool := isRegistered h.entries node

/-- The base of a type. -/
def baseOf (h : Hierarchy) (node : NodeId) : Option NodeId := Registration.baseOf h.entries node

/-- The types with the given base, in sibling order; without a base these are the roots. -/
def withBase (h : Hierarchy) (base : Option NodeId) : List NodeId :=
  (stableSort before (h.entries.filter fun entry => entry.base = base)).map node

/-- The types without a base. -/
def roots (h : Hierarchy) : List NodeId := h.withBase none

/-- The immediate descendants of a type. -/
def children (h : Hierarchy) (node : NodeId) : List NodeId := h.withBase (some node)

/-- The descendants of a type down to `levels` levels, each followed by its own. -/
def descendants (h : Hierarchy) : Nat → NodeId → List NodeId
  | 0, _ => []
  | levels + 1, node => (h.children node).flatMap fun child => child :: h.descendants levels child

/-- All descendants of a type, each before its own, siblings in order.  No chain has more levels
than the hierarchy has types. -/
def walk (h : Hierarchy) (root : NodeId) : List NodeId := h.descendants h.size root

/-- The type reached from `node` by following bases, at most `steps` times. -/
def climb (h : Hierarchy) : Nat → NodeId → NodeId
  | 0, node => node
  | steps + 1, node =>
    match h.baseOf node with
    | none => node
    | some base => h.climb steps base

/-- The root a type descends from. -/
def rootOf (h : Hierarchy) (node : NodeId) : Option NodeId :=
  if h.contains node then some (h.climb h.size node) else none

end Hierarchy

end ServiceContract
