import ServiceContract.DataType
import ServiceContract.StableSort

/-!
# The order of data types

Types are ordered by their kind first, in the order of the constructors, and by their parts from
left to right after that.  Texts compare character by character, and a tuple stands before its
extensions.
-/

namespace ServiceContract.DataType

/-- The place of a kind of type among the others. -/
def rank : DataType → Nat
  | primitive _ => 0
  | list _ => 1
  | option _ => 2
  | map _ _ => 3
  | set _ => 4
  | array _ _ => 5
  | tuple _ => 6
  | named _ => 7
  | unsupported _ => 8

mutual

/-- Compare two types. -/
def order : DataType → DataType → Ordering
  | primitive a, primitive b => compare a b
  | list a, list b => order a b
  | option a, option b => order a b
  | map a c, map b d => (order a b).then (order c d)
  | set a, set b => order a b
  | array a m, array b n => (order a b).then (compare m n)
  | tuple as, tuple bs => orderEach as bs
  | named a, named b => compare a b
  | unsupported a, unsupported b => compare a b
  | a, b => compare (rank a) (rank b)

/-- Compare two lists of types, the shorter of two that agree first. -/
def orderEach : List DataType → List DataType → Ordering
  | [], [] => .eq
  | [], _ :: _ => .lt
  | _ :: _, [] => .gt
  | a :: as, b :: bs => (order a b).then (orderEach as bs)

end

/-- The types in ascending order. -/
def sort (types : List DataType) : List DataType :=
  stableSort (fun a b => order a b != .gt) types

end ServiceContract.DataType
