import Mathlib.Algebra.GroupWithZero.Nat
import ServiceContract.Proofs.Rejection

/-!
# Which key every message gets

`Proofs/KeyBlocks` settles how blocks are handed out one after the other.  Here the table of a whole
contract is described without any allocation: `Contract.firstKey` adds up what the operations before
a position need, and `KeyBlock.Serves` says what the block there holds.

All that the keys of an operation depend on is its `KeyDemand` and those of the operations before it
(`KeyTable.map_keys_block?_congr`).  Names, types and faults are no part of it, and neither is what
becomes of the other operations later.

The main statement is `KeyTable.allocation_closed_form`.
-/

namespace ServiceContract

/-- What an operation asks of the allocation. -/
structure KeyDemand where
  oneWay : Bool
  inputPage : Bool
  outputPage : Bool
  deriving DecidableEq, Repr

/-- The number of keys a demand is met with. -/
def KeyDemand.count (demand : KeyDemand) : Nat :=
  if demand.oneWay then 1 else 3 + (demand.inputPage.toNat + demand.outputPage.toNat)

namespace Operation

/-- The demand of an operation: its exchange, and the streams it declares. -/
def keyDemand (op : Operation) : KeyDemand :=
  ⟨op.kind.isOneWay, op.inputStream.isSome, op.outputStream.isSome⟩

/-- The number of keys of an operation depends on its demand only. -/
theorem map_keyCount (ops : List Operation) :
    ops.map keyCount = (ops.map keyDemand).map KeyDemand.count := by
  rw [List.map_map]
  rfl

/-- Operations with the same demand get the same keys from the same place on. -/
theorem keysFrom_congr {op op' : Operation} (h : op.keyDemand = op'.keyDemand)
    (first : MessageKey) :
    op.keysFrom first = op'.keysFrom first := by
  obtain ⟨hone, hin, hout⟩ := KeyDemand.mk.inj h
  have hpage : ∀ {a b : Option DataType} (key : MessageKey), a.isSome = b.isSome →
      (a.map fun _ => key) = b.map fun _ => key := by
    intro a b key hab
    cases a <;> cases b <;> simp_all
  simp only [keysFrom, hone, hin, hpage _ hin, hpage _ hout]

end Operation

/-- The first key of the block at a position: the blocks before it come first. -/
def Contract.firstKey (c : Contract) (options : Options) (i : Nat) : MessageKey :=
  max options.firstOperationKey 16 + ((c.operations.take i).map Operation.keyCount).sum

/-- The last key of the block at a position. -/
def Contract.lastKey (c : Contract) (options : Options) (i : Nat) : MessageKey :=
  c.firstKey options (i + 1) - 1

/-- A block that holds what an operation needs, from `first` on. -/
structure KeyBlock.Serves (block : KeyBlock) (op : Operation) (first : MessageKey) : Prop where
  operation_eq : block.operation = op.name
  first_eq : block.first = first
  /-- The keys are consecutive, in the order they are listed. -/
  consecutive : block.keys.toList = List.range' first op.keyCount
  one_way : op.kind.isOneWay = true → block.keys = .oneWay first
  /-- Request, response and fault come first, and then a page for each declared stream. -/
  answered : op.kind.isOneWay = false → ∃ keys, block.keys = .request keys ∧
    keys.request = first ∧ keys.response = first + 1 ∧ keys.fault = first + 2 ∧
    keys.inputPage.isSome = op.inputStream.isSome ∧
    keys.outputPage.isSome = op.outputStream.isSome

/-- The table of a contract: a block for every operation, each behind the one before it. -/
structure KeyTable.Allocates (table : KeyTable) (c : Contract) (options : Options) : Prop where
  length_eq : table.blocks.length = c.operations.length
  serves : ∀ i op, c.operations[i]? = some op →
    ∃ block, table.block? i = some block ∧ block.Serves op (c.firstKey options i)
  ascending : table.all.Pairwise (· < ·)
  unreserved : ∀ key : Nat, key ∈ table.all → ¬ (9 ≤ key ∧ key ≤ 15)
  last_eq : table.all.getLast? = some table.last

/-- The keys of an operation, as many as it needs in a row. -/
theorem Operation.serves_keysFrom (op : Operation) (first : MessageKey) :
    KeyBlock.Serves ⟨op.name, first, op.keysFrom first⟩ op first where
  operation_eq := rfl
  first_eq := rfl
  consecutive := op.toList_keysFrom first
  one_way := by
    intro hone
    simp only [keysFrom, hone, if_true]
  answered := by
    intro hone
    simp [keysFrom, hone]

/-- In an ascending list the last number is the greatest. -/
theorem foldl_max_of_ascending {low : Nat} {xs : List Nat}
    (h : (low :: xs).Pairwise (· < ·)) : (low :: xs).getLast? = some (xs.foldl max low) := by
  induction xs generalizing low with
  | nil => rfl
  | cons x rest ih =>
      have hlt : low < x := List.rel_of_pairwise_cons h List.mem_cons_self
      have hlow : max low x = x := Nat.max_eq_right (Nat.le_of_lt hlt)
      rw [List.getLast?_cons_cons, List.foldl_cons, hlow]
      exact ih h.of_cons

namespace KeyTable

/-- The keys of operations add up. -/
theorem keyTotal_eq_sum (ops : List Operation) :
    keyTotal ops = (ops.map Operation.keyCount).sum := by
  induction ops with
  | nil => rfl
  | cons op rest ih => rw [keyTotal, ih, List.map_cons, List.sum_cons]

variable {c : Contract} {options : Options} {table : KeyTable}

/-- The keys of an operation start behind those of the operations before it. -/
theorem firstKey_eq (i : Nat) :
    c.firstKey options i = options.startKey + keyTotal (c.operations.take i) := by
  rw [keyTotal_eq_sum]
  rfl

/-- They end with the last key of the operation. -/
theorem blockEnd_eq (i : Nat) : c.blockEnd options i = c.lastKey options i := by
  rw [Contract.lastKey, firstKey_eq]
  rfl

/-- The block at a position of an allocated table. -/
theorem block?_of_allocate (h : allocate c options = .ok table) (i : Nat) :
    table.block? i = c.operations[i]?.map fun op =>
      ⟨op.name, c.firstKey options i, op.keysFrom (c.firstKey options i)⟩ := by
  rw [block?, allocate_blocks h, getElem?_blocksAt_eq, firstKey_eq]

/-- The last of all keys is the one the table ends with. -/
theorem last_of_allocate (h : allocate c options = .ok table) :
    table.all.getLast? = some table.last := by
  have hall := all_eq_range h
  have hpositive : (0 :: table.all).Pairwise (· < ·) := by
    refine List.pairwise_cons.2 ⟨?_, all_pairwise_lt h⟩
    intro key hkey
    rw [hall, List.mem_append, List.mem_range'_1, List.mem_range'_1] at hkey
    have hstart := reservedKeys_lt_startKey options
    exact Nat.pos_of_ne_zero (by omega)
  obtain ⟨first, rest, hcons⟩ : ∃ first rest, table.all = first :: rest :=
    ⟨1, _, hall⟩
  have hlast := foldl_max_of_ascending hpositive
  rwa [hcons, List.getLast?_cons_cons, ← hcons] at hlast

/-- Whatever is allocated is the table in closed form. -/
theorem allocates_of_allocate (h : allocate c options = .ok table) :
    table.Allocates c options where
  length_eq := by rw [allocate_blocks h, length_blocksAt]
  serves := by
    intro i op hop
    refine ⟨_, ?_, op.serves_keysFrom (c.firstKey options i)⟩
    rw [block?_of_allocate h, hop, Option.map_some]
  ascending := all_pairwise_lt h
  unreserved := by
    intro key hkey
    rw [all_eq_range h, List.mem_append, List.mem_range'_1, List.mem_range'_1] at hkey
    have hstart := reservedKeys_lt_startKey options
    unfold reservedKeys at hstart
    omega
  last_eq := last_of_allocate h

/-- **Demands decide.**  The keys of an operation are the same in any two contracts that agree on
the demands up to it. -/
theorem map_keys_block?_congr {c' : Contract} {options' : Options} {table' : KeyTable}
    (h : allocate c options = .ok table) (h' : allocate c' options' = .ok table')
    (hstart : options.startKey = options'.startKey) {i : Nat}
    (hdemand : (c.operations.take (i + 1)).map Operation.keyDemand =
      (c'.operations.take (i + 1)).map Operation.keyDemand) :
    (table.block? i).map KeyBlock.keys = (table'.block? i).map KeyBlock.keys := by
  have hop : c.operations[i]?.map Operation.keyDemand =
      c'.operations[i]?.map Operation.keyDemand := by
    have hat := congrArg (fun demands => demands[i]?) hdemand
    simpa [List.getElem?_take] using hat
  have hcounts : (c.operations.take i).map Operation.keyCount =
      (c'.operations.take i).map Operation.keyCount := by
    have hbefore := congrArg (List.take i) hdemand
    rw [← List.map_take, ← List.map_take, List.take_take, List.take_take,
      Nat.min_eq_left (Nat.le_succ i)] at hbefore
    rw [Operation.map_keyCount, Operation.map_keyCount, hbefore]
  have hfirst : c.firstKey options i = c'.firstKey options' i := by
    rw [firstKey_eq, firstKey_eq, keyTotal_eq_sum, keyTotal_eq_sum, hstart, hcounts]
  rw [block?_of_allocate h, block?_of_allocate h', hfirst]
  cases hat : c.operations[i]? with
  | none =>
      cases hat' : c'.operations[i]? with
      | none => rfl
      | some op' => simp [hat, hat'] at hop
  | some op =>
      cases hat' : c'.operations[i]? with
      | none => simp [hat, hat'] at hop
      | some op' =>
          have hsame : op.keyDemand = op'.keyDemand := by simpa [hat, hat'] using hop
          exact congrArg some (Operation.keysFrom_congr hsame _)

/-- **Keys in closed form.**  Keys are allocated exactly if the last one is within the limit.  Every
block then starts behind what the operations before it need, and holds consecutive keys; all keys
ascend and leave the reserved ones out.  Otherwise the error names the first operation whose block
would end above the limit, and that end.  So the keys of an operation depend on the demands up to it
alone, and a compiled contract has these keys whatever operations it skips. -/
theorem allocation_closed_form (c : Contract) (options : Options) :
    ((∃ table, allocate c options = .ok table) ↔
      c.operations = [] ∨
        max options.firstOperationKey 16 + (c.operations.map Operation.keyCount).sum - 1 ≤
          options.keySpaceLimit) ∧
    (∀ table, allocate c options = .ok table → table.Allocates c options) ∧
    (∀ cause, allocate c options = .error cause ↔
      ∃ i op, c.operations[i]? = some op ∧
        (∀ j < i, c.lastKey options j ≤ options.keySpaceLimit) ∧
        options.keySpaceLimit < c.lastKey options i ∧
        cause = .keySpaceExhausted op.name (c.lastKey options i) options.keySpaceLimit) ∧
    (∀ table c' options' table' i, allocate c options = .ok table →
      allocate c' options' = .ok table' → options.startKey = options'.startKey →
      (c.operations.take (i + 1)).map Operation.keyDemand =
        (c'.operations.take (i + 1)).map Operation.keyDemand →
      (table.block? i).map KeyBlock.keys = (table'.block? i).map KeyBlock.keys) ∧
    ∀ compiled, c.compile options = .ok compiled → allocate c options = .ok compiled.keys := by
  refine ⟨?_, fun _ => allocates_of_allocate, ?_, ?_, fun _ => Contract.compile_keys⟩
  · rw [Contract.allocate_ok_iff, keyTotal_eq_sum, or_iff_not_imp_left]
    rfl
  · intro cause
    simp only [Contract.allocate_eq_error_iff, blockEnd_eq]
  · intro table c' options' table' i h h' hstart hdemand
    exact map_keys_block?_congr h h' hstart hdemand

/-- Operations with the demands of the sample contract, and nothing else in common with it. -/
def demandsOnly : Contract where
  space := "acme"
  name := "Demands"
  operations :=
    [{ name := "Ask", kind := ⟨.requestResponse, .toClient⟩ },
     { name := "Tell", kind := ⟨.oneWay, .toClient⟩, arguments := [⟨.primitive .bool, none⟩] },
     { name := "Wait", kind := ⟨.requestResponse, .toClient⟩, result := some (.primitive .u32) },
     { name := "Talk", kind := ⟨.requestResponse, .toServer⟩
       inputStream := some (.primitive .string), outputStream := some (.primitive .string) }]

/-- The sample contract needs the keys 16 to 27, also if it asks for a reserved key first.  With the
key 27 above the limit, its last operation is refused.  The third operation, which is skipped, keeps
its keys, so the last one has the same keys as in a contract where nothing is skipped. -/
theorem chat_allocation_closed_form :
    (∃ table, allocate Contract.chat { firstOperationKey := 3, keySpaceLimit := 27 } = .ok table ∧
      table.Allocates Contract.chat { firstOperationKey := 3, keySpaceLimit := 27 } ∧
      table.last = 27) ∧
    allocate Contract.chat { keySpaceLimit := 26 } =
      .error (.keySpaceExhausted "Watch" 27 26) ∧
    ∃ compiled table, Contract.chat.compile {} = .ok compiled ∧
      allocate demandsOnly {} = .ok table ∧ compiled.isGenerated 2 = false ∧
      (compiled.keys.block? 3).map KeyBlock.keys = (table.block? 3).map KeyBlock.keys := by
  refine ⟨?_, ?_, ?_⟩
  · obtain ⟨hfits, hclosed, -⟩ :=
      allocation_closed_form Contract.chat { firstOperationKey := 3, keySpaceLimit := 27 }
    obtain ⟨table, htable⟩ := hfits.2 (.inr (by decide))
    have hlast := (hclosed table htable).last_eq
    rw [all_eq_range htable] at hlast
    exact ⟨table, htable, hclosed table htable, (Option.some.inj hlast).symm⟩
  · have herror := (allocation_closed_form Contract.chat { keySpaceLimit := 26 }).2.2.1
    exact (herror _).2 ⟨3, _, rfl, by decide, by decide, rfl⟩
  · obtain ⟨compiled, h, hskipped⟩ := Contract.exists_compile Contract.chat {}
      (fun compiled => compiled.isGenerated 2 = false) (by decide +kernel)
    obtain ⟨-, -, -, hdemands, hkeys⟩ := allocation_closed_form Contract.chat {}
    obtain ⟨table, htable⟩ := (allocation_closed_form demandsOnly {}).1.2 (.inr (by decide))
    exact ⟨compiled, table, h, htable, of_decide_eq_true hskipped,
      hdemands compiled.keys demandsOnly {} table 3 (hkeys compiled h) htable rfl (by decide)⟩

end KeyTable

end ServiceContract
