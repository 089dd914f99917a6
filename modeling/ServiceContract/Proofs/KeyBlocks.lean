import ServiceContract.MessageKey

/-!
# Key blocks in closed form

`KeyTable.blocksFrom` hands out blocks one after the other and stops at the limit.  Where it does
not stop, the blocks depend only on the operations: each starts where the one before it ends, and
the keys of all blocks together are one range without gaps.

* `allocate_blocks`: the blocks of an allocated table are those of `blocksAt`.
* `blocksFrom_ok_iff`, `blocksFrom_eq_error_iff`: when the limit is met, and where it is passed.
* `flatMap_keys_blocksAt`: the keys of `blocksAt`, block by block, are a range.
* `eq_of_mem_keys`: a key lies in at most one block.
-/

namespace ServiceContract

namespace Operation

/-- Every operation needs a key. -/
theorem keyCount_pos (op : Operation) : 0 < op.keyCount := by
  unfold keyCount
  split <;> omega

/-- The keys of an operation are the ones right after each other from the first on. -/
theorem toList_keysFrom (op : Operation) (first : MessageKey) :
    (op.keysFrom first).toList = List.range' first op.keyCount := by
  by_cases hone : op.kind.isOneWay
  · simp [keysFrom, keyCount, hone, OperationKeys.toList]
  · cases hin : op.inputStream <;> cases hout : op.outputStream <;>
      simp [keysFrom, keyCount, streamDirections, hone, hin, hout, OperationKeys.toList,
        List.range'_succ]

end Operation

/-- The key a caller sends is one of the keys of the operation. -/
theorem OperationKeys.outbound_mem_toList (keys : OperationKeys) :
    keys.outbound ∈ keys.toList := by
  cases keys <;> simp [outbound, toList]

namespace KeyTable

/-- The blocks of some operations from the key `next` on, whatever the limit is. -/
def blocksAt (next : MessageKey) : List Operation → List KeyBlock
  | [] => []
  | op :: rest => ⟨op.name, next, op.keysFrom next⟩ :: blocksAt (next + op.keyCount) rest

/-- Blocks that stay below the limit are the blocks without it. -/
theorem blocksFrom_ok {limit next : Nat} {ops : List Operation}
    {blocks : List KeyBlock} (h : blocksFrom limit next ops = .ok blocks) :
    blocks = blocksAt next ops := by
  induction ops generalizing next blocks with
  | nil => simpa [blocksFrom, blocksAt] using h.symm
  | cons op rest ih =>
      have hpos := op.keyCount_pos
      have hnext : next + op.keyCount - 1 + 1 = next + op.keyCount := by omega
      simp only [blocksFrom, hnext] at h
      split at h
      · cases h
      · cases htail : blocksFrom limit (next + op.keyCount) rest with
        | error cause => simp [htail] at h
        | ok tail =>
            simp only [htail, Except.ok.injEq] at h
            rw [← h, ih htail, blocksAt]

/-- The blocks of an allocated table. -/
theorem allocate_blocks {c : Contract} {options : Options} {table : KeyTable}
    (h : allocate c options = .ok table) :
    table.blocks = blocksAt options.startKey c.operations := by
  unfold allocate at h
  split at h
  · cases h
  · next blocks hblocks =>
      cases h
      exact blocksFrom_ok hblocks

@[simp]
theorem length_blocksAt (next : MessageKey) (ops : List Operation) :
    (blocksAt next ops).length = ops.length := by
  induction ops generalizing next with
  | nil => rfl
  | cons op rest ih => simp [blocksAt, ih]

/-- The number of keys that some operations take. -/
def keyTotal : List Operation → Nat
  | [] => 0
  | op :: rest => op.keyCount + keyTotal rest

/-- The block at a position is that of the operation there, behind the blocks before it. -/
theorem getElem?_blocksAt_eq (next : MessageKey) (ops : List Operation) (i : Nat) :
    (blocksAt next ops)[i]? = ops[i]?.map fun op =>
      ⟨op.name, next + keyTotal (ops.take i), op.keysFrom (next + keyTotal (ops.take i))⟩ := by
  induction ops generalizing next i with
  | nil => rfl
  | cons op rest ih =>
      cases i with
      | zero => rfl
      | succ i => simp [blocksAt, ih, keyTotal, Nat.add_assoc]

/-- The block at a position belongs to the operation there. -/
theorem getElem?_blocksAt {ops : List Operation} {next : MessageKey} {i : Nat} {block : KeyBlock}
    (h : (blocksAt next ops)[i]? = some block) :
    ∃ op first, ops[i]? = some op ∧ block = ⟨op.name, first, op.keysFrom first⟩ := by
  rw [getElem?_blocksAt_eq] at h
  obtain ⟨op, hop, rfl⟩ := Option.map_eq_some_iff.1 h
  exact ⟨op, _, hop, rfl⟩

/-- Fewer operations take no more keys. -/
theorem keyTotal_le_of_sublist {ops all : List Operation} (h : ops.Sublist all) :
    keyTotal ops ≤ keyTotal all := by
  induction h with
  | slnil => exact Nat.le_refl _
  | cons op _ ih =>
      rw [keyTotal]
      omega
  | cons_cons op _ ih =>
      rw [keyTotal, keyTotal]
      omega

/-- The blocks of further operations start where the others end. -/
theorem blocksAt_append (next : MessageKey) (ops more : List Operation) :
    blocksAt next (ops ++ more) = blocksAt next ops ++ blocksAt (next + keyTotal ops) more := by
  induction ops generalizing next with
  | nil => rfl
  | cons op rest ih => simp [blocksAt, keyTotal, ih, Nat.add_assoc]

/-- **No gaps.**  The keys of all blocks, one block after the other, are one range. -/
theorem flatMap_keys_blocksAt (next : MessageKey) (ops : List Operation) :
    (blocksAt next ops).flatMap (fun block => block.keys.toList) =
      List.range' next (keyTotal ops) := by
  induction ops generalizing next with
  | nil => rfl
  | cons op rest ih =>
      rw [blocksAt, List.flatMap_cons, ih, op.toList_keysFrom, List.range'_append_1, keyTotal]

section Limit

variable {limit next : Nat} {op : Operation} {ops : List Operation}

/-- One operation: its block ends above the limit, or the others are allocated behind it. -/
theorem blocksFrom_cons :
    blocksFrom limit next (op :: ops) =
      if limit < next + op.keyCount - 1 then
        .error (.keySpaceExhausted op.name (next + op.keyCount - 1) limit)
      else (blocksFrom limit (next + op.keyCount) ops).map
        (⟨op.name, next, op.keysFrom next⟩ :: ·) := by
  have hpos := op.keyCount_pos
  have hnext : next + op.keyCount - 1 + 1 = next + op.keyCount := by omega
  simp only [blocksFrom, hnext]
  split
  · rfl
  · cases blocksFrom limit (next + op.keyCount) ops <;> rfl

/-- **Enough keys.**  Blocks are allocated exactly if the last of them ends within the limit. -/
theorem blocksFrom_ok_iff :
    (∃ blocks, blocksFrom limit next ops = .ok blocks) ↔
      (ops ≠ [] → next + keyTotal ops - 1 ≤ limit) := by
  induction ops generalizing next with
  | nil => simp [blocksFrom]
  | cons op rest ih =>
      rw [blocksFrom_cons, keyTotal]
      by_cases hover : limit < next + op.keyCount - 1
      · simp only [if_pos hover, reduceCtorEq, exists_false, false_iff]
        intro hfits
        have := hfits (List.cons_ne_nil _ _)
        omega
      · have hrest : (∃ blocks, (blocksFrom limit (next + op.keyCount) rest).map
              (⟨op.name, next, op.keysFrom next⟩ :: ·) = .ok blocks) ↔
            ∃ blocks, blocksFrom limit (next + op.keyCount) rest = .ok blocks := by
          cases blocksFrom limit (next + op.keyCount) rest <;> simp [Except.map]
        rw [if_neg hover, hrest, ih]
        cases rest with
        | nil =>
            simp only [keyTotal]
            constructor
            · intro _ _
              omega
            · intro _ h
              exact absurd rfl h
        | cons second rest =>
            simp only [ne_eq, reduceCtorEq, not_false_eq_true, forall_const]
            omega

/-- **Too few keys.**  The error names the first operation whose block ends above the limit, and the
key it would have needed. -/
theorem blocksFrom_eq_error_iff {cause : CompileError} :
    blocksFrom limit next ops = .error cause ↔
      ∃ i op, ops[i]? = some op ∧ (∀ j < i, next + keyTotal (ops.take (j + 1)) - 1 ≤ limit) ∧
        limit < next + keyTotal (ops.take (i + 1)) - 1 ∧
        cause = .keySpaceExhausted op.name (next + keyTotal (ops.take (i + 1)) - 1) limit := by
  induction ops generalizing next with
  | nil => simp [blocksFrom]
  | cons op rest ih =>
      have hfirst : next + keyTotal ((op :: rest).take (0 + 1)) - 1 = next + op.keyCount - 1 := by
        simp [keyTotal]
      have hlater : ∀ i, next + keyTotal ((op :: rest).take (i + 1 + 1)) - 1 =
          next + op.keyCount + keyTotal (rest.take (i + 1)) - 1 := by
        intro i
        rw [List.take_succ_cons, keyTotal, Nat.add_assoc]
      rw [blocksFrom_cons]
      by_cases hover : limit < next + op.keyCount - 1
      · rw [if_pos hover, Except.error.injEq]
        constructor
        · rintro rfl
          exact ⟨0, op, rfl, by simp, by rwa [hfirst], by rw [hfirst]⟩
        · rintro ⟨i, found, hfound, hfront, -, rfl⟩
          cases i with
          | zero =>
              cases hfound
              rw [hfirst]
          | succ i =>
              have := hfront 0 (by omega)
              omega
      · have hrest : (blocksFrom limit (next + op.keyCount) rest).map
              (⟨op.name, next, op.keysFrom next⟩ :: ·) = .error cause ↔
            blocksFrom limit (next + op.keyCount) rest = .error cause := by
          cases blocksFrom limit (next + op.keyCount) rest <;> simp [Except.map]
        rw [if_neg hover, hrest, ih]
        constructor
        · rintro ⟨i, found, hfound, hfront, hlimit, rfl⟩
          refine ⟨i + 1, found, hfound, ?_, by rwa [hlater], by rw [hlater]⟩
          intro j hj
          cases j with
          | zero => omega
          | succ j =>
              rw [hlater]
              exact hfront j (by omega)
        · rintro ⟨i, found, hfound, hfront, hlimit, rfl⟩
          cases i with
          | zero => omega
          | succ i =>
              rw [hlater] at hlimit ⊢
              refine ⟨i, found, hfound, ?_, hlimit, rfl⟩
              intro j hj
              rw [← hlater]
              exact hfront (j + 1) (by omega)

end Limit

/-- Operations start above the reserved keys. -/
theorem reservedKeys_lt_startKey (options : Options) : reservedKeys < options.startKey := by
  unfold Options.startKey
  omega

section Allocated

variable {c : Contract} {options : Options} {table : KeyTable}

/-- All keys of an allocated table: the system messages, then one range. -/
theorem all_eq_range (h : allocate c options = .ok table) :
    table.all = List.range' 1 8 ++
      List.range' options.startKey (keyTotal c.operations) := by
  rw [all, allocate_blocks h, flatMap_keys_blocksAt]
  rfl

/-- The keys of an allocated table ascend. -/
theorem all_pairwise_lt (h : allocate c options = .ok table) :
    table.all.Pairwise (· < ·) := by
  rw [all_eq_range h, List.pairwise_append]
  refine ⟨List.pairwise_lt_range', List.pairwise_lt_range', ?_⟩
  intro a ha b hb
  have hstart := reservedKeys_lt_startKey options
  rw [List.mem_range'_1] at ha hb
  exact Nat.lt_of_lt_of_le (by unfold reservedKeys at hstart; omega) hb.1

/-- The keys of an earlier block are below those of a later one. -/
theorem blocks_pairwise_lt (h : allocate c options = .ok table) :
    table.blocks.Pairwise fun a b => ∀ x ∈ a.keys.toList, ∀ y ∈ b.keys.toList, x < y := by
  have hall : (table.blocks.flatMap fun block => block.keys.toList).Pairwise (· < ·) := by
    rw [allocate_blocks h, flatMap_keys_blocksAt]
    exact List.pairwise_lt_range'
  exact (List.pairwise_flatMap.1 hall).2

/-- **Blocks are disjoint.**  A key that lies in two blocks lies in one. -/
theorem eq_of_mem_keys (h : allocate c options = .ok table) {i j : Nat} {a b : KeyBlock}
    (ha : table.block? i = some a) (hb : table.block? j = some b) {key : MessageKey}
    (hka : key ∈ a.keys.toList) (hkb : key ∈ b.keys.toList) : i = j := by
  obtain ⟨hi, rfl⟩ := List.getElem?_eq_some_iff.1 ha
  obtain ⟨hj, rfl⟩ := List.getElem?_eq_some_iff.1 hb
  have hpair := List.pairwise_iff_getElem.1 (blocks_pairwise_lt h)
  rcases Nat.lt_trichotomy i j with hij | hij | hij
  · exact absurd (hpair i j hi hj hij key hka key hkb) (Nat.lt_irrefl key)
  · exact hij
  · exact absurd (hpair j i hj hi hij key hkb key hka) (Nat.lt_irrefl key)

/-- The keys of operations are above the reserved ones. -/
theorem reservedKeys_lt_of_mem_keys (h : allocate c options = .ok table) {i : Nat}
    {block : KeyBlock} (hblock : table.block? i = some block) {key : MessageKey}
    (hkey : key ∈ block.keys.toList) : reservedKeys < key := by
  have hmem : key ∈ table.blocks.flatMap fun block => block.keys.toList :=
    List.mem_flatMap.2 ⟨block, List.mem_of_getElem? hblock, hkey⟩
  rw [allocate_blocks h, flatMap_keys_blocksAt, List.mem_range'_1] at hmem
  have hstart := reservedKeys_lt_startKey options
  omega

end Allocated

end KeyTable

end ServiceContract
