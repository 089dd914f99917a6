import Mathlib.Data.List.Dedup
import ServiceContract.Proofs.Compilation
import ServiceContract.Proofs.Rejection

/-!
# Specificity is depth

How specific a payload is, is counted along its chain of bases, for at most one step more than the
registry has entries.  Where the registry passes its check, that bound plays no part: a payload is
one step more specific than the payload it extends, and its chain has ended when the count is done.

A payload of some depth has payloads of every smaller depth above it.  So the registered types have
at least as many depths as the deepest chain has types, and a depth stays below the number of types
that are registered, however many entries repeat a type (`specificity_lt_length_registeredTypes`).

The main statement is `Contract.specificity_is_depth`.
-/

namespace ServiceContract

namespace Contract

/-- The registered types, each of them once. -/
def registeredTypes (c : Contract) : List DataType := (c.faultKinds.map FaultKind.type).dedup

variable {c : Contract}

/-- The registered types are those of the entries. -/
theorem mem_registeredTypes {type : DataType} : type ∈ c.registeredTypes ↔ c.Registers type := by
  rw [registeredTypes, List.mem_dedup, List.mem_map]
  rfl

/-- No more bases are counted than steps are allowed. -/
theorem baseCount_le (steps : Nat) (type : DataType) : c.baseCount steps type ≤ steps := by
  induction steps generalizing type with
  | zero => exact Nat.le_refl 0
  | succ steps ih =>
      rw [baseCount]
      split
      · omega
      · next base _ =>
          have hrest := ih base
          omega

/-- A payload without a base has depth 0. -/
theorem specificity_of_faultBase?_eq_none {type : DataType} (h : c.faultBase? type = none) :
    c.specificity type = 0 := by
  rw [specificity, baseCount, h]

/-- A type that is not registered has no base. -/
theorem faultBase?_of_not_registers {type : DataType} (h : ¬ c.Registers type) :
    c.faultBase? type = none := by
  rw [faultBase?, Option.isNone_iff_eq_none.1 (faultKind?_isNone_iff.2 h), Option.bind_none]

/-- The base of a registered type is that of its entry. -/
theorem faultBase?_of_faultKind? {type : DataType} {entry : FaultKind}
    (h : c.faultKind? type = some entry) : c.faultBase? type = entry.base := by
  rw [faultBase?, h, Option.bind_some]

section Sound

variable (hsound : ∀ entry ∈ c.faultKinds, c.SoundEntry entry)
include hsound

/-- A payload of positive depth has a registered base, which is one step less deep. -/
theorem exists_base_of_specificity_eq_succ {type : DataType} {depth : Nat}
    (h : c.specificity type = depth + 1) :
    ∃ base, c.faultBase? type = some base ∧ c.Registers base ∧ c.specificity base = depth := by
  cases hbase : c.faultBase? type with
  | none =>
      rw [specificity_of_faultBase?_eq_none hbase] at h
      omega
  | some base =>
      obtain ⟨entry, hentry, -, hentryBase⟩ := faultBase?_eq_some hbase
      have hsucc := specificity_eq_succ hsound hbase
      exact ⟨base, rfl, (hsound entry hentry base hentryBase).1, by omega⟩

/-- **The count reaches the end of the chain.**  What is met after as many steps as a payload is
deep has no base. -/
theorem ancestor?_specificity {depth : Nat} {type : DataType} (h : c.specificity type = depth) :
    ∃ last, c.ancestor? depth type = some last ∧ c.faultBase? last = none := by
  induction depth generalizing type with
  | zero =>
      refine ⟨type, rfl, ?_⟩
      cases hbase : c.faultBase? type with
      | none => rfl
      | some base =>
          have hsucc := specificity_eq_succ hsound hbase
          omega
  | succ depth ih =>
      obtain ⟨base, hbase, -, hdepth⟩ := exists_base_of_specificity_eq_succ hsound h
      obtain ⟨last, hlast, hend⟩ := ih hdepth
      exact ⟨last, by rw [ancestor?, hbase, Option.bind_some, hlast], hend⟩

/-- A registered payload has registered payloads of every smaller depth above it. -/
theorem exists_registers_of_le {depth : Nat} {type : DataType} (hregisters : c.Registers type)
    (h : c.specificity type = depth) {i : Nat} (hi : i ≤ depth) :
    ∃ other, c.Registers other ∧ c.specificity other = i := by
  induction depth generalizing type with
  | zero => exact ⟨type, hregisters, by omega⟩
  | succ depth ih =>
      rcases Nat.lt_or_eq_of_le hi with hlt | rfl
      · obtain ⟨base, -, hbase, hdepth⟩ := exists_base_of_specificity_eq_succ hsound h
        exact ih hbase hdepth (by omega)
      · exact ⟨type, hregisters, h⟩

/-- **Depth is bounded by the types.**  Each depth up to that of a registered payload is the depth
of some registered type, and a type has one depth. -/
theorem specificity_lt_length_registeredTypes {type : DataType} (hregisters : c.Registers type) :
    c.specificity type < c.registeredTypes.length := by
  have hdepths : List.range (c.specificity type + 1) ⊆ c.registeredTypes.map c.specificity := by
    intro depth hdepth
    rw [List.mem_range] at hdepth
    obtain ⟨other, hother, rfl⟩ :=
      exists_registers_of_le hsound hregisters rfl (show depth ≤ c.specificity type by omega)
    exact List.mem_map_of_mem (mem_registeredTypes.2 hother)
  have hlength := (List.nodup_range.subperm hdepths).length_le
  rw [List.length_range, List.length_map] at hlength
  omega

end Sound

/-- **Specificity is depth.**  The count is never more than one above the number of entries,
whatever the registry.  Where the registry passes its check, a payload that is not registered or
extends nothing has depth 0, one that extends another is one step deeper than that, and the count
stops at the end of the chain.  As soon as any type is registered, every depth is below the number
of registered types. -/
theorem specificity_is_depth (c : Contract) :
    (∀ type, c.specificity type ≤ c.faultKinds.length + 1) ∧
    (c.faultKinds.findSome? c.registryProblem? = none → ∀ type,
      (¬ c.Registers type → c.specificity type = 0) ∧
      (∀ entry, c.faultKind? type = some entry →
        (entry.base = none → c.specificity type = 0) ∧
        ∀ base, entry.base = some base → c.specificity type = c.specificity base + 1) ∧
      (∃ last, c.ancestor? (c.specificity type) type = some last ∧ c.faultBase? last = none) ∧
      (c.faultKinds ≠ [] → c.specificity type < c.registeredTypes.length)) := by
  refine ⟨fun type => baseCount_le _ type, fun hpasses type => ?_⟩
  have hsound := findSome?_registryProblem?_eq_none_iff.1 hpasses
  have hunregistered : ¬ c.Registers type → c.specificity type = 0 := fun h =>
    specificity_of_faultBase?_eq_none (faultBase?_of_not_registers h)
  refine ⟨hunregistered, ?_, ancestor?_specificity hsound rfl, ?_⟩
  · intro entry hentry
    have hlookup := faultBase?_of_faultKind? hentry
    exact ⟨fun hbase => specificity_of_faultBase?_eq_none (hlookup.trans hbase),
      fun base hbase => specificity_eq_succ hsound (hlookup.trans hbase)⟩
  · intro hentries
    by_cases hregisters : c.Registers type
    · exact specificity_lt_length_registeredTypes hsound hregisters
    · obtain ⟨entry, hentry⟩ := List.exists_mem_of_ne_nil _ hentries
      have hsome : entry.type ∈ c.registeredTypes := mem_registeredTypes.2 ⟨entry, hentry, rfl⟩
      rw [hunregistered hregisters]
      exact List.length_pos_of_mem hsome

/-- A registry with a chain of three payloads, the last of which is registered again without a
base. -/
def files : Contract :=
  { sample "Files" [] with
    faultKinds := [⟨.named "NoSuchDir", some (.named "NotFound")⟩, ⟨.named "IoFault", none⟩,
      ⟨.named "NotFound", some (.named "IoFault")⟩, ⟨.named "NoSuchDir", none⟩] }

/-- A registry in which two payloads extend each other. -/
def circular : Contract :=
  { sample "Circular" [] with
    faultKinds := [⟨.named "A", some (.named "B")⟩, ⟨.named "B", some (.named "A")⟩] }

/-- The first entry of `NoSuchDir` decides, and its depth is the greatest that three registered
types allow.  In a circle the count goes on until it is one above the number of entries. -/
theorem files_specificity_is_depth :
    files.specificity (.named "NoSuchDir") = files.specificity (.named "NotFound") + 1 ∧
    files.specificity (.named "NoSuchDir") = 2 ∧ files.registeredTypes.length = 3 ∧
    files.specificity (.named "NoSuchDir") < files.registeredTypes.length ∧
    circular.specificity (.named "A") = circular.faultKinds.length + 1 ∧
    circular.specificity (.named "A") ≤ circular.faultKinds.length + 1 := by
  obtain ⟨-, hfiles⟩ := specificity_is_depth files
  obtain ⟨-, hentry, -, hbound⟩ := hfiles (by decide) (.named "NoSuchDir")
  obtain ⟨-, hsucc⟩ := hentry ⟨.named "NoSuchDir", some (.named "NotFound")⟩ (by decide)
  exact ⟨hsucc _ rfl, by decide, by decide, hbound (by decide), by decide,
    (specificity_is_depth circular).1 _⟩

/-- An empty registry passes its check, and the depth 0 of a payload is not below the number 0 of
its types. -/
theorem empty_specificity_not_below :
    (sample "Empty" []).faultKinds.findSome? (sample "Empty" []).registryProblem? = none ∧
    (sample "Empty" []).specificity (.primitive .string) = 0 ∧
    ¬ (sample "Empty" []).specificity (.primitive .string) <
      (sample "Empty" []).registeredTypes.length := by
  decide

end Contract

end ServiceContract
