import Mathlib.Data.List.Nodup
import Mathlib.Data.List.Perm.Subperm
import Mathlib.Logic.Relation
import ServiceContract.Acceptance
import ServiceContract.FaultSet

/-!
# Chains of fault bases

The fault registry says which payload extends which.  It may hold several entries for one type, and
a lookup takes the first of them, so from any type on there is one chain of bases.

The registry check and the specificity of a payload follow that chain for a bounded number of steps.
The bound loses nothing: a chain that is longer than the registry meets some type twice.

* `leadsTo_iff_reaches`: the bounded search for an entry's own type finds it whenever any number of
  steps does.
* `ancestor?_eq_none`: in a sound registry every chain ends.
* `specificity_of_extension`: entries added at the end of a sound registry change no chain that was
  there before.
* `specificity_lt`: in a sound registry a payload is more specific than every payload it specialises.
-/

namespace ServiceContract

namespace Contract

/-- The registry has an entry for a type. -/
def Registers (c : Contract) (type : DataType) : Prop := ∃ entry ∈ c.faultKinds, entry.type = type

/-- `target` is `type` itself, or is met by looking up bases from `type` on. -/
def Reaches (c : Contract) : DataType → DataType → Prop :=
  Relation.ReflTransGen fun type base => c.faultBase? type = some base

/-- The base of an entry, if it has one, is registered and does not lead back to the entry. -/
def SoundEntry (c : Contract) (entry : FaultKind) : Prop :=
  ∀ base, entry.base = some base → c.Registers base ∧ ¬ c.Reaches base entry.type

/-- The type met after looking up a base `steps` times. -/
def ancestor? (c : Contract) : Nat → DataType → Option DataType
  | 0, type => some type
  | steps + 1, type => (c.faultBase? type).bind (c.ancestor? steps)

variable {c : Contract}

/-- There is no entry for a type exactly if it is not registered. -/
theorem faultKind?_isNone_iff {type : DataType} :
    (c.faultKind? type).isNone = true ↔ ¬ c.Registers type := by
  simp [faultKind?, Registers]

/-- A type whose base is found has an entry with that base. -/
theorem faultBase?_eq_some {type base : DataType} (h : c.faultBase? type = some base) :
    ∃ entry ∈ c.faultKinds, entry.type = type ∧ entry.base = some base := by
  obtain ⟨entry, hfound, hbase⟩ := Option.bind_eq_some_iff.1 h
  exact ⟨entry, List.mem_of_find?_eq_some hfound, by simpa using List.find?_some hfound, hbase⟩

/-- Only a registered type has a base. -/
theorem registers_of_faultBase? {type base : DataType} (h : c.faultBase? type = some base) :
    c.Registers type := by
  obtain ⟨entry, hentry, htype, -⟩ := faultBase?_eq_some h
  exact ⟨entry, hentry, htype⟩

/-- Looking up `i` bases and then `j` more. -/
theorem ancestor?_add (i j : Nat) (type : DataType) :
    c.ancestor? (i + j) type = (c.ancestor? i type).bind (c.ancestor? j) := by
  induction i generalizing type with
  | zero => simp [ancestor?]
  | succ i ih =>
      rw [Nat.succ_add, ancestor?, ancestor?, Option.bind_assoc]
      congr 1
      funext base
      exact ih base

/-- A type leads to another in some number of steps. -/
theorem reaches_iff {type target : DataType} :
    c.Reaches type target ↔ ∃ steps, c.ancestor? steps type = some target := by
  constructor
  · intro h
    induction h using Relation.ReflTransGen.head_induction_on with
    | refl => exact ⟨0, rfl⟩
    | head hbase _ ih =>
        obtain ⟨steps, hsteps⟩ := ih
        exact ⟨steps + 1, by rw [ancestor?, hbase, Option.bind_some, hsteps]⟩
  · rintro ⟨steps, h⟩
    induction steps generalizing type with
    | zero =>
        rw [ancestor?, Option.some.injEq] at h
        subst h
        exact .refl
    | succ steps ih =>
        obtain ⟨base, hbase, hrest⟩ := Option.bind_eq_some_iff.1 h
        exact .head hbase (ih hrest)

/-- The bounded search looks at as many types of the chain as it has steps. -/
theorem leadsTo_iff {target type : DataType} {steps : Nat} :
    c.leadsTo target steps type = true ↔ ∃ k < steps, c.ancestor? k type = some target := by
  induction steps generalizing type with
  | zero => simp [leadsTo]
  | succ steps ih =>
      rw [leadsTo, Bool.or_eq_true, decide_eq_true_eq]
      constructor
      · rintro (rfl | hrest)
        · exact ⟨0, by omega, rfl⟩
        · cases hbase : c.faultBase? type with
          | none => simp [hbase] at hrest
          | some base =>
              rw [hbase] at hrest
              obtain ⟨k, hk, hfound⟩ := ih.1 hrest
              exact ⟨k + 1, by omega, by rw [ancestor?, hbase, Option.bind_some, hfound]⟩
      · rintro ⟨k, hk, hfound⟩
        cases k with
        | zero => exact .inl (Option.some.inj hfound)
        | succ k =>
            obtain ⟨base, hbase, hrest⟩ := Option.bind_eq_some_iff.1 hfound
            right
            rw [hbase]
            exact ih.2 ⟨k, by omega, hrest⟩

/-- Every type of a chain but the last is registered. -/
theorem registers_of_lt {type last : DataType} {i steps : Nat}
    (h : c.ancestor? steps type = some last) (hi : i < steps) :
    ∃ middle, c.ancestor? i type = some middle ∧ c.Registers middle := by
  obtain ⟨rest, rfl⟩ : ∃ rest, steps = i + (rest + 1) := ⟨steps - i - 1, by omega⟩
  rw [ancestor?_add] at h
  obtain ⟨middle, hmiddle, hlast⟩ := Option.bind_eq_some_iff.1 h
  obtain ⟨base, hbase, -⟩ := Option.bind_eq_some_iff.1 hlast
  exact ⟨middle, hmiddle, registers_of_faultBase? hbase⟩

/-- **Long chains repeat.**  Among more registered types than there are entries, one occurs
twice. -/
theorem exists_repeat {type : DataType}
    (h : ∀ i ≤ c.faultKinds.length, ∃ middle, c.ancestor? i type = some middle ∧
      c.Registers middle) :
    ∃ i j, i < j ∧ j ≤ c.faultKinds.length ∧ c.ancestor? i type = c.ancestor? j type := by
  by_contra hdistinct
  let chain := (List.range (c.faultKinds.length + 1)).map fun i => c.ancestor? i type
  have hnodup : chain.Nodup := by
    refine List.Nodup.map_on ?_ List.nodup_range
    intro i hi j hj heq
    rw [List.mem_range] at hi hj
    rcases Nat.lt_trichotomy i j with hij | hij | hij
    · exact absurd ⟨i, j, hij, by omega, heq⟩ hdistinct
    · exact hij
    · exact absurd ⟨j, i, hij, by omega, heq.symm⟩ hdistinct
  have hsubset : chain ⊆ c.faultKinds.map fun entry => some entry.type := by
    intro entry hentry
    obtain ⟨i, hi, rfl⟩ := List.mem_map.1 hentry
    rw [List.mem_range] at hi
    obtain ⟨middle, hmiddle, entry, hentry, htype⟩ := h i (by omega)
    exact List.mem_map.2 ⟨entry, hentry, by rw [hmiddle, htype]⟩
  have hlength := (hnodup.subperm hsubset).length_le
  rw [List.length_map, List.length_map, List.length_range] at hlength
  omega

/-- What a chain meets at all, it meets within as many steps as there are entries: between two
occurrences of one type the chain can be cut short. -/
theorem exists_ancestor?_lt {type target : DataType} (htarget : c.Registers target) (steps : Nat)
    (h : c.ancestor? steps type = some target) :
    ∃ k < c.faultKinds.length, c.ancestor? k type = some target := by
  induction steps using Nat.strongRecOn with
  | ind steps ih =>
      by_cases hlt : steps < c.faultKinds.length
      · exact ⟨steps, hlt, h⟩
      · have hregistered : ∀ i ≤ c.faultKinds.length, ∃ middle,
            c.ancestor? i type = some middle ∧ c.Registers middle := by
          intro i hi
          rcases Nat.lt_or_eq_of_le (show i ≤ steps by omega) with hi | rfl
          · exact registers_of_lt h hi
          · exact ⟨target, h, htarget⟩
        obtain ⟨i, j, hij, hj, hrepeat⟩ := exists_repeat hregistered
        refine ih (i + (steps - j)) (by omega) ?_
        rw [ancestor?_add, hrepeat, ← ancestor?_add, show j + (steps - j) = steps by omega, h]

/-- **The bounded search is complete.**  It finds the type of an entry whenever any number of
lookups leads there. -/
theorem leadsTo_iff_reaches {entry : FaultKind} (hentry : entry ∈ c.faultKinds)
    {type : DataType} :
    c.leadsTo entry.type c.faultKinds.length type = true ↔ c.Reaches type entry.type := by
  rw [leadsTo_iff, reaches_iff]
  constructor
  · rintro ⟨k, -, hfound⟩
    exact ⟨k, hfound⟩
  · rintro ⟨steps, hsteps⟩
    exact exists_ancestor?_lt ⟨entry, hentry, rfl⟩ steps hsteps

/-- **Chains end.**  In a sound registry no type has more bases than there are entries. -/
theorem ancestor?_eq_none (hsound : ∀ entry ∈ c.faultKinds, c.SoundEntry entry)
    (type : DataType) : c.ancestor? (c.faultKinds.length + 1) type = none := by
  by_contra hsome
  obtain ⟨last, hlast⟩ := Option.ne_none_iff_exists'.1 hsome
  have hregistered : ∀ i ≤ c.faultKinds.length, ∃ middle,
      c.ancestor? i type = some middle ∧ c.Registers middle :=
    fun i hi => registers_of_lt hlast (by omega)
  obtain ⟨i, j, hij, hj, hrepeat⟩ := exists_repeat hregistered
  obtain ⟨middle, hmiddle, -⟩ := hregistered i (by omega)
  -- The repeated type would be reached again from its own base.
  obtain ⟨rest, rfl⟩ : ∃ rest, j = i + (rest + 1) := ⟨j - i - 1, by omega⟩
  rw [ancestor?_add, hmiddle, Option.bind_some] at hrepeat
  obtain ⟨base, hbase, hback⟩ := Option.bind_eq_some_iff.1 hrepeat.symm
  obtain ⟨entry, hentry, rfl, hentryBase⟩ := faultBase?_eq_some hbase
  exact (hsound entry hentry base hentryBase).2 (reaches_iff.2 ⟨rest, hback⟩)

section Extension

variable {c' : Contract}

/-- Entries at the end do not change the lookup of a type that was registered before. -/
theorem faultBase?_of_extension (hext : c.faultKinds <+: c'.faultKinds) {type : DataType}
    (hregisters : c.Registers type) : c'.faultBase? type = c.faultBase? type := by
  obtain ⟨more, hmore⟩ := hext
  have hkind : c'.faultKind? type = c.faultKind? type := by
    cases hfound : c.faultKind? type with
    | none => exact absurd hregisters (faultKind?_isNone_iff.1 (by rw [hfound]; rfl))
    | some entry =>
        rw [faultKind?, ← hmore, List.find?_append, ← faultKind?, hfound, Option.some_or]
  rw [faultBase?, faultBase?, hkind]

/-- Counting the bases of a chain that ends does not depend on the steps allowed, nor on entries at
the end of the registry. -/
theorem baseCount_of_extension (hsound : ∀ entry ∈ c.faultKinds, c.SoundEntry entry)
    (hext : c.faultKinds <+: c'.faultKinds) {n s s' : Nat} {type : DataType}
    (hregisters : c.Registers type) (hend : c.ancestor? (n + 1) type = none)
    (hs : n ≤ s) (hs' : n ≤ s') : c'.baseCount s' type = c.baseCount s type := by
  have hlookup := faultBase?_of_extension hext hregisters
  induction n generalizing type s s' with
  | zero =>
      have hbase : c.faultBase? type = none := by
        cases hbase : c.faultBase? type with
        | none => rfl
        | some base => simp [ancestor?, hbase] at hend
      cases s <;> cases s' <;> simp [baseCount, hlookup, hbase]
  | succ n ih =>
      obtain ⟨s, rfl⟩ : ∃ r, s = r + 1 := ⟨s - 1, by omega⟩
      obtain ⟨s', rfl⟩ : ∃ r, s' = r + 1 := ⟨s' - 1, by omega⟩
      rw [baseCount, baseCount, hlookup]
      cases hbase : c.faultBase? type with
      | none => rfl
      | some base =>
          obtain ⟨entry, hentry, -, hentryBase⟩ := faultBase?_eq_some hbase
          have hregistered := (hsound entry hentry base hentryBase).1
          rw [ancestor?, hbase, Option.bind_some] at hend
          exact congrArg (· + 1) (ih hregistered hend (by omega) (by omega)
            (faultBase?_of_extension hext hregistered))

/-- **Specificity looks only backwards.**  A payload of a sound registry keeps its specificity when
entries are added at the end. -/
theorem specificity_of_extension (hsound : ∀ entry ∈ c.faultKinds, c.SoundEntry entry)
    (hext : c.faultKinds <+: c'.faultKinds) {type : DataType} (hregisters : c.Registers type) :
    c'.specificity type = c.specificity type :=
  have hlength := hext.length_le
  baseCount_of_extension hsound hext hregisters (ancestor?_eq_none hsound type) (by omega)
    (by omega)

/-- Nothing but the registry decides how specific a payload is. -/
theorem specificity_congr (hkinds : c'.faultKinds = c.faultKinds) (type : DataType) :
    c'.specificity type = c.specificity type := by
  have hbase : c'.faultBase? = c.faultBase? := by
    funext type
    rw [faultBase?, faultBase?, faultKind?, faultKind?, hkinds]
  have hcount : ∀ steps type, c'.baseCount steps type = c.baseCount steps type := by
    intro steps
    induction steps with
    | zero => exact fun _ => rfl
    | succ steps ih =>
        intro type
        simp only [baseCount, hbase, ih]
  rw [specificity, specificity, hkinds, hcount]

end Extension

section Depth

/-- `ancestor` is met by looking up bases from `type` on, one or more times. -/
def Specialises (c : Contract) : DataType → DataType → Prop :=
  Relation.TransGen fun type base => c.faultBase? type = some base

variable (hsound : ∀ entry ∈ c.faultKinds, c.SoundEntry entry)
include hsound

/-- A payload is one step more specific than its base: the chain ends before the steps that count it
run out. -/
theorem specificity_eq_succ {type base : DataType} (h : c.faultBase? type = some base) :
    c.specificity type = c.specificity base + 1 := by
  obtain ⟨entry, hentry, -, hentryBase⟩ := faultBase?_eq_some h
  obtain ⟨n, hn⟩ : ∃ n, c.faultKinds.length = n + 1 := by
    have hpos := List.length_pos_of_mem hentry
    exact ⟨c.faultKinds.length - 1, by omega⟩
  have hend : c.ancestor? (n + 1) base = none := by
    have htype := ancestor?_eq_none hsound type
    rwa [ancestor?, h, Option.bind_some, hn] at htype
  have hcount : c.baseCount c.faultKinds.length base = c.specificity base :=
    baseCount_of_extension hsound (List.prefix_refl _) (hsound entry hentry base hentryBase).1 hend
      (by omega) (by omega)
  rw [specificity, baseCount, h]
  exact congrArg (· + 1) hcount

/-- **Descent is depth.**  A payload is more specific than every payload it specialises. -/
theorem specificity_lt {type ancestor : DataType} (h : c.Specialises type ancestor) :
    c.specificity ancestor < c.specificity type := by
  induction h with
  | single hbase =>
      have hsucc := specificity_eq_succ hsound hbase
      omega
  | tail _ hbase ih =>
      have hsucc := specificity_eq_succ hsound hbase
      omega

end Depth

end Contract

end ServiceContract
