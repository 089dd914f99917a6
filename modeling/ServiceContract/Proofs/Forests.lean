import Mathlib.Data.List.Perm.Subperm
import Mathlib.Logic.Relation
import ServiceContract.Proofs.Ancestry

/-!
# Which registrations form a hierarchy

A type names its base by number, so nothing but the whole list of registrations tells whether the
chain of bases from a type comes to an end.  The check follows each chain for a bounded number of
steps, and also stops where the chain comes back to the type it started from.

* `BaseChain` is a chain that ends.  It meets no type twice (`BaseChain.nodup`), so it is no longer
  than the list of registrations (`length_le_of_baseChain`), and the bound is never passed by it.
* A chain that does not end is followed until the bound is passed (`goesOn_of_not_rooted`).  It need
  not come back to where it started.
* `findSome?_eq_some_iff_least`: a search through an ascending list finds the least hit.  So the
  errors name the smallest type.

The main statement is `Hierarchy.build_outcome`.
-/

namespace ServiceContract

/-- The types met by following bases from a type on, up to one that has no base. -/
inductive BaseChain (baseOf : NodeId → Option NodeId) : NodeId → List NodeId → Prop
  | stop {node : NodeId} (hbase : baseOf node = none) : BaseChain baseOf node [node]
  | step {node base : NodeId} {path : List NodeId} (hbase : baseOf node = some base)
      (rest : BaseChain baseOf base path) : BaseChain baseOf node (node :: path)

namespace BaseChain

variable {baseOf : NodeId → Option NodeId} {node other : NodeId} {path path' : List NodeId}

/-- There is one chain from a type on. -/
theorem unique (h : BaseChain baseOf node path) (h' : BaseChain baseOf node path') :
    path = path' := by
  induction h generalizing path' with
  | stop hbase =>
      cases h' with
      | stop => rfl
      | step hbase' => simp [hbase] at hbase'
  | step hbase _ ih =>
      cases h' with
      | stop hbase' => simp [hbase] at hbase'
      | step hbase' rest' =>
          rw [hbase, Option.some.injEq] at hbase'
          subst hbase'
          rw [ih rest']

/-- From every type of a chain on, the rest of it is a chain. -/
theorem of_mem (h : BaseChain baseOf node path) (hmem : other ∈ path) :
    ∃ rest, BaseChain baseOf other rest ∧ rest.length ≤ path.length := by
  induction h with
  | stop hbase =>
      obtain rfl := List.mem_singleton.1 hmem
      exact ⟨_, .stop hbase, Nat.le_refl _⟩
  | step hbase tail ih =>
      rcases List.mem_cons.1 hmem with rfl | hmem
      · exact ⟨_, .step hbase tail, Nat.le_refl _⟩
      · obtain ⟨rest, hrest, hlength⟩ := ih hmem
        exact ⟨rest, hrest, Nat.le_succ_of_le hlength⟩

/-- **Chains that end do not repeat.**  From a type met again on, the chain would be shorter than
itself. -/
theorem nodup (h : BaseChain baseOf node path) : path.Nodup := by
  induction h with
  | stop => exact List.nodup_singleton _
  | step hbase tail ih =>
      refine List.nodup_cons.2 ⟨?_, ih⟩
      intro hmem
      obtain ⟨rest, hrest, hlength⟩ := tail.of_mem hmem
      rw [← unique (.step hbase tail) hrest, List.length_cons] at hlength
      omega

/-- Whatever is reached by following bases is on the chain. -/
theorem mem_of_reaches (h : BaseChain baseOf node path)
    (hreaches : Relation.ReflTransGen (fun a b => baseOf a = some b) node other) :
    other ∈ path := by
  induction h with
  | stop hbase =>
      rcases Relation.ReflTransGen.cases_head hreaches with rfl | ⟨base, hstep, -⟩
      · exact List.mem_singleton_self _
      · simp [hbase] at hstep
  | step hbase _ ih =>
      rcases Relation.ReflTransGen.cases_head hreaches with rfl | ⟨base, hstep, hrest⟩
      · exact List.mem_cons_self
      · rw [hbase, Option.some.injEq] at hstep
        subst hstep
        exact List.mem_cons_of_mem _ (ih hrest)

/-- A type whose chain ends is not among its own ancestors. -/
theorem irrefl (h : BaseChain baseOf node path) :
    ¬ Relation.TransGen (fun a b => baseOf a = some b) node node := by
  intro hcycle
  obtain ⟨base, hstep, hback⟩ := Relation.TransGen.head'_iff.1 hcycle
  cases h with
  | stop hbase => simp [hbase] at hstep
  | step hbase tail =>
      rw [hbase, Option.some.injEq] at hstep
      subst hstep
      exact (List.nodup_cons.1 (nodup (.step hbase tail))).1 (tail.mem_of_reaches hback)

end BaseChain

/-- **Least hits.**  A search through a list whose keys ascend finds the hit with the least key. -/
theorem findSome?_eq_some_iff_least {α β : Type} {key : α → Nat} {f : α → Option β} {xs : List α}
    (hsorted : xs.Pairwise fun a b => key a < key b) {b : β} :
    xs.findSome? f = some b ↔
      ∃ x ∈ xs, f x = some b ∧ ∀ y ∈ xs, (f y).isSome → key x ≤ key y := by
  induction xs with
  | nil => simp
  | cons a rest ih =>
      have hfirst : ∀ y ∈ rest, key a < key y := fun _ hy => List.rel_of_pairwise_cons hsorted hy
      rw [List.findSome?_cons]
      cases hhit : f a with
      | some found =>
          constructor
          · intro hfound
            refine ⟨a, List.mem_cons_self, hhit.trans hfound, ?_⟩
            intro y hy _
            rcases List.mem_cons.1 hy with rfl | hy
            · exact Nat.le_refl _
            · exact Nat.le_of_lt (hfirst y hy)
          · rintro ⟨x, hx, hfound, hleast⟩
            rcases List.mem_cons.1 hx with rfl | hx
            · exact hhit.symm.trans hfound
            · have hle := hleast a List.mem_cons_self (by rw [hhit]; rfl)
              have hlt := hfirst x hx
              omega
      | none =>
          refine (ih hsorted.of_cons).trans ?_
          constructor
          · rintro ⟨x, hx, hfound, hleast⟩
            refine ⟨x, List.mem_cons_of_mem _ hx, hfound, ?_⟩
            intro y hy hsome
            rcases List.mem_cons.1 hy with rfl | hy
            · simp [hhit] at hsome
            · exact hleast y hy hsome
          · rintro ⟨x, hx, hfound, hleast⟩
            rcases List.mem_cons.1 hx with rfl | hx
            · simp [hhit] at hfound
            · exact ⟨x, hx, hfound, fun y hy => hleast y (List.mem_cons_of_mem _ hy)⟩

namespace Registration

/-! ## Forests -/

/-- The type is registered with the given base. -/
def HasBase (registrations : List Registration) (node base : NodeId) : Prop :=
  ∃ entry ∈ registrations, entry.node = node ∧ entry.base = some base

/-- The type is registered without a base. -/
def IsRoot (registrations : List Registration) (node : NodeId) : Prop :=
  ∃ entry ∈ registrations, entry.node = node ∧ entry.base = none

instance (registrations : List Registration) (node base : NodeId) :
    Decidable (HasBase registrations node base) :=
  inferInstanceAs (Decidable (∃ entry ∈ registrations, entry.node = node ∧ entry.base = some base))

instance (registrations : List Registration) (node : NodeId) :
    Decidable (IsRoot registrations node) :=
  inferInstanceAs (Decidable (∃ entry ∈ registrations, entry.node = node ∧ entry.base = none))

/-- Following bases from the type on leads to one without a base. -/
def Rooted (registrations : List Registration) (node : NodeId) : Prop :=
  ∃ root, Relation.ReflTransGen (HasBase registrations) node root ∧ IsRoot registrations root

/-- The type names a base that is not registered. -/
def Dangling (registrations : List Registration) (node base : NodeId) : Prop :=
  HasBase registrations node base ∧ base ∉ registrations.map Registration.node

/-- Registrations that form a forest. -/
structure Forest (registrations : List Registration) : Prop where
  distinct : (registrations.map node).Nodup
  known : ∀ node base, ¬ Dangling registrations node base
  rooted : ∀ entry ∈ registrations, Rooted registrations entry.node

/-- The registrations in the order of their numbers. -/
def byNumber (registrations : List Registration) : List Registration :=
  stableSort (fun a b => a.node ≤ b.node) registrations

variable {xs ys : List Registration} {node base : NodeId}

/-- Bases do not depend on the order of the registrations. -/
theorem hasBase_congr (hperm : xs.Perm ys) : HasBase xs = HasBase ys := by
  funext node base
  simp only [HasBase, hperm.mem_iff]

theorem dangling_congr (hperm : xs.Perm ys) : Dangling xs = Dangling ys := by
  funext node base
  simp only [Dangling, hasBase_congr hperm, (hperm.map Registration.node).mem_iff]

theorem rooted_congr (hperm : xs.Perm ys) : Rooted xs = Rooted ys := by
  funext node
  simp only [Rooted, IsRoot, hasBase_congr hperm, hperm.mem_iff]

/-- Whether registrations form a forest does not depend on their order. -/
theorem Forest.of_perm (h : Forest xs) (hperm : xs.Perm ys) : Forest ys where
  distinct := (hperm.map Registration.node).nodup_iff.1 h.distinct
  known := dangling_congr hperm ▸ h.known
  rooted := by
    intro entry hentry
    rw [← rooted_congr hperm]
    exact h.rooted entry (hperm.mem_iff.2 hentry)

theorem byNumber_perm (xs : List Registration) : (byNumber xs).Perm xs := stableSort_perm xs

/-- Sorted by distinct numbers, the registrations ascend. -/
theorem byNumber_ascending (hnodup : (xs.map Registration.node).Nodup) :
    (byNumber xs).Pairwise fun a b => a.node < b.node := by
  have hsorted : (byNumber xs).Pairwise fun a b => decide (a.node ≤ b.node) = true := by
    apply stableSort_pairwise
    · intro a b
      simpa using Nat.le_total a.node b.node
    · intro a b c hab hbc
      exact decide_eq_true (Nat.le_trans (of_decide_eq_true hab) (of_decide_eq_true hbc))
  have hdistinct : (byNumber xs).Pairwise fun a b => a.node ≠ b.node :=
    List.pairwise_map.1 (((byNumber_perm xs).map Registration.node).nodup_iff.2 hnodup)
  exact (hsorted.and hdistinct).imp fun h => Nat.lt_of_le_of_ne (of_decide_eq_true h.1) h.2

theorem isRegistered_iff : isRegistered xs node = true ↔ node ∈ xs.map Registration.node := by
  simp [isRegistered]

section Lookup

variable (hnodup : (xs.map Registration.node).Nodup)
include hnodup

/-- The lookup of a registered type finds the base it was registered with. -/
theorem baseOf_of_mem {entry : Registration} (hentry : entry ∈ xs) :
    baseOf xs entry.node = entry.base := by
  rw [baseOf, find?_of_nodup_map hnodup hentry, Option.bind_some]

/-- The lookup finds a base exactly if the type was registered with it. -/
theorem baseOf_eq_some_iff : baseOf xs node = some base ↔ HasBase xs node base := by
  constructor
  · intro h
    obtain ⟨entry, hfound, hbase⟩ := Option.bind_eq_some_iff.1 h
    exact ⟨entry, List.mem_of_find?_eq_some hfound, by simpa using List.find?_some hfound, hbase⟩
  · rintro ⟨entry, hentry, rfl, hbase⟩
    rw [baseOf_of_mem hnodup hentry, hbase]

/-- A root is a registered type for which no base is found. -/
theorem isRoot_iff :
    IsRoot xs node ↔ node ∈ xs.map Registration.node ∧ baseOf xs node = none := by
  constructor
  · rintro ⟨entry, hentry, rfl, hbase⟩
    exact ⟨List.mem_map_of_mem hentry, (baseOf_of_mem hnodup hentry).trans hbase⟩
  · rintro ⟨hnode, hbase⟩
    obtain ⟨entry, hentry, rfl⟩ := List.mem_map.1 hnode
    exact ⟨entry, hentry, rfl, (baseOf_of_mem hnodup hentry).symm.trans hbase⟩

end Lookup

/-! ## Chains of bases -/

section Chains

variable (hnodup : (xs.map Registration.node).Nodup)
  (hknown : ∀ node base, ¬ Dangling xs node base)
include hnodup hknown

/-- The base of a registered type is registered. -/
theorem mem_of_baseOf (h : baseOf xs node = some base) : base ∈ xs.map Registration.node := by
  by_contra hunknown
  exact hknown node base ⟨(baseOf_eq_some_iff hnodup).1 h, hunknown⟩

/-- A registered type has a root exactly if its chain of bases ends. -/
theorem rooted_iff_baseChain (hnode : node ∈ xs.map Registration.node) :
    Rooted xs node ↔ ∃ path, BaseChain (baseOf xs) node path := by
  constructor
  · rintro ⟨root, hreaches, hroot⟩
    clear hnode
    induction hreaches using Relation.ReflTransGen.head_induction_on with
    | refl => exact ⟨_, .stop ((isRoot_iff hnodup).1 hroot).2⟩
    | head hbase _ ih =>
        obtain ⟨path, hpath⟩ := ih
        exact ⟨_, .step ((baseOf_eq_some_iff hnodup).2 hbase) hpath⟩
  · rintro ⟨path, hpath⟩
    induction hpath with
    | stop hbase => exact ⟨_, .refl, (isRoot_iff hnodup).2 ⟨hnode, hbase⟩⟩
    | step hbase _ ih =>
        obtain ⟨root, hreaches, hroot⟩ := ih (mem_of_baseOf hnodup hknown hbase)
        exact ⟨root, .head ((baseOf_eq_some_iff hnodup).1 hbase) hreaches, hroot⟩

/-- **Chains that end are short.**  They have no more types than are registered. -/
theorem length_le_of_baseChain (hnode : node ∈ xs.map Registration.node) {path : List NodeId}
    (hpath : BaseChain (baseOf xs) node path) : path.length ≤ xs.length := by
  have hsubset : path ⊆ xs.map Registration.node := by
    induction hpath with
    | stop => simpa using hnode
    | step hbase _ ih =>
        exact List.cons_subset.2 ⟨hnode, ih (mem_of_baseOf hnodup hknown hbase)⟩
  simpa using (hpath.nodup.subperm hsubset).length_le

omit hnodup hknown in
/-- A chain that ends within the steps, and does not meet `start` again, is not reported. -/
theorem goesOn_of_baseChain {start current : NodeId} {path : List NodeId} {steps : Nat}
    (hpath : BaseChain (baseOf xs) current path) (hstart : start ∉ path.tail)
    (hlength : path.length ≤ steps + 1) : goesOn xs start steps current = false := by
  induction hpath generalizing steps with
  | stop hbase => exact goesOn_of_baseOf_eq_none hbase steps
  | @step current base path hbase rest ih =>
      have hfirst : base ∈ path := by cases rest <;> exact List.mem_cons_self
      have hne : base ≠ start := fun heq => hstart (heq ▸ hfirst)
      cases steps with
      | zero =>
          have hpositive := List.length_pos_of_mem hfirst
          rw [List.length_cons] at hlength
          omega
      | succ steps =>
          have hrest : goesOn xs start steps base = false :=
            ih (fun h => hstart (List.mem_of_mem_tail h)) (by simpa using hlength)
          simp [goesOn, hbase, hne, hrest]

/-- A type whose chain does not end has a base whose chain does not end. -/
theorem exists_base_of_not_rooted (hnode : node ∈ xs.map Registration.node)
    (hendless : ¬ Rooted xs node) :
    ∃ base, baseOf xs node = some base ∧ base ∈ xs.map Registration.node ∧ ¬ Rooted xs base := by
  cases hbase : baseOf xs node with
  | none => exact absurd ⟨node, .refl, (isRoot_iff hnodup).2 ⟨hnode, hbase⟩⟩ hendless
  | some base =>
      refine ⟨base, rfl, mem_of_baseOf hnodup hknown hbase, ?_⟩
      rintro ⟨root, hreaches, hroot⟩
      exact hendless ⟨root, .head ((baseOf_eq_some_iff hnodup).1 hbase) hreaches, hroot⟩

/-- A chain that does not end goes on, however many steps are taken. -/
theorem goesOn_of_not_rooted {start current : NodeId}
    (hcurrent : current ∈ xs.map Registration.node) (hendless : ¬ Rooted xs current)
    (steps : Nat) : goesOn xs start steps current = true := by
  induction steps generalizing current with
  | zero =>
      obtain ⟨base, hbase, -⟩ := exists_base_of_not_rooted hnodup hknown hcurrent hendless
      simp [goesOn, hbase]
  | succ steps ih =>
      obtain ⟨base, hbase, hmem, hgoes⟩ :=
        exists_base_of_not_rooted hnodup hknown hcurrent hendless
      simp [goesOn, hbase, ih hmem hgoes]

/-- **The bounded search is exact.**  It reports the types whose chains do not end. -/
theorem goesOn_iff (hnode : node ∈ xs.map Registration.node) :
    goesOn xs node xs.length node = true ↔ ¬ Rooted xs node := by
  refine ⟨?_, fun hendless => goesOn_of_not_rooted hnodup hknown hnode hendless _⟩
  intro hgoes hrooted
  obtain ⟨path, hpath⟩ := (rooted_iff_baseChain hnodup hknown hnode).1 hrooted
  have hlength := length_le_of_baseChain hnodup hknown hnode hpath
  have hstart : node ∉ path.tail := by
    have hdistinct := hpath.nodup
    cases hpath with
    | stop => simp
    | step => exact (List.nodup_cons.1 hdistinct).1
  rw [goesOn_of_baseChain hpath hstart (by omega)] at hgoes
  cases hgoes

end Chains

/-! ## What the checks find -/

/-- A repeated registration is found where some type stands for the second time. -/
theorem firstRepeated_eq_some_iff {seen : List NodeId} :
    firstRepeated seen xs = some node ↔
      ∃ front entry back, xs = front ++ entry :: back ∧ entry.node = node ∧
        ((front.map Registration.node).Nodup ∧ ∀ other ∈ front, other.node ∉ seen) ∧
        (node ∈ seen ∨ node ∈ front.map Registration.node) := by
  induction xs generalizing seen with
  | nil => simp [firstRepeated]
  | cons first rest ih =>
      rw [firstRepeated]
      split
      · next hseen =>
          constructor
          · intro hfound
            cases hfound
            exact ⟨[], first, rest, rfl, rfl, by simp, .inl hseen⟩
          · rintro ⟨front, entry, back, hsplit, rfl, ⟨-, hnew⟩, -⟩
            cases front with
            | nil =>
                cases hsplit
                rfl
            | cons other front =>
                cases hsplit
                exact absurd hseen (hnew first List.mem_cons_self)
      · next hseen =>
          rw [ih]
          constructor
          · rintro ⟨front, entry, back, rfl, hentry, ⟨hnodup, hnew⟩, hmet⟩
            refine ⟨first :: front, entry, back, rfl, hentry, ⟨?_, ?_⟩, ?_⟩
            · refine List.nodup_cons.2 ⟨?_, hnodup⟩
              intro hmem
              obtain ⟨other, hother, heq⟩ := List.mem_map.1 hmem
              exact hnew other hother (heq ▸ List.mem_cons_self)
            · intro other hother
              rcases List.mem_cons.1 hother with rfl | hother
              · exact hseen
              · exact fun hmem => hnew other hother (List.mem_cons_of_mem _ hmem)
            · simp only [List.mem_cons, List.map_cons] at hmet ⊢
              tauto
          · rintro ⟨front, entry, back, hsplit, hentry, ⟨hnodup, hnew⟩, hmet⟩
            cases front with
            | nil =>
                cases hsplit
                simp only [List.map_nil, List.not_mem_nil, or_false] at hmet
                exact absurd (hentry ▸ hmet) hseen
            | cons other front =>
                cases hsplit
                rw [List.map_cons, List.nodup_cons] at hnodup
                refine ⟨front, entry, back, rfl, hentry, ⟨hnodup.2, ?_⟩, ?_⟩
                · intro other hother hmem
                  rcases List.mem_cons.1 hmem with heq | hmem
                  · exact hnodup.1 (heq ▸ List.mem_map_of_mem hother)
                  · exact hnew other (List.mem_cons_of_mem _ hother) hmem
                · simp only [List.mem_cons, List.map_cons] at hmet ⊢
                  tauto

/-- The search for a base that is not registered passes exactly if there is none. -/
theorem firstUnknownBase_eq_none_iff :
    firstUnknownBase xs = none ↔ ∀ node base, ¬ Dangling xs node base := by
  rw [firstUnknownBase, List.findSome?_eq_none_iff]
  constructor
  · rintro hnone _ base ⟨⟨entry, hentry, -, hbase⟩, hunknown⟩
    have hpassed := hnone entry hentry
    rw [← isRegistered_iff] at hunknown
    simp [hbase, hunknown] at hpassed
  · intro hknown entry hentry
    cases hbase : entry.base with
    | none => rfl
    | some base =>
        have hregistered : isRegistered xs base = true := by
          rw [isRegistered_iff]
          by_contra hunknown
          exact hknown entry.node base ⟨⟨entry, hentry, rfl, hbase⟩, hunknown⟩
        simp [hregistered]

/-- Of the types with a base that is not registered, the smallest is found. -/
theorem firstUnknownBase_eq_some_iff (hsorted : xs.Pairwise fun a b => a.node < b.node) :
    firstUnknownBase xs = some (node, base) ↔
      Dangling xs node base ∧ ∀ other otherBase, Dangling xs other otherBase → node ≤ other := by
  have hsearch : firstUnknownBase xs = xs.findSome? fun entry => entry.base.bind fun base =>
      if isRegistered xs base then none else some (entry.node, base) := by
    unfold firstUnknownBase
    congr 1
    funext entry
    cases entry.base <;> rfl
  have hhit : ∀ (entry : Registration) (hit : NodeId × NodeId),
      (entry.base.bind fun base =>
        if isRegistered xs base then none else some (entry.node, base)) = some hit ↔
      entry.node = hit.1 ∧ entry.base = some hit.2 ∧ hit.2 ∉ xs.map Registration.node := by
    rintro entry ⟨node, base⟩
    rw [← isRegistered_iff, Option.bind_eq_some_iff]
    constructor
    · rintro ⟨other, hbase, hfound⟩
      rw [Option.ite_none_left_eq_some, Option.some.injEq, Prod.mk.injEq] at hfound
      obtain ⟨hunknown, hnode, rfl⟩ := hfound
      exact ⟨hnode, hbase, hunknown⟩
    · rintro ⟨rfl, hbase, hunknown⟩
      exact ⟨base, hbase, if_neg hunknown⟩
  rw [hsearch, findSome?_eq_some_iff_least hsorted]
  constructor
  · rintro ⟨entry, hentry, hfound, hleast⟩
    obtain ⟨hnode, hbase, hunknown⟩ := (hhit entry _).1 hfound
    refine ⟨⟨⟨entry, hentry, hnode, hbase⟩, hunknown⟩, ?_⟩
    rintro _ otherBase ⟨⟨other, hother, rfl, hotherBase⟩, hotherUnknown⟩
    have hsome := (hhit other (other.node, otherBase)).2 ⟨rfl, hotherBase, hotherUnknown⟩
    have hle := hleast other hother (Option.isSome_iff_exists.2 ⟨_, hsome⟩)
    rwa [hnode] at hle
  · rintro ⟨⟨⟨entry, hentry, rfl, hbase⟩, hunknown⟩, hleast⟩
    refine ⟨entry, hentry, (hhit entry _).2 ⟨rfl, hbase, hunknown⟩, ?_⟩
    intro other hother hsome
    obtain ⟨hit, hfound⟩ := Option.isSome_iff_exists.1 hsome
    obtain ⟨-, hotherBase, hotherUnknown⟩ := (hhit other hit).1 hfound
    exact hleast _ _ ⟨⟨other, hother, rfl, hotherBase⟩, hotherUnknown⟩

section Endless

variable (hnodup : (xs.map Registration.node).Nodup)
  (hknown : ∀ node base, ¬ Dangling xs node base)
include hnodup hknown

/-- No chain of bases goes on forever exactly if every type is below a root. -/
theorem firstEndless_eq_none_iff :
    firstEndless xs = none ↔ ∀ entry ∈ xs, Rooted xs entry.node := by
  rw [firstEndless, List.find?_eq_none, List.forall_mem_map]
  refine forall₂_congr fun entry hentry => ?_
  rw [goesOn_iff hnodup hknown (List.mem_map_of_mem hentry), not_not]

/-- Of the types whose chains do not end, the smallest is found. -/
theorem firstEndless_eq_some_iff (hsorted : xs.Pairwise fun a b => a.node < b.node) :
    firstEndless xs = some node ↔
      node ∈ xs.map Registration.node ∧ ¬ Rooted xs node ∧
        ∀ entry ∈ xs, ¬ Rooted xs entry.node → node ≤ entry.node := by
  have hascending : (xs.map Registration.node).Pairwise fun a b => id a < id b :=
    List.pairwise_map.2 hsorted
  rw [firstEndless, List.find?_eq_findSome?_guard, findSome?_eq_some_iff_least hascending]
  simp only [Option.guard_eq_some_iff, Option.isSome_guard, id_eq]
  constructor
  · rintro ⟨found, hfound, ⟨rfl, hgoes⟩, hleast⟩
    refine ⟨hfound, (goesOn_iff hnodup hknown hfound).1 hgoes, ?_⟩
    intro entry hentry hendless
    have hmem := List.mem_map_of_mem (f := Registration.node) hentry
    exact hleast _ hmem ((goesOn_iff hnodup hknown hmem).2 hendless)
  · rintro ⟨hnode, hendless, hleast⟩
    refine ⟨node, hnode, ⟨rfl, (goesOn_iff hnodup hknown hnode).2 hendless⟩, ?_⟩
    intro other hother hgoes
    obtain ⟨entry, hentry, rfl⟩ := List.mem_map.1 hother
    exact hleast entry hentry ((goesOn_iff hnodup hknown hother).1 hgoes)

end Endless

end Registration

/-! ## What comes out -/

namespace Hierarchy

open Registration

/-- The types stand in ascending order of rank, and those of one rank in ascending order of
number. -/
def InSiblingOrder (registrations : List Registration) (nodes : List NodeId) : Prop :=
  nodes.Pairwise fun a b => ∀ x ∈ registrations, ∀ y ∈ registrations, x.node = a → y.node = b →
    x.rank < y.rank ∨ (x.rank = y.rank ∧ a < b)

/-- A hierarchy that says what was registered. -/
structure Describes (h : Hierarchy) (registrations : List Registration) : Prop where
  contains_iff : ∀ node, h.contains node = true ↔ node ∈ registrations.map Registration.node
  baseOf_eq : ∀ entry ∈ registrations, h.baseOf entry.node = entry.base
  baseOf_eq_none : ∀ node, node ∉ registrations.map Registration.node → h.baseOf node = none
  /-- A root stands among the roots once, and nothing else does. -/
  count_roots : ∀ node, h.roots.count node = if IsRoot registrations node then 1 else 0
  /-- A type stands among the children of its base once, and nowhere else. -/
  count_children : ∀ parent node,
    (h.children parent).count node = if HasBase registrations node parent then 1 else 0
  roots_inOrder : InSiblingOrder registrations h.roots
  children_inOrder : ∀ parent, InSiblingOrder registrations (h.children parent)

variable {xs : List Registration} {h : Hierarchy}

/-- The types with a base are those that were registered with it. -/
theorem mem_withBase {base : Option NodeId} {node : NodeId} :
    node ∈ h.withBase base ↔ ∃ entry ∈ h.entries, entry.node = node ∧ entry.base = base := by
  simp only [withBase, List.mem_map, (stableSort_perm _).mem_iff, List.mem_filter,
    decide_eq_true_eq]
  constructor
  · rintro ⟨entry, ⟨hentry, hbase⟩, hnode⟩
    exact ⟨entry, hentry, hnode, hbase⟩
  · rintro ⟨entry, hentry, hnode, hbase⟩
    exact ⟨entry, ⟨hentry, hbase⟩, hnode⟩

/-- The children of a type are those that have it as their base. -/
theorem mem_children {parent node : NodeId} :
    node ∈ h.children parent ↔ HasBase h.entries node parent := mem_withBase

/-- The roots are the types without a base. -/
theorem mem_roots {node : NodeId} : node ∈ h.roots ↔ IsRoot h.entries node := mem_withBase

section Siblings

variable (hnodup : (h.entries.map Registration.node).Nodup)
include hnodup

/-- No type stands twice among its siblings. -/
theorem withBase_nodup (base : Option NodeId) : (h.withBase base).Nodup := by
  refine ((stableSort_perm _).map Registration.node).nodup_iff.2 ?_
  exact hnodup.sublist (List.filter_sublist.map Registration.node)

/-- **Siblings are sorted.**  No two of them tie, since they differ in their numbers. -/
theorem withBase_inOrder (base : Option NodeId) :
    InSiblingOrder h.entries (h.withBase base) := by
  have hsorted : (stableSort before (h.entries.filter fun entry => entry.base = base)).Pairwise
      fun a b => before a b = true := by
    apply stableSort_pairwise
    · grind [before]
    · grind [before]
  have hdistinct := List.pairwise_map.1 (withBase_nodup hnodup base)
  refine List.pairwise_map.2 ((hsorted.and hdistinct).imp_of_mem ?_)
  intro a b ha hb hab x hx y hy hxa hyb
  have hmem : ∀ entry, entry ∈ stableSort before
      (h.entries.filter fun entry => entry.base = base) → entry ∈ h.entries :=
    fun entry hentry => (List.mem_filter.1 ((stableSort_perm _).mem_iff.1 hentry)).1
  rw [List.inj_on_of_nodup_map hnodup hx (hmem a ha) hxa,
    List.inj_on_of_nodup_map hnodup hy (hmem b hb) hyb]
  grind [before]

end Siblings

section Outcome

/-- **What resolving does.**  The three checks come one after the other, and the first that finds
something decides. -/
theorem build_eq (xs : List Registration) :
    build xs =
      match firstRepeated [] xs, firstUnknownBase (byNumber xs), firstEndless (byNumber xs) with
      | some node, _, _ => .error (.duplicateNode node)
      | none, some (node, base), _ => .error (.unknownBase node base)
      | none, none, some node => .error (.cycle node)
      | none, none, none => .ok ⟨byNumber xs⟩ := by
  unfold build byNumber
  cases firstRepeated [] xs with
  | some node => rfl
  | none =>
      dsimp only
      cases firstUnknownBase (stableSort (fun a b => decide (a.node ≤ b.node)) xs) with
      | some hit => rfl
      | none =>
          dsimp only
          cases firstEndless (stableSort (fun a b => decide (a.node ≤ b.node)) xs) <;> rfl

/-- A repeated number is reported before anything else. -/
theorem build_eq_duplicate_iff {node : NodeId} :
    build xs = .error (.duplicateNode node) ↔ firstRepeated [] xs = some node := by
  rw [build_eq]
  split <;> simp_all

/-- A missing base is reported if no number is repeated. -/
theorem build_eq_unknown_iff {node base : NodeId} :
    build xs = .error (.unknownBase node base) ↔
      firstRepeated [] xs = none ∧ firstUnknownBase (byNumber xs) = some (node, base) := by
  rw [build_eq]
  split <;> simp_all

/-- An endless chain is reported if the numbers are distinct and all bases known. -/
theorem build_eq_cycle_iff {node : NodeId} :
    build xs = .error (.cycle node) ↔
      firstRepeated [] xs = none ∧ firstUnknownBase (byNumber xs) = none ∧
        firstEndless (byNumber xs) = some node := by
  rw [build_eq]
  split <;> simp_all

/-- A hierarchy is made if none of the three checks finds something. -/
theorem build_eq_ok_iff :
    build xs = .ok h ↔
      (firstRepeated [] xs = none ∧ firstUnknownBase (byNumber xs) = none ∧
        firstEndless (byNumber xs) = none) ∧ h = ⟨byNumber xs⟩ := by
  rw [build_eq, eq_comm (a := h)]
  split <;> simp_all

/-- Registrations in order of number pass the checks exactly if they form a forest. -/
theorem exists_build_iff : (∃ h, build xs = .ok h) ↔ Forest xs := by
  have hperm := byNumber_perm xs
  constructor
  · rintro ⟨h, hbuild⟩
    obtain ⟨⟨hrepeated, hunknown, hendless⟩, -⟩ := build_eq_ok_iff.1 hbuild
    have hnodup := (firstRepeated_eq_none_iff.1 hrepeated).1
    have hnodup' := (hperm.map Registration.node).nodup_iff.2 hnodup
    have hknown := firstUnknownBase_eq_none_iff.1 hunknown
    exact Forest.of_perm ⟨hnodup', hknown, (firstEndless_eq_none_iff hnodup' hknown).1 hendless⟩
      hperm
  · intro hforest
    have hsorted := hforest.of_perm hperm.symm
    exact ⟨_, build_eq_ok_iff.2 ⟨⟨firstRepeated_eq_none_iff.2 ⟨hforest.distinct, by simp⟩,
      firstUnknownBase_eq_none_iff.2 hsorted.known,
      (firstEndless_eq_none_iff hsorted.distinct hsorted.known).2 hsorted.rooted⟩, rfl⟩⟩

/-- What is resolved has the registrations as its entries, and these form a forest. -/
theorem forest_of_build (hbuild : build xs = .ok h) :
    Forest h.entries ∧ h.entries.Perm xs := by
  obtain ⟨-, rfl⟩ := build_eq_ok_iff.1 hbuild
  have hperm := byNumber_perm xs
  exact ⟨(exists_build_iff.1 ⟨_, hbuild⟩).of_perm hperm.symm, hperm⟩

/-- The order of siblings is about the registrations, in whatever order these stand. -/
theorem InSiblingOrder.of_perm {ys : List Registration} {nodes : List NodeId}
    (horder : InSiblingOrder xs nodes) (hperm : xs.Perm ys) : InSiblingOrder ys nodes :=
  List.Pairwise.imp (fun hab x hx y hy => hab x (hperm.mem_iff.2 hx) y (hperm.mem_iff.2 hy)) horder

/-- A hierarchy that was made answers for the registrations it was made from. -/
theorem describes_of_build (hbuild : build xs = .ok h) : h.Describes xs := by
  obtain ⟨hforest, hperm⟩ := forest_of_build hbuild
  have hnodes := hperm.map Registration.node
  have hregistered : ∀ node, h.contains node = true ↔ node ∈ xs.map Registration.node :=
    fun node => isRegistered_iff.trans hnodes.mem_iff
  have hcount : ∀ base node, (h.withBase base).count node =
      if ∃ entry ∈ xs, entry.node = node ∧ entry.base = base then 1 else 0 := by
    intro base node
    simp only [← hperm.mem_iff]
    split
    · next hmem =>
        exact List.count_eq_one_of_mem (withBase_nodup hforest.distinct base) (mem_withBase.2 hmem)
    · next hmem => exact List.count_eq_zero.2 (mt mem_withBase.1 hmem)
  refine ⟨hregistered, ?_, ?_, fun node => hcount none node,
    fun parent node => hcount (some parent) node, ?_, ?_⟩
  · intro entry hentry
    exact baseOf_of_mem hforest.distinct (hperm.mem_iff.2 hentry)
  · intro node hnode
    rw [Hierarchy.baseOf, Registration.baseOf, List.find?_eq_none.2]
    · rfl
    · intro entry hentry hfound
      exact hnode (hnodes.mem_iff.1 (List.mem_map.2 ⟨entry, hentry, of_decide_eq_true hfound⟩))
  · exact (withBase_inOrder hforest.distinct none).of_perm hperm
  · exact fun parent => (withBase_inOrder hforest.distinct (some parent)).of_perm hperm

end Outcome

/-- **Exactly the forests are accepted.**  Registrations resolve if and only if they form a forest,
and the hierarchy then says what was registered, with siblings and roots in order.  Otherwise the
error is about the first type that is registered again; or else about the smallest type with a base
that is not registered; or else about the smallest type whose chain of bases never ends. -/
theorem build_outcome (xs : List Registration) :
    ((∃ h, build xs = .ok h) ↔ Forest xs) ∧
    (∀ h, build xs = .ok h → h.Describes xs) ∧
    (∀ node, build xs = .error (.duplicateNode node) ↔
      ∃ front entry back, xs = front ++ entry :: back ∧ entry.node = node ∧
        (front.map Registration.node).Nodup ∧ node ∈ front.map Registration.node) ∧
    (∀ node base, build xs = .error (.unknownBase node base) ↔
      (xs.map Registration.node).Nodup ∧ Dangling xs node base ∧
        ∀ other otherBase, Dangling xs other otherBase → node ≤ other) ∧
    ∀ node, build xs = .error (.cycle node) ↔
      (xs.map Registration.node).Nodup ∧ (∀ other base, ¬ Dangling xs other base) ∧
        node ∈ xs.map Registration.node ∧ ¬ Rooted xs node ∧
        ∀ entry ∈ xs, ¬ Rooted xs entry.node → node ≤ entry.node := by
  have hperm := byNumber_perm xs
  have hnodes := hperm.map Registration.node
  have hrepeated : firstRepeated [] xs = none ↔ (xs.map Registration.node).Nodup := by
    simp [firstRepeated_eq_none_iff]
  refine ⟨exists_build_iff, fun h => describes_of_build, ?_, ?_, ?_⟩
  · intro node
    rw [build_eq_duplicate_iff, firstRepeated_eq_some_iff]
    simp
  · intro node base
    rw [build_eq_unknown_iff, hrepeated]
    refine and_congr_right fun hnodup => ?_
    rw [firstUnknownBase_eq_some_iff (byNumber_ascending hnodup), dangling_congr hperm]
  · intro node
    rw [build_eq_cycle_iff, hrepeated, firstUnknownBase_eq_none_iff, dangling_congr hperm]
    refine and_congr_right fun hnodup => and_congr_right fun hknown => ?_
    rw [firstEndless_eq_some_iff (hnodes.nodup_iff.2 hnodup) (dangling_congr hperm ▸ hknown)
      (byNumber_ascending hnodup), rooted_congr hperm, hnodes.mem_iff]
    simp only [hperm.mem_iff]

/-- Two trees, registered in no particular order. -/
def twoTrees : List Registration :=
  [⟨5, some 9, 1⟩, ⟨4, none, 8⟩, ⟨7, some 9, 1⟩, ⟨2, some 5, 3⟩, ⟨9, none, 0⟩]

/-- Two types that name each other as bases, and a third one below them. -/
def belowLoop : List Registration := [⟨3, some 2, 0⟩, ⟨1, some 2, 0⟩, ⟨2, some 3, 0⟩]

/-- Two trees resolve, and types of one rank stand in the order of their numbers.  Registered twice,
they are refused for the type that came first; without one of their roots, for the smallest type
below it.  A chain that runs into a loop never ends, so the type below the loop is reported, though
it is not part of the loop. -/
theorem twoTrees_build_outcome :
    (∃ h, build twoTrees = .ok h ∧ Forest twoTrees ∧ h.Describes twoTrees ∧
      h.roots = [9, 4] ∧ h.children 9 = [5, 7]) ∧
    build (twoTrees ++ twoTrees) = .error (.duplicateNode 5) ∧
    build twoTrees.dropLast = .error (.unknownBase 5 9) ∧
    build belowLoop = .error (.cycle 1) ∧ ¬ Rooted belowLoop 1 := by
  obtain ⟨haccepted, hdescribes, -⟩ := build_outcome twoTrees
  obtain ⟨-, -, hrepeated, -⟩ := build_outcome (twoTrees ++ twoTrees)
  obtain ⟨-, -, -, -, hendless⟩ := build_outcome belowLoop
  have hbuild : build twoTrees = .ok ⟨byNumber twoTrees⟩ := by decide
  have hloop : build belowLoop = .error (.cycle 1) := by decide
  refine ⟨⟨_, hbuild, haccepted.1 ⟨_, hbuild⟩, hdescribes _ hbuild, by decide, by decide⟩, ?_, ?_,
    hloop, ((hendless 1).1 hloop).2.2.2.1⟩
  · exact (hrepeated 5).2 ⟨twoTrees, ⟨5, some 9, 1⟩, _, rfl, rfl, by decide, by decide⟩
  · decide

end Hierarchy

end ServiceContract
