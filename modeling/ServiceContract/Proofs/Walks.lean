import ServiceContract.Proofs.Forests

/-!
# What a walk visits

`Hierarchy.walk` goes down a bounded number of levels, and `Hierarchy.rootOf` up a bounded number of
bases.  In a resolved hierarchy neither bound cuts anything off, because no chain of bases is longer
than the hierarchy has types.

* `Preorder` lists siblings, each followed by what stands below it, without any bound.  A walk is
  such a list (`preorder_walk`), and so are all trees together (`preorder_trees`).
* `Visit` is a walk that keeps a stack of pending types.  It ends with the same list
  (`Preorder.visits`): everything below a type is visited before the types pending behind it.
* What is listed is what descends from the siblings (`Preorder.mem_iff`).  It is listed once if no
  type descends from two of them (`Preorder.nodup`), as siblings and roots have it.

The main statement is `Hierarchy.walks_enumerate`.
-/

namespace ServiceContract

namespace Hierarchy

open Registration

/-- The base of `node` is `base`. -/
def Extends (h : Hierarchy) (node base : NodeId) : Prop := h.baseOf node = some base

/-- `ancestor` is met by following bases from `node` on, one or more times. -/
def Descends (h : Hierarchy) : NodeId → NodeId → Prop := Relation.TransGen h.Extends

/-- The list of some siblings in which each of them is followed by the list below it. -/
inductive Preorder (h : Hierarchy) : List NodeId → List NodeId → Prop
  | nil : Preorder h [] []
  | cons {node : NodeId} {siblings below after : List NodeId}
      (hbelow : Preorder h (h.children node) below) (hafter : Preorder h siblings after) :
      Preorder h (node :: siblings) (node :: (below ++ after))

/-- A walk under way: the types that are pending, the next one first, and those visited so far. -/
structure Visit where
  pending : List NodeId
  visited : List NodeId

/-- Visit the next type.  What stands directly below it goes before all else that is pending. -/
def Visit.next? (h : Hierarchy) : Visit → Option Visit
  | ⟨[], _⟩ => none
  | ⟨node :: pending, visited⟩ => some ⟨h.children node ++ pending, visited ++ [node]⟩

/-- From one state of a walk to a later one. -/
def Visits (h : Hierarchy) : Visit → Visit → Prop :=
  Relation.ReflTransGen fun a b => a.next? h = some b

variable {h : Hierarchy} {node base root : NodeId}

/-! ## Following bases -/

/-- What two types have below them in common, one has below the other. -/
theorem reaches_or_reaches {a b : NodeId} (ha : Relation.ReflTransGen h.Extends node a)
    (hb : Relation.ReflTransGen h.Extends node b) :
    Relation.ReflTransGen h.Extends a b ∨ Relation.ReflTransGen h.Extends b a := by
  refine Relation.ReflTransGen.total_of_right_unique ?_ ha hb
  intro x y z hy hz
  exact Option.some.inj (Eq.trans (Eq.symm hy) hz)

/-- Bases lead to one root only. -/
theorem roots_apart {a b : NodeId} (ha : h.baseOf a = none) (hb : h.baseOf b = none)
    (hna : Relation.ReflTransGen h.Extends node a)
    (hnb : Relation.ReflTransGen h.Extends node b) : a = b := by
  have hsame : ∀ a b, h.baseOf a = none → Relation.ReflTransGen h.Extends a b → a = b := by
    intro a b ha hreaches
    rcases Relation.ReflTransGen.cases_head hreaches with rfl | ⟨base, hbase, -⟩
    · rfl
    · rw [Extends, ha] at hbase
      cases hbase
  rcases reaches_or_reaches hna hnb with hab | hba
  · exact hsame a b ha hab
  · exact (hsame b a hb hba).symm

/-- Climbing from a type whose chain ends within the steps comes to the end of it. -/
theorem climb_of_baseChain {steps : Nat} {path : List NodeId}
    (hpath : BaseChain h.baseOf node path) (hlength : path.length ≤ steps + 1) :
    Relation.ReflTransGen h.Extends node (h.climb steps node) ∧
      h.baseOf (h.climb steps node) = none := by
  induction hpath generalizing steps with
  | @stop node hbase =>
      have hclimb : h.climb steps node = node := by cases steps <;> simp [climb, hbase]
      rw [hclimb]
      exact ⟨.refl, hbase⟩
  | @step node base path hbase tail ih =>
      obtain ⟨steps, rfl⟩ : ∃ rest, steps = rest + 1 := by
        have hpositive : 0 < path.length := by cases tail <;> simp
        rw [List.length_cons] at hlength
        exact ⟨steps - 1, by omega⟩
      obtain ⟨hreaches, htop⟩ := ih (by simpa using hlength)
      have hclimb : h.climb (steps + 1) node = h.climb steps base := by simp [climb, hbase]
      rw [hclimb]
      exact ⟨.head hbase hreaches, htop⟩

/-- Only a type that is not registered has no root. -/
theorem rootOf_eq_none_iff : h.rootOf node = none ↔ h.contains node = false := by
  rw [rootOf, ite_eq_right_iff, ← Bool.not_eq_true]
  simp

/-! ## Lists in pre-order -/

/-- Siblings with a list below each of them. -/
theorem preorder_flatMap {nodes : List NodeId} {below : NodeId → List NodeId}
    (hbelow : ∀ node ∈ nodes, h.Preorder (h.children node) (below node)) :
    h.Preorder nodes (nodes.flatMap fun node => node :: below node) := by
  induction nodes with
  | nil => exact .nil
  | cons node rest ih =>
      exact .cons (hbelow node List.mem_cons_self)
        (ih fun other hother => hbelow other (List.mem_cons_of_mem _ hother))

/-- **The stack.**  A walk visits pending types and all below them in pre-order, before it comes to
what is pending behind them. -/
theorem Preorder.visits {nodes out : List NodeId} (hout : h.Preorder nodes out)
    (pending visited : List NodeId) :
    h.Visits ⟨nodes ++ pending, visited⟩ ⟨pending, visited ++ out⟩ := by
  induction hout generalizing pending visited with
  | nil =>
      rw [List.nil_append, List.append_nil]
      exact .refl
  | @cons node siblings below after _ _ ihbelow ihafter =>
      have hstep : Visit.next? h ⟨node :: siblings ++ pending, visited⟩ =
          some ⟨h.children node ++ (siblings ++ pending), visited ++ [node]⟩ := rfl
      have hrest := (ihbelow (siblings ++ pending) (visited ++ [node])).trans
        (ihafter pending (visited ++ [node] ++ below))
      rw [List.append_assoc, List.append_assoc] at hrest
      exact .head hstep hrest

section Resolved

variable (hforest : Forest h.entries)
include hforest

/-- The children of a type are those that extend it. -/
theorem mem_children_iff : node ∈ h.children base ↔ h.Extends node base :=
  mem_children.trans (baseOf_eq_some_iff hforest.distinct).symm

/-- The roots are the registered types without a base. -/
theorem mem_roots_iff : node ∈ h.roots ↔ h.contains node = true ∧ h.baseOf node = none := by
  rw [mem_roots, isRoot_iff hforest.distinct, contains, isRegistered_iff]
  rfl

/-- A type that extends another is registered, and so is the other. -/
theorem contains_of_extends (hbase : h.Extends node base) :
    h.contains node = true ∧ h.contains base = true := by
  obtain ⟨entry, hentry, rfl, -⟩ := (baseOf_eq_some_iff hforest.distinct).1 hbase
  rw [contains, contains, isRegistered_iff, isRegistered_iff]
  exact ⟨List.mem_map_of_mem hentry, mem_of_baseOf hforest.distinct hforest.known hbase⟩

/-- Following bases neither enters nor leaves a resolved hierarchy. -/
theorem contains_eq_of_reaches (hreaches : Relation.ReflTransGen h.Extends node base) :
    h.contains node = h.contains base := by
  induction hreaches with
  | refl => rfl
  | tail _ hbase ih =>
      obtain ⟨hlower, hupper⟩ := contains_of_extends hforest hbase
      rw [ih, hlower, hupper]

/-- Every type of a resolved hierarchy has a chain of bases that ends, within its size. -/
theorem exists_baseChain (hnode : h.contains node = true) :
    ∃ path, BaseChain h.baseOf node path ∧ path.length ≤ h.size := by
  rw [contains, isRegistered_iff] at hnode
  obtain ⟨entry, hentry, rfl⟩ := List.mem_map.1 hnode
  obtain ⟨path, hpath⟩ := (rooted_iff_baseChain hforest.distinct hforest.known hnode).1
    (hforest.rooted entry hentry)
  exact ⟨path, hpath, length_le_of_baseChain hforest.distinct hforest.known hnode hpath⟩

/-- No type descends from itself. -/
theorem not_descends_self : ¬ h.Descends node node := by
  intro hcycle
  obtain ⟨base, hbase, -⟩ := Relation.TransGen.head'_iff.1 hcycle
  obtain ⟨path, hpath, -⟩ := exists_baseChain hforest (contains_of_extends hforest hbase).1
  exact hpath.irrefl hcycle

/-- What descends from a type is a child of it, or descends from one. -/
theorem exists_child_iff :
    (∃ child ∈ h.children root, Relation.ReflTransGen h.Extends node child) ↔
      h.Descends node root := by
  rw [Descends, Relation.TransGen.tail'_iff]
  simp only [mem_children_iff hforest, and_comm]

/-- **Listed is what descends.** -/
theorem Preorder.mem_iff {nodes out : List NodeId} (hout : h.Preorder nodes out) :
    node ∈ out ↔ ∃ top ∈ nodes, Relation.ReflTransGen h.Extends node top := by
  induction hout with
  | nil => simp
  | @cons top siblings below after _ _ ihbelow ihafter =>
      rw [List.mem_cons, List.mem_append, ihbelow, exists_child_iff hforest, ihafter, ← or_assoc,
        List.exists_mem_cons_iff, Relation.reflTransGen_iff_eq_or_transGen, eq_comm (a := top)]
      rfl

/-- No type descends from two children of one type. -/
theorem children_apart (parent : NodeId) : ∀ a ∈ h.children parent, ∀ b ∈ h.children parent,
    ∀ node, Relation.ReflTransGen h.Extends node a → Relation.ReflTransGen h.Extends node b →
      a = b := by
  have hsame : ∀ a b, h.Extends a parent → h.Extends b parent →
      Relation.ReflTransGen h.Extends a b → a = b := by
    intro a b ha hb hreaches
    rcases Relation.ReflTransGen.cases_head hreaches with rfl | ⟨base, hbase, hrest⟩
    · rfl
    · -- From `a` the chain goes on at the parent, so it would lead from `b` back to `b`.
      obtain rfl : base = parent := Option.some.inj (Eq.trans (Eq.symm hbase) ha)
      exact absurd (Relation.TransGen.head' hb hrest) (not_descends_self hforest)
  intro a ha b hb node hna hnb
  have ha := (mem_children_iff hforest).1 ha
  have hb := (mem_children_iff hforest).1 hb
  rcases reaches_or_reaches hna hnb with hab | hba
  · exact hsame a b ha hb hab
  · exact (hsame b a hb ha hba).symm

/-- **Listed once.**  Nothing is listed twice if no type descends from two of the siblings. -/
theorem Preorder.nodup {nodes out : List NodeId} (hout : h.Preorder nodes out)
    (hnodes : nodes.Nodup)
    (happart : ∀ a ∈ nodes, ∀ b ∈ nodes, ∀ node, Relation.ReflTransGen h.Extends node a →
      Relation.ReflTransGen h.Extends node b → a = b) : out.Nodup := by
  induction hout with
  | nil => exact .nil
  | @cons top siblings below after hbelow hafter ihbelow ihafter =>
      obtain ⟨htop, hsiblings⟩ := List.nodup_cons.1 hnodes
      have hunder : ∀ node ∈ below, h.Descends node top := fun _ hnode =>
        (exists_child_iff hforest).1 ((hbelow.mem_iff hforest).1 hnode)
      have hlater : ∀ node ∈ after, ¬ Relation.ReflTransGen h.Extends node top := by
        intro node hnode hreaches
        obtain ⟨other, hother, hreaches'⟩ := (hafter.mem_iff hforest).1 hnode
        have hsame := happart top List.mem_cons_self other (List.mem_cons_of_mem _ hother) node
          hreaches hreaches'
        exact htop (hsame ▸ hother)
      refine List.nodup_cons.2 ⟨?_, List.nodup_append'.2 ⟨?_, ?_, ?_⟩⟩
      · intro hmem
        rcases List.mem_append.1 hmem with hmem | hmem
        · exact not_descends_self hforest (hunder top hmem)
        · exact hlater top hmem .refl
      · exact ihbelow (withBase_nodup hforest.distinct _) (children_apart hforest top)
      · exact ihafter hsiblings fun a ha b hb =>
          happart a (List.mem_cons_of_mem _ ha) b (List.mem_cons_of_mem _ hb)
      · intro node hmem hmem'
        exact hlater node hmem' (hunder node hmem).to_reflTransGen

/-- **Walks are complete.**  The levels a walk goes down are enough: the chain of a type that deep
would be longer than the hierarchy has types. -/
theorem preorder_descendants {levels : Nat} {path : List NodeId}
    (hpath : BaseChain h.baseOf root path) (hlevels : h.size ≤ levels + path.length) :
    h.Preorder (h.children root) (h.descendants levels root) := by
  induction levels generalizing root path with
  | zero =>
      have hleaf : h.children root = [] := by
        rw [List.eq_nil_iff_forall_not_mem]
        intro child hchild
        have hbase := (mem_children_iff hforest).1 hchild
        obtain ⟨longer, hlonger, hlength⟩ :=
          exists_baseChain hforest (contains_of_extends hforest hbase).1
        rw [← BaseChain.unique (.step hbase hpath) hlonger, List.length_cons] at hlength
        omega
      rw [hleaf]
      exact .nil
  | succ levels ih =>
      refine preorder_flatMap fun child hchild => ?_
      have hbase := (mem_children_iff hforest).1 hchild
      exact ih (.step hbase hpath) (by rw [List.length_cons]; omega)

/-- A type that is not registered has no children. -/
theorem children_eq_nil (hroot : h.contains root = false) : h.children root = [] := by
  rw [List.eq_nil_iff_forall_not_mem]
  intro child hchild
  have hknown := (contains_of_extends hforest ((mem_children_iff hforest).1 hchild)).2
  rw [hroot] at hknown
  cases hknown

/-- So nothing is met below it. -/
theorem walk_eq_nil (hroot : h.contains root = false) : h.walk root = [] := by
  rw [walk]
  cases h.size with
  | zero => rfl
  | succ levels => rw [descendants, children_eq_nil hforest hroot, List.flatMap_nil]

/-- A walk meets every type before those below it. -/
theorem preorder_walk (root : NodeId) : h.Preorder (h.children root) (h.walk root) := by
  cases hroot : h.contains root with
  | false =>
      rw [children_eq_nil hforest hroot, walk_eq_nil hforest hroot]
      exact .nil
  | true =>
      obtain ⟨path, hpath, -⟩ := exists_baseChain hforest hroot
      exact preorder_descendants hforest hpath (Nat.le_add_right _ _)

/-- All trees, one after the other. -/
theorem preorder_trees :
    h.Preorder h.roots (h.roots.flatMap fun root => root :: h.walk root) :=
  preorder_flatMap fun root _ => preorder_walk hforest root

/-- A walk meets exactly the types below its root. -/
theorem mem_walk_iff : node ∈ h.walk root ↔ h.Descends node root :=
  ((preorder_walk hforest root).mem_iff hforest).trans (exists_child_iff hforest)

/-! ## Roots -/

/-- **Roots are found.**  The root of a type is where following bases comes to an end. -/
theorem exists_rootOf (hnode : h.contains node = true) :
    ∃ root, h.rootOf node = some root ∧ Relation.ReflTransGen h.Extends node root ∧
      h.baseOf root = none := by
  obtain ⟨path, hpath, hlength⟩ := exists_baseChain hforest hnode
  exact ⟨_, by rw [rootOf, if_pos hnode], climb_of_baseChain hpath (Nat.le_succ_of_le hlength)⟩

/-- With the root itself, these are the types from which bases lead to it. -/
theorem reaches_iff_eq_or_mem_walk :
    Relation.ReflTransGen h.Extends node root ↔ node = root ∨ node ∈ h.walk root := by
  rw [Relation.reflTransGen_iff_eq_or_transGen, mem_walk_iff hforest, eq_comm (a := root)]
  rfl

/-- The root of a type is the one whose tree the type is in. -/
theorem rootOf_eq_some_iff :
    h.rootOf node = some root ↔ root ∈ h.roots ∧ (node = root ∨ node ∈ h.walk root) := by
  rw [mem_roots_iff hforest, ← reaches_iff_eq_or_mem_walk hforest]
  constructor
  · intro hfound
    have hnode : h.contains node = true := by
      by_contra hmissing
      rw [Bool.not_eq_true, ← rootOf_eq_none_iff] at hmissing
      rw [hmissing] at hfound
      cases hfound
    obtain ⟨top, htop, hreaches, hbase⟩ := exists_rootOf hforest hnode
    rw [hfound, Option.some.injEq] at htop
    subst htop
    exact ⟨⟨contains_eq_of_reaches hforest hreaches ▸ hnode, hbase⟩, hreaches⟩
  · rintro ⟨⟨hroot, hbase⟩, hreaches⟩
    have hnode := (contains_eq_of_reaches hforest hreaches).trans hroot
    obtain ⟨top, htop, hreaches', hbase'⟩ := exists_rootOf hforest hnode
    rw [htop, roots_apart hbase' hbase hreaches' hreaches]

/-- **Trees partition the types.** -/
theorem trees_perm :
    (h.roots.flatMap fun root => root :: h.walk root).Perm (h.entries.map Registration.node) := by
  have htrees := preorder_trees hforest
  have hnodup := htrees.nodup hforest (withBase_nodup hforest.distinct none)
    fun a ha b hb _ hna hnb =>
      roots_apart ((mem_roots_iff hforest).1 ha).2 ((mem_roots_iff hforest).1 hb).2 hna hnb
  refine (List.perm_ext_iff_of_nodup hnodup hforest.distinct).2 fun node => ?_
  rw [htrees.mem_iff hforest, ← isRegistered_iff]
  change _ ↔ h.contains node = true
  constructor
  · rintro ⟨root, hroot, hreaches⟩
    exact (contains_eq_of_reaches hforest hreaches).trans ((mem_roots_iff hforest).1 hroot).1
  · intro hnode
    obtain ⟨root, -, hreaches, hbase⟩ := exists_rootOf hforest hnode
    have hroot := contains_eq_of_reaches hforest hreaches ▸ hnode
    exact ⟨root, (mem_roots_iff hforest).2 ⟨hroot, hbase⟩, hreaches⟩

end Resolved

/-- A walk from a type: it ends, in pre-order, and visits once whatever descends from the type. -/
structure Walks (h : Hierarchy) (root : NodeId) : Prop where
  preorder : h.Preorder (h.children root) (h.walk root)
  /-- With a stack of pending types, nothing is pending in the end. -/
  stack : h.Visits ⟨h.children root, []⟩ ⟨[], h.walk root⟩
  mem_iff : ∀ node, node ∈ h.walk root ↔ h.Descends node root
  nodup : (h.walk root).Nodup

/-- **Walks enumerate the descendants.**  In a resolved hierarchy every walk ends and lists what
descends from a type, in pre-order with siblings in order, each type once.  Every type has one root,
where following its bases ends, and it is in the tree of that root; the trees of all roots together
have every registered type once. -/
theorem walks_enumerate {xs : List Registration} {h : Hierarchy} (hbuild : build xs = .ok h) :
    (∀ root, h.Walks root ∧ InSiblingOrder xs (h.children root)) ∧
    (∀ root, h.contains root = false → h.walk root = []) ∧
    (∀ node, h.rootOf node = none ↔ h.contains node = false) ∧
    (∀ node, h.contains node = true → ∃ root, h.rootOf node = some root ∧
      Relation.ReflTransGen h.Extends node root ∧ h.baseOf root = none) ∧
    (∀ node root, h.rootOf node = some root ↔
      root ∈ h.roots ∧ (node = root ∨ node ∈ h.walk root)) ∧
    (h.roots.flatMap fun root => root :: h.walk root).Perm (xs.map Registration.node) := by
  obtain ⟨hforest, hperm⟩ := forest_of_build hbuild
  refine ⟨?_, fun root => walk_eq_nil hforest, fun node => rootOf_eq_none_iff,
    fun node => exists_rootOf hforest, fun node root => rootOf_eq_some_iff hforest,
    (trees_perm hforest).trans (hperm.map Registration.node)⟩
  intro root
  have hpreorder := preorder_walk hforest root
  refine ⟨⟨hpreorder, ?_, fun node => mem_walk_iff hforest, ?_⟩,
    (describes_of_build hbuild).children_inOrder root⟩
  · simpa using hpreorder.visits [] []
  · exact hpreorder.nodup hforest (withBase_nodup hforest.distinct _) (children_apart hforest root)

/-- In the two trees, the walk from the root 9 goes down to 2 before it comes to 7. -/
theorem twoTrees_walks_enumerate :
    ∃ h, build twoTrees = .ok h ∧ (h.Walks 9 ∧ h.walk 9 = [5, 2, 7]) ∧ h.walk 3 = [] ∧
      h.rootOf 2 = some 9 ∧ h.rootOf 3 = none ∧
      (h.roots.flatMap fun root => root :: h.walk root).Perm [5, 4, 7, 2, 9] := by
  have hbuild : build twoTrees = .ok ⟨byNumber twoTrees⟩ := by decide
  obtain ⟨hwalks, hunknown, hnone, -, hroot, htrees⟩ := walks_enumerate hbuild
  exact ⟨_, hbuild, ⟨(hwalks 9).1, by decide⟩, hunknown 3 (by decide),
    (hroot 2 9).2 ⟨by decide, by decide⟩, (hnone 3).2 (by decide), htrees⟩

end Hierarchy

end ServiceContract
