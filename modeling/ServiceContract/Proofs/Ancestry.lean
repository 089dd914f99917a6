import ServiceContract.Proofs.Composition
import ServiceContract.Proofs.Sorting
import ServiceContract.Proofs.WellFormed

/-!
# The hierarchy of a catalog

The types of a catalog stand in two tiers.  The message base and the markers of fault carriers have
no base, and every other type descends directly from one of them.  `Tiered` says so of a list of
nodes, and that each node is numbered by its place.

Nodes in two tiers always form a hierarchy (`Hierarchy.build_of_tiered`), and whatever the
operations of a contract are, its nodes stand in two tiers (`Contract.assembly_tiered`).  So no
compilation fails over its hierarchy: `Contract.compile_of_allocate`.

In the hierarchy of such nodes a walk goes down one level (`Tiered.walk_eq`), and a root is reached
in at most one step (`Tiered.rootOf_eq`).
-/

namespace ServiceContract

/-- In a list without repeated keys, the first element with the key of another one is that one. -/
theorem find?_of_nodup_map {α β : Type} [DecidableEq β] {key : α → β} {items : List α}
    (hnodup : (items.map key).Nodup) {a : α} (ha : a ∈ items) :
    (items.find? fun b => key b = key a) = some a := by
  cases hfound : items.find? fun b => key b = key a with
  | none =>
      have hdiffers := List.find?_eq_none.1 hfound a ha
      simp at hdiffers
  | some b =>
      have hkey : key b = key a := by simpa using List.find?_some hfound
      rw [List.inj_on_of_nodup_map hnodup (List.mem_of_find?_eq_some hfound) ha hkey]

/-- Nodes in two tiers. -/
structure Tiered (nodes : List Node) : Prop where
  /-- Each node is numbered by its place. -/
  ids : nodes.map Node.id = List.range' 0 nodes.length
  /-- The base of a node stands among the nodes and has no base itself. -/
  base_root : ∀ node ∈ nodes, ∀ base, node.base = some base →
    ∃ root, nodes[base]? = some root ∧ root.base = none

namespace Tiered

variable {nodes : List Node} (h : Tiered nodes)
include h

/-- The number of a node is its place. -/
theorem id_eq {i : Nat} {node : Node} (hnode : nodes[i]? = some node) : node.id = i := by
  obtain ⟨hi, -⟩ := List.getElem?_eq_some_iff.1 hnode
  have hid : (nodes.map Node.id)[i]? = some node.id := by rw [List.getElem?_map, hnode]; rfl
  rw [h.ids, List.getElem?_range' hi] at hid
  simpa using hid.symm

theorem getElem?_id {node : Node} (hnode : node ∈ nodes) : nodes[node.id]? = some node := by
  obtain ⟨i, hi⟩ := List.mem_iff_getElem?.1 hnode
  rwa [h.id_eq hi]

/-- Looking for a number finds the node at that place. -/
theorem find?_registration (id : NodeId) :
    (nodes.map Node.registration).find? (fun entry => entry.node = id) =
      nodes[id]?.map Node.registration := by
  rw [List.find?_map]
  congr 1
  cases hnode : nodes[id]? with
  | none =>
      rw [List.find?_eq_none]
      intro node hmem hid
      have heq : node.id = id := of_decide_eq_true hid
      rw [← heq, h.getElem?_id hmem] at hnode
      cases hnode
  | some node =>
      cases hfound : nodes.find? ((fun entry => decide (entry.node = id)) ∘ Node.registration) with
      | none =>
          have := List.find?_eq_none.1 hfound node (List.mem_of_getElem? hnode)
          exact absurd (decide_eq_true (h.id_eq hnode)) this
      | some found =>
          have htrue := List.find?_some hfound
          have heq : found.id = id := of_decide_eq_true htrue
          have hplace := h.getElem?_id (List.mem_of_find?_eq_some hfound)
          rw [heq, hnode] at hplace
          exact hplace.symm

/-- The base of a registration is that of the node. -/
theorem baseOf_registration (id : NodeId) :
    Registration.baseOf (nodes.map Node.registration) id = nodes[id]?.bind Node.base := by
  rw [Registration.baseOf, h.find?_registration]
  cases nodes[id]? <;> rfl

/-- Every node is registered. -/
theorem isRegistered_registration {id : NodeId} {node : Node} (hnode : nodes[id]? = some node) :
    Registration.isRegistered (nodes.map Node.registration) id = true := by
  rw [Registration.isRegistered, List.any_map, List.any_eq_true]
  exact ⟨node, List.mem_of_getElem? hnode, decide_eq_true (h.id_eq hnode)⟩

end Tiered

namespace Registration

/-- The first repeated number, by what repeats in a list. -/
theorem firstRepeated_eq (seen : List NodeId) (entries : List Registration) :
    firstRepeated seen entries = (repeats node seen entries).head?.map node := by
  induction entries generalizing seen with
  | nil => rfl
  | cons entry rest ih =>
      by_cases hseen : entry.node ∈ seen <;> simp [firstRepeated, repeats, hseen, ih]

/-- Nothing is registered twice exactly if the numbers are new and differ from each other. -/
theorem firstRepeated_eq_none_iff {seen : List NodeId} {entries : List Registration} :
    firstRepeated seen entries = none ↔
      (entries.map node).Nodup ∧ ∀ entry ∈ entries, entry.node ∉ seen := by
  rw [firstRepeated_eq, Option.map_eq_none_iff, List.head?_eq_none_iff, repeats_eq_nil_iff]

/-- A chain that is at its end does not go on. -/
theorem goesOn_of_baseOf_eq_none {entries : List Registration} {node current : NodeId}
    (h : baseOf entries current = none) (steps : Nat) :
    goesOn entries node steps current = false := by
  cases steps <;> simp [goesOn, h]

end Registration

open Registration in
/-- **Two tiers form a hierarchy.**  Every check of the registrations passes, and they are in order
already. -/
theorem Hierarchy.build_of_tiered {nodes : List Node} (h : Tiered nodes) :
    Hierarchy.build (nodes.map Node.registration) = .ok ⟨nodes.map Node.registration⟩ := by
  have hids : (nodes.map Node.registration).map Registration.node = List.range' 0 nodes.length := by
    rw [List.map_map, ← h.ids]
    rfl
  have hrepeated : firstRepeated [] (nodes.map Node.registration) = none :=
    firstRepeated_eq_none_iff.2 ⟨hids ▸ List.nodup_range', by simp⟩
  have hsorted : stableSort (fun a b => a.node ≤ b.node) (nodes.map Node.registration) =
      nodes.map Node.registration := by
    apply stableSort_of_pairwise
    have hascending : ((nodes.map Node.registration).map Registration.node).Pairwise (· < ·) :=
      hids ▸ List.pairwise_lt_range'
    exact (List.pairwise_map.1 hascending).imp fun hlt => decide_eq_true (Nat.le_of_lt hlt)
  have hknown : firstUnknownBase (nodes.map Node.registration) = none := by
    rw [firstUnknownBase, List.findSome?_eq_none_iff]
    intro entry hentry
    obtain ⟨node, hnode, rfl⟩ := List.mem_map.1 hentry
    cases hbase : node.base with
    | none => simp [Node.registration, hbase]
    | some base =>
        obtain ⟨root, hroot, -⟩ := h.base_root node hnode base hbase
        simp [Node.registration, hbase, h.isRegistered_registration hroot]
  have hends : firstEndless (nodes.map Node.registration) = none := by
    rw [firstEndless, List.find?_eq_none]
    intro start _
    cases hsteps : (nodes.map Node.registration).length with
    | zero => simp [List.length_eq_zero_iff.1 hsteps, goesOn, Registration.baseOf]
    | succ steps =>
        -- The chain has at most one step, and it does not lead back: the base has no base.
        cases hbase : Registration.baseOf (nodes.map Node.registration) start with
        | none => simp [goesOn_of_baseOf_eq_none hbase]
        | some base =>
            have hstart := hbase
            rw [h.baseOf_registration] at hstart
            obtain ⟨node, hnode, hnodeBase⟩ := Option.bind_eq_some_iff.1 hstart
            obtain ⟨root, hroot, hrootBase⟩ :=
              h.base_root node (List.mem_of_getElem? hnode) base hnodeBase
            have htop : Registration.baseOf (nodes.map Node.registration) base = none := by
              rw [h.baseOf_registration, hroot, Option.bind_some, hrootBase]
            have hne : base ≠ start := by
              rintro rfl
              rw [hbase] at htop
              cases htop
            simp [goesOn, hbase, hne, goesOn_of_baseOf_eq_none htop]
  simp only [build, hrepeated, hsorted, hknown, hends]

section Assembled

/-- Consecutive drafts get consecutive numbers. -/
theorem Draft.map_id_finalizeFrom (qualifier : String) (first : NodeId) (drafts : List Draft) :
    (finalizeFrom qualifier first drafts).map Node.id = List.range' first drafts.length := by
  rw [finalizeFrom, List.map_map]
  exact List.zipIdx_map_snd first drafts

/-- A run keeps the nodes numbered by their places. -/
theorem Assembly.foldl_step_ids (c : Contract) (a : Assembly) (candidates : List Candidate)
    (h : a.nodes.map Node.id = List.range' 0 a.nodes.length) :
    (candidates.foldl (step c) a).nodes.map Node.id =
      List.range' 0 (candidates.foldl (step c) a).nodes.length := by
  induction candidates generalizing a with
  | nil => exact h
  | cons candidate rest ih =>
      apply ih
      obtain ⟨-, -, -, hstep⟩ | ⟨-, problems, hstep⟩ := step_cases c a candidate
      · rw [hstep, takeIn, List.map_append, h, Draft.map_id_finalizeFrom, List.length_append,
          Draft.length_finalizeFrom, ← List.range'_append_1, Nat.zero_add]
      · rw [hstep, leaveOut, h]

variable {c : Contract} {keys : KeyTable}

/-- The nodes of an assembled contract: those that every catalog starts with, then those of each
placed operation. -/
theorem Contract.assembly_nodes :
    (c.assembly keys).nodes = Draft.finalizeFrom c.qualifiedName 0 c.systemDrafts ++
      (c.placements keys).flatMap (Placement.nodes c) :=
  Assembly.foldl_step_nodes c (Assembly.start c) _

/-- The message base comes first in the catalog. -/
theorem Contract.getElem?_assembly_messageBase :
    (c.assembly keys).nodes[messageBase]? = some (c.baseDraft.finalize 0 c.qualifiedName) := by
  rw [assembly_nodes]
  rfl

/-- The node of an assembled contract is its message base, one of its messages, or belongs to the
faults of a placed operation. -/
theorem Contract.mem_assembly_nodes {node : Node} (h : node ∈ (c.assembly keys).nodes) :
    ∃ draft id, node = draft.finalize id c.qualifiedName ∧
      (draft = c.baseDraft ∨ draft.IsMessage ∨
        ∃ p ∈ c.placements keys,
          (p.drafts c)[2]? =
            some (p.candidate.operation.markerDraft p.candidate.index (p.first + 2)) ∧
          (draft = p.candidate.operation.markerDraft p.candidate.index (p.first + 2) ∨
            ∃ fault ∈ p.candidate.operation.faults,
              draft =
                p.candidate.operation.carrierDraft p.candidate.index (p.first + 2) fault)) := by
  rw [assembly_nodes, List.mem_append] at h
  rcases h with h | h
  · obtain ⟨draft, hdraft, id, rfl⟩ := Draft.mem_finalizeFrom h
    refine ⟨draft, id, rfl, ?_⟩
    rcases List.mem_cons.1 hdraft with rfl | hdraft
    · exact .inl rfl
    · obtain ⟨message, -, rfl⟩ := List.mem_map.1 hdraft
      exact .inr (.inl message.isMessage_draft)
  · obtain ⟨p, hp, hnode⟩ := List.mem_flatMap.1 h
    obtain ⟨draft, hdraft, id, rfl⟩ := Draft.mem_finalizeFrom hnode
    refine ⟨draft, id, rfl, .inr ?_⟩
    obtain hmessage | ⟨hmarker, hfault⟩ := Operation.mem_drafts c _ _ _ hdraft
    · exact .inl hmessage
    · exact .inr ⟨p, hp, hmarker, hfault⟩

/-- The marker of a placed operation stands at its number. -/
theorem Contract.getElem?_assembly_marker {p : Placement} (hp : p ∈ c.placements keys)
    (hmarker : (p.drafts c)[2]? =
      some (p.candidate.operation.markerDraft p.candidate.index (p.first + 2))) :
    (c.assembly keys).nodes[p.first + 2]? =
      some ((p.candidate.operation.markerDraft p.candidate.index (p.first + 2)).finalize
        (p.first + 2) c.qualifiedName) := by
  obtain ⟨hlt, -⟩ := List.getElem?_eq_some_iff.1 hmarker
  have hplaced := Assembly.getElem?_nodes_of_placed hp hlt
  rw [Placement.nodes, Draft.getElem?_finalizeFrom, hmarker] at hplaced
  exact hplaced

/-- **Catalogs have two tiers**, whatever operations were left out. -/
theorem Contract.assembly_tiered : Tiered (c.assembly keys).nodes where
  ids := Assembly.foldl_step_ids c (Assembly.start c) _ rfl
  base_root := by
    intro node hnode base hbase
    obtain ⟨draft, id, rfl, rfl | hmessage | ⟨p, hp, hmarker, rfl | ⟨fault, -, rfl⟩⟩⟩ :=
      mem_assembly_nodes hnode
    · cases hbase
    · have hroot : some messageBase = some base := hmessage.base_eq.symm.trans hbase
      cases hroot
      exact ⟨_, getElem?_assembly_messageBase, rfl⟩
    · cases hbase
    · cases hbase
      exact ⟨_, getElem?_assembly_marker hp hmarker, rfl⟩

/-- **What can fail.**  A contract that is not rejected and whose keys are allocated is compiled. -/
theorem Contract.compile_of_allocate {options : Options} (habort : c.abort? = none)
    (hkeys : KeyTable.allocate c options = .ok keys) :
    c.compile options = .ok (c.plan options keys (c.assembly keys)
      ⟨(c.assembly keys).nodes.map Node.registration⟩) := by
  simp only [compile, habort, hkeys, Hierarchy.build_of_tiered assembly_tiered]

end Assembled

namespace Compiled

variable {c : Contract} {options : Options} {compiled : Compiled}

/-- The catalog of a compiled contract has two tiers. -/
theorem tiered (h : c.compile options = .ok compiled) : Tiered compiled.catalog.nodes := by
  rw [Contract.compile_catalog h]
  exact Contract.assembly_tiered

/-- Its hierarchy consists of the nodes as they are registered. -/
theorem hierarchy_eq (h : c.compile options = .ok compiled) :
    compiled.hierarchy = ⟨compiled.catalog.nodes.map Node.registration⟩ := by
  obtain ⟨-, -, hierarchy, hbuild, hplan⟩ := Contract.compile_ok h
  rw [Hierarchy.build_of_tiered Contract.assembly_tiered, Except.ok.injEq] at hbuild
  rw [Contract.compile_catalog h, hplan]
  exact hbuild.symm

end Compiled

namespace Tiered

variable {nodes : List Node}

/-- The nodes that descend directly from `root`, in sibling order. -/
def below (nodes : List Node) (root : NodeId) : List Node :=
  stableSort (fun a b => a.registration.before b.registration)
    (nodes.filter fun node => node.base = some root)

/-- The nodes below another are those that have it as their base. -/
theorem mem_below {root : NodeId} {node : Node} :
    node ∈ below nodes root ↔ node ∈ nodes ∧ node.base = some root := by
  rw [below, (stableSort_perm _).mem_iff, List.mem_filter, decide_eq_true_eq]

/-- The children in the hierarchy are the nodes below, in their order. -/
theorem children_eq (root : NodeId) :
    Hierarchy.children ⟨nodes.map Node.registration⟩ root = (below nodes root).map Node.id := by
  rw [Hierarchy.children, Hierarchy.withBase, List.filter_map, stableSort_map, List.map_map]
  rfl

/-- **Walks are short.**  Nothing descends from a node that has a base. -/
theorem walk_eq (h : Tiered nodes) (root : NodeId) :
    Hierarchy.walk ⟨nodes.map Node.registration⟩ root = (below nodes root).map Node.id := by
  have hleaf : ∀ node ∈ nodes, node.base ≠ none →
      Hierarchy.children ⟨nodes.map Node.registration⟩ node.id = [] := by
    intro node hnode hbase
    rw [children_eq, List.map_eq_nil_iff, List.eq_nil_iff_forall_not_mem]
    intro child hchild
    obtain ⟨hmem, hchildBase⟩ := mem_below.1 hchild
    obtain ⟨top, htop, htopBase⟩ := h.base_root child hmem node.id hchildBase
    rw [h.getElem?_id hnode, Option.some.injEq] at htop
    exact hbase (htop ▸ htopBase)
  have hdescendants : ∀ levels, ∀ node ∈ nodes, node.base ≠ none →
      Hierarchy.descendants ⟨nodes.map Node.registration⟩ levels node.id = [] := by
    intro levels node hnode hbase
    cases levels with
    | zero => rfl
    | succ levels => rw [Hierarchy.descendants, hleaf node hnode hbase, List.flatMap_nil]
  rw [Hierarchy.walk]
  cases hsize : Hierarchy.size ⟨nodes.map Node.registration⟩ with
  | zero =>
      have hnil : nodes = [] := by simpa [Hierarchy.size] using hsize
      subst hnil
      rfl
  | succ levels =>
      rw [Hierarchy.descendants, children_eq, List.flatMap_map]
      have hsingle : ∀ node ∈ below nodes root,
          node.id :: Hierarchy.descendants ⟨nodes.map Node.registration⟩ levels node.id =
            [node.id] := by
        intro node hnode
        obtain ⟨hmem, hbase⟩ := mem_below.1 hnode
        rw [hdescendants levels node hmem (by simp [hbase])]
      rw [List.flatMap_congr hsingle, List.map_eq_flatMap]

/-- **Roots are near.**  A node without a base is its own root, and the base of any other is its
root. -/
theorem rootOf_eq (h : Tiered nodes) {node : Node} (hnode : node ∈ nodes) :
    Hierarchy.rootOf ⟨nodes.map Node.registration⟩ node.id = some (node.base.getD node.id) := by
  have hbaseOf : ∀ id, Hierarchy.baseOf ⟨nodes.map Node.registration⟩ id =
      nodes[id]?.bind Node.base :=
    h.baseOf_registration
  have htop : ∀ steps id, nodes[id]?.bind Node.base = none →
      Hierarchy.climb ⟨nodes.map Node.registration⟩ steps id = id := by
    intro steps id hnone
    cases steps with
    | zero => rfl
    | succ steps => rw [Hierarchy.climb, hbaseOf, hnone]
  have hcontains : Hierarchy.contains ⟨nodes.map Node.registration⟩ node.id = true :=
    h.isRegistered_registration (h.getElem?_id hnode)
  obtain ⟨size, hsize⟩ : ∃ size, Hierarchy.size ⟨nodes.map Node.registration⟩ = size + 1 := by
    have hpos : 0 < nodes.length := List.length_pos_of_mem hnode
    exact ⟨nodes.length - 1, by simp only [Hierarchy.size, List.length_map]; omega⟩
  rw [Hierarchy.rootOf, if_pos hcontains, hsize, Hierarchy.climb, hbaseOf, h.getElem?_id hnode,
    Option.bind_some]
  cases hbase : node.base with
  | none => rfl
  | some base =>
      obtain ⟨root, hroot, hrootBase⟩ := h.base_root node hnode base hbase
      exact congrArg some (htop size base (by rw [hroot, Option.bind_some, hrootBase]))

end Tiered

end ServiceContract
