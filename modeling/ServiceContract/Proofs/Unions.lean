import Mathlib.Data.List.Forall2
import ServiceContract.Proofs.Ancestry
import ServiceContract.Proofs.Routing

/-!
# Unions are complete and exact

The adapter of a serializer declares one union for all messages and one for the faults of each
operation.  They are not copied from the catalog but found by walking the hierarchy, which sorts
siblings by rank.  Nevertheless each is exactly what the catalog says: `Union.Lists` fixes the root
of a union and its members, and that their tags ascend.

A walk from a root gives the nodes that name it as their base.  For the message base these are the
nodes with a key (`Compiled.filter_base_messageBase`), and for the marker of an operation the
carriers of its faults (`Compiled.filter_base_marker`).
-/

namespace ServiceContract

/-- The union has the given root and the given members, each of them once, in strictly ascending
order of their tags. -/
structure Union.Lists (union : Union) (root : NodeId) (members : List UnionMember) : Prop where
  root_eq : union.root = root
  members_perm : union.members.Perm members
  tags_ascend : (union.members.map UnionMember.tag).Pairwise (· < ·)

/-- A node that travels on the wire as a member, under its key. -/
def Node.message? (node : Node) : Option UnionMember :=
  node.key.map fun key => ⟨node.id, node.name, key⟩

/-- A fault carrier as a member, under the declared key of its fault. -/
def Catalog.carrierMember (catalog : Catalog) (carrier : FaultCarrier) : UnionMember :=
  ⟨carrier.node, catalog.name carrier.node, carrier.faultKey⟩

/-- A member is told apart by the rank of its node. -/
theorem Node.tag_of_member? {node : Node} {member : UnionMember} (h : node.member? = some member) :
    member.tag = node.rank := by
  unfold member? at h
  split at h
  · cases h
  · obtain ⟨tag, htag, rfl⟩ := Option.map_eq_some_iff.1 h
    unfold rank
    cases hkey : node.key with
    | some key => simpa [hkey] using htag.symm
    | none =>
        rw [hkey, Option.none_or] at htag
        rw [htag]

namespace Registration

/-- Of two registrations one comes before the other. -/
theorem before_total (a b : Registration) : a.before b = true ∨ b.before a = true := by
  simp only [before, Bool.or_eq_true, Bool.and_eq_true, decide_eq_true_eq]
  rcases Nat.lt_trichotomy a.rank b.rank with hrank | hrank | hrank
  · exact .inl (.inl hrank)
  · exact (Nat.le_total a.node b.node).imp (fun hnode => .inr ⟨hrank, hnode⟩)
      (fun hnode => .inr ⟨hrank.symm, hnode⟩)
  · exact .inr (.inl hrank)

/-- The order of registrations is transitive. -/
theorem before_trans {a b c : Registration} (hab : a.before b = true) (hbc : b.before c = true) :
    a.before c = true := by
  simp only [before, Bool.or_eq_true, Bool.and_eq_true, decide_eq_true_eq] at *
  rcases hab with hab | ⟨hab, hnode⟩ <;> rcases hbc with hbc | ⟨hbc, hnode'⟩
  · exact .inl (Nat.lt_trans hab hbc)
  · exact .inl (hbc ▸ hab)
  · exact .inl (hab ▸ hbc)
  · exact .inr ⟨hab.trans hbc, Nat.le_trans hnode hnode'⟩

/-- What comes before has no greater rank. -/
theorem rank_le_of_before {a b : Registration} (h : a.before b = true) : a.rank ≤ b.rank := by
  simp only [before, Bool.or_eq_true, Bool.and_eq_true, decide_eq_true_eq] at h
  exact h.elim Nat.le_of_lt fun hrank => Nat.le_of_eq hrank.1

end Registration

/-- Siblings stand in ascending order of their ranks. -/
theorem Tiered.below_pairwise_rank (nodes : List Node) (root : NodeId) :
    (below nodes root).Pairwise fun a b => a.rank ≤ b.rank := by
  have hsorted : (below nodes root).Pairwise
      fun a b => a.registration.before b.registration = true :=
    stableSort_pairwise
      (fun a b : Node => Registration.before_total a.registration b.registration)
      (fun _ _ _ => Registration.before_trans) _
  exact hsorted.imp Registration.rank_le_of_before

namespace Operation

variable (c : Contract) (index : Nat) (op : Operation) (first : NodeId)

/-- The drafts of an operation that declares faults: between its messages stand the marker and the
carriers. -/
theorem drafts_of_faults (hone : op.kind.isOneWay = false) (hfaults : op.faults ≠ [])
    (key : MessageKey) :
    ∃ front back, op.drafts c index (op.keysFrom key) first =
        front ++ op.markerDraft index (first + 2) ::
          (op.faults.map (op.carrierDraft index (first + 2)) ++ back) ∧
      front.length = 2 ∧ ∀ draft ∈ front ++ back, draft.base = some messageBase := by
  have hpage : ∀ role key item, ∀ draft ∈ op.pageDrafts c index role key item,
      draft.base = some messageBase := by
    intro role key item draft hdraft
    unfold pageDrafts at hdraft
    split at hdraft
    · rw [List.mem_singleton.1 hdraft]
      rfl
    · cases hdraft
  cases hkeys : op.keysFrom key with
  | oneWay message => simp [keysFrom, hone] at hkeys
  | request keys =>
      refine ⟨[op.requestDraft c index keys.request, op.responseDraft c index keys.response],
        op.faultDraft c index keys.fault (some (first + 2)) ::
          (op.pageDrafts c index .inputPage keys.inputPage op.inputStream ++
            op.pageDrafts c index .outputPage keys.outputPage op.outputStream), ?_, rfl, ?_⟩
      · simp [drafts, requestDrafts, hfaults, faultDrafts]
      · intro draft hdraft
        simp only [List.mem_append, List.mem_cons, List.not_mem_nil, or_false] at hdraft
        rcases hdraft with (rfl | rfl) | rfl | hdraft | hdraft
        · rfl
        · rfl
        · rfl
        · exact hpage _ _ _ _ hdraft
        · exact hpage _ _ _ _ hdraft

/-- The carriers of a fault set, in the order of declaration. -/
theorem carriers_perm (marker : NodeId) :
    (op.faultSet c index marker).carriers.Perm
      ((op.faults.zipIdx (marker + 1)).map fun entry =>
        ⟨entry.2, entry.1.key, entry.1.payload, c.specificity entry.1.payload⟩) :=
  stableSort_perm _

end Operation

/-- A carrier is that of a declared fault, numbered after the marker. -/
theorem Operation.exists_of_mem_carriers {c : Contract} {index : Nat} {op : Operation}
    {marker : NodeId} {carrier : FaultCarrier}
    (h : carrier ∈ (op.faultSet c index marker).carriers) :
    ∃ entry ∈ op.faults.zipIdx (marker + 1), carrier =
      ⟨entry.2, entry.1.key, entry.1.payload, c.specificity entry.1.payload⟩ := by
  obtain ⟨entry, hentry, heq⟩ := List.mem_map.1 ((op.carriers_perm c index marker).mem_iff.1 h)
  exact ⟨entry, hentry, heq.symm⟩

namespace Placement

variable {c : Contract}

/-- Placements that follow each other have ascending first numbers. -/
theorem Chain.pairwise_first {next : NodeId} {placements : List Placement}
    (h : Chain c next placements) :
    (∀ p ∈ placements, next ≤ p.first) ∧ placements.Pairwise fun p q => p.first < q.first := by
  induction placements generalizing next with
  | nil => simp
  | cons p rest ih =>
      obtain ⟨rfl, hrest⟩ := h
      obtain ⟨hge, hpairwise⟩ := ih hrest
      have hpos : 0 < (p.drafts c).length := by
        obtain ⟨draft, drafts, hdrafts, -⟩ := Operation.head_drafts c p.candidate.index
          p.candidate.operation p.candidate.keys p.first
        change p.drafts c = draft :: drafts at hdrafts
        simp [hdrafts]
      have hend : p.first < p.first + (p.drafts c).length := Nat.lt_add_of_pos_right hpos
      have hlater : ∀ q ∈ rest, p.first < q.first := fun q hq => Nat.lt_of_lt_of_le hend (hge q hq)
      refine ⟨?_, List.pairwise_cons.2 ⟨hlater, hpairwise⟩⟩
      intro q hq
      rcases List.mem_cons.1 hq with rfl | hq
      · exact Nat.le_refl _
      · exact Nat.le_of_lt (hlater q hq)

/-- A node of a placed operation has the message base or the operation's own marker as its base, if
it has one. -/
theorem base_of_mem_nodes {p : Placement} {node : Node} (h : node ∈ p.nodes c) {base : NodeId}
    (hbase : node.base = some base) : base = messageBase ∨ base = p.first + 2 := by
  obtain ⟨draft, hdraft, id, rfl⟩ := Draft.mem_finalizeFrom h
  obtain hmessage | ⟨-, rfl | ⟨fault, -, rfl⟩⟩ := Operation.mem_drafts c _ _ _ hdraft
  · exact .inl (Option.some.inj (hbase.symm.trans hmessage.base_eq))
  · cases hbase
  · exact .inr (Option.some.inj hbase.symm)

/-- The nodes of a placed operation below its own marker are the carriers of its faults. -/
theorem filter_base_nodes {p : Placement} {key : MessageKey}
    (hkeys : p.candidate.keys = p.candidate.operation.keysFrom key)
    (hone : p.candidate.operation.kind.isOneWay = false)
    (hfaults : p.candidate.operation.faults ≠ []) :
    (p.nodes c).filter (fun node => node.base = some (p.first + 2)) =
      Draft.finalizeFrom c.qualifiedName (p.first + 3) (p.candidate.operation.faults.map
        (p.candidate.operation.carrierDraft p.candidate.index (p.first + 2))) := by
  obtain ⟨front, back, hdrafts, hlength, hbase⟩ := Operation.drafts_of_faults c
    p.candidate.index p.candidate.operation p.first hone hfaults key
  have hmessages : ∀ first drafts, (∀ draft ∈ drafts, draft.base = some messageBase) →
      (Draft.finalizeFrom c.qualifiedName first drafts).filter
        (fun node => node.base = some (p.first + 2)) = [] := by
    intro first drafts hdrafts
    rw [List.filter_eq_nil_iff]
    intro node hnode
    obtain ⟨draft, hdraft, id, rfl⟩ := Draft.mem_finalizeFrom hnode
    simp [Draft.finalize, hdrafts draft hdraft, messageBase]
  have hcarriers : ∀ node ∈ Draft.finalizeFrom c.qualifiedName (p.first + 3)
      (p.candidate.operation.faults.map
        (p.candidate.operation.carrierDraft p.candidate.index (p.first + 2))),
      decide (node.base = some (p.first + 2)) = true := by
    intro node hnode
    obtain ⟨draft, hdraft, id, rfl⟩ := Draft.mem_finalizeFrom hnode
    obtain ⟨fault, -, rfl⟩ := List.mem_map.1 hdraft
    exact decide_eq_true rfl
  have hmarker :
      (Operation.markerDraft p.candidate.index p.candidate.operation (p.first + 2)).base = none :=
    rfl
  rw [nodes, drafts, hkeys, hdrafts, Draft.finalizeFrom_append, Draft.finalizeFrom_cons,
    Draft.finalizeFrom_append, List.filter_append, List.filter_cons, List.filter_append, hlength,
    hmessages _ front (fun draft h => hbase draft (List.mem_append_left _ h)),
    hmessages _ back (fun draft h => hbase draft (List.mem_append_right _ h)),
    List.filter_eq_self.2 hcarriers]
  simp [Draft.finalize, hmarker]

end Placement

namespace Compiled

variable {c : Contract} {options : Options} {compiled : Compiled}

/-- The members of a union below a root are the nodes with that base, sorted. -/
theorem members_below (h : c.compile options = .ok compiled) (root : NodeId) :
    (Union.below compiled.catalog compiled.hierarchy root).members =
      (Tiered.below compiled.catalog.nodes root).filterMap Node.member? := by
  have htiered := tiered h
  rw [Union.below, hierarchy_eq h, htiered.walk_eq, List.filterMap_map]
  refine List.filterMap_congr ?_
  intro node hnode
  rw [Function.comp, Catalog.get?, htiered.getElem?_id (Tiered.mem_below.1 hnode).1,
    Option.bind_some]

/-- A union lists what the nodes with its root as their base stand for, provided that no tag is used
twice. -/
theorem lists_below (h : c.compile options = .ok compiled) {root : NodeId}
    {members : List UnionMember}
    (hperm : ((compiled.catalog.nodes.filter fun node => node.base = some root).filterMap
      Node.member?).Perm members)
    (hnodup : (members.map UnionMember.tag).Nodup) :
    (Union.below compiled.catalog compiled.hierarchy root).Lists root members := by
  have hmembers := members_below h root
  have hperm' : (Union.below compiled.catalog compiled.hierarchy root).members.Perm members := by
    rw [hmembers]
    exact ((stableSort_perm _).filterMap _).trans hperm
  refine ⟨rfl, hperm', ?_⟩
  have hle : ((Union.below compiled.catalog compiled.hierarchy root).members.map
      UnionMember.tag).Pairwise (· ≤ ·) := by
    rw [hmembers, List.pairwise_map, List.pairwise_filterMap]
    refine (Tiered.below_pairwise_rank _ root).imp ?_
    intro a b hrank m hm n hn
    rwa [Node.tag_of_member? hm, Node.tag_of_member? hn]
  have hdistinct := (hperm'.map UnionMember.tag).nodup_iff.2 hnodup
  exact (hle.and hdistinct).imp fun hpair => Nat.lt_of_le_of_ne hpair.1 hpair.2

/-- **The message base.**  The nodes below it are those with a key. -/
theorem filter_base_messageBase (h : c.compile options = .ok compiled) :
    compiled.catalog.nodes.filter (fun node => node.base = some messageBase) =
      compiled.catalog.messages := by
  refine List.filter_congr ?_
  intro node hnode
  rw [Contract.compile_catalog h] at hnode
  obtain ⟨draft, id, rfl, rfl | hmessage | ⟨p, -, -, rfl | ⟨fault, -, rfl⟩⟩⟩ :=
    Contract.mem_assembly_nodes hnode
  · rfl
  · rw [Draft.finalize, hmessage.base_eq, hmessage.has_key]
    rfl
  · rfl
  · exact decide_eq_false (by simp [Draft.finalize, Operation.carrierDraft, messageBase])

/-- A node with a key is a member under it. -/
theorem filterMap_member?_messages (h : c.compile options = .ok compiled) :
    compiled.catalog.messages.filterMap Node.member? =
      compiled.catalog.messages.filterMap Node.message? := by
  refine List.filterMap_congr ?_
  intro node hnode
  obtain ⟨hmem, hkey⟩ := List.mem_filter.1 hnode
  obtain ⟨key, hkey⟩ := Option.isSome_iff_exists.1 hkey
  have hmarker : node.role.isMarker = false := by
    cases hrole : node.role.isMarker with
    | false => rfl
    | true =>
        have hnone := (key_eq_none_iff h hmem).2 (.inl hrole)
        rw [hkey] at hnone
        cases hnone
  simp [Node.member?, Node.message?, hmarker, hkey]

/-- The union of all messages. -/
theorem lists_messages (h : c.compile options = .ok compiled) :
    (Union.below compiled.catalog compiled.hierarchy messageBase).Lists messageBase
      (compiled.catalog.messages.filterMap Node.message?) := by
  refine lists_below h ?_ ?_
  · rw [filter_base_messageBase h, filterMap_member?_messages h]
  · have htags : (compiled.catalog.messages.filterMap Node.message?).map UnionMember.tag =
        compiled.catalog.messages.filterMap Node.key := by
      simp [List.map_filterMap, Node.message?, Function.comp_def]
    rw [htags]
    exact (messages_keys_pairwise h).imp Nat.ne_of_lt

/-- A fault set is that of a placed call that declares faults. -/
theorem mem_faultSets (h : c.compile options = .ok compiled) {set : FaultSet}
    (hset : set ∈ compiled.catalog.faultSets) :
    ∃ p ∈ compiled.placements, p.candidate.operation.kind.isOneWay = false ∧
      p.candidate.operation.faults ≠ [] ∧
      set = p.candidate.operation.faultSet c p.candidate.index (p.first + 2) := by
  rw [catalog_faultSets h] at hset
  obtain ⟨p, hp, hfaultSet⟩ := List.mem_filterMap.1 hset
  rw [Placement.faultSet?, Operation.faultSet?] at hfaultSet
  split at hfaultSet
  · cases hfaultSet
  · next hcall =>
      rw [Bool.or_eq_true, List.isEmpty_iff, not_or] at hcall
      exact ⟨p, hp, by simpa using hcall.1, hcall.2, (Option.some.inj hfaultSet).symm⟩

section Marker

variable (h : c.compile options = .ok compiled) {p : Placement} (hp : p ∈ compiled.placements)
  (hone : p.candidate.operation.kind.isOneWay = false)
  (hfaults : p.candidate.operation.faults ≠ [])
include h hp hone hfaults

/-- **The marker of an operation.**  The nodes below it are the carriers of the operation's faults,
in the order of declaration. -/
theorem filter_base_marker :
    compiled.catalog.nodes.filter (fun node => node.base = some (p.first + 2)) =
      Draft.finalizeFrom c.qualifiedName (p.first + 3) (p.candidate.operation.faults.map
        (p.candidate.operation.carrierDraft p.candidate.index (p.first + 2))) := by
  obtain ⟨front, back, hsplit⟩ := List.append_of_mem hp
  have hpairwise := (placements_chain h).pairwise_first.2
  rw [hsplit, List.pairwise_append, List.pairwise_cons] at hpairwise
  obtain ⟨-, ⟨hback, -⟩, hfront⟩ := hpairwise
  have hsystem : (Draft.finalizeFrom c.qualifiedName 0 c.systemDrafts).filter
      (fun node => node.base = some (p.first + 2)) = [] := by
    rw [List.filter_eq_nil_iff]
    intro node hnode
    obtain ⟨draft, hdraft, id, rfl⟩ := Draft.mem_finalizeFrom hnode
    rcases List.mem_cons.1 hdraft with rfl | hdraft
    · simp [Draft.finalize, Contract.baseDraft]
    · obtain ⟨message, -, rfl⟩ := List.mem_map.1 hdraft
      simp [Draft.finalize, SystemMessage.draft, messageBase]
  have hothers : ∀ others : List Placement, (∀ q ∈ others, q.first ≠ p.first) →
      (others.flatMap (Placement.nodes c)).filter (fun node => node.base = some (p.first + 2)) =
        [] := by
    intro others hne
    rw [List.filter_eq_nil_iff]
    intro node hnode hbase
    obtain ⟨q, hq, hnode⟩ := List.mem_flatMap.1 hnode
    rcases Placement.base_of_mem_nodes hnode (of_decide_eq_true hbase) with hzero | hmarker
    · exact absurd hzero (Nat.succ_ne_zero _)
    · exact hne q hq (Nat.add_right_cancel hmarker).symm
  obtain ⟨key, -, hkeys⟩ := exists_block h hp
  rw [catalog_nodes h, hsplit, List.flatMap_append, List.flatMap_cons, List.filter_append,
    List.filter_append, List.filter_append, hsystem,
    hothers front (fun q hq => Nat.ne_of_lt (hfront q hq p List.mem_cons_self)),
    hothers back (fun q hq => Nat.ne_of_gt (hback q hq)),
    Placement.filter_base_nodes hkeys hone hfaults]
  simp

/-- The carrier of each fault stands in the catalog, numbered after the marker. -/
theorem carrier_mem_nodes {entry : Fault × Nat}
    (hentry : entry ∈ p.candidate.operation.faults.zipIdx (p.first + 3)) :
    (p.candidate.operation.carrierDraft p.candidate.index (p.first + 2) entry.1).finalize entry.2
      c.qualifiedName ∈ compiled.catalog.nodes := by
  have hmem : (p.candidate.operation.carrierDraft p.candidate.index (p.first + 2) entry.1).finalize
      entry.2 c.qualifiedName ∈
      compiled.catalog.nodes.filter (fun node => node.base = some (p.first + 2)) := by
    rw [filter_base_marker h hp hone hfaults, Draft.finalizeFrom, List.zipIdx_map, List.map_map]
    exact List.mem_map.2 ⟨entry, hentry, rfl⟩
  exact (List.mem_filter.1 hmem).1

/-- The union of the faults of an operation. -/
theorem lists_carriers :
    (Union.below compiled.catalog compiled.hierarchy (p.first + 2)).Lists (p.first + 2)
      ((p.candidate.operation.faultSet c p.candidate.index (p.first + 2)).carriers.map
        compiled.catalog.carrierMember) := by
  have hperm := (p.candidate.operation.carriers_perm c p.candidate.index (p.first + 2)).map
    compiled.catalog.carrierMember
  rw [List.map_map] at hperm
  refine lists_below h ?_ ?_
  · refine List.Perm.trans (.of_eq ?_) hperm.symm
    rw [filter_base_marker h hp hone hfaults, Draft.finalizeFrom, List.zipIdx_map, List.map_map,
      List.filterMap_map]
    refine List.filterMap_eq_map_iff_forall_eq_some.2 ?_
    intro entry hentry
    have hnode := (tiered h).getElem?_id (carrier_mem_nodes h hp hone hfaults hentry)
    have hname : compiled.catalog.name entry.2 =
        p.candidate.operation.carrierName entry.1.payload := by
      change ((compiled.catalog.nodes[entry.2]?).map Node.name).getD "" = _
      rw [show compiled.catalog.nodes[entry.2]? = _ from hnode]
      rfl
    simp [Node.member?, Draft.finalize, Operation.carrierDraft, Role.isMarker,
      Catalog.carrierMember, hname]
  · have hkeys : (p.candidate.operation.faults.zipIdx (p.first + 3)).map
        (fun entry => entry.1.key) = p.candidate.operation.faults.map Fault.key := by
      conv_rhs =>
        rw [← List.zipIdx_map_fst (p.first + 3) p.candidate.operation.faults, List.map_map]
      rfl
    refine ((hperm.map UnionMember.tag).nodup_iff).2 ?_
    rw [List.map_map]
    exact hkeys ▸ (wellFormed h hp).fault_keys

end Marker

/-- The unions of a compiled contract say exactly what its catalog says, and the roots of its
hierarchy are the roots of the unions. -/
structure UnionsExact (compiled : Compiled) : Prop where
  /-- The union of all messages has the nodes with a key as its members, under their keys. -/
  messages : ∀ adapter ∈ compiled.binding.adapters,
    adapter.messageUnion.Lists messageBase (compiled.catalog.messages.filterMap Node.message?)
  /-- There is one fault union for each fault set, in the same order, at the marker of the set.  Its
  members are the carriers of the set, under their fault keys. -/
  faults : ∀ adapter ∈ compiled.binding.adapters,
    List.Forall₂ (fun set union => Union.Lists union set.marker
        (set.carriers.map compiled.catalog.carrierMember))
      compiled.catalog.faultSets adapter.faultUnions
  /-- All adapters carry the same unions. -/
  same : ∀ a ∈ compiled.binding.adapters, ∀ b ∈ compiled.binding.adapters,
    a.messageUnion = b.messageUnion ∧ a.faultUnions = b.faultUnions
  /-- The message base is its own root, and the root of every message. -/
  message_root : compiled.hierarchy.rootOf messageBase = some messageBase ∧
    ∀ node ∈ compiled.catalog.messages, compiled.hierarchy.rootOf node.id = some messageBase
  /-- The marker of a fault set is its own root, and the root of the carriers of the set. -/
  marker_root : ∀ set ∈ compiled.catalog.faultSets,
    compiled.hierarchy.rootOf set.marker = some set.marker ∧
      ∀ carrier ∈ set.carriers, compiled.hierarchy.rootOf carrier.node = some set.marker

/-- The message base is its own root, and the root of all messages. -/
theorem rootOf_messages (h : c.compile options = .ok compiled) :
    compiled.hierarchy.rootOf messageBase = some messageBase ∧
      ∀ node ∈ compiled.catalog.messages,
        compiled.hierarchy.rootOf node.id = some messageBase := by
  have htiered := tiered h
  rw [hierarchy_eq h]
  constructor
  · have hbase : compiled.catalog.nodes[messageBase]? =
        some (c.baseDraft.finalize 0 c.qualifiedName) := by
      rw [Contract.compile_catalog h]
      exact Contract.getElem?_assembly_messageBase
    exact htiered.rootOf_eq (List.mem_of_getElem? hbase)
  · intro node hnode
    have hbelow := (filter_base_messageBase h).symm ▸ hnode
    obtain ⟨hmem, hbase⟩ := List.mem_filter.1 hbelow
    rw [htiered.rootOf_eq hmem, of_decide_eq_true hbase]
    rfl

/-- A marker is its own root, and the root of its carriers. -/
theorem rootOf_carriers (h : c.compile options = .ok compiled) {set : FaultSet}
    (hset : set ∈ compiled.catalog.faultSets) :
    compiled.hierarchy.rootOf set.marker = some set.marker ∧
      ∀ carrier ∈ set.carriers, compiled.hierarchy.rootOf carrier.node = some set.marker := by
  have htiered := tiered h
  obtain ⟨p, hp, hone, hfaults, rfl⟩ := mem_faultSets h hset
  have hroot : ∀ carrier ∈
      (p.candidate.operation.faultSet c p.candidate.index (p.first + 2)).carriers,
      compiled.hierarchy.rootOf carrier.node = some (p.first + 2) := by
    intro carrier hcarrier
    obtain ⟨entry, hentry, rfl⟩ := Operation.exists_of_mem_carriers hcarrier
    rw [hierarchy_eq h]
    exact htiered.rootOf_eq (carrier_mem_nodes h hp hone hfaults hentry)
  -- The marker is the base of its first carrier, so it is a node without a base.
  obtain ⟨fault, rest, hcons⟩ := List.exists_cons_of_ne_nil hfaults
  have hentry : (fault, p.first + 3) ∈ p.candidate.operation.faults.zipIdx (p.first + 3) := by
    rw [hcons]
    exact List.mem_cons_self
  obtain ⟨marker, hmarker, hbase⟩ := htiered.base_root _
    (carrier_mem_nodes h hp hone hfaults hentry) (p.first + 2) rfl
  have hself := htiered.rootOf_eq (List.mem_of_getElem? hmarker)
  rw [hbase, htiered.id_eq hmarker] at hself
  refine ⟨?_, hroot⟩
  rw [hierarchy_eq h]
  exact hself

/-- **Unions are complete and exact.**  Every adapter of a compiled contract declares the union of
all messages and the union of each operation's faults just as the catalog has them. -/
theorem unions_exact (h : c.compile options = .ok compiled) : compiled.UnionsExact := by
  have hbinding := Contract.compile_binding h
  have hadapter : ∀ adapter ∈ compiled.binding.adapters,
      adapter.messageUnion = .below compiled.catalog compiled.hierarchy messageBase ∧
      adapter.faultUnions = compiled.catalog.faultSets.map fun set =>
        .below compiled.catalog compiled.hierarchy set.marker := by
    intro adapter hmem
    rw [hbinding] at hmem
    obtain ⟨serializer, -, rfl⟩ := List.mem_map.1 hmem
    exact ⟨rfl, rfl⟩
  refine ⟨?_, ?_, ?_, rootOf_messages h, fun set hset => rootOf_carriers h hset⟩
  · intro adapter hmem
    rw [(hadapter adapter hmem).1]
    exact lists_messages h
  · intro adapter hmem
    rw [(hadapter adapter hmem).2, List.forall₂_map_right_iff, List.forall₂_same]
    intro set hset
    obtain ⟨p, hp, hone, hfaults, rfl⟩ := mem_faultSets h hset
    exact lists_carriers h hp hone hfaults
  · intro a ha b hb
    rw [(hadapter a ha).1, (hadapter a ha).2, (hadapter b hb).1, (hadapter b hb).2]
    exact ⟨rfl, rfl⟩

/-- The sample contract has two adapters, and its only fault set has two carriers, which are
declared in descending order of their keys. -/
theorem chat_unions_exact :
    ∃ compiled, Contract.chat.compile {} = .ok compiled ∧
      (compiled.binding.adapters.map fun adapter =>
          adapter.faultUnions.map fun union => union.members.map UnionMember.tag) =
        [[[3, 7]], [[3, 7]]] ∧
      compiled.UnionsExact := by
  obtain ⟨compiled, h, hcheck⟩ := Contract.exists_compile Contract.chat {}
    (fun compiled => (compiled.binding.adapters.map fun adapter =>
      adapter.faultUnions.map fun union => union.members.map UnionMember.tag) =
        [[[3, 7]], [[3, 7]]])
    (by decide +kernel)
  exact ⟨compiled, h, of_decide_eq_true hcheck, unions_exact h⟩

end Compiled

end ServiceContract
