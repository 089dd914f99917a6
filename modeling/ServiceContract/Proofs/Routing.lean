import ServiceContract.Proofs.Compilation

/-!
# Callers meet their handlers

The surface of one peer and the dispatch plan of the other are built apart from each other, from the
contract, the key table and the catalog.  They agree: whatever a stub or an opener sends is found by
the other peer under the arm of the same operation, every arm is reached that way, and no other key
is handled.

Both sides are read off the placements: `Compiled.arms_eq`, `Compiled.methods_eq` and
`Compiled.streams_eq`.  A lookup takes the first arm with a key, and it takes the right one because
no two placements share a key (`Compiled.eq_of_outboundKey_eq`).
-/

namespace ServiceContract

/-- The other end of the connection. -/
def Peer.other : Peer → Peer
  | client => server
  | server => client

/-- What a peer handles is what the other one calls. -/
theorem Peer.handles_other (peer : Peer) : peer.other.handles = peer.calls := by
  cases peer <;> rfl

/-- No peer calls what it handles itself. -/
theorem Peer.handles_ne_calls (peer : Peer) : peer.handles ≠ peer.calls := by
  cases peer <;> decide

namespace DispatchPlan

variable {plan : DispatchPlan}

/-- A key is unknown exactly if no arm has it. -/
theorem dispatch_eq_unknown_iff {key : MessageKey} :
    plan.dispatch key = .unknown key ↔ ∀ arm ∈ plan.arms, arm.key ≠ key := by
  unfold dispatch
  constructor
  · intro h
    split at h
    · cases h
    · next hnone => simpa using hnone
  · intro h
    have hnone : plan.arms.find? (fun arm => arm.key = key) = none := by simpa using h
    rw [hnone]

/-- An arm that shares its key with no other is found under it. -/
theorem dispatch_eq_arm {arm : Arm} (hmem : arm ∈ plan.arms)
    (hunique : ∀ other ∈ plan.arms, other.key = arm.key → other = arm) :
    plan.dispatch arm.key = .arm arm := by
  unfold dispatch
  split
  · next found hfound =>
      have hkey : found.key = arm.key := by simpa using List.find?_some hfound
      rw [hunique found (List.mem_of_find?_eq_some hfound) hkey]
  · next hnone =>
      have := List.find?_eq_none.1 hnone arm hmem
      simp at this

end DispatchPlan

/-- A caller sends the first type of an operation. -/
theorem Operation.outbound_messagesFrom (op : Operation) (first : NodeId) :
    (op.messagesFrom first).outbound = first := by
  unfold messagesFrom
  split <;> rfl

/-- The first type of an operation carries the key that callers send. -/
theorem Operation.head_drafts (c : Contract) (index : Nat) (op : Operation) (keys : OperationKeys)
    (first : NodeId) :
    ∃ draft rest, op.drafts c index keys first = draft :: rest ∧
      draft.key = some keys.outbound := by
  cases keys with
  | oneWay key => exact ⟨_, [], rfl, rfl⟩
  | request keys => exact ⟨_, _, rfl, rfl⟩

namespace Generated

variable (catalog : Catalog) (entry : Generated) (key : MessageKey)

/-- An arm handles the key it was made for. -/
@[simp]
theorem key_arm : (entry.arm catalog key).key = key := by
  unfold arm
  split <;> rfl

@[simp]
theorem operation_arm : (entry.arm catalog key).operation = entry.index := by
  unfold arm
  split <;> rfl

@[simp]
theorem inbound_arm : (entry.arm catalog key).inbound = entry.messages.outbound := by
  unfold arm
  split <;> simp_all [Arm.inbound, OperationMessages.outbound]

/-- Every stub is one of those under some plain name. -/
theorem mem_stubsNamed {stub : Stub} (h : stub ∈ entry.stubs) :
    ∃ base prebuilt, stub ∈ entry.stubsNamed base prebuilt := by
  unfold stubs at h
  split at h
  · cases h
  · rcases List.mem_append.1 h with h | h
    · exact ⟨_, _, h⟩
    · split at h
      · exact ⟨_, _, h⟩
      · cases h

/-- Every stub sends the message of its operation. -/
theorem mem_stubs {stub : Stub} (h : stub ∈ entry.stubs) :
    stub.operation = entry.index ∧ stub.message = entry.messages.outbound := by
  obtain ⟨base, prebuilt, h⟩ := entry.mem_stubsNamed h
  obtain ⟨style, -, rfl⟩ := List.mem_map.1 h
  exact ⟨rfl, rfl⟩

/-- An opener sends the request of its operation. -/
theorem opener?_eq_some {opener : StreamOpener} (h : entry.opener? = some opener) :
    opener.operation = entry.index ∧ opener.request = entry.messages.outbound := by
  unfold opener? at h
  split at h
  · cases h
  · next messages hmessages =>
      split at h
      · cases h
        exact ⟨rfl, by rw [hmessages]; rfl⟩
      · cases h

/-- An operation without an opener has stubs. -/
theorem stubs_ne_nil (h : entry.opener? = none) : entry.stubs ≠ [] := by
  simp [stubs, h, stubsNamed, CallStyle.all]

end Generated

/-- The key under which a placed operation is called. -/
def Placement.outboundKey (p : Placement) : MessageKey := p.candidate.keys.outbound

namespace Compiled

variable {c : Contract} {options : Options} {compiled : Compiled}

/-- The placed operations of one direction. -/
def directed (compiled : Compiled) (direction : Direction) : List Placement :=
  compiled.placements.filter fun p => p.candidate.operation.kind.direction = direction

/-- The operations in a direction are the placed ones that go there. -/
theorem mem_directed {direction : Direction} {p : Placement} :
    p ∈ compiled.directed direction ↔
      p ∈ compiled.placements ∧ p.candidate.operation.kind.direction = direction := by
  simp [directed]

/-- The catalog lists them in the same order. -/
theorem catalog_directed_eq (h : c.compile options = .ok compiled) (direction : Direction) :
    compiled.catalog.directed c direction =
      (compiled.directed direction).map Placement.generated := by
  rw [directed_eq h, List.filter_map]
  rfl

/-- The stubs of a peer are those of the placed operations it calls. -/
theorem methods_eq (h : c.compile options = .ok compiled) (peer : Peer) :
    (compiled.surface peer).methods =
      (compiled.directed peer.calls).flatMap fun p => p.generated.stubs := by
  rw [Contract.compile_surface h, Surface.build, catalog_directed_eq h, List.flatMap_map]

/-- The openers of a peer are those of the placed operations it calls. -/
theorem streams_eq (h : c.compile options = .ok compiled) (peer : Peer) :
    (compiled.surface peer).streams =
      (compiled.directed peer.calls).filterMap fun p => p.generated.opener? := by
  rw [Contract.compile_surface h, Surface.build, catalog_directed_eq h, List.filterMap_map]
  rfl

/-- The prebuild helpers of a peer are those of the placed operations it calls. -/
theorem prebuild_eq (h : c.compile options = .ok compiled) (peer : Peer) :
    (compiled.surface peer).prebuild =
      (compiled.directed peer.calls).filterMap
        fun p => p.generated.prebuildHelper? (c.chooseSerializers options).default := by
  rw [Contract.compile_surface h, Surface.build, catalog_directed_eq h]
  exact List.filterMap_map ..

/-- What a peer handles are the placed operations directed to it, each under its key. -/
theorem handled_eq (h : c.compile options = .ok compiled) (peer : Peer) :
    DispatchPlan.handled c compiled.keys compiled.catalog peer =
      (compiled.directed peer.handles).map fun p => (p.generated, p.outboundKey) := by
  rw [DispatchPlan.handled, catalog_directed_eq h, List.filterMap_map]
  refine List.filterMap_eq_map_iff_forall_eq_some.2 ?_
  intro p hp
  obtain ⟨-, -, block, hblock, hkeys⟩ := mem_placements h (mem_directed.1 hp).1
  simp [Placement.generated, Placement.outboundKey, hblock, hkeys]

/-- The handlers of a peer are those of the placed operations it handles. -/
theorem handlers_eq (h : c.compile options = .ok compiled) (peer : Peer) :
    (compiled.dispatch peer).handlers =
      (compiled.directed peer.handles).map fun p => p.generated.handler := by
  rw [Contract.compile_dispatch h]
  change (DispatchPlan.handled c compiled.keys compiled.catalog peer).map _ = _
  rw [handled_eq h, List.map_map]
  rfl

/-- The arms of a peer are those of the placed operations it handles. -/
theorem arms_eq (h : c.compile options = .ok compiled) (peer : Peer) :
    (compiled.dispatch peer).arms =
      (compiled.directed peer.handles).map
        fun p => p.generated.arm compiled.catalog p.outboundKey := by
  rw [Contract.compile_dispatch h]
  change (DispatchPlan.handled c compiled.keys compiled.catalog peer).map _ = _
  rw [handled_eq h, List.map_map]
  rfl

/-- No two placed operations are called under the same key. -/
theorem eq_of_outboundKey_eq (h : c.compile options = .ok compiled) {p q : Placement}
    (hp : p ∈ compiled.placements) (hq : q ∈ compiled.placements)
    (hkey : p.outboundKey = q.outboundKey) : p = q := by
  obtain ⟨-, -, a, ha, hpa⟩ := mem_placements h hp
  obtain ⟨-, -, b, hb, hqb⟩ := mem_placements h hq
  have hpmem : p.outboundKey ∈ a.keys.toList := by
    rw [Placement.outboundKey, hpa]
    exact a.keys.outbound_mem_toList
  have hqmem : p.outboundKey ∈ b.keys.toList := by
    rw [hkey, Placement.outboundKey, hqb]
    exact b.keys.outbound_mem_toList
  exact eq_of_index_eq h hp hq (KeyTable.eq_of_mem_keys (Contract.compile_keys h) ha hb hpmem hqmem)

/-- The message a placed operation is called with, under its key. -/
theorem outbound_node (h : c.compile options = .ok compiled) {p : Placement}
    (hp : p ∈ compiled.placements) :
    ∃ node, compiled.catalog.get? p.generated.messages.outbound = some node ∧
      node.key = some p.outboundKey := by
  obtain ⟨draft, rest, hdrafts, hkey⟩ := Operation.head_drafts c p.candidate.index
    p.candidate.operation p.candidate.keys p.first
  change p.drafts c = draft :: rest at hdrafts
  have hget : compiled.catalog.nodes[p.first]? = some (draft.finalize p.first c.qualifiedName) := by
    rw [placements, Contract.compile_contract h] at hp
    have hplaced := Assembly.getElem?_nodes_of_placed hp (i := 0) (by simp [hdrafts])
    rw [Placement.nodes, Draft.getElem?_finalizeFrom, hdrafts] at hplaced
    rw [Contract.compile_catalog h]
    exact hplaced
  refine ⟨draft.finalize p.first c.qualifiedName, ?_, hkey⟩
  rw [Placement.generated, Placement.messages, Operation.outbound_messagesFrom]
  exact hget

/-- The arm of a placed operation is found under its key by the peer that handles it. -/
theorem dispatch_outboundKey (h : c.compile options = .ok compiled) {peer : Peer} {p : Placement}
    (hp : p ∈ compiled.directed peer.handles) :
    (compiled.dispatch peer).dispatch p.outboundKey =
      .arm (p.generated.arm compiled.catalog p.outboundKey) := by
  have hmem : p.generated.arm compiled.catalog p.outboundKey ∈ (compiled.dispatch peer).arms := by
    rw [arms_eq h]
    exact List.mem_map.2 ⟨p, hp, rfl⟩
  have hfound := DispatchPlan.dispatch_eq_arm hmem fun other hother hkey => by
    rw [arms_eq h] at hother
    obtain ⟨q, hq, rfl⟩ := List.mem_map.1 hother
    rw [Generated.key_arm, Generated.key_arm] at hkey
    rw [eq_of_outboundKey_eq h (mem_directed.1 hq).1 (mem_directed.1 hp).1 hkey]
  rwa [Generated.key_arm] at hfound

/-- A peer handles exactly the keys of the placed operations directed to it. -/
theorem dispatch_eq_unknown (h : c.compile options = .ok compiled) {peer : Peer}
    {key : MessageKey} :
    (compiled.dispatch peer).dispatch key = .unknown key ↔
      ∀ p ∈ compiled.directed peer.handles, p.outboundKey ≠ key := by
  rw [DispatchPlan.dispatch_eq_unknown_iff, arms_eq h]
  simp

/-- `key` is the key under which a generated operation that `peer` handles is called. -/
def HandlesKey (compiled : Compiled) (peer : Peer) (key : MessageKey) : Prop :=
  ∃ i op block, (i, op) ∈ compiled.generatedOperations ∧ op.kind.direction = peer.handles ∧
    compiled.keys.block? i = some block ∧ block.keys.outbound = key

/-- A message of `peer` leads to an arm: it is a node with a key, under which the other peer finds
the arm, and which `peer` itself does not know. -/
def LeadsTo (compiled : Compiled) (peer : Peer) (message : NodeId) (arm : Arm) : Prop :=
  ∃ node key, compiled.catalog.get? message = some node ∧ node.key = some key ∧
    (compiled.dispatch peer.other).dispatch key = .arm arm ∧
    (compiled.dispatch peer).dispatch key = .unknown key

/-- What a placed operation is called with leads to its arm. -/
theorem leadsTo_arm (h : c.compile options = .ok compiled) {peer : Peer} {p : Placement}
    (hp : p ∈ compiled.directed peer.calls) :
    compiled.LeadsTo peer p.generated.messages.outbound
      (p.generated.arm compiled.catalog p.outboundKey) := by
  obtain ⟨node, hnode, hkey⟩ := outbound_node h (mem_directed.1 hp).1
  refine ⟨node, p.outboundKey, hnode, hkey, ?_, ?_⟩
  · rw [← Peer.handles_other] at hp
    exact dispatch_outboundKey h hp
  · rw [dispatch_eq_unknown h]
    intro q hq hqp
    have hsame := eq_of_outboundKey_eq h (mem_directed.1 hq).1 (mem_directed.1 hp).1 hqp
    subst hsame
    exact peer.handles_ne_calls ((mem_directed.1 hq).2.symm.trans (mem_directed.1 hp).2)

/-- A peer handles the keys that operations towards it are sent under. -/
theorem handlesKey_iff (h : c.compile options = .ok compiled) {peer : Peer} {key : MessageKey} :
    compiled.HandlesKey peer key ↔ ∃ p ∈ compiled.directed peer.handles, p.outboundKey = key := by
  constructor
  · rintro ⟨i, op, block, hmem, hdirection, hblock, hkey⟩
    rw [generatedOperations_eq h] at hmem
    obtain ⟨p, hp, hpair⟩ := List.mem_map.1 hmem
    obtain ⟨rfl, rfl⟩ := Prod.mk.inj hpair
    obtain ⟨-, -, block', hblock', hkeys⟩ := mem_placements h hp
    rw [hblock, Option.some_inj] at hblock'
    subst hblock'
    exact ⟨p, mem_directed.2 ⟨hp, hdirection⟩, by rw [Placement.outboundKey, hkeys, hkey]⟩
  · rintro ⟨p, hp, hkey⟩
    obtain ⟨hplaced, hdirection⟩ := mem_directed.1 hp
    obtain ⟨-, -, block, hblock, hkeys⟩ := mem_placements h hplaced
    refine ⟨p.candidate.index, p.candidate.operation, block, ?_, hdirection, hblock, ?_⟩
    · rw [generatedOperations_eq h]
      exact List.mem_map.2 ⟨p, hplaced, rfl⟩
    · rw [← hkeys]
      exact hkey

/-- Every arm of the other peer is what some stub or some opener leads to. -/
theorem arm_has_caller (h : c.compile options = .ok compiled) {peer : Peer} {arm : Arm}
    (harm : arm ∈ (compiled.dispatch peer.other).arms) :
    (∃ stub ∈ (compiled.surface peer).methods, compiled.LeadsTo peer stub.message arm) ∨
      ∃ opener ∈ (compiled.surface peer).streams, compiled.LeadsTo peer opener.request arm := by
  rw [arms_eq h, Peer.handles_other] at harm
  obtain ⟨p, hp, rfl⟩ := List.mem_map.1 harm
  have hleads := leadsTo_arm h hp
  cases hopener : p.generated.opener? with
  | some opener =>
      refine .inr ⟨opener, ?_, ?_⟩
      · rw [streams_eq h]
        exact List.mem_filterMap.2 ⟨p, hp, hopener⟩
      · rwa [(Generated.opener?_eq_some _ hopener).2]
  | none =>
      obtain ⟨stub, hstub⟩ := List.exists_mem_of_ne_nil _ (Generated.stubs_ne_nil _ hopener)
      refine .inl ⟨stub, ?_, ?_⟩
      · rw [methods_eq h]
        exact List.mem_flatMap.2 ⟨p, hp, hstub⟩
      · rwa [(Generated.mem_stubs _ hstub).2]

/-- A key that is reserved, that is not the first of its block, or whose operation was skipped, is
not the key of a generated operation. -/
theorem not_handlesKey_of_mem_block (h : c.compile options = .ok compiled) {peer : Peer} {i : Nat}
    {block : KeyBlock} (hblock : compiled.keys.block? i = some block) {key : MessageKey}
    (hkey : key ∈ block.keys.toList)
    (hother : key ≠ block.keys.outbound ∨ compiled.isGenerated i = false) :
    ¬ compiled.HandlesKey peer key := by
  rintro ⟨j, op, block', hmem, -, hblock', houtbound⟩
  have hkey' : key ∈ block'.keys.toList := houtbound ▸ block'.keys.outbound_mem_toList
  obtain rfl := KeyTable.eq_of_mem_keys (Contract.compile_keys h) hblock hblock' hkey hkey'
  rw [hblock, Option.some_inj] at hblock'
  subst hblock'
  have hgenerated : compiled.isGenerated i = true := (List.mem_filter.1 hmem).2
  rcases hother with hne | hskipped
  · exact hne houtbound.symm
  · simp [hgenerated] at hskipped

/-- No reserved key is handled by an arm. -/
theorem not_handlesKey_of_reserved (h : c.compile options = .ok compiled) {peer : Peer}
    {key : MessageKey} (hkey : key ≤ reservedKeys) : ¬ compiled.HandlesKey peer key := by
  rintro ⟨i, op, block, -, -, hblock, rfl⟩
  have hlt := KeyTable.reservedKeys_lt_of_mem_keys (Contract.compile_keys h) hblock
    block.keys.outbound_mem_toList
  exact Nat.not_lt.2 hkey hlt

/-- The surface of `peer` and the dispatch plan of the other peer agree. -/
structure RoutingAgreement (compiled : Compiled) (peer : Peer) : Prop where
  /-- Every stub leads to the arm of its operation, which is an arm for the node it sends. -/
  stub_arm : ∀ stub ∈ (compiled.surface peer).methods, ∃ arm,
    compiled.LeadsTo peer stub.message arm ∧
      arm.operation = stub.operation ∧ arm.inbound = stub.message
  /-- So does every opener. -/
  opener_arm : ∀ opener ∈ (compiled.surface peer).streams, ∃ arm,
    compiled.LeadsTo peer opener.request arm ∧
      arm.operation = opener.operation ∧ arm.inbound = opener.request
  /-- Every arm is what some stub or some opener leads to. -/
  arm_caller : ∀ arm ∈ (compiled.dispatch peer.other).arms,
    (∃ stub ∈ (compiled.surface peer).methods, compiled.LeadsTo peer stub.message arm) ∨
      ∃ opener ∈ (compiled.surface peer).streams, compiled.LeadsTo peer opener.request arm
  /-- No other key is known. -/
  unknown_iff : ∀ key, (compiled.dispatch peer.other).dispatch key = .unknown key ↔
    ¬ compiled.HandlesKey peer.other key
  /-- The keys of system messages and the other reserved keys are unknown. -/
  unknown_reserved : ∀ key ≤ reservedKeys,
    (compiled.dispatch peer.other).dispatch key = .unknown key
  /-- The keys of responses, faults and pages are unknown, and every key of a skipped operation. -/
  unknown_block : ∀ i block, compiled.keys.block? i = some block → ∀ key ∈ block.keys.toList,
    key ≠ block.keys.outbound ∨ compiled.isGenerated i = false →
      (compiled.dispatch peer.other).dispatch key = .unknown key

/-- **Callers meet their handlers.**  Whatever either peer of a compiled contract sends to call an
operation, the other peer handles as a call of that operation, and it handles nothing else. -/
theorem callers_meet_handlers (h : c.compile options = .ok compiled) (peer : Peer) :
    compiled.RoutingAgreement peer := by
  have hunknown : ∀ key, (compiled.dispatch peer.other).dispatch key = .unknown key ↔
      ¬ compiled.HandlesKey peer.other key := by
    intro key
    rw [dispatch_eq_unknown h, handlesKey_iff h]
    simp
  refine ⟨?_, ?_, fun arm harm => arm_has_caller h harm, hunknown, ?_, ?_⟩
  · intro stub hstub
    rw [methods_eq h] at hstub
    obtain ⟨p, hp, hstub⟩ := List.mem_flatMap.1 hstub
    obtain ⟨hoperation, hmessage⟩ := Generated.mem_stubs _ hstub
    exact ⟨_, hmessage ▸ leadsTo_arm h hp, by rw [Generated.operation_arm, hoperation],
      by rw [Generated.inbound_arm, hmessage]⟩
  · intro opener hopener
    rw [streams_eq h] at hopener
    obtain ⟨p, hp, hopener⟩ := List.mem_filterMap.1 hopener
    obtain ⟨hoperation, hrequest⟩ := Generated.opener?_eq_some _ hopener
    exact ⟨_, hrequest ▸ leadsTo_arm h hp, by rw [Generated.operation_arm, hoperation],
      by rw [Generated.inbound_arm, hrequest]⟩
  · intro key hkey
    exact (hunknown key).2 (not_handlesKey_of_reserved h hkey)
  · intro i block hblock key hkey hother
    exact (hunknown key).2 (not_handlesKey_of_mem_block h hblock hkey hother)

/-- In the sample contract the client has stubs and the server has an opener, and one operation is
skipped. -/
theorem chat_callers_meet_handlers :
    ∃ compiled, Contract.chat.compile {} = .ok compiled ∧
      ((compiled.surface .client).methods.length = 12 ∧
        (compiled.surface .server).streams.length = 1 ∧ compiled.isGenerated 2 = false) ∧
      ∀ peer, compiled.RoutingAgreement peer := by
  obtain ⟨compiled, h, hcheck⟩ := Contract.exists_compile Contract.chat {}
    (fun compiled => (compiled.surface .client).methods.length = 12 ∧
      (compiled.surface .server).streams.length = 1 ∧ compiled.isGenerated 2 = false)
    (by decide +kernel)
  exact ⟨compiled, h, of_decide_eq_true hcheck, callers_meet_handlers h⟩

end Compiled

end ServiceContract
