import ServiceContract.Proofs.CatchChains
import ServiceContract.Proofs.FaultVariants

/-!
# Variants are called after payloads

The name of a variant is cut out of the name of its carrier, and if nothing is left of that name the
whole of it stands in.  In a compiled contract something is always left.  A payload that contributes
nothing to the name of its carrier would make it the name of the operation's fault message, and two
payloads that contribute the same would make two carriers of one name; but an operation whose types
would share a name is not generated (`Compiled.nodup_plannedNames`).

So the variant of a carrier is what its payload contributes, and no two variants of an operation are
the same.  The choice that is written for a fault set declares these variants
(`Source.choices_faultUnions`), and the dispatcher of the operation names them
(`Source.wrapping_requestBody`).  `Source.fault_variants_recover` puts this together.
-/

namespace ServiceContract

/-! ## Payloads of generated operations -/

namespace Operation

variable {op : Operation} (hone : op.kind.isOneWay = false) (hfaults : op.faults ≠ [])
  (h : op.plannedNames.Nodup)
include hone hfaults h

/-- The carriers of an operation with distinct names are called neither like each other nor like its
fault message. -/
theorem nodup_carrierNames :
    ((op.typeName ++ Role.fault.suffix) ::
      op.faults.map fun fault => op.carrierName fault.payload).Nodup := by
  have hsublist : (op.faults.map (fun fault => op.carrierName fault.payload) ++
      [op.typeName ++ Role.fault.suffix]).Sublist op.plannedNames := by
    rw [plannedNames, hone, if_neg Bool.false_ne_true, if_neg (by simpa using hfaults)]
    refine (List.Sublist.append ?_ (List.Sublist.refl _)).trans
      ((List.sublist_append_left _ _).trans (List.sublist_append_left _ _))
    exact (List.sublist_cons_self _ _).trans (List.sublist_append_right _ _)
  exact (List.perm_append_singleton _ _).nodup_iff.1 (h.sublist hsublist)

/-- Every payload contributes to the name of its carrier. -/
theorem fragment_ne_empty {fault : Fault} (hfault : fault ∈ op.faults) :
    fault.payload.fragment ≠ "" := by
  intro hempty
  have hname : op.carrierName fault.payload = op.typeName ++ Role.fault.suffix := by
    rw [carrierName, hempty, String.append_empty]
    rfl
  refine (List.nodup_cons.1 (nodup_carrierNames hone hfaults h)).1 ?_
  exact List.mem_map.2 ⟨fault, hfault, hname⟩

/-- No two payloads contribute the same. -/
theorem nodup_fragments : (op.faults.map fun fault => fault.payload.fragment).Nodup := by
  refine List.Nodup.of_map (fun fragment => op.typeName ++ fragment ++ Role.faultCarrier.suffix) ?_
  rw [List.map_map]
  exact (List.nodup_cons.1 (nodup_carrierNames hone hfaults h)).2

end Operation

/-- The carriers of a placed operation hold its faults. -/
theorem Placement.faults_perm (c : Contract) (p : Placement) :
    ((p.carriers c).map FaultCarrier.fault).Perm p.candidate.operation.faults := by
  rw [carriers, Operation.map_fault_carriers]
  exact stableSort_perm _

namespace Compiled

variable {c : Contract} {options : Options} {compiled : Compiled}

/-- The names that were planned for a generated operation are distinct. -/
theorem nodup_plannedNames (h : c.compile options = .ok compiled) {p : Placement}
    (hp : p ∈ compiled.placements) : p.candidate.operation.plannedNames.Nodup := by
  have hnodup := (index_lists h).nodup
  rw [map_name_nodes h, generatedOperations_eq h] at hnodup
  have hoperations := (List.nodup_append.1 hnodup).2.1
  exact (List.nodup_flatMap.1 hoperations).1 _ (List.mem_map_of_mem hp)

section Placed

variable (h : c.compile options = .ok compiled) {p : Placement} (hp : p ∈ compiled.placements)
include h hp

/-- A variant is what the payload contributed, which is something. -/
theorem faultVariant_eq {carrier : FaultCarrier} (hcarrier : carrier ∈ p.carriers c) :
    compiled.catalog.faultVariant carrier.node = carrier.payload.fragment ∧
      carrier.payload.fragment ≠ "" := by
  obtain ⟨entry, hentry, rfl⟩ := Operation.exists_of_mem_carriers hcarrier
  have hfault := List.fst_mem_of_mem_zipIdx hentry
  have hfaults := List.ne_nil_of_mem hfault
  have hne := Operation.fragment_ne_empty (isOneWay_of_faults h hp hfaults) hfaults
    (nodup_plannedNames h hp) hfault
  refine ⟨?_, hne⟩
  change compiled.catalog.faultVariant entry.2 = entry.1.payload.fragment
  rw [faultVariant_carrier h hp hentry, if_neg (mt String.isEmpty_iff.1 hne)]

/-- No two variants of an operation are the same. -/
theorem nodup_variants (hfaults : p.candidate.operation.faults ≠ []) :
    ((p.carriers c).map fun carrier => compiled.catalog.faultVariant carrier.node).Nodup := by
  have hfragments : (p.carriers c).map (fun carrier => compiled.catalog.faultVariant carrier.node) =
      ((p.carriers c).map FaultCarrier.fault).map fun fault => fault.payload.fragment := by
    rw [List.map_map]
    exact List.map_congr_left fun carrier hcarrier => (faultVariant_eq h hp hcarrier).1
  rw [hfragments, ((p.faults_perm c).map _).nodup_iff]
  exact Operation.nodup_fragments (isOneWay_of_faults h hp hfaults) hfaults
    (nodup_plannedNames h hp)

/-- The marker of a fault set is the base of its carriers. -/
theorem base_carrier {carrier : FaultCarrier} (hcarrier : carrier ∈ p.carriers c) :
    (compiled.catalog.get? carrier.node).bind Node.base = some (p.first + 2) := by
  obtain ⟨entry, hentry, rfl⟩ := Operation.exists_of_mem_carriers hcarrier
  have hget : compiled.catalog.get? entry.2 = some _ :=
    Catalog.node_eq_ok_iff.1 (node_carrier h hp hentry)
  change (compiled.catalog.get? entry.2).bind Node.base = some (p.first + 2)
  rw [hget]
  rfl

/-- A placed request has an arm. -/
theorem exists_arm (hone : p.candidate.operation.kind.isOneWay = false) :
    ∃ peer arm, Arm.request arm ∈ (compiled.dispatch peer).arms ∧
      arm.operation = p.candidate.index := by
  obtain ⟨peer, hpeer⟩ : ∃ peer : Peer, p.candidate.operation.kind.direction = peer.handles := by
    cases p.candidate.operation.kind.direction with
    | toServer => exact ⟨.server, rfl⟩
    | toClient => exact ⟨.client, rfl⟩
  have harm : p.generated.arm compiled.catalog p.outboundKey ∈ (compiled.dispatch peer).arms := by
    rw [arms_eq h]
    exact List.mem_map_of_mem (mem_directed.2 ⟨hp, hpeer⟩)
  refine ⟨peer, ?_⟩
  unfold Generated.arm at harm
  split at harm
  · next message hmessages =>
      have hrequest : p.messages = .oneWay message := hmessages
      rw [Placement.messages, Operation.messagesFrom, hone, if_neg Bool.false_ne_true] at hrequest
      cases hrequest
  · exact ⟨_, harm, rfl⟩

end Placed

end Compiled

/-! ## Choices -/

/-- The carriers of a set in the order of their fault keys. -/
def FaultSet.inKeyOrder (set : FaultSet) : List FaultCarrier :=
  stableSort (fun a b => a.faultKey ≤ b.faultKey) set.carriers

/-- A choice that code declares: how it starts, and its texts. -/
def Code.choice? : Code → Option (String × List String)
  | block header body _ =>
    if startsLike "pub enum " header then some (header, textsAll body) else none
  | _ => none

/-- The choices that code declares at its outermost level. -/
def Code.choices (code : List Code) : List (String × List String) := code.filterMap choice?

/-- The members of a fault union, in the order they are declared. -/
theorem Compiled.members_faultUnion {c : Contract} {options : Options} {compiled : Compiled}
    (h : c.compile options = .ok compiled) {set : FaultSet}
    (hset : set ∈ compiled.catalog.faultSets) :
    (Union.below compiled.catalog compiled.hierarchy set.marker).members =
      set.inKeyOrder.map compiled.catalog.carrierMember := by
  obtain ⟨p, hp, hone, hfaults, rfl⟩ := mem_faultSets h hset
  obtain ⟨-, hperm, htags⟩ := lists_carriers h hp hone hfaults
  have hnodup : ((Union.below compiled.catalog compiled.hierarchy (p.first + 2)).members.map
      UnionMember.tag).Nodup := htags.imp fun hlt => Nat.ne_of_lt hlt
  have hascend := (List.pairwise_map.1 htags).imp fun hlt => decide_eq_true (Nat.le_of_lt hlt)
  have hsorted := stableSort_eq_of_nodup hperm hnodup
  rw [stableSort_of_pairwise hascend, stableSort_map] at hsorted
  exact hsorted

namespace Source

variable (s : Source)

/-- The line that declares the variant of a carrier: it is called after the payload, holds the
carrier, and stands under the fault key. -/
def variantLine (carrier : FaultCarrier) : String :=
  carrier.payload.fragment ++ "(" ++ s.nodeName carrier.node ++ ") = " ++
    toString carrier.faultKey ++ ","

/-- The line that wraps a caught payload: it names the variant of the payload in the choice of the
set. -/
def wrappingLine (set : FaultSet) (carrier : FaultCarrier) : String :=
  "let data = " ++ s.nodeName set.marker ++ "::" ++ carrier.payload.fragment ++ "(" ++
    s.nodeName carrier.node ++ " \x7b payload: custom.payload \x7d);"

/-- The union of carriers declares a variant for each of its members. -/
theorem choices_faultUnion (union : Union) :
    Code.choices (s.faultUnion union) = [("pub enum " ++ union.name,
      union.members.map fun member => s.catalog.faultVariant member.node ++ "(" ++ member.name ++
        ") = " ++ toString member.tag ++ ",")] := by
  have hhead : Code.choices (s.unionHead union) = [] := by
    cases hdoc : (s.catalog.get? union.root).bind Node.doc <;>
      simp [unionHead, Code.docOf, hdoc, Code.choices, Code.choice?, dataAttribute]
  have himpl : startsLike "pub enum " ("impl " ++ union.name) = false :=
    startsLike_append_of_apart (by decide) _
  rw [faultUnion, Code.choices, List.filterMap_append, ← Code.choices, hhead]
  simp [Code.choice?, startsLike_append, himpl, Code.textsAll_map_line]

/-! ## Lines that wrap payloads -/

/-- Does the line wrap a caught payload? -/
def wrapsPayload (text : String) : Bool := startsLike "let data = " text

/-- What the other lines of a dispatcher start with, if they are not fixed. -/
def otherStarts : List String :=
  ["let call = ", "let outcome = ", "let fault = match fault.into_custom::<",
    "::tracing::debug!(contract = ", "self.handler.on_", "replies.send("]

/-- A line that starts otherwise wraps no payload. -/
theorem wrapsPayload_start {start : String} (h : start ∈ otherStarts) (rest : String) :
    wrapsPayload (start ++ rest) = false := by
  refine startsLike_append_of_apart ?_ rest
  revert start
  decide

/-- Sending wraps no payload. -/
theorem wrapsPayload_sendLine (type members : String) :
    wrapsPayload (sendLine type members) = false := by
  rw [sendLine_eq]
  simp only [String.append_assoc]
  exact wrapsPayload_start (by decide) _

/-- Nothing is wrapped before the handler is called. -/
theorem filter_setup (arm : RequestArm) :
    (Code.textsAll (s.setup arm)).filter wrapsPayload = [] := by
  have hcall : wrapsPayload (if arm.context.isStreaming then
      "let call = " ++
        s.inRuntime "StreamContext::open(call_id, request.options, request.window_size);"
      else "let call = " ++ s.inRuntime "CallContext::new(call_id, request.options);") = false := by
    split <;> exact wrapsPayload_start (by decide) _
  have houtcome : ∀ rest, wrapsPayload ("let outcome = " ++ rest) = false :=
    wrapsPayload_start (by decide)
  have htrace : (Code.textsAll (s.traceLines arm.operation arm.request)).filter wrapsPayload =
      [] := by
    unfold traceLines
    split
    · simp only [String.append_assoc]
      simp (disch := decide) [wrapsPayload_start]
    · rfl
  rw [setup, Code.textsAll_append, Code.textsAll_append, List.filter_append, List.filter_append,
    htrace]
  simp only [String.append_assoc]
  simp (disch := decide) [List.filter_cons, hcall, houtcome]

/-- A test of the catch chain wraps the payload it tests for. -/
theorem filter_testTexts (arm : RequestArm) (carrier : FaultCarrier) :
    (s.testTexts arm carrier).filter wrapsPayload = [s.carrierLine carrier.node] := by
  have hwraps : wrapsPayload (s.carrierLine carrier.node) = true := by
    rw [carrierLine_eq]
    simp only [String.append_assoc]
    exact startsLike_append _ _
  have htest : wrapsPayload (s.testLine carrier.payload carrier.node) = false := by
    rw [testLine_eq]
    simp only [String.append_assoc]
    exact wrapsPayload_start (by decide) _
  simp (disch := decide) [testTexts, SentReply.texts, carrierReply, List.filter_cons, hwraps, htest,
    wrapsPayload_sendLine]

/-- The answers wrap one payload for each carrier. -/
theorem filter_answerTexts (op : Operation) (arm : RequestArm) (carriers : List FaultCarrier) :
    (s.answerTexts op arm carriers).filter wrapsPayload =
      carriers.map fun carrier => s.carrierLine carrier.node := by
  have hhook : wrapsPayload ("self.handler.on_" ++ op.methodBase ++ "_sent(&result);") = false := by
    rw [String.append_assoc]
    exact wrapsPayload_start (by decide) _
  have hresponse : (s.responseReply op arm).texts.filter wrapsPayload = [] := by
    unfold responseReply
    split <;> simp (disch := decide) [SentReply.texts, List.filter_cons, hhook,
      wrapsPayload_sendLine]
  have htests : (carriers.flatMap (s.testTexts arm)).filter wrapsPayload =
      carriers.map fun carrier => s.carrierLine carrier.node := by
    rw [List.filter_flatMap, List.map_eq_flatMap]
    exact List.flatMap_congr fun carrier _ => s.filter_testTexts arm carrier
  have hplain : ∀ before text code, ((s.plainFaultReply op arm before text code).send ::
      (s.plainFaultReply op arm before text code).after).filter wrapsPayload = [] := by
    intro before text code
    simp (disch := decide) [plainFaultReply, List.filter_cons, wrapsPayload_sendLine]
  have hunexpected : (s.plainFaultReply op arm "Err(panic) => \x7b" "panic.to_string()"
      "Unexpected").texts.filter wrapsPayload = [] := by
    have hpanic : ¬ wrapsPayload "Err(panic) => \x7b" = true := by decide
    exact (List.filter_cons_of_neg hpanic).trans (hplain ..)
  simp only [answerTexts, List.filter_append, hresponse, htests, hplain, hunexpected]
  simp (disch := decide)

/-! ## Declared and used variants -/

variable {s}
variable {c : Contract} {options : Options}

/-- **The choices that are written for the fault sets.**  Each has one variant for each carrier,
called after the payload. -/
theorem choices_faultUnions (h : c.compile options = .ok s.compiled) :
    Code.choices s.faultUnions = s.catalog.faultSets.map fun set =>
      ("pub enum " ++ s.nodeName set.marker, set.inKeyOrder.map s.variantLine) := by
  have hset : ∀ set ∈ s.catalog.faultSets,
      Code.choices (s.faultUnion (.below s.catalog s.compiled.hierarchy set.marker)) =
        [("pub enum " ++ s.nodeName set.marker, set.inKeyOrder.map s.variantLine)] := by
    intro set hset
    have hmembers := Compiled.members_faultUnion h hset
    obtain ⟨p, hp, -, -, rfl⟩ := Compiled.mem_faultSets h hset
    rw [choices_faultUnion, show (Union.below s.catalog _ _).members = _ from hmembers,
      List.map_map]
    refine congrArg (fun variants => [(_, variants)]) (List.map_congr_left ?_)
    intro carrier hcarrier
    have hvariant := (Compiled.faultVariant_eq h hp ((stableSort_perm _).mem_iff.1 hcarrier)).1
    change s.compiled.catalog.faultVariant carrier.node ++ _ ++ _ ++ _ ++ _ ++ _ = _
    rw [hvariant]
    rfl
  obtain ⟨serializer, hunions⟩ := exists_unions h
  rw [faultUnions, hunions]
  change Code.choices (Code.separated _) = _
  rw [Code.choices, Code.filterMap_separated rfl, List.flatMap_map, Binding.adapterFor,
    List.flatMap_map, List.map_eq_flatMap]
  exact List.flatMap_congr hset

/-- **The dispatcher of a request** wraps each payload it catches, in the order of its tests, in the
variant that is called after the payload. -/
theorem wrapping_requestBody (h : c.compile options = .ok s.compiled) {p : Placement}
    {arm : RequestArm} (harm : s.compiled.ArmOf p arm) :
    (Code.textsAll (s.requestBody arm)).filter wrapsPayload =
      (p.carriers c).map (s.wrappingLine
        (p.candidate.operation.faultSet c p.candidate.index (p.first + 2))) := by
  have hclose : ¬ wrapsPayload (closeLine arm) = true := by
    unfold closeLine
    split <;> decide
  rw [textsAll_requestBody h harm, List.filter_append, filter_setup, List.nil_append,
    List.filter_cons_of_neg hclose, filter_answerTexts]
  refine List.map_congr_left fun carrier hcarrier => ?_
  have hunion : s.carrierUnion carrier.node = s.nodeName (p.first + 2) := by
    rw [carrierUnion, show (s.catalog.get? carrier.node).bind Node.base = _ from
      Compiled.base_carrier h harm.placed hcarrier]
    rfl
  have hvariant : s.catalog.faultVariant carrier.node = carrier.payload.fragment :=
    (Compiled.faultVariant_eq h harm.placed hcarrier).1
  rw [carrierLine_eq, hunion, hvariant]
  rfl

/-- The variants of a fault set are called after its payloads, where they are declared and where
they are used. -/
structure VariantsFit (s : Source) (set : FaultSet) : Prop where
  recovered : ∀ carrier ∈ set.carriers,
    s.catalog.faultVariant carrier.node = carrier.payload.fragment
  nonempty : ∀ carrier ∈ set.carriers, s.catalog.faultVariant carrier.node ≠ ""
  distinct : (set.carriers.map fun carrier => s.catalog.faultVariant carrier.node).Nodup
  /-- There is one carrier for each fault that the operation declares. -/
  declared : ∃ op, (set.operation, op) ∈ s.compiled.generatedOperations ∧
    (set.carriers.map FaultCarrier.fault).Perm op.faults
  /-- Some dispatcher handles the operation. -/
  handled : ∃ peer arm, Arm.request arm ∈ (s.compiled.dispatch peer).arms ∧
    arm.operation = set.operation
  /-- Whichever does wraps each payload in its variant. -/
  wrapped : ∀ peer arm, Arm.request arm ∈ (s.compiled.dispatch peer).arms →
    arm.operation = set.operation →
      (Code.textsAll (s.requestBody arm)).filter wrapsPayload =
        set.carriers.map (s.wrappingLine set)

/-- **Variants are called after payloads.**  The choices of a compiled contract have one variant for
each declared fault, no two of them the same, and a dispatcher names the variants that are
declared. -/
theorem fault_variants_recover (h : c.compile options = .ok s.compiled) :
    Code.choices s.faultUnions = (s.catalog.faultSets.map fun set =>
        ("pub enum " ++ s.nodeName set.marker, set.inKeyOrder.map s.variantLine)) ∧
      ∀ set ∈ s.catalog.faultSets, s.VariantsFit set := by
  refine ⟨choices_faultUnions h, ?_⟩
  intro set hset
  obtain ⟨p, hp, hone, hfaults, rfl⟩ := Compiled.mem_faultSets h hset
  have hvariant := fun carrier (hcarrier : carrier ∈ p.carriers c) =>
    Compiled.faultVariant_eq h hp hcarrier
  refine ⟨fun carrier hcarrier => (hvariant carrier hcarrier).1, ?_,
    Compiled.nodup_variants h hp hfaults, ⟨p.candidate.operation, ?_, p.faults_perm c⟩,
    Compiled.exists_arm h hp hone, ?_⟩
  · intro carrier hcarrier hempty
    obtain ⟨heq, hne⟩ := hvariant carrier hcarrier
    exact hne (heq.symm.trans hempty)
  · rw [Compiled.generatedOperations_eq h]
    exact List.mem_map_of_mem hp
  · intro peer arm harm hoperation
    obtain ⟨q, hq⟩ := Compiled.exists_armOf h harm
    have hsame := Compiled.eq_of_index_eq h hq.placed hp (hq.operation.symm.trans hoperation)
    subst hsame
    exact wrapping_requestBody h hq

end Source

/-- A contract whose operations and payloads are called like the roles of messages.  Its second
operation is skipped, since its payloads would give two carriers of one name. -/
def Contract.mishaps : Contract :=
  { Contract.sample "Mishaps"
      [{ name := "FaultData", kind := ⟨.requestResponse, .toServer⟩
         faults := [⟨5, .named "jam::Fault"⟩, ⟨2, .named "jam::FaultData"⟩] },
       { name := "Fault", kind := ⟨.requestResponse, .toServer⟩
         faults := [⟨1, .named "jam::Fault"⟩, ⟨4, .named "leak::Fault"⟩] }] with
    faultKinds := [⟨.named "jam::Fault", none⟩, ⟨.named "jam::FaultData", none⟩,
      ⟨.named "leak::Fault", none⟩] }

/-- What is left of the names of its carriers are the names of the payloads. -/
theorem Source.mishaps_fault_variants_recover :
    ∃ s : Source, Contract.mishaps.compile {} = .ok s.compiled ∧
      Code.choices s.faultUnions = [("pub enum FaultDataFaultData",
        ["FaultData(FaultDataFaultDataFault) = 2,", "Fault(FaultDataFaultFault) = 5,"])] ∧
      ∀ set ∈ s.catalog.faultSets, s.VariantsFit set := by
  obtain ⟨compiled, h, hcheck⟩ := Contract.exists_compile Contract.mishaps {}
    (fun compiled =>
      let s : Source := { compiled }
      (s.catalog.faultSets.map fun set =>
          ("pub enum " ++ s.nodeName set.marker, set.inKeyOrder.map s.variantLine)) =
        [("pub enum FaultDataFaultData",
          ["FaultData(FaultDataFaultDataFault) = 2,", "Fault(FaultDataFaultFault) = 5,"])])
    (by decide)
  obtain ⟨hchoices, hfit⟩ := fault_variants_recover (s := { compiled }) h
  exact ⟨{ compiled }, h, hchoices.trans (of_decide_eq_true hcheck), hfit⟩

end ServiceContract
