import ServiceContract.Proofs.TypeNames
import ServiceContract.Proofs.Words

/-!
# Variants of incoming messages

What a peer handles is written as a choice with one variant for each arm of its plan, called like
the operation, and a last one, `Unknown`, for a key outside the plan.  `Code.variants` reads the
variants off the written code.

Operations are compared with each other before they are generated, so their variants are distinct.
The last variant is compared with nothing: an operation may be called `Unknown` too, as in
`Contract.alarms`.  The variants are distinct exactly if no operation of the plan is
(`Source.inbound_variants_distinct_iff`).
-/

namespace ServiceContract

/-- The variant for a key outside the plan. -/
def terminalVariant : String := "Unknown"

/-- The name that a line of a choice declares: what stands before its members. -/
def declaredVariant (line : String) : String :=
  String.ofList (line.toList.takeWhile fun c => c.isAlphanum || c = '_')

namespace Code

/-- The text of a line of code. -/
def lineText? : Code → Option String
  | line text => some text
  | _ => none

/-- The variants that a piece of code declares, if it is a choice. -/
def variantsOf : Code → List String
  | block header body _ =>
    if "pub enum ".toList.isPrefixOf header.toList then
      (body.filterMap lineText?).map declaredVariant
    else []
  | _ => []

/-- The variants of the choices that code declares at its outermost level. -/
def variants (code : List Code) : List String := code.flatMap variantsOf

end Code

/-- A plain name and then its members declare that name. -/
theorem declaredVariant_append {name rest : String} (hname : ∀ c ∈ name.toList, Text.IsPlain c)
    (hrest : ∀ c ∈ rest.toList.head?, (c.isAlphanum || c = '_') = false) :
    declaredVariant (name ++ rest) = name := by
  have hstops : rest.toList.takeWhile (fun c => c.isAlphanum || c = '_') = [] := by
    cases hcs : rest.toList with
    | nil => rfl
    | cons c cs =>
        have hc := hrest c (by simp [hcs])
        simp only [List.takeWhile_cons, hc, Bool.false_eq_true, if_false]
  rw [declaredVariant, String.toList_append, List.takeWhile_append_of_pos, hstops, List.append_nil,
    String.ofList_toList]
  intro c hc
  simp [(hname c hc).2]

/-- An operation that is called by an identifier has a plain name among types. -/
theorem Operation.isPlain_of_mem_typeName {op : Operation} (h : isIdentifier op.name = true)
    {c : Char} (hc : c ∈ op.typeName.toList) : Text.IsPlain c := by
  rw [typeName, Text.camel, String.toList_ofList] at hc
  exact Text.isPlain_of_mem_camelChars (fun d hd => toNat_lt_of_isIdentifier h hd) hc

/-- The variant of an arm is called after its operation. -/
theorem Generated.variant_arm (entry : Generated) (catalog : Catalog) (key : MessageKey) :
    (entry.arm catalog key).variant = entry.operation.typeName := by
  unfold arm
  split <;> rfl

namespace Compiled

variable {c : Contract} {options : Options} {compiled : Compiled}

/-- The variants of a plan are called like the operations that the peer handles. -/
theorem map_variant_arms (h : c.compile options = .ok compiled) (peer : Peer) :
    (compiled.dispatch peer).arms.map Arm.variant =
      (compiled.directed peer.handles).map fun p => p.candidate.operation.typeName := by
  rw [arms_eq h, List.map_map]
  refine List.map_congr_left fun p _ => ?_
  exact Generated.variant_arm ..

/-- No two arms of a plan have the same variant. -/
theorem nodup_arm_variants (h : c.compile options = .ok compiled) (peer : Peer) :
    ((compiled.dispatch peer).arms.map Arm.variant).Nodup := by
  rw [map_variant_arms h]
  exact List.pairwise_map.2 ((placements_pairwise_typeName h).filter _)

end Compiled

namespace Source

variable {c : Contract} {options : Options} {s : Source}

/-- The written choice declares the variants of the arms in order, and the last one. -/
theorem variants_inboundType (h : c.compile options = .ok s.compiled) (peer : Peer) :
    Code.variants (s.inboundType (s.compiled.dispatch peer)) =
      (s.compiled.dispatch peer).arms.map Arm.variant ++ [terminalVariant] := by
  have harm : ∀ arm ∈ (s.compiled.dispatch peer).arms,
      declaredVariant (arm.variant ++ "(" ++ s.nodeName arm.inbound ++ "),") = arm.variant := by
    intro arm harm
    have hmem := List.mem_map_of_mem (f := Arm.variant) harm
    rw [Compiled.map_variant_arms h] at hmem
    obtain ⟨p, hp, hvariant⟩ := List.mem_map.1 hmem
    have hname := (Compiled.wellFormed h (Compiled.mem_directed.1 hp).1).name_identifier
    rw [String.append_assoc, String.append_assoc]
    refine declaredVariant_append (fun d hd => ?_) (by simp)
    exact Operation.isPlain_of_mem_typeName hname (hvariant ▸ hd)
  have hlast : declaredVariant ("Unknown " ++ braced "key: u32" ++ ",") = terminalVariant := by
    decide +kernel
  have henum : "pub enum ".toList.isPrefixOf
      ("pub enum " ++ (s.compiled.dispatch peer).inbound).toList = true := by
    rw [String.toList_append, List.isPrefixOf_iff_prefix]
    exact List.prefix_append ..
  have himpl : "pub enum ".toList.isPrefixOf
      ("impl " ++ (s.compiled.dispatch peer).inbound).toList = false := by
    rw [String.toList_append]
    rfl
  simp only [inboundType, Code.variants, List.flatMap_cons, List.flatMap_nil, Code.variantsOf,
    henum, himpl, if_true, Bool.false_eq_true, if_false, List.nil_append, List.append_nil,
    List.filterMap_append, List.filterMap_map, List.map_append, List.filterMap_cons,
    List.filterMap_nil, Code.lineText?, List.map_cons, List.map_nil, hlast]
  congr 1
  rw [List.map_filterMap, ← List.filterMap_eq_map]
  exact List.filterMap_congr fun arm hmem => congrArg some (harm arm hmem)

/-- **Variants.**  For each peer of a compiled contract, the choice of incoming messages declares a
variant for each arm, which are distinct, and the last one.  All are distinct exactly if the peer
handles no generated operation that is called like the last one. -/
theorem inbound_variants_distinct_iff (h : c.compile options = .ok s.compiled) (peer : Peer) :
    Code.variants (s.inboundType (s.compiled.dispatch peer)) =
        (s.compiled.dispatch peer).arms.map Arm.variant ++ [terminalVariant] ∧
      ((s.compiled.dispatch peer).arms.map Arm.variant).Nodup ∧
      ((Code.variants (s.inboundType (s.compiled.dispatch peer))).Nodup ↔
        ∀ index op, (index, op) ∈ s.compiled.generatedOperations →
          op.kind.direction = peer.handles → op.typeName ≠ terminalVariant) := by
  have hvariants := variants_inboundType h peer
  have hnodup := Compiled.nodup_arm_variants h peer
  refine ⟨hvariants, hnodup, ?_⟩
  have hfree : (Code.variants (s.inboundType (s.compiled.dispatch peer))).Nodup ↔
      terminalVariant ∉ (s.compiled.dispatch peer).arms.map Arm.variant := by
    rw [hvariants, List.nodup_append_comm, List.singleton_append, List.nodup_cons]
    exact and_iff_left hnodup
  rw [hfree, Compiled.map_variant_arms h, Compiled.generatedOperations_eq h]
  constructor
  · intro hfree index op hmem hhandled hname
    obtain ⟨p, hp, hpair⟩ := List.mem_map.1 hmem
    obtain ⟨rfl, rfl⟩ := Prod.mk.inj hpair
    exact hfree (List.mem_map.2 ⟨p, Compiled.mem_directed.2 ⟨hp, hhandled⟩, hname⟩)
  · intro hother hmem
    obtain ⟨p, hp, hname⟩ := List.mem_map.1 hmem
    obtain ⟨hplaced, hhandled⟩ := Compiled.mem_directed.1 hp
    exact hother _ _ (List.mem_map.2 ⟨p, hplaced, rfl⟩) hhandled hname

/-- In the sample contract both peers handle something, and all variants are distinct. -/
theorem chat_inbound_variants_distinct :
    ∃ compiled, Contract.chat.compile {} = .ok compiled ∧ ∀ peer,
      (compiled.dispatch peer).arms ≠ [] ∧
      (Code.variants (Source.inboundType { compiled } (compiled.dispatch peer))).Nodup := by
  obtain ⟨compiled, h, hcheck⟩ := Contract.exists_compile Contract.chat {}
    (fun compiled => (∀ peer ∈ [Peer.client, .server], (compiled.dispatch peer).arms ≠ []) ∧
      ∀ entry ∈ compiled.generatedOperations, entry.2.typeName ≠ terminalVariant)
    (by decide +kernel)
  obtain ⟨harms, hother⟩ := of_decide_eq_true hcheck
  refine ⟨compiled, h, fun peer => ⟨harms peer (by cases peer <;> decide), ?_⟩⟩
  obtain ⟨-, -, hiff⟩ := inbound_variants_distinct_iff (s := { compiled }) h peer
  exact hiff.2 fun index op hmem _ => hother (index, op) hmem

end Source

/-- A contract whose only operation is called like the last variant. -/
def Contract.alarms : Contract :=
  .sample "Alarms" [{ name := "Unknown", kind := ⟨.oneWay, .toServer⟩ }]

/-- `Contract.alarms` is compiled without a diagnostic, and its choice of incoming messages declares
`Unknown` twice. -/
theorem Source.alarms_variant_declared_twice :
    ∃ compiled, Contract.alarms.compile {} = .ok compiled ∧ compiled.diagnostics = [] ∧
      Code.variants (Source.inboundType { compiled } (compiled.dispatch .server)) =
        ["Unknown", "Unknown"] := by
  obtain ⟨compiled, h, hcheck⟩ := Contract.exists_compile Contract.alarms {}
    (fun compiled => compiled.diagnostics = [] ∧
      (compiled.dispatch .server).arms.map Arm.variant = ["Unknown"]) (by decide +kernel)
  obtain ⟨hsilent, harms⟩ := of_decide_eq_true hcheck
  refine ⟨compiled, h, hsilent, ?_⟩
  rw [variants_inboundType (s := { compiled }) h, harms]
  rfl

end ServiceContract
