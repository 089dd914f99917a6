import Mathlib.Data.List.Nodup
import ServiceContract.Source.Messages
import ServiceContract.Proofs.Composition
import ServiceContract.Proofs.Sorting
import ServiceContract.Proofs.WellFormed
import ServiceContract.Proofs.Words

/-!
# The constants of the message keys

Every message has a constant that holds its key.  The constant is spelled from the name of the
message type, which is itself spelled from the name of the operation, so two type names that differ
only in where their words end share a constant.

The constant of a message is the constant of its operation followed by that of its role
(`Operation.constantName_message`), and neither part runs into the other
(`message_constant_inj`).  So `Compiled.nodup_constants_iff` can say which contracts have a constant
for each message: those whose operations have constants of their own, none of them `CANCEL`.
-/

namespace ServiceContract

/-- The roles of messages that belong to an operation. -/
def callRoles : List Role := [.oneWay, .request, .response, .fault, .inputPage, .outputPage]

namespace Operation

/-- Does the operation have a message of a role? -/
def hasMessage (op : Operation) : Role → Bool
  | .oneWay => op.kind.isOneWay
  | .request | .response | .fault => !op.kind.isOneWay
  | .inputPage => !op.kind.isOneWay && op.inputStream.isSome
  | .outputPage => !op.kind.isOneWay && op.outputStream.isSome
  | _ => false

/-- The roles of the messages of an operation, in the order of their keys. -/
def messageRoles (op : Operation) : List Role := callRoles.filter op.hasMessage

/-- What the constants of an operation start with. -/
def constant (op : Operation) : String := constantName op.typeName

variable {op : Operation}

theorem mem_callRoles {role : Role} (h : role ∈ op.messageRoles) : role ∈ callRoles :=
  List.mem_of_mem_filter h

/-- An operation has one message in each role. -/
theorem messageRoles_nodup : op.messageRoles.Nodup :=
  List.Nodup.filter _ (by decide)

/-- A role tells whether the operation is answered. -/
theorem isOneWay_of_mem_messageRoles {role : Role} (h : role ∈ op.messageRoles) :
    op.kind.isOneWay = decide (role = .oneWay) := by
  have hhas := (List.mem_filter.1 h).2
  cases role <;> simp_all [hasMessage]

/-- Operations that are answered alike have a message of the same role. -/
theorem exists_mem_messageRoles {a b : Operation} (h : a.kind.isOneWay = b.kind.isOneWay) :
    ∃ role, role ∈ a.messageRoles ∧ role ∈ b.messageRoles := by
  cases hone : b.kind.isOneWay with
  | true => exact ⟨.oneWay, by simp [messageRoles, callRoles, hasMessage, h, hone]⟩
  | false => exact ⟨.request, by simp [messageRoles, callRoles, hasMessage, h, hone]⟩

end Operation

/-- The suffix of a message name is capitalised and plain. -/
theorem callRoles_suffix {role : Role} (h : role ∈ callRoles) :
    ∃ upper lower rest, role.suffix.toList = upper :: lower :: rest ∧ upper.isUpper = true ∧
      lower.isLower = true ∧ ∀ c ∈ upper :: lower :: rest, Text.IsPlain c := by
  simp only [callRoles, List.mem_cons, List.not_mem_nil, or_false] at h
  rcases h with rfl | rfl | rfl | rfl | rfl | rfl
  all_goals exact ⟨_, _, _, String.toList_ofList, rfl, rfl, Text.isPlain_of_all rfl⟩

/-- The constant of a message: that of the operation, and that of the role behind it. -/
theorem Operation.constantName_message {op : Operation} (hname : isIdentifier op.name = true)
    {role : Role} (hrole : role ∈ callRoles) :
    constantName (op.typeName ++ role.suffix) =
      op.constant ++ "_" ++ constantName role.suffix := by
  obtain ⟨first, rest, hlist, halpha, -⟩ := isIdentifier_eq_true hname
  have hascii : ∀ c ∈ first :: rest, c.toNat < 128 := by
    intro c hc
    exact toNat_lt_of_isIdentifier hname (hlist ▸ hc)
  obtain ⟨upper, lower, tail, hsuffix, hupper, hlower, hplain⟩ := callRoles_suffix hrole
  obtain ⟨word, hcamel⟩ := Text.camelChars_eq_cons hascii halpha
  have htype : op.typeName.toList = first.toUpper :: word := by
    rw [typeName, Text.camel, hlist, hcamel, String.toList_ofList]
  have hword : ∀ c ∈ first.toUpper :: word, Text.IsPlain c := by
    intro c hc
    exact Text.isPlain_of_mem_camelChars hascii (hcamel ▸ hc)
  have hfirst : Text.isUpper first.toUpper = true :=
    Text.isUpper_toUpper (hascii first (by simp)) halpha
  apply String.toList_injective
  simp only [constant, constantName, Text.shouty, String.toList_ofList, String.toList_append, htype,
    hsuffix]
  rw [Text.shoutyChars_append hword hfirst hplain hupper hlower]
  simp

/-- The constants of messages are told apart by role and by operation. -/
theorem message_constant_inj {x y : String} {r s : Role} (hr : r ∈ callRoles) (hs : s ∈ callRoles)
    (h : x ++ "_" ++ constantName r.suffix = y ++ "_" ++ constantName s.suffix) :
    r = s ∧ x = y := by
  have hsuffix : ∀ r ∈ callRoles, ∀ s ∈ callRoles,
      ("_" ++ constantName r.suffix).toList <:+ ("_" ++ constantName s.suffix).toList →
        r = s := by
    decide
  have hlist : x.toList ++ ("_" ++ constantName r.suffix).toList =
      y.toList ++ ("_" ++ constantName s.suffix).toList := by
    rw [← String.toList_append, ← String.toList_append, ← String.append_assoc,
      ← String.append_assoc, h]
  have hrs : r = s := by
    rcases List.suffix_or_suffix_of_suffix ⟨x.toList, hlist⟩ ⟨y.toList, rfl⟩ with hle | hle
    · exact hsuffix r hr s hs hle
    · exact (hsuffix s hs r hr hle).symm
  subst hrs
  exact ⟨rfl, String.toList_injective (List.append_cancel_right hlist)⟩

/-- The constant of the message that cancels looks like that of a request. -/
theorem cancel_constant :
    constantName SystemMessage.cancelRequest.name =
      "CANCEL" ++ "_" ++ constantName Role.request.suffix := by
  decide

/-- Of the messages of an operation, only the request of `CANCEL` has the constant of a system
message. -/
theorem system_constant_eq {message : SystemMessage} (hmessage : message ∈ SystemMessage.all)
    {x : String} {r : Role} (hr : r ∈ callRoles)
    (h : constantName message.name = x ++ "_" ++ constantName r.suffix) :
    r = .request ∧ x = "CANCEL" := by
  have hsuffix : ∀ message ∈ SystemMessage.all, ∀ r ∈ callRoles,
      ("_" ++ constantName r.suffix).toList <:+ (constantName message.name).toList →
        message = .cancelRequest ∧ r = .request := by
    decide +kernel
  have hlist : (constantName message.name).toList =
      x.toList ++ ("_" ++ constantName r.suffix).toList := by
    rw [← String.toList_append, ← String.append_assoc, h]
  obtain ⟨rfl, rfl⟩ := hsuffix message hmessage r hr ⟨x.toList, hlist.symm⟩
  exact ⟨rfl, (message_constant_inj hr hr (cancel_constant.symm.trans h)).2.symm⟩

namespace Operation

/-- The constants of the messages of an operation. -/
def messageConstants (op : Operation) : List String :=
  op.messageRoles.map fun role => op.constant ++ "_" ++ constantName role.suffix

/-- Each message of an operation has the constant of its role. -/
theorem mem_messageConstants {op : Operation} {role : Role} (h : role ∈ op.messageRoles) :
    op.constant ++ "_" ++ constantName role.suffix ∈ op.messageConstants :=
  List.mem_map.2 ⟨role, h, rfl⟩

/-- Each message of an operation has a constant of its own. -/
theorem messageConstants_nodup (op : Operation) : op.messageConstants.Nodup := by
  refine List.Nodup.map_on ?_ messageRoles_nodup
  intro r hr s hs h
  exact (message_constant_inj (mem_callRoles hr) (mem_callRoles hs) h).1

/-- Two operations share a constant exactly if they are answered alike and their constants start
alike. -/
theorem disjoint_messageConstants {a b : Operation} :
    a.messageConstants.Disjoint b.messageConstants ↔
      (a.kind.isOneWay = b.kind.isOneWay → a.constant ≠ b.constant) := by
  constructor
  · intro hdisjoint hone hconstant
    obtain ⟨role, ha, hb⟩ := exists_mem_messageRoles hone
    have hshared := mem_messageConstants hb
    rw [← hconstant] at hshared
    exact hdisjoint (mem_messageConstants ha) hshared
  · intro hne x hxa hxb
    obtain ⟨r, hr, rfl⟩ := List.mem_map.1 hxa
    obtain ⟨s, hs, heq⟩ := List.mem_map.1 hxb
    obtain ⟨rfl, hconstant⟩ := message_constant_inj (mem_callRoles hs) (mem_callRoles hr) heq
    refine hne ?_ hconstant.symm
    rw [isOneWay_of_mem_messageRoles hr, isOneWay_of_mem_messageRoles hs]

/-- An operation takes no constant of a system message unless its request is that of `CANCEL`. -/
theorem disjoint_system_constants {op : Operation} :
    (SystemMessage.all.map fun message => constantName message.name).Disjoint
        op.messageConstants ↔
      (op.kind.isOneWay = false → op.constant ≠ "CANCEL") := by
  constructor
  · intro hdisjoint hone hconstant
    have hmem : Role.request ∈ op.messageRoles := by
      simp [messageRoles, callRoles, hasMessage, hone]
    refine hdisjoint (List.mem_map.2 ⟨.cancelRequest, by decide, cancel_constant⟩) ?_
    rw [← hconstant]
    exact mem_messageConstants hmem
  · intro hne x hsystem hop
    obtain ⟨message, hmessage, rfl⟩ := List.mem_map.1 hsystem
    obtain ⟨role, hrole, heq⟩ := List.mem_map.1 hop
    obtain ⟨rfl, hconstant⟩ := system_constant_eq hmessage (mem_callRoles hrole) heq.symm
    exact hne (isOneWay_of_mem_messageRoles hrole) hconstant

/-- The names of the drafts with a key, in order. -/
theorem filterMap_name_drafts (c : Contract) (index : Nat) (op : Operation) (first : NodeId)
    (key : MessageKey) :
    (op.drafts c index (op.keysFrom key) first).filterMap
        (fun draft => draft.key.map fun _ => draft.name) =
      op.messageRoles.map fun role => op.typeName ++ role.suffix := by
  have hcarriers : ∀ marker, (op.faultDrafts index marker).filterMap
      (fun draft => draft.key.map fun _ => draft.name) = [] := by
    intro marker
    cases marker <;> simp [faultDrafts, markerDraft, carrierDraft]
  cases hkind : op.kind.isOneWay with
  | true =>
      simp [drafts, keysFrom, hkind, oneWayDraft, messageRoles, callRoles, hasMessage]
  | false =>
      cases hin : op.inputStream <;> cases hout : op.outputStream <;>
        simp [drafts, requestDrafts, keysFrom, hkind, hcarriers, hin, hout, requestDraft,
          responseDraft, faultDraft, pageDrafts, pageDraft, messageRoles, callRoles, hasMessage]

end Operation

namespace Compiled

variable {c : Contract} {options : Options} {compiled : Compiled}

/-- The entries of the key table are the messages in the order of the catalog, which is that of
their keys. -/
theorem keyEntries_eq (h : c.compile options = .ok compiled) :
    compiled.catalog.keyEntries =
      compiled.catalog.nodes.filterMap fun node => node.key.map fun key => (node.name, key) := by
  have hmessages : (compiled.catalog.messages.filterMap fun node =>
        node.key.map fun key => (node.name, key)) =
      compiled.catalog.nodes.filterMap fun node => node.key.map fun key => (node.name, key) := by
    rw [Catalog.messages, List.filterMap_filter]
    congr 1
    funext node
    cases node.key <;> rfl
  have hkeys : (compiled.catalog.messages.filterMap fun node =>
      node.key.map fun key => (node.name, key)).map Prod.snd =
      compiled.catalog.messages.filterMap Node.key := by
    simp [List.map_filterMap, Function.comp_def]
  have hsorted := messages_keys_pairwise h
  rw [← hkeys, List.pairwise_map] at hsorted
  rw [Catalog.keyEntries, stableSort_of_pairwise, hmessages]
  exact hsorted.imp fun hlt => decide_eq_true (Nat.le_of_lt hlt)

/-- The constants of a compiled contract: those of the system messages, then those of each generated
operation. -/
theorem constants_eq (h : c.compile options = .ok compiled) :
    compiled.catalog.keyEntries.map (fun entry => constantName entry.1) =
      SystemMessage.all.map (fun message => constantName message.name) ++
        compiled.placements.flatMap fun p => p.candidate.operation.messageConstants := by
  have hnames : ∀ qualifier first drafts,
      (Draft.finalizeFrom qualifier first drafts).filterMap
          (fun node => node.key.map fun _ => node.name) =
        drafts.filterMap fun draft => draft.key.map fun _ => draft.name := by
    intro qualifier first drafts
    have hmap := Draft.map_finalizeFrom (f := fun node => node.key.map fun _ => node.name)
      (g := fun draft => draft.key.map fun _ => draft.name) qualifier first drafts
      (fun _ _ => rfl)
    simpa [List.filterMap_map] using congrArg (List.filterMap id) hmap
  have hplacement : ∀ p ∈ compiled.placements,
      ((p.nodes c).filterMap fun node => node.key.map fun _ => node.name).map constantName =
        p.candidate.operation.messageConstants := by
    intro p hp
    obtain ⟨key, -, hkeys⟩ := exists_block h hp
    rw [Placement.nodes, hnames, Placement.drafts, hkeys, Operation.filterMap_name_drafts,
      List.map_map]
    refine List.map_congr_left fun role hrole => ?_
    exact Operation.constantName_message (wellFormed h hp).name_identifier
      (Operation.mem_callRoles hrole)
  have hentries : compiled.catalog.keyEntries.map (fun entry => constantName entry.1) =
      (compiled.catalog.nodes.filterMap fun node => node.key.map fun _ => node.name).map
        constantName := by
    simp [keyEntries_eq h, List.map_filterMap, Function.comp_def]
  rw [hentries, catalog_nodes h, List.filterMap_append, List.map_append, hnames,
    List.filterMap_flatMap, List.map_flatMap, List.flatMap_congr hplacement]
  rfl

/-- **Which contracts have a constant for each message.**  Exactly those in which no two generated
operations that are answered alike have constants that start alike, and no generated call has the
constants of `CANCEL`, whose request is a system message. -/
theorem nodup_constants_iff (h : c.compile options = .ok compiled) :
    (compiled.catalog.keyEntries.map fun entry => constantName entry.1).Nodup ↔
      compiled.generatedOperations.Pairwise (fun a b =>
        a.2.kind.isOneWay = b.2.kind.isOneWay →
          constantName a.2.typeName ≠ constantName b.2.typeName) ∧
      ∀ entry ∈ compiled.generatedOperations,
        entry.2.kind.isOneWay = false → constantName entry.2.typeName ≠ "CANCEL" := by
  have hsystem : (SystemMessage.all.map fun message => constantName message.name).Nodup := by
    decide +kernel
  have hshared : (SystemMessage.all.map fun message => constantName message.name).Disjoint
      (compiled.placements.flatMap fun p => p.candidate.operation.messageConstants) ↔
      ∀ p ∈ compiled.placements, p.candidate.operation.kind.isOneWay = false →
        constantName p.candidate.operation.typeName ≠ "CANCEL" := by
    constructor
    · intro hdisjoint p hp
      refine Operation.disjoint_system_constants.1 ?_
      exact fun x hx hop => hdisjoint hx (List.mem_flatMap.2 ⟨p, hp, hop⟩)
    · intro hcancel x hx hop
      obtain ⟨p, hp, hop⟩ := List.mem_flatMap.1 hop
      exact Operation.disjoint_system_constants.2 (hcancel p hp) hx hop
  rw [constants_eq h, List.nodup_append', List.nodup_flatMap, hshared, generatedOperations_eq h,
    List.pairwise_map, List.forall_mem_map]
  constructor
  · rintro ⟨-, ⟨-, hpair⟩, hcancel⟩
    exact ⟨hpair.imp fun hne => Operation.disjoint_messageConstants.1 hne, hcancel⟩
  · rintro ⟨hpair, hcancel⟩
    exact ⟨hsystem, ⟨fun p _ => Operation.messageConstants_nodup _,
      hpair.imp fun hne => Operation.disjoint_messageConstants.2 hne⟩, hcancel⟩

end Compiled

/-- Two calls whose names have different words and the same letters. -/
def Contract.initials : Contract :=
  .sample "Initials"
    [{ name := "a_b", kind := ⟨.requestResponse, .toServer⟩ },
     { name := "ab", kind := ⟨.requestResponse, .toServer⟩ }]

namespace Compiled

/-- The sample contract has a constant for each message. -/
theorem chat_nodup_constants :
    ∃ compiled, Contract.chat.compile {} = .ok compiled ∧
      compiled.generatedOperations.length = 3 ∧
      (compiled.catalog.keyEntries.map fun entry => constantName entry.1).Nodup := by
  obtain ⟨compiled, h, hcheck⟩ := Contract.exists_compile Contract.chat {}
    (fun compiled => compiled.generatedOperations.length = 3 ∧
      compiled.generatedOperations.Pairwise (fun a b =>
        a.2.kind.isOneWay = b.2.kind.isOneWay →
          constantName a.2.typeName ≠ constantName b.2.typeName) ∧
      ∀ entry ∈ compiled.generatedOperations,
        entry.2.kind.isOneWay = false → constantName entry.2.typeName ≠ "CANCEL")
    (by decide +kernel)
  obtain ⟨hlength, hdistinct⟩ := of_decide_eq_true hcheck
  exact ⟨compiled, h, hlength, (nodup_constants_iff h).2 hdistinct⟩

/-- Both calls of `Contract.initials` are generated without a complaint, and share constants. -/
theorem initials_constants_repeat :
    ∃ compiled, Contract.initials.compile {} = .ok compiled ∧
      compiled.generatedOperations.length = 2 ∧ compiled.diagnostics = [] ∧
      ¬(compiled.catalog.keyEntries.map fun entry => constantName entry.1).Nodup := by
  obtain ⟨compiled, h, hcheck⟩ := Contract.exists_compile Contract.initials {}
    (fun compiled => compiled.generatedOperations.length = 2 ∧ compiled.diagnostics = [] ∧
      ¬(compiled.catalog.keyEntries.map fun entry => constantName entry.1).Nodup)
    (by decide +kernel)
  exact ⟨compiled, h, of_decide_eq_true hcheck⟩

end Compiled

end ServiceContract
