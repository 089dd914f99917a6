import ServiceContract.Proofs.FaultVariants

/-!
# Sources on single lines

If the names of a contract and the paths of its types have no line feed, then no name of its catalog,
its surfaces and its plans has one, and no type in them is spelled with one.  `Compiled.lined` says so
of a whole compiled contract, with what the starts of lines need besides: names that begin a line are
bare, or muted as they are, or do not start with two colons.

Documentation is left out, since it may have any number of lines.
-/

namespace ServiceContract

open Text

/-- No text of a contract that stands inside a line has a line feed: neither its names, nor the path
of a named type.  Operations whose own names are no identifiers are not generated. -/
structure Contract.OneLineTexts (c : Contract) : Prop where
  space : OneLine c.space
  name : OneLine c.name
  paths : ∀ op ∈ c.operations, ∀ type ∈ op.types, ∀ path ∈ type.paths, OneLine path

/-- The names of a contract are among its texts. -/
theorem Contract.OneLineTexts.oneLineNames {c : Contract} (h : c.OneLineTexts) :
    c.OneLineNames where
  space := h.space
  name := h.name
  paths := by
    intro op hop fault hfault
    refine h.paths op hop fault.payload ?_
    rw [Operation.types_eq]
    exact List.mem_append_right _ (List.mem_map_of_mem hfault)

/-- Types that are spelled on one line. -/
def OneLineTypes (types : List DataType) : Prop := ∀ type ∈ types, OneLine type.spelling

/-- Fewer types are easier to spell. -/
theorem OneLineTypes.subset {types others : List DataType} (h : OneLineTypes types)
    (hsubset : others ⊆ types) : OneLineTypes others :=
  fun type htype => h type (hsubset htype)

/-! ## Types -/

/-- A field whose name and type stand on one line. -/
structure Field.Lined (field : Field) : Prop where
  name : OneLine field.name
  type : OneLineTypes field.type.type?.toList

/-- A generated type whose names stand on one line. -/
structure Node.Lined (node : Node) : Prop where
  name : OneLine node.name
  qualifiedName : OneLine node.qualifiedName
  fields : ∀ field ∈ node.fields, field.Lined
  methods : ∀ method ∈ node.methods, OneLine method.name

/-- The names of the members of a draft. -/
def Draft.memberWords (draft : Draft) : List String :=
  draft.fields.map Field.name ++ draft.methods.map Method.name

/-- The names of members that depend on no contract. -/
def fixedWords : List String :=
  ["CallId", "Options", "WindowSize", "Text", "Code", "FaultData", "Items", "Payload",
    "Credentials", "Accepted", "Consumed", "Reason", "page", "payload", "into_fault", "ack",
    "cancel", "close", "close_ack"]

/-- The words that are the same in every contract, checked one by one. -/
theorem oneLine_fixedWords : ∀ word ∈ fixedWords, OneLine word := by
  have hfeed : ∀ word ∈ fixedWords, '\n' ∉ word.toList := by decide +kernel
  rintro word hword c hc rfl
  exact hfeed word hword hc

/-- On the wire an argument is named by its number, and a result by its role. -/
theorem Param.oneLine_wireName (param : Param) : OneLine param.wireName := by
  unfold wireName
  split
  · exact oneLine_ofList (by decide)
  · exact (oneLine_ofList (by decide)).append (madeOf_toString (fun _ => ne_feed_of_plainIfAscii) _)

/-- System messages use fixed words only. -/
theorem SystemMessage.memberWords_draft (message : SystemMessage) :
    message.draft.memberWords ⊆ fixedWords := by
  cases message <;> decide

/-- A member of a draft has a fixed name, or that of an argument or a result. -/
theorem Operation.memberWords_drafts (op : Operation) (c : Contract) (index : Nat)
    (keys : OperationKeys) (first : NodeId) :
    ∀ draft ∈ op.drafts c index keys first, ∀ word ∈ draft.memberWords,
      word ∈ fixedWords ∨ ∃ param : Param, word = param.wireName := by
  have hargument : ∀ word ∈ op.argumentFields.map Field.name,
      ∃ param : Param, word = param.wireName := by
    intro word hword
    simp only [argumentFields, List.map_map, List.mem_map] at hword
    obtain ⟨param, -, rfl⟩ := hword
    exact ⟨param, rfl⟩
  have hresult : ∀ word ∈ op.resultFields.map Field.name,
      ∃ param : Param, word = param.wireName := by
    intro word hword
    simp only [resultFields, List.map_map, List.mem_map] at hword
    obtain ⟨param, -, rfl⟩ := hword
    exact ⟨param, rfl⟩
  apply forall_mem_drafts
  case oneWay =>
    intro key _ word hword
    rw [Draft.memberWords, List.mem_append] at hword
    rcases hword with hword | hword
    · exact .inr (hargument word hword)
    · cases hword
  case request =>
    intro key word hword
    cases hstreaming : op.isStreaming <;>
      simp only [Draft.memberWords, requestDraft, hstreaming, if_true, Bool.false_eq_true, if_false,
        List.map_append, List.map_cons, List.map_nil, List.append_nil, List.mem_append,
        List.mem_cons, List.not_mem_nil, or_false] at hword
    · rcases hword with (rfl | rfl) | hword
      · exact .inl (by decide)
      · exact .inl (by decide)
      · exact .inr (hargument word hword)
    · rcases hword with ((rfl | rfl) | hword) | rfl
      · exact .inl (by decide)
      · exact .inl (by decide)
      · exact .inr (hargument word hword)
      · exact .inl (by decide)
  case response =>
    intro key word hword
    simp only [Draft.memberWords, responseDraft, List.map_cons, List.map_nil, List.append_nil,
      List.mem_cons] at hword
    rcases hword with rfl | hword
    · exact .inl (by decide)
    · exact .inr (hresult word hword)
  case marker => exact fun _ _ _ word hword => by cases hword
  case carrier =>
    intro call _ fault _ word hword
    have hwords : ["Payload", "payload", "into_fault"] ⊆ fixedWords := by decide
    exact .inl (hwords hword)
  case fault =>
    intro call _ word hword
    have hwords : ["CallId", "Text", "Code"] ⊆ fixedWords ∧
        ["CallId", "Text", "Code", "FaultData"] ⊆ fixedWords := by decide
    cases hfaults : op.faults.isEmpty <;> rw [hfaults] at hword
    · exact .inl (hwords.2 hword)
    · exact .inl (hwords.1 hword)
  all_goals
    intro key item _ word hword
    have hwords : ["CallId", "Items", "page"] ⊆ fixedWords := by decide
    exact .inl (hwords hword)

/-- A draft with one-line names and types gives such a node. -/
theorem Draft.lined_finalize {draft : Draft} {id : NodeId} {qualifier : String}
    (hname : OneLine draft.name) (hqualifier : OneLine qualifier)
    (hwords : ∀ word ∈ draft.memberWords, OneLine word)
    (htypes : OneLineTypes (draft.fields.filterMap fun field => field.type.type?)) :
    (draft.finalize id qualifier).Lined where
  name := hname
  qualifiedName := by
    change OneLine (qualify qualifier draft.name)
    unfold qualify
    split
    · exact hname
    · exact (hqualifier.append (oneLine_ofList (by decide))).append hname
  fields := by
    intro field hfield
    refine ⟨hwords _ (List.mem_append_left _ (List.mem_map_of_mem hfield)), fun type htype => ?_⟩
    exact htypes type (List.mem_filterMap.2 ⟨field, hfield, Option.mem_toList.1 htype⟩)
  methods := fun method hmethod =>
    hwords _ (List.mem_append_right _ (List.mem_map_of_mem hmethod))

namespace Compiled

variable {c : Contract} {options : Options} {compiled : Compiled}

/-- The declared types of a placed operation, and lists of them, are spelled on one line. -/
theorem oneLine_types (h : c.compile options = .ok compiled) (hc : c.OneLineTexts) {p : Placement}
    (hp : p ∈ compiled.placements) :
    OneLineTypes (p.candidate.operation.types ++ p.candidate.operation.types.map DataType.list) := by
  have hop : p.candidate.operation ∈ c.operations := List.mem_of_getElem? (mem_placements h hp).1
  intro type htype
  refine DataType.oneLine_spelling (supported_placed h hp htype) fun path hpath => ?_
  rcases List.mem_append.1 htype with htype | htype
  · exact hc.paths _ hop type htype path hpath
  · obtain ⟨item, hitem, rfl⟩ := List.mem_map.1 htype
    exact hc.paths _ hop item hitem path hpath

/-- The types of a placed operation stand on one line, since a type that a message cannot carry is
refused. -/
theorem oneLine_declared (h : c.compile options = .ok compiled) (hc : c.OneLineTexts)
    {p : Placement} (hp : p ∈ compiled.placements) : OneLineTypes p.generated.operation.types :=
  (oneLine_types h hc hp).subset (List.subset_append_left _ _)

/-- Every node of the catalog has its names and types on one line. -/
theorem lined_node (h : c.compile options = .ok compiled) (hc : c.OneLineTexts) {node : Node}
    (hnode : node ∈ compiled.catalog.nodes) : node.Lined := by
  have hqualifier := hc.oneLineNames.qualifiedName
  have hname : OneLine node.name := by
    have hname := oneLine_name h hc.oneLineNames node.id
    rwa [Catalog.name, Catalog.get?, Catalog.node_eq_ok_iff.1 (node_eq_ok h hnode)] at hname
  rw [catalog_nodes h, List.mem_append] at hnode
  rcases hnode with hnode | hnode
  · obtain ⟨draft, hdraft, id, rfl⟩ := Draft.mem_finalizeFrom hnode
    rcases List.mem_cons.1 hdraft with rfl | hdraft
    · exact Draft.lined_finalize hname hqualifier (fun word hword => by cases hword)
        (fun type htype => by cases htype)
    · obtain ⟨message, -, rfl⟩ := List.mem_map.1 hdraft
      refine Draft.lined_finalize hname hqualifier
        (fun word hword => oneLine_fixedWords word (message.memberWords_draft hword)) ?_
      intro type htype
      refine DataType.oneLine_spelling (message.supported_fields type htype) ?_
      revert type
      cases message <;>
        simp [SystemMessage.draft, SystemMessage.fields, FieldType.type?, DataType.paths]
  · obtain ⟨p, hp, hnode⟩ := List.mem_flatMap.1 hnode
    obtain ⟨draft, hdraft, id, rfl⟩ := Draft.mem_finalizeFrom hnode
    refine Draft.lined_finalize hname hqualifier (fun word hword => ?_)
      ((oneLine_types h hc hp).subset (Operation.types_of_mem_drafts _ draft hdraft))
    rcases Operation.memberWords_drafts _ _ _ _ _ draft hdraft word hword with hword | ⟨param, rfl⟩
    · exact oneLine_fixedWords word hword
    · exact param.oneLine_wireName

end Compiled

/-! ## Callers -/

/-- A stub whose names and types stand on one line. -/
structure Stub.Lined (stub : Stub) : Prop where
  name : OneLine stub.name
  baseName : OneLine stub.baseName
  types : OneLineTypes stub.types

/-- An opener whose name and types stand on one line, with the control messages of the catalog. -/
structure StreamOpener.Lined (opener : StreamOpener) : Prop where
  name : OneLine opener.name
  types : OneLineTypes opener.types
  control : opener.control = .standard

/-- A function whose name and types stand on one line. -/
structure PrebuildHelper.Lined (helper : PrebuildHelper) : Prop where
  name : OneLine helper.name
  types : OneLineTypes helper.types

/-- A facade whose names stand on one line, and which may begin one with its own. -/
structure Facade.Lined (facade : Facade) : Prop where
  name : Bare facade.name
  methods : ∀ entry ∈ facade.methods, OneLine entry.name ∧ OneLine entry.target

/-- A surface whose parts stand on one line. -/
structure Surface.Lined (surface : Surface) : Prop where
  name : OneLine surface.name
  methods : ∀ stub ∈ surface.methods, stub.Lined
  streams : ∀ opener ∈ surface.streams, opener.Lined
  prebuild : ∀ helper ∈ surface.prebuild, helper.Lined
  facades : ∀ facade ∈ surface.facades, facade.Lined

theorem Operation.oneLine_methodBase (op : Operation) : OneLine op.methodBase := oneLine_snake _

/-- Affixes around a name do not break it. -/
theorem CallStyle.oneLine_methodName (style : CallStyle) {base : String} (h : OneLine base) :
    OneLine (style.methodName base) := by
  cases style with
  | blocking => exact h
  | async => exact h.append (oneLine_ofList (by decide))
  | «try» => exact (oneLine_ofList (by decide)).append h
  | tryAsync => exact DataType.oneLine_between h (by decide) (by decide)

namespace Generated

variable {entry : Generated} (htypes : OneLineTypes entry.operation.types)
include htypes

/-- A stub takes its types from its operation. -/
theorem lined_stub {stub : Stub} (hstub : stub ∈ entry.stubs) : stub.Lined := by
  have hbase := entry.operation.oneLine_methodBase
  have hnamed : ∀ base prebuilt, OneLine base → stub ∈ entry.stubsNamed base prebuilt →
      stub.Lined := by
    intro base prebuilt hline hnamed
    have htypes := htypes.subset (entry.types_stub hstub)
    obtain ⟨style, -, rfl⟩ := List.mem_map.1 hnamed
    exact ⟨style.oneLine_methodName hline, hline, htypes⟩
  have hmem := hstub
  unfold stubs at hmem
  split at hmem
  · cases hmem
  · rcases List.mem_append.1 hmem with hmem | hmem
    · exact hnamed _ _ hbase hmem
    · split at hmem
      · exact hnamed _ _ (hbase.append (oneLine_ofList (by decide))) hmem
      · cases hmem

theorem lined_opener {opener : StreamOpener} (hopener : entry.opener? = some opener) :
    opener.Lined := by
  have htypes := htypes.subset (entry.types_opener hopener)
  unfold opener? at hopener
  split at hopener
  · cases hopener
  · rw [Option.ite_none_right_eq_some] at hopener
    obtain ⟨-, hopener⟩ := hopener
    rw [← Option.some.inj hopener] at htypes ⊢
    exact ⟨(oneLine_ofList (by decide)).append entry.operation.oneLine_methodBase, htypes, rfl⟩

theorem lined_helper {serializer : Serializer} {helper : PrebuildHelper}
    (hhelper : entry.prebuildHelper? serializer = some helper) : helper.Lined := by
  have htypes := htypes.subset (entry.types_helper hhelper)
  rw [prebuildHelper?, Option.ite_none_right_eq_some] at hhelper
  obtain ⟨-, hhelper⟩ := hhelper
  rw [← Option.some.inj hhelper] at htypes ⊢
  exact ⟨(oneLine_ofList (by decide)).append entry.operation.oneLine_methodBase, htypes⟩

end Generated

/-- A surface is called after the contract, in camel case. -/
theorem Surface.bare_nameOf (c : Contract) (peer : Peer) : Bare (Surface.nameOf c peer) := by
  cases peer <;> exact (bare_camel _).append (bare_ofList (by decide))

/-- A facade forwards to the stubs of its style, under their plain names. -/
theorem CallStyle.lined_facade {style : CallStyle} {surface : String} {stubs : List Stub}
    {facade : Facade} (hsurface : Bare surface) (hstubs : ∀ stub ∈ stubs, stub.Lined)
    (hfacade : style.facade? surface stubs = some facade) : facade.Lined := by
  obtain ⟨suffix, hsuffix, hfacade⟩ := Option.map_eq_some_iff.1 hfacade
  rw [← hfacade]
  constructor
  · have hbare : Bare suffix := by
      cases style with
      | blocking => cases hsuffix
      | async => exact Option.some.inj hsuffix ▸ bare_ofList (by decide)
      | «try» => exact Option.some.inj hsuffix ▸ bare_ofList (by decide)
      | tryAsync => exact Option.some.inj hsuffix ▸ bare_ofList (by decide)
    exact hsurface.append hbare
  · intro entry hentry
    obtain ⟨stub, hstub, rfl⟩ := List.mem_map.1 hentry
    have hlined := hstubs stub (List.mem_of_mem_filter hstub)
    exact ⟨hlined.baseName, hlined.name⟩

/-! ## Handlers -/

/-- A handler whose names and types stand on one line. -/
structure Handler.Lined (handler : Handler) : Prop where
  name : OneLine handler.name
  sentHook : ∀ hook ∈ handler.sentHook, OneLine hook
  types : OneLineTypes handler.types

/-- An arm whose names and types stand on one line, and which may begin one with its variant. -/
structure Arm.Lined (s : Source) (arm : Arm) : Prop where
  variant : Bare arm.variant
  handler : OneLine arm.handler
  operation : OneLine (s.operationName arm.operation)
  sentHook : ∀ request, arm = .request request → ∀ hook ∈ request.sentHook, OneLine hook
  types : OneLineTypes arm.types

/-- A plan whose parts stand on one line, and which may begin one with its choice of messages. -/
structure DispatchPlan.Lined (s : Source) (plan : DispatchPlan) : Prop where
  handlerTrait : OneLine plan.handlerTrait
  dispatcher : OneLine plan.dispatcher
  inbound : Muted plan.inbound
  handlers : ∀ handler ∈ plan.handlers, handler.Lined
  arms : ∀ arm ∈ plan.arms, arm.Lined s

/-- A hook is called after its operation. -/
theorem Operation.oneLine_sentHook (op : Operation) : ∀ hook ∈ op.sentHook?, OneLine hook := by
  intro hook hhook
  rw [Option.mem_def, sentHook?, Option.ite_none_right_eq_some] at hhook
  rw [← Option.some.inj hhook.2]
  exact DataType.oneLine_between op.oneLine_methodBase (by decide) (by decide)

/-- A handler takes its types from its operation. -/
theorem Generated.lined_handler {entry : Generated} (htypes : OneLineTypes entry.operation.types) :
    entry.handler.Lined :=
  ⟨entry.operation.oneLine_methodBase, entry.operation.oneLine_sentHook,
    htypes.subset entry.types_handler⟩

/-! ## Serializers -/

/-- A union whose names stand on one line. -/
structure Union.Lined (union : Union) : Prop where
  name : OneLine union.name
  members : ∀ member ∈ union.members, OneLine member.name

/-- An adapter whose names stand on one line.  Lines may begin with the members of the union of all
messages, and with the variants of the fault unions. -/
structure Adapter.Lined (s : Source) (adapter : Adapter) : Prop where
  name : OneLine adapter.name
  messageUnion : adapter.messageUnion.Lined
  faultUnions : ∀ union ∈ adapter.faultUnions, union.Lined
  messageLeads : ∀ member ∈ adapter.messageUnion.members, startsAtRoot member.name = false
  variantLeads : ∀ union ∈ adapter.faultUnions, ∀ member ∈ union.members,
    startsAtRoot (s.catalog.faultVariant member.node) = false

theorem Serializer.oneLine_typeName (serializer : Serializer) : OneLine serializer.typeName := by
  cases serializer <;> exact oneLine_ofList (by decide)

theorem Serializer.oneLine_identity (serializer : Serializer) : OneLine serializer.identity := by
  cases serializer <;> exact oneLine_ofList (by decide)

/-- A member of a union has the name that the catalog gives its node. -/
theorem Compiled.name_member {c : Contract} {options : Options} {compiled : Compiled}
    (h : c.compile options = .ok compiled) {root : NodeId} {member : UnionMember}
    (hmember : member ∈ (Union.below compiled.catalog compiled.hierarchy root).members) :
    member.name = compiled.catalog.name member.node := by
  rw [members_below h] at hmember
  obtain ⟨node, hnode, hmember⟩ := List.mem_filterMap.1 hmember
  unfold Node.member? at hmember
  split at hmember
  · cases hmember
  · obtain ⟨tag, -, rfl⟩ := Option.map_eq_some_iff.1 hmember
    have hget := Catalog.node_eq_ok_iff.1 (node_eq_ok h (Tiered.mem_below.1 hnode).1)
    rw [Catalog.name, Catalog.get?, hget]
    rfl

/-! ## Sources -/

/-- A source whose parts stand on one line. -/
structure Source.Lined (s : Source) : Prop where
  runtime : Bare s.runtime
  contractName : OneLine s.contractName
  base : Muted s.base
  controls : ∀ message : SystemMessage, Muted (s.nodeName message.node)
  nodes : ∀ node ∈ s.catalog.nodes, node.Lined
  nodeName : ∀ id, OneLine (s.nodeName id)
  variant : ∀ id, OneLine (s.catalog.faultVariant id)
  surfaces : ∀ peer, (s.compiled.surface peer).Lined
  plans : ∀ peer, (s.compiled.dispatch peer).Lined s
  adapters : ∀ adapter ∈ s.compiled.binding.adapters, adapter.Lined s
  chooser : OneLine s.compiled.binding.chooser.name

namespace Compiled

variable {c : Contract} {options : Options} {s : Source}
  (h : c.compile options = .ok s.compiled) (hc : c.OneLineTexts)
include h hc

/-- **Surfaces.**  Each of their parts comes from a placed operation. -/
theorem lined_surface (peer : Peer) : (s.compiled.surface peer).Lined := by
  have hname : (s.compiled.surface peer).name = Surface.nameOf c peer := by
    rw [Contract.compile_surface h]
    rfl
  have hmethods : ∀ stub ∈ (s.compiled.surface peer).methods, stub.Lined := by
    intro stub hstub
    rw [methods_eq h] at hstub
    obtain ⟨p, hp, hstub⟩ := List.mem_flatMap.1 hstub
    exact Generated.lined_stub (oneLine_declared h hc (mem_directed.1 hp).1) hstub
  refine ⟨hname ▸ (Surface.bare_nameOf c peer).oneLine, hmethods, ?_, ?_, ?_⟩
  · intro opener hopener
    rw [streams_eq h] at hopener
    obtain ⟨p, hp, hopener⟩ := List.mem_filterMap.1 hopener
    exact Generated.lined_opener (oneLine_declared h hc (mem_directed.1 hp).1) hopener
  · intro helper hhelper
    rw [prebuild_eq h] at hhelper
    obtain ⟨p, hp, hhelper⟩ := List.mem_filterMap.1 hhelper
    exact Generated.lined_helper (oneLine_declared h hc (mem_directed.1 hp).1) hhelper
  · intro facade hfacade
    rw [Contract.compile_surface h] at hfacade hmethods
    obtain ⟨style, -, hfacade⟩ := List.mem_filterMap.1 hfacade
    exact CallStyle.lined_facade (Surface.bare_nameOf c peer) hmethods hfacade

/-- An arm is called after its operation, in camel case. -/
theorem lined_arm {peer : Peer} {arm : Arm} (harm : arm ∈ (s.compiled.dispatch peer).arms) :
    arm.Lined s := by
  have htypes : OneLineTypes arm.types := by
    have harms := harm
    rw [arms_eq h] at harms
    obtain ⟨p, hp, rfl⟩ := List.mem_map.1 harms
    have hplaced := (mem_directed.1 hp).1
    have hdeclared := oneLine_declared h hc hplaced
    unfold Generated.arm
    split
    · exact fun type htype => by cases htype
    · intro type htype
      obtain ⟨branch, hbranch, htype⟩ := List.mem_flatMap.1 htype
      obtain ⟨carrier, hcarrier, rfl⟩ | rfl | rfl := mem_catchChain h hplaced hbranch
      · rw [List.mem_singleton.1 htype]
        exact hdeclared _ (Operation.payload_mem_types _ hcarrier)
      · cases htype
      · cases htype
  rw [arms_eq h] at harm
  obtain ⟨p, hp, rfl⟩ := List.mem_map.1 harm
  have hplaced := (mem_directed.1 hp).1
  have hoperation : OneLine (s.operationName p.candidate.index) := by
    rw [Source.operationName, Source.operation?, Contract.compile_contract h,
      (mem_placements h hplaced).1]
    exact oneLine_of_isIdentifier (wellFormed h hplaced).name_identifier
  refine ⟨?_, ?_, ?_, ?_, htypes⟩
  · unfold Generated.arm
    split <;> exact bare_camel _
  · unfold Generated.arm
    split <;> exact Operation.oneLine_methodBase _
  · rw [Generated.operation_arm]
    exact hoperation
  · intro request hrequest
    unfold Generated.arm at hrequest
    split at hrequest
    · cases hrequest
    · rw [← Arm.request.inj hrequest]
      exact Operation.oneLine_sentHook _

/-- **Plans.**  Each of their parts comes from a placed operation. -/
theorem lined_plan (peer : Peer) : (s.compiled.dispatch peer).Lined s := by
  refine ⟨?_, ?_, ?_, ?_, fun arm harm => lined_arm h hc harm⟩
  · rw [Contract.compile_dispatch h]
    cases peer
    · exact (oneLine_camel _).append (oneLine_ofList (by decide))
    · exact oneLine_camel _
  · rw [Contract.compile_dispatch h]
    cases peer <;> exact (oneLine_camel _).append (oneLine_ofList (by decide))
  · rw [Contract.compile_dispatch h]
    cases peer <;> exact (bare_camel _).muted (by decide)
  · intro handler hhandler
    rw [handlers_eq h] at hhandler
    obtain ⟨p, hp, rfl⟩ := List.mem_map.1 hhandler
    exact Generated.lined_handler (oneLine_declared h hc (mem_directed.1 hp).1)

/-- **Adapters.**  Their unions list types of the catalog. -/
theorem lined_adapter {adapter : Adapter} (hadapter : adapter ∈ s.compiled.binding.adapters) :
    adapter.Lined s := by
  have hnames := oneLine_name h hc.oneLineNames
  have hunion : ∀ root, (Union.below s.compiled.catalog s.compiled.hierarchy root).Lined :=
    fun root => ⟨hnames root, fun member hmember => name_member h hmember ▸ hnames member.node⟩
  rw [Contract.compile_binding h] at hadapter
  obtain ⟨serializer, -, rfl⟩ := List.mem_map.1 hadapter
  refine ⟨((oneLine_camel _).append serializer.oneLine_typeName).append (oneLine_ofList (by decide)),
    hunion _, ?_, ?_, ?_⟩
  · intro union hmem
    obtain ⟨set, -, rfl⟩ := List.mem_map.1 hmem
    exact hunion _
  · intro member hmember
    rw [name_member h hmember]
    exact startsAtRoot_name h _
  · intro union hmem member hmember
    obtain ⟨set, hset, rfl⟩ := List.mem_map.1 hmem
    obtain ⟨p, hp, hone, hfaults, rfl⟩ := mem_faultSets h hset
    have hlists := lists_carriers h hp hone hfaults
    obtain ⟨carrier, hcarrier, rfl⟩ := List.mem_map.1 (hlists.members_perm.mem_iff.1 hmember)
    exact startsAtRoot_variant h hp hcarrier

/-- **Compiled contracts are lined.**  If no text of a contract has a line feed, then nothing that is
generated from it and stands inside a line has one. -/
theorem lined (hruntime : Bare s.runtime) : s.Lined := by
  have hbase : s.base = c.typeName ++ Role.messageBase.suffix := by
    have hnode : s.compiled.catalog.get? messageBase =
        some (c.baseDraft.finalize 0 c.qualifiedName) := by
      rw [Contract.compile_catalog h]
      exact Contract.getElem?_assembly_messageBase
    rw [Source.base, Source.nodeName, Source.catalog, Catalog.name, hnode]
    rfl
  have hcontrol : ∀ message : SystemMessage, s.nodeName message.node = message.name := by
    intro message
    have hnode : s.compiled.catalog.nodes[message.node]? =
        some (message.draft.finalize message.node c.qualifiedName) := by
      rw [catalog_nodes h]
      cases message <;> rfl
    rw [Source.nodeName, Source.catalog, Catalog.name, Catalog.get?, hnode]
    rfl
  refine ⟨hruntime, ?_, ?_, ?_, fun node => lined_node h hc, oneLine_name h hc.oneLineNames,
    oneLine_faultVariant h hc.oneLineNames, lined_surface h hc, lined_plan h hc,
    fun adapter => lined_adapter h hc, ?_⟩
  · rw [Source.contractName, Contract.compile_contract h]
    exact hc.oneLineNames.qualifiedName
  · rw [hbase]
    exact (bare_camel _).muted (by decide)
  · intro message
    rw [hcontrol]
    cases message <;> exact muted_ofList (by decide)
  · rw [Contract.compile_binding h]
    exact (oneLine_camel _).append (oneLine_ofList (by decide))

end Compiled

end ServiceContract
