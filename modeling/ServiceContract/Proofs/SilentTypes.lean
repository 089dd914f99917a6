import ServiceContract.Proofs.KeyTableText
import ServiceContract.Proofs.OneLineSource

/-!
# Silent types and serializers

The parts of a module that declare types and serializers record no call, if what they are made of
stands on one line.  There is one lemma for each function that writes such code; the lines are read
from their starts, and what follows the start only has to stay on the line.

The recurring parts of lines are treated first: lists with commas, literals and parameters.
-/

namespace ServiceContract

open Text Code

/-! ## Parts of lines -/

theorem oneLine_toString (n : Nat) : OneLine (toString n) :=
  madeOf_toString (fun _ => ne_feed_of_plainIfAscii) n

/-- Constants are named in upper case with underscores. -/
theorem oneLine_constantName (name : String) : OneLine (constantName name) :=
  madeOf_shouty (fun _ => ne_feed_of_plainIfAscii) (by decide) name

/-- Members are named in snake case. -/
theorem oneLine_fieldName (name : String) : OneLine (fieldName name) := oneLine_snake name

/-- Texts with commas between them. -/
theorem oneLine_commaList {texts : List String} (h : ∀ text ∈ texts, OneLine text) :
    OneLine (commaList texts) :=
  madeOf_intercalate (oneLine_ofList (by decide)) h

theorem oneLine_braced {text : String} (h : OneLine text) : OneLine (braced text) :=
  DataType.oneLine_between h (by decide) (by decide)

/-- A member and its value. -/
theorem FieldInit.oneLine_set {field value : String} (hfield : OneLine field)
    (hvalue : OneLine value) : OneLine (FieldInit.set field value).text :=
  (hfield.append (oneLine_ofList (by decide))).append hvalue

/-- A parameter with its type. -/
theorem Binder.oneLine_text {binder : Binder} (hname : OneLine binder.name)
    (htype : OneLine binder.type) : OneLine binder.text :=
  FieldInit.oneLine_set hname htype

theorem Param.oneLine_fieldName (param : Param) : OneLine param.fieldName := oneLine_snake _

/-- An argument is bound to its declared name in snake case, or to the name of its field. -/
theorem Param.oneLine_ident (param : Param) : OneLine param.ident := by
  unfold ident
  split
  · dsimp only
    split
    · exact param.oneLine_fieldName
    · exact oneLine_snake _
  · exact param.oneLine_fieldName

/-- How an argument is set, by its own name or from a variable. -/
theorem Param.oneLine_init (param : Param) : OneLine param.init.text := by
  unfold init
  split
  · exact param.oneLine_fieldName
  · exact FieldInit.oneLine_set param.oneLine_fieldName param.oneLine_ident

/-- An argument with its type. -/
theorem Param.oneLine_binder {param : Param} (h : OneLine param.type.spelling) :
    OneLine param.binder.text :=
  Binder.oneLine_text param.oneLine_ident h

/-- The members of a literal. -/
theorem oneLine_inits {inits : List FieldInit} (h : ∀ init ∈ inits, OneLine init.text) :
    OneLine (braced (commaList (inits.map FieldInit.text))) := by
  refine oneLine_braced (oneLine_commaList fun text htext => ?_)
  obtain ⟨init, hinit, rfl⟩ := List.mem_map.1 htext
  exact h init hinit

/-- A literal stands on one line if its type and its members do. -/
theorem Literal.oneLine_text {literal : Literal} (htype : OneLine literal.type)
    (hinits : ∀ init ∈ literal.inits, OneLine init.text) : OneLine literal.text :=
  (htype.append (oneLine_ofList (by decide))).append (oneLine_inits hinits)

/-- The parameters of a method with a receiver. -/
theorem oneLine_methodParams {binders : List Binder}
    (h : ∀ binder ∈ binders, OneLine binder.text) : OneLine (methodParams binders) := by
  refine oneLine_commaList fun text htext => ?_
  rcases List.mem_cons.1 htext with rfl | htext
  · exact oneLine_ofList (by decide)
  · obtain ⟨binder, hbinder, rfl⟩ := List.mem_map.1 htext
    exact h binder hbinder

/-- Variables handed on. -/
theorem oneLine_forwarded {binders : List Binder} (h : ∀ binder ∈ binders, OneLine binder.name) :
    OneLine (forwarded binders) := by
  refine oneLine_commaList fun text htext => ?_
  obtain ⟨binder, hbinder, rfl⟩ := List.mem_map.1 htext
  exact h binder hbinder

/-- A type that may be missing is then spelled as the empty tuple. -/
theorem oneLine_spellingOr {type : Option DataType} (h : OneLineTypes type.toList) :
    OneLine (DataType.spellingOr type) := by
  cases type with
  | none => exact oneLine_ofList (by decide)
  | some type => exact h type (by simp)

/-- A choice records nothing if none of its arms can be taken for a record. -/
theorem silent_matchBlock {subject : String} {arms : List String} (hsubject : OneLine subject)
    (harms : ∀ arm ∈ arms, Muted arm) : (matchBlock subject arms).Silent :=
  silent_block ((muted_ofList (by decide)).append hsubject)
    (allSilent_map fun arm harm => silent_line (harms arm harm))

theorem silent_dataAttribute : dataAttribute.Silent := silent_attr (oneLine_ofList (by decide))

namespace Source

variable {s : Source}

/-- The table of keys is silent for every source. -/
theorem allSilent_messageKeys (s : Source) : AllSilent s.messageKeys := by
  simp only [messageKeys, allSilent_cons, allSilent_nil, and_true]
  refine ⟨silent_doc _, silent_block (muted_ofList (by decide)) (allSilent_map ?_)⟩
  rintro ⟨name, key⟩ -
  have hfeed : '\n' ∉ hexDigits key := fun hmem =>
    absurd (isHexDigit_of_mem_hexDigits hmem) (by decide)
  have hkey : OneLine (hexKey key) := (oneLine_ofList (by decide)).append (oneLine_ofList hfeed)
  exact silent_line (((muted_ofList (by decide)).extend (oneLine_constantName name)
    (by decide)).extend hkey (by decide))

/-- The constants of a type are its names and its key. -/
theorem allSilent_messageConstants {node : Node} (h : node.Lined) :
    AllSilent (messageConstants node) := by
  simp only [messageConstants, allSilent_append, allSilent_singleton]
  refine ⟨⟨silent_line ?_, allSilent_map fun _ _ => silent_line ?_⟩,
    allSilent_map fun faultKey _ => silent_line ?_⟩
  · exact (muted_ofList (by decide)).extend (oneLine_quoted h.qualifiedName) (by decide)
  · exact (muted_ofList (by decide)).extend (oneLine_constantName _) (by decide)
  · exact (muted_ofList (by decide)).extend (oneLine_toString _) (by decide)

section Lined

variable (hs : s.Lined)
include hs

/-- A path into the library stands on one line. -/
theorem Lined.inRuntime {cs : List Char} (h : '\n' ∉ cs) : OneLine (s.inRuntime (String.ofList cs)) :=
  (hs.runtime.oneLine.append (oneLine_ofList (by decide))).append (oneLine_ofList h)

/-- A line that begins with a name of the library. -/
theorem Lined.muted_inRuntime {cs : List Char} (h : '\n' ∉ cs ∧ strays cs = true) :
    Muted (s.inRuntime (String.ofList cs)) := by
  have hpath : Bare (s.runtime ++ "::") := hs.runtime.append (bare_ofList (by decide))
  exact hpath.muted h

/-- The type of a member stands on one line. -/
theorem Lined.fieldType {field : Field} (h : field.Lined) : OneLine (s.fieldType field.type) := by
  cases htype : field.type with
  | declared type => exact h.type type (by simp [htype, FieldType.type?])
  | faultData marker => exact DataType.oneLine_between (hs.nodeName marker) (by decide) (by decide)
  | _ => exact oneLine_ofList (by decide)

/-- A member with its type. -/
theorem Lined.fieldBinder {field : Field} (h : field.Lined) :
    OneLine (s.fieldBinder field).text :=
  Binder.oneLine_text (oneLine_fieldName _) (hs.fieldType h)

/-! ## Message types -/

/-- A member with its documentation records nothing. -/
theorem Lined.member {field : Field} (h : field.Lined) : AllSilent (s.member field) := by
  simp only [Source.member, allSilent_cons, allSilent_nil, and_true]
  exact ⟨silent_line ((muted_ofList (by decide)).extend (oneLine_quoted h.name) (by decide)),
    silent_line ((muted_ofList (by decide)).extend (hs.fieldBinder h) (by decide))⟩

/-- The payload of a carrier is spelled on one line. -/
theorem Lined.payloadType {node : Node} (h : node.Lined) : OneLine (s.payloadType node) := by
  unfold Source.payloadType
  cases hfield : node.field? "Payload" with
  | none => exact oneLine_ofList (by decide)
  | some field => exact hs.fieldType (h.fields field (List.mem_of_find?_eq_some hfield))

/-- A method that builds a message from its members. -/
theorem Lined.factory {node : Node} (h : node.Lined) {name : String} (hname : OneLine name) :
    AllSilent [.block ("pub fn " ++ name ++ "(" ++
        commaList (node.fields.map fun field => (s.fieldBinder field).text) ++ ") -> Self")
      [.line (Literal.text ⟨"Self", node.fields.map fun field => .short (fieldName field.name)⟩)]] := by
  have hbinders : OneLine (commaList (node.fields.map fun field => (s.fieldBinder field).text)) := by
    refine oneLine_commaList fun text htext => ?_
    obtain ⟨field, hfield, rfl⟩ := List.mem_map.1 htext
    exact hs.fieldBinder (h.fields field hfield)
  have hmembers : ∀ init ∈ node.fields.map fun field => FieldInit.short (fieldName field.name),
      OneLine init.text := by
    intro init hinit
    obtain ⟨field, -, rfl⟩ := List.mem_map.1 hinit
    exact oneLine_fieldName field.name
  have hself : Muted "Self" := muted_ofList (by decide)
  exact allSilent_singleton.2 (silent_block
    (((muted_ofList (by decide)).extend hname (by decide)).extend hbinders (by decide))
    (allSilent_singleton.2 (silent_line
      ((hself.append (oneLine_ofList (by decide))).append (oneLine_inits hmembers)))))

/-- A method of a generated type, of each kind. -/
theorem Lined.messageMethod {node : Node} (h : node.Lined) {method : Method}
    (hmethod : OneLine method.name) : AllSilent (s.messageMethod node method) := by
  have hpayload := hs.payloadType h
  have hfactory := hs.factory h hmethod
  unfold Source.messageMethod
  dsimp only
  split
  · exact hfactory
  · exact hfactory
  · exact allSilent_singleton.2 (silent_block
      (((muted_ofList (by decide)).extend hmethod (by decide)).append hpayload)
      (allSilent_singleton.2 (silent_line (muted_ofList (by decide)))))
  · simp only [allSilent_cons, allSilent_nil, and_true]
    exact ⟨silent_doc _, silent_block
      ((((muted_ofList (by decide)).extend hmethod (by decide)).append
        (hs.inRuntime (by decide))).extend hpayload (by decide))
      (allSilent_singleton.2 (silent_line (hs.muted_inRuntime (by decide))))⟩

/-- **A generated type** records nothing: neither its members nor its methods do. -/
theorem Lined.messageType {node : Node} (h : node.Lined) : AllSilent (s.messageType node) := by
  simp only [Source.messageType, allSilent_cons, allSilent_nil, and_true]
  refine ⟨silent_doc _, silent_dataAttribute,
    silent_block ((muted_ofList (by decide)).append h.name)
      (allSilent_flatMap fun field hfield => hs.member (h.fields field hfield)),
    silent_blank, silent_block ((muted_ofList (by decide)).append h.name) (allSilent_append.2
      ⟨allSilent_messageConstants h, allSilent_spaced fun piece hpiece => ?_⟩)⟩
  obtain ⟨method, hmethod, rfl⟩ := List.mem_map.1 hpiece
  exact hs.messageMethod h (h.methods method hmethod)

/-- The types of all nodes are silent. -/
theorem Lined.messageTypes : AllSilent s.messageTypes := by
  refine allSilent_separated fun piece hpiece => ?_
  obtain ⟨node, hnode, rfl⟩ := List.mem_map.1 hpiece
  exact hs.messageType (hs.nodes node (List.mem_of_mem_filter hnode))

omit hs in
theorem allSilent_unionHead (s : Source) (union : Union) : AllSilent (s.unionHead union) := by
  simp only [unionHead, allSilent_append, allSilent_cons, allSilent_nil, and_true]
  exact ⟨allSilent_docOf _, silent_dataAttribute, silent_attr (oneLine_ofList (by decide))⟩

/-- The union of the carriers of an operation.  Lines begin with its variants, so these must not
start at the root. -/
theorem Lined.faultUnion {union : Union} (h : union.Lined)
    (hleads : ∀ member ∈ union.members,
      startsAtRoot (s.catalog.faultVariant member.node) = false) :
    AllSilent (s.faultUnion union) := by
  have hself : ∀ member : UnionMember, Muted ("Self::" ++ s.catalog.faultVariant member.node) :=
    fun member => (muted_ofList (by decide)).append (hs.variant member.node)
  have hkeys : ∀ arm ∈ union.members.map fun member =>
      "Self::" ++ s.catalog.faultVariant member.node ++ "(_) => " ++ member.name ++ "::FAULT_KEY,",
      Muted arm := by
    intro arm harm
    obtain ⟨member, hmember, rfl⟩ := List.mem_map.1 harm
    exact ((hself member).append (oneLine_ofList (by decide))).extend (h.members member hmember)
      (by decide)
  have hfaults : ∀ arm ∈ union.members.map fun member =>
      "Self::" ++ s.catalog.faultVariant member.node ++
        "(carrier) => carrier.into_fault(text).into(),", Muted arm := by
    intro arm harm
    obtain ⟨member, -, rfl⟩ := List.mem_map.1 harm
    exact (hself member).append (oneLine_ofList (by decide))
  simp only [Source.faultUnion, allSilent_append, allSilent_cons, allSilent_nil, and_true]
  refine ⟨allSilent_unionHead s union,
    silent_block ((muted_ofList (by decide)).append h.name)
      (allSilent_map fun member hmember => silent_line ?_),
    silent_blank, silent_block ((muted_ofList (by decide)).append h.name) ?_⟩
  · exact ((muted_call (hs.variant member.node) (hleads member hmember)).extend
      (h.members member hmember) (by decide)).extend (oneLine_toString _) (by decide)
  · simp only [allSilent_cons, allSilent_nil, and_true]
    exact ⟨silent_block (muted_ofList (by decide)) (allSilent_singleton.2
        (silent_matchBlock (oneLine_ofList (by decide)) hkeys)),
      silent_blank,
      silent_block ((muted_ofList (by decide)).append (hs.inRuntime (by decide)))
        (allSilent_singleton.2 (silent_matchBlock (oneLine_ofList (by decide)) hfaults))⟩

/-- The unions that are written are those of an adapter. -/
theorem Lined.mem_unions {adapter : Adapter} (h : s.unions? = some adapter) : adapter.Lined s :=
  hs.adapters adapter (List.mem_of_mem_head? h)

/-- The unions of the fault carriers are silent. -/
theorem Lined.faultUnions : AllSilent s.faultUnions := by
  unfold Source.faultUnions
  split
  · next adapter hadapter =>
      have hlined := hs.mem_unions hadapter
      refine allSilent_separated fun piece hpiece => ?_
      obtain ⟨union, hunion, rfl⟩ := List.mem_map.1 hpiece
      exact hs.faultUnion (hlined.faultUnions union hunion) (hlined.variantLeads union hunion)
  · exact allSilent_nil

omit hs in
/-- The union of all messages.  Lines begin with the names of its members. -/
theorem allSilent_messageUnion (s : Source) {union : Union} (h : union.Lined)
    (hleads : ∀ member ∈ union.members, startsAtRoot member.name = false) :
    AllSilent (s.messageUnion union) := by
  have hself : ∀ member ∈ union.members, Muted ("Self::" ++ member.name) :=
    fun member hmember => (muted_ofList (by decide)).append (h.members member hmember)
  have harms : ∀ suffix : String, OneLine suffix → ∀ arm ∈ union.members.map fun member =>
      "Self::" ++ member.name ++ "(_) => " ++ member.name ++ suffix, Muted arm := by
    intro suffix hsuffix arm harm
    obtain ⟨member, hmember, rfl⟩ := List.mem_map.1 harm
    exact (((hself member hmember).append (oneLine_ofList (by decide))).append
      (h.members member hmember)).append hsuffix
  simp only [Source.messageUnion, allSilent_append, allSilent_cons, allSilent_nil, and_true]
  refine ⟨⟨allSilent_unionHead s union,
    silent_block ((muted_ofList (by decide)).append h.name)
      (allSilent_map fun member hmember => silent_line ?_),
    silent_blank, silent_block ((muted_ofList (by decide)).append h.name) ?_⟩,
    allSilent_spaced fun piece hpiece => ?_⟩
  · exact ((muted_call (h.members member hmember) (hleads member hmember)).extend
      (h.members member hmember) (by decide)).extend (oneLine_constantName _) (by decide)
  · simp only [allSilent_cons, allSilent_nil, and_true]
    exact ⟨silent_doc _,
      silent_block (muted_ofList (by decide)) (allSilent_singleton.2
        (silent_matchBlock (oneLine_ofList (by decide)) (harms _ (oneLine_ofList (by decide))))),
      silent_blank,
      silent_block (muted_ofList (by decide)) (allSilent_singleton.2
        (silent_matchBlock (oneLine_ofList (by decide)) (harms _ (oneLine_ofList (by decide)))))⟩
  · obtain ⟨member, hmember, rfl⟩ := List.mem_map.1 hpiece
    have hname := h.members member hmember
    have hfrom : Muted ("Self::" ++ member.name ++ "(message)") :=
      (hself member hmember).append (oneLine_ofList (by decide))
    exact allSilent_singleton.2 (silent_block
      (((muted_ofList (by decide)).extend hname (by decide)).append h.name)
      (allSilent_singleton.2 (silent_block ((muted_ofList (by decide)).extend hname (by decide))
        (allSilent_singleton.2 (silent_line hfrom)))))

/-- The union of all messages is silent. -/
theorem Lined.messageBaseUnion : AllSilent s.messageBaseUnion := by
  unfold Source.messageBaseUnion
  split
  · next adapter hadapter =>
      have hlined := hs.mem_unions hadapter
      exact allSilent_messageUnion s hlined.messageUnion hlined.messageLeads
  · exact allSilent_nil

/-! ## Serializers -/

omit hs in
/-- The entry of a member in the tables of an adapter starts with a parenthesis. -/
theorem muted_memberEntry {member : UnionMember} (h : OneLine member.name) : Muted member.entry :=
  ((muted_ofList (by decide)).extend (oneLine_toString _) (by decide)).extend (oneLine_quoted h)
    (by decide)

omit hs in
theorem muted_unionEntry {union : Union} (h : union.Lined) : Muted union.entry := by
  have hmembers : OneLine (commaList (union.members.map UnionMember.entry)) := by
    refine oneLine_commaList fun text htext => ?_
    obtain ⟨member, hmember, rfl⟩ := List.mem_map.1 htext
    exact (muted_memberEntry (h.members member hmember)).oneLine
  exact ((muted_ofList (by decide)).extend (oneLine_quoted h.name) (by decide)).extend hmembers
    (by decide)

omit hs in
/-- A table of constants is a header with entries. -/
theorem silent_constantTable {header : String} {entries : List String} (hheader : Muted header)
    (hentries : ∀ entry ∈ entries, Muted entry) : (constantTable header entries).Silent := by
  refine silent_blockClosed hheader (allSilent_map fun entry hentry => silent_line ?_)
    (muted_ofList (by decide))
  exact (hentries entry hentry).append (oneLine_ofList (by decide))

/-- An adapter with its tables of members. -/
theorem Lined.adapter {adapter : Adapter} (h : adapter.Lined s) : AllSilent (s.adapter adapter) := by
  have hbase := h.messageUnion.name
  have hspelling : OneLine adapter.serializer.spelling :=
    (oneLine_ofList (by decide)).append adapter.serializer.oneLine_typeName
  have hcodec : ∀ rest : String, OneLine rest →
      Muted (s.inRuntime ("codec::" ++ adapter.serializer.identity) ++ rest) := by
    intro rest hrest
    have hcodec : Muted (s.inRuntime "codec::") := hs.muted_inRuntime (by decide)
    rw [Source.inRuntime] at hcodec ⊢
    rw [← String.append_assoc]
    exact (hcodec.append adapter.serializer.oneLine_identity).append hrest
  have hmessages : ∀ entry ∈ adapter.messageUnion.members.map UnionMember.entry, Muted entry := by
    intro entry hentry
    obtain ⟨member, hmember, rfl⟩ := List.mem_map.1 hentry
    exact muted_memberEntry (h.messageUnion.members member hmember)
  have hfaults : ∀ entry ∈ adapter.faultUnions.map Union.entry, Muted entry := by
    intro entry hentry
    obtain ⟨union, hunion, rfl⟩ := List.mem_map.1 hentry
    exact muted_unionEntry (h.faultUnions union hunion)
  simp only [Source.adapter, allSilent_cons, allSilent_nil, and_true]
  refine ⟨silent_doc _, silent_line ((muted_ofList (by decide)).extend h.name (by decide)),
    silent_blank, silent_block
      (((muted_ofList (by decide)).append (hs.inRuntime (by decide))).append h.name) ?_⟩
  simp only [allSilent_cons, allSilent_nil, and_true]
  exact ⟨silent_line ((muted_ofList (by decide)).extend hbase (by decide)),
    silent_line ((muted_ofList (by decide)).extend hspelling (by decide)), silent_blank,
    silent_doc _, silent_constantTable (muted_ofList (by decide)) hmessages, silent_blank,
    silent_doc _, silent_constantTable (muted_ofList (by decide)) hfaults, silent_blank,
    silent_block (((muted_ofList (by decide)).extend hbase (by decide)).append
        (hs.inRuntime (by decide)))
      (allSilent_singleton.2 (silent_line (hcodec _ (oneLine_ofList (by decide))))),
    silent_blank,
    silent_block (((muted_ofList (by decide)).extend hbase (by decide)).append
        (hs.inRuntime (by decide)))
      (allSilent_singleton.2 (silent_line (hcodec _ (oneLine_ofList (by decide)))))⟩

/-- The message about a serializer that is not configured. -/
theorem Lined.notConfigured {requested : String} (h : OneLine requested) :
    OneLine (s.notConfigured requested) := by
  have hinner : OneLine ("requested: " ++ requested ++ ", contract: " ++ quoted s.contractName) :=
    (DataType.oneLine_between h (by decide) (by decide)).append (oneLine_quoted hs.contractName)
  exact (((oneLine_ofList (by decide)).append (hs.inRuntime (by decide))).append
    (oneLine_braced hinner)).append (oneLine_ofList (by decide))

/-- The chooser of the serializers records nothing. -/
theorem Lined.chooserType : AllSilent (s.chooser s.compiled.binding) := by
  have hchooser := hs.chooser
  have hspelling : ∀ serializer : Serializer, Muted serializer.spelling :=
    fun serializer => (muted_ofList (by decide)).append serializer.oneLine_typeName
  have hconfigured : OneLine (commaList
      (s.compiled.binding.chooser.configured.map Serializer.spelling)) := by
    refine oneLine_commaList fun text htext => ?_
    obtain ⟨serializer, -, rfl⟩ := List.mem_map.1 htext
    exact (hspelling serializer).oneLine
  have hkind : Muted ("return " ++ s.notConfigured "kind" ++ ";") :=
    (muted_lead (by decide)).extend (hs.notConfigured (oneLine_ofList (by decide))) (by decide)
  have harms : ∀ arm ∈ s.compiled.binding.adapters.map (fun adapter =>
        adapter.serializer.spelling ++ " => Ok(::std::boxed::Box::new(" ++ adapter.name ++ ")),") ++
      ["other => " ++ s.notConfigured "other" ++ ","], Muted arm := by
    intro arm harm
    rcases List.mem_append.1 harm with harm | harm
    · obtain ⟨adapter, hadapter, rfl⟩ := List.mem_map.1 harm
      exact ((hspelling _).append (oneLine_ofList (by decide))).extend
        (hs.adapters adapter hadapter).name (by decide)
    · rw [List.mem_singleton.1 harm]
      exact (muted_ofList (by decide)).extend (hs.notConfigured (oneLine_ofList (by decide)))
        (by decide)
  simp only [Source.chooser, allSilent_cons, allSilent_nil, and_true]
  refine ⟨silent_doc _, silent_line ((muted_ofList (by decide)).extend hchooser (by decide)),
    silent_blank, silent_block ((muted_ofList (by decide)).append hchooser) ?_⟩
  simp only [allSilent_cons, allSilent_nil, and_true]
  refine ⟨silent_line ((muted_ofList (by decide)).extend hconfigured (by decide)),
    silent_line ((muted_ofList (by decide)).extend (hspelling _).oneLine (by decide)),
    silent_blank, silent_doc _,
    silent_block ((muted_ofList (by decide)).append (hs.inRuntime (by decide))) ?_, silent_blank,
    silent_block ((((muted_ofList (by decide)).append (hs.inRuntime (by decide))).extend
        hs.base.oneLine (by decide)).append (hs.inRuntime (by decide)))
      (allSilent_singleton.2 (silent_matchBlock (oneLine_ofList (by decide)) harms))⟩
  simp only [allSilent_cons, allSilent_nil, and_true]
  exact ⟨silent_line (muted_ofList (by decide)),
    silent_block (muted_ofList (by decide)) (allSilent_singleton.2 (silent_line hkind)),
    silent_line (muted_ofList (by decide))⟩

/-- The serializers are silent. -/
theorem Lined.serializers : AllSilent s.serializers :=
  allSilent_append.2 ⟨allSilent_flatMap fun adapter hadapter => allSilent_append.2
    ⟨hs.adapter (hs.adapters adapter hadapter), allSilent_singleton.2 silent_blank⟩,
    hs.chooserType⟩

end Lined

end Source

end ServiceContract
