import ServiceContract.Proofs.CleanNames
import ServiceContract.Proofs.Unions
import ServiceContract.Source.Callers

/-!
# Tidy sources

A contract is *bracket-free* if no text that its author chose has a bracket.  What is generated from
such a contract is *tidy*: the names of types and methods have no brackets, and documentation and
types are spelled with balanced ones.  `Compiled.tidy` says so of a whole compiled contract; the
brackets of the written module then follow from this alone.
-/

namespace ServiceContract

/-- No text of a contract that its author chose has a bracket: neither its names, nor documentation,
nor the path of a named type.  Names of operations and arguments may be anything. -/
structure Contract.BracketFree (c : Contract) : Prop where
  space : Clean c.space
  name : Clean c.name
  doc : ∀ doc ∈ c.doc, Clean doc
  operationDocs : ∀ op ∈ c.operations, ∀ doc ∈ op.doc, Clean doc
  paths : ∀ op ∈ c.operations, ∀ entry ∈ op.declaredTypes, ∀ path ∈ entry.2.paths, Clean path

/-- The full name of a contract is made of its two names. -/
theorem Contract.BracketFree.clean_qualifiedName {c : Contract} (h : c.BracketFree) :
    Clean c.qualifiedName := by
  unfold qualifiedName
  split
  · exact h.name
  · exact Clean.append (Clean.append h.space (clean_ofList rfl)) h.name

/-- The name of a field that carries a value. -/
theorem Param.clean_wireName (param : Param) : Clean param.wireName := by
  unfold wireName
  split
  · exact clean_ofList rfl
  · exact Clean.append (clean_ofList rfl) (clean_toString _)

/-- A type name is converted, so it has no bracket whatever the name was. -/
theorem Contract.clean_typeName (c : Contract) : Clean c.typeName := Text.clean_camel _

/-- An operation with a clean name, clean documentation and tidy types. -/
structure Operation.Tidy (op : Operation) : Prop where
  name : Clean op.name
  doc : ∀ doc ∈ op.doc, Clean doc
  types : ∀ entry ∈ op.declaredTypes, entry.2.Tidy

namespace Operation

variable {op : Operation}

/-- Type names are converted, so they have no bracket whatever the operation is called. -/
theorem clean_typeName (op : Operation) : Clean op.typeName := Text.clean_camel _

theorem clean_methodBase (op : Operation) : Clean op.methodBase := Text.clean_snake _

/-- The types of the parameters are declared by the operation. -/
theorem Tidy.params (h : op.Tidy) {param : Param} (hparam : param ∈ op.params) :
    param.type.Tidy :=
  h.types ("argument " ++ param.wireName, param.type) (by
    simp only [declaredTypes, List.mem_append, List.mem_map]
    exact .inl (.inl (.inl (.inl ⟨param, hparam, rfl⟩))))

theorem Tidy.result (h : op.Tidy) {type : DataType} (htype : type ∈ op.result) : type.Tidy :=
  h.types ("return value", type) (by
    simp only [declaredTypes, List.mem_append, List.mem_map, Option.mem_toList]
    exact .inl (.inl (.inl (.inr ⟨type, htype, rfl⟩))))

theorem Tidy.inputStream (h : op.Tidy) {type : DataType} (htype : type ∈ op.inputStream) :
    type.Tidy :=
  h.types ("input stream", type) (by
    simp only [declaredTypes, List.mem_append, List.mem_map, Option.mem_toList]
    exact .inl (.inl (.inr ⟨type, htype, rfl⟩)))

theorem Tidy.outputStream (h : op.Tidy) {type : DataType} (htype : type ∈ op.outputStream) :
    type.Tidy :=
  h.types ("output stream", type) (by
    simp only [declaredTypes, List.mem_append, List.mem_map, Option.mem_toList]
    exact .inl (.inr ⟨type, htype, rfl⟩))

theorem Tidy.payload (h : op.Tidy) {fault : Fault} (hfault : fault ∈ op.faults) :
    fault.payload.Tidy :=
  h.types ("fault " ++ toString fault.key, fault.payload) (by
    simp only [declaredTypes, List.mem_append, List.mem_map]
    exact .inr ⟨fault, hfault, rfl⟩)

end Operation

/-! ## Types -/

/-- A field with a clean name and, if its type was declared, a tidy one. -/
structure Field.Tidy (field : Field) : Prop where
  name : Clean field.name
  type : ∀ type, field.type = .declared type → type.Tidy

/-- A draft whose names have no brackets and whose texts are balanced. -/
structure Draft.Tidy (draft : Draft) : Prop where
  name : Clean draft.name
  displayName : ∀ name ∈ draft.displayName, Balanced name
  doc : ∀ doc ∈ draft.doc, Balanced doc
  fields : ∀ field ∈ draft.fields, field.Tidy
  methods : ∀ method ∈ draft.methods, Clean method.name

/-- A generated type whose names have no brackets and whose texts are balanced. -/
structure Node.Tidy (node : Node) : Prop where
  name : Clean node.name
  qualifiedName : Clean node.qualifiedName
  displayName : Balanced node.displayName
  doc : ∀ doc ∈ node.doc, Balanced doc
  fields : ∀ field ∈ node.fields, field.Tidy
  methods : ∀ method ∈ node.methods, Clean method.name

/-- What a role adds to a name has no bracket. -/
theorem Role.clean_suffix (role : Role) : Clean role.suffix := by
  cases role <;> exact clean_ofList rfl

theorem Role.clean_label (role : Role) : Clean role.label := by
  cases role <;> exact clean_ofList rfl

/-- A number and a full name keep a draft tidy. -/
theorem Draft.Tidy.finalize {draft : Draft} (h : draft.Tidy) {qualifier : String}
    (hqualifier : Clean qualifier) (id : NodeId) : (draft.finalize id qualifier).Tidy where
  name := h.name
  qualifiedName := by
    change Clean (qualify qualifier draft.name)
    unfold qualify
    split
    · exact h.name
    · exact Clean.append (Clean.append hqualifier (clean_ofList rfl)) h.name
  displayName := by
    change Balanced (draft.displayName.getD (draft.name ++ " " ++ draft.role.label))
    cases hdisplay : draft.displayName with
    | none =>
        exact (Clean.append (Clean.append h.name (clean_ofList rfl))
          draft.role.clean_label).balanced
    | some name => exact h.displayName name hdisplay
  doc := h.doc
  fields := h.fields
  methods := h.methods

/-- A field of a declared type. -/
theorem Field.tidy_declared {name : String} {type : DataType} (hname : Clean name)
    (htype : type.Tidy) : (Field.mk name (.declared type)).Tidy :=
  ⟨hname, fun type' h => by cases h; exact htype⟩

/-- A field of a type that no contract declares. -/
theorem Field.tidy_builtin {field : Field} (hname : Clean field.name)
    (htype : ∀ type, field.type ≠ .declared type) : field.Tidy :=
  ⟨hname, fun type h => absurd h (htype type)⟩

theorem callIdField_tidy : callIdField.Tidy :=
  Field.tidy_builtin (clean_ofList rfl) (by simp [callIdField])

/-- The fields of the system messages are built in. -/
theorem SystemMessage.tidy_fields (message : SystemMessage) :
    ∀ field ∈ message.fields, field.Tidy := by
  have hid : ∀ field ∈ [callIdField], field.Tidy := by
    simpa using callIdField_tidy
  cases message with
  | login =>
      have haccepted : (Field.mk "Accepted" (.declared (.primitive .bool))).Tidy :=
        Field.tidy_declared (clean_ofList rfl) ⟨rfl, by simp [DataType.paths]⟩
      have hcredentials : (Field.mk "Credentials" .credentials).Tidy :=
        Field.tidy_builtin (clean_ofList rfl) (by simp)
      simpa [fields] using ⟨hcredentials, haccepted⟩
  | logout => simp [fields]
  | heartbeat => simp [fields]
  | cancelRequest => exact hid
  | pageAck =>
      have hconsumed : (Field.mk "Consumed" .consumed).Tidy :=
        Field.tidy_builtin (clean_ofList rfl) (by simp)
      simpa [fields] using ⟨callIdField_tidy, hconsumed⟩
  | streamCancel =>
      have hreason : (Field.mk "Reason" (.declared (.option (.primitive .string)))).Tidy :=
        Field.tidy_declared (clean_ofList rfl) ⟨rfl, by simp [DataType.paths]⟩
      simpa [fields] using ⟨callIdField_tidy, hreason⟩
  | streamClose => exact hid
  | streamCloseAck => exact hid

/-- A system message is tidy whatever the contract. -/
theorem SystemMessage.tidy_draft (message : SystemMessage) : message.draft.Tidy where
  name := by cases message <;> exact clean_ofList rfl
  displayName := by simp [draft]
  doc := by
    have hdoc : Clean message.doc := by cases message <;> exact clean_ofList rfl
    simpa [draft] using hdoc.balanced
  fields := message.tidy_fields
  methods := by
    cases message <;>
      simp only [draft, methods, List.forall_mem_cons, List.not_mem_nil, false_implies,
        implies_true, and_true] <;> exact clean_ofList rfl

/-- The message base has a converted name and no fields. -/
theorem Contract.tidy_baseDraft (c : Contract) : c.baseDraft.Tidy where
  name := Clean.append c.clean_typeName (Role.clean_suffix _)
  displayName := by simp [baseDraft]
  doc := by
    have hdoc : Clean ("Every message of the `" ++ c.typeName ++ "` contract.") :=
      Clean.append (Clean.append (clean_ofList rfl) c.clean_typeName) (clean_ofList rfl)
    simpa [baseDraft] using hdoc.balanced
  fields := by simp [baseDraft]
  methods := by simp [baseDraft]

namespace Operation

variable {op : Operation} (h : op.Tidy) (c : Contract) (index : Nat)

include h

/-- The fields of the arguments are numbered, and their types are declared. -/
theorem Tidy.argumentFields {field : Field} (hfield : field ∈ op.argumentFields) :
    field.Tidy := by
  obtain ⟨param, hparam, rfl⟩ := List.mem_map.1 hfield
  exact Field.tidy_declared param.clean_wireName (h.params hparam)

/-- The field of the result, if there is one. -/
theorem Tidy.resultFields {field : Field} (hfield : field ∈ op.resultFields) : field.Tidy := by
  rw [resultFields_eq] at hfield
  obtain ⟨type, htype, rfl⟩ := List.mem_map.1 hfield
  exact Field.tidy_declared (clean_ofList rfl) (h.result (Option.mem_toList.1 htype))

/-- What the display name of a message starts with. -/
theorem Tidy.clean_displayLabel : Clean (op.displayLabel c) :=
  Clean.append (Clean.append c.clean_typeName (clean_ofList rfl)) h.name

/-- The display name of a message: the operation, and what the message is for. -/
theorem Tidy.balanced_displayName {suffix : String} (hsuffix : Clean suffix) :
    ∀ name ∈ some (op.displayLabel c ++ suffix), Balanced name := by
  intro name hname
  rw [← Option.some.inj hname]
  exact (Clean.append (h.clean_displayLabel c) hsuffix).balanced

/-- The message of a one-way operation. -/
theorem Tidy.oneWayDraft (key : MessageKey) : (op.oneWayDraft c index key).Tidy where
  name := Clean.append op.clean_typeName (Role.clean_suffix _)
  displayName := h.balanced_displayName c (clean_ofList rfl)
  doc := fun doc hdoc => (h.doc doc hdoc).balanced
  fields := fun field hfield => h.argumentFields hfield
  methods := by simp [Operation.oneWayDraft]

/-- The request, with a window if the operation streams. -/
theorem Tidy.requestDraft (key : MessageKey) : (op.requestDraft c index key).Tidy where
  name := Clean.append op.clean_typeName (Role.clean_suffix _)
  displayName := h.balanced_displayName c (clean_ofList rfl)
  doc := fun doc hdoc => (h.doc doc hdoc).balanced
  fields := by
    have hoptions : (Field.mk "Options" .callOptions).Tidy :=
      Field.tidy_builtin (clean_ofList rfl) (by simp)
    have hwindow : (Field.mk "WindowSize" .windowSize).Tidy :=
      Field.tidy_builtin (clean_ofList rfl) (by simp)
    intro field hfield
    simp only [Operation.requestDraft, List.mem_append, List.mem_cons, List.not_mem_nil,
      or_false] at hfield
    rcases hfield with ((rfl | rfl) | hfield) | hfield
    · exact callIdField_tidy
    · exact hoptions
    · exact h.argumentFields hfield
    · split at hfield
      · rw [List.mem_singleton] at hfield
        exact hfield ▸ hwindow
      · cases hfield
  methods := by simp [Operation.requestDraft]

/-- The response, with the result if there is one. -/
theorem Tidy.responseDraft (key : MessageKey) : (op.responseDraft c index key).Tidy where
  name := Clean.append op.clean_typeName (Role.clean_suffix _)
  displayName := h.balanced_displayName c (clean_ofList rfl)
  doc := by simp [Operation.responseDraft]
  fields := by
    intro field hfield
    rcases List.mem_cons.1 hfield with rfl | hfield
    · exact callIdField_tidy
    · exact h.resultFields hfield
  methods := by simp [Operation.responseDraft]

/-- The fault message, with a place for a carrier if faults are declared. -/
theorem Tidy.faultDraft (key : MessageKey) (marker : Option NodeId) :
    (op.faultDraft c index key marker).Tidy where
  name := Clean.append op.clean_typeName (Role.clean_suffix _)
  displayName := h.balanced_displayName c (clean_ofList rfl)
  doc := by simp [Operation.faultDraft]
  fields := by
    have htext : (Field.mk "Text" .text).Tidy := Field.tidy_builtin (clean_ofList rfl) (by simp)
    have hcode : (Field.mk "Code" .faultCode).Tidy :=
      Field.tidy_builtin (clean_ofList rfl) (by simp)
    intro field hfield
    simp only [Operation.faultDraft, List.mem_append, List.mem_cons, List.not_mem_nil, or_false,
      List.mem_map] at hfield
    rcases hfield with (rfl | rfl | rfl) | ⟨node, -, rfl⟩
    · exact callIdField_tidy
    · exact htext
    · exact hcode
    · exact Field.tidy_builtin (clean_ofList rfl) (by simp)
  methods := by simp [Operation.faultDraft]

/-- A page of items, in either direction. -/
theorem Tidy.pageDraft (role : Role) (key : MessageKey) {item : DataType} (hitem : item.Tidy) :
    (op.pageDraft c index role key item).Tidy where
  name := Clean.append op.clean_typeName (Role.clean_suffix _)
  displayName := by
    intro name hname
    rw [← Option.some.inj hname]
    exact (Clean.append (Clean.append (h.clean_displayLabel c) (clean_ofList rfl))
      role.clean_label).balanced
  doc := by simp [Operation.pageDraft]
  fields := by
    have hitems : (DataType.list item).Tidy := ⟨hitem.supported, hitem.paths⟩
    intro field hfield
    simp only [Operation.pageDraft, List.mem_cons, List.not_mem_nil, or_false] at hfield
    rcases hfield with rfl | rfl
    · exact callIdField_tidy
    · exact Field.tidy_declared (clean_ofList rfl) hitems
  methods := by
    intro method hmethod
    obtain rfl := List.mem_singleton.1 hmethod
    exact clean_ofList rfl

/-- The marker of the fault carriers, which has no fields. -/
theorem Tidy.markerDraft (marker : NodeId) : (op.markerDraft index marker).Tidy where
  name := Clean.append op.clean_typeName (Role.clean_suffix _)
  displayName := by
    intro name hname
    rw [← Option.some.inj hname]
    exact (Clean.append h.name (clean_ofList rfl)).balanced
  doc := by
    intro doc hdoc
    rw [← Option.some.inj hdoc]
    exact (Clean.append (Clean.append (clean_ofList rfl) h.name) (clean_ofList rfl)).balanced
  fields := by simp [Operation.markerDraft]
  methods := by simp [Operation.markerDraft]

/-- The carrier of a declared fault, called after its payload. -/
theorem Tidy.carrierDraft (marker : NodeId) {fault : Fault} (hfault : fault ∈ op.faults) :
    (op.carrierDraft index marker fault).Tidy where
  name := Clean.append (Clean.append op.clean_typeName
    (DataType.clean_fragment (h.payload hfault).paths)) (Role.clean_suffix _)
  displayName := by
    intro name hname stack
    rw [← Option.some.inj hname]
    simp only [scanText_append, scanText_balanced h.name.balanced,
      scanText_balanced (clean_toString fault.key).balanced,
      scanText_balanced (h.payload hfault).balanced_text]
    repeat rw [scanText_ofList]
    rfl
  doc := by simp [Operation.carrierDraft]
  fields := by
    intro field hfield
    obtain rfl := List.mem_singleton.1 hfield
    exact Field.tidy_declared (clean_ofList rfl) (h.payload hfault)
  methods := by
    intro method hmethod
    simp only [Operation.carrierDraft, List.mem_cons, List.not_mem_nil, or_false] at hmethod
    rcases hmethod with rfl | rfl <;> exact clean_ofList rfl

/-- Every type of a tidy operation is tidy. -/
theorem Tidy.drafts (keys : OperationKeys) (first : NodeId) {draft : Draft}
    (hdraft : draft ∈ op.drafts c index keys first) : draft.Tidy := by
  revert draft
  apply forall_mem_drafts
  case oneWay => exact fun key _ => h.oneWayDraft c index key
  case request => exact fun key => h.requestDraft c index key
  case response => exact fun key => h.responseDraft c index key
  case marker => exact fun _ _ _ => h.markerDraft index (first + 2)
  case carrier => exact fun _ _ _ hfault => h.carrierDraft index (first + 2) hfault
  case fault => exact fun call _ => h.faultDraft c index call.fault _
  case inputPage =>
    exact fun key item hitem => h.pageDraft c index .inputPage key (h.inputStream hitem)
  case outputPage =>
    exact fun key item hitem => h.pageDraft c index .outputPage key (h.outputStream hitem)

end Operation

namespace Compiled

variable {c : Contract} {options : Options} {compiled : Compiled}

/-- Every generated operation of a bracket-free contract is tidy. -/
theorem tidy_operation (h : c.compile options = .ok compiled) (hfree : c.BracketFree)
    {p : Placement} (hp : p ∈ compiled.placements) : p.candidate.operation.Tidy := by
  have hwell := wellFormed h hp
  have hmem : p.candidate.operation ∈ c.operations :=
    List.mem_of_getElem? (mem_placements h hp).1
  exact ⟨clean_of_isIdentifier hwell.name_identifier, hfree.operationDocs _ hmem,
    fun entry hentry => ⟨hwell.supported entry hentry, hfree.paths _ hmem entry hentry⟩⟩

/-- Every node of the catalog of a bracket-free contract is tidy. -/
theorem tidy_node (h : c.compile options = .ok compiled) (hfree : c.BracketFree) {node : Node}
    (hnode : node ∈ compiled.catalog.nodes) : node.Tidy := by
  have hqualifier := hfree.clean_qualifiedName
  rw [catalog_nodes h, List.mem_append] at hnode
  rcases hnode with hnode | hnode
  · obtain ⟨draft, hdraft, id, rfl⟩ := Draft.mem_finalizeFrom hnode
    rcases List.mem_cons.1 hdraft with rfl | hdraft
    · exact c.tidy_baseDraft.finalize hqualifier id
    · obtain ⟨message, -, rfl⟩ := List.mem_map.1 hdraft
      exact message.tidy_draft.finalize hqualifier id
  · obtain ⟨p, hp, hnode⟩ := List.mem_flatMap.1 hnode
    obtain ⟨draft, hdraft, id, rfl⟩ := Draft.mem_finalizeFrom hnode
    exact ((tidy_operation h hfree hp).drafts c _ _ _ hdraft).finalize hqualifier id

end Compiled

/-! ## Callers -/

/-- A stub with clean names, tidy types and clean documentation. -/
structure Stub.Tidy (stub : Stub) : Prop where
  name : Clean stub.name
  baseName : Clean stub.baseName
  params : ∀ param ∈ stub.params, param.type.Tidy
  returns : Balanced stub.returns.spelling
  doc : ∀ doc ∈ stub.doc, Clean doc

/-- An opener with clean names, tidy types and clean documentation. -/
structure StreamOpener.Tidy (s : Source) (opener : StreamOpener) : Prop where
  name : Clean opener.name
  operation : Clean (s.operationName opener.operation)
  params : ∀ param ∈ opener.params, param.type.Tidy
  inputItem : ∀ type ∈ opener.inputItem, type.Tidy
  outputItem : ∀ type ∈ opener.outputItem, type.Tidy
  result : ∀ type ∈ opener.result, type.Tidy
  doc : ∀ doc ∈ opener.doc, Clean doc

/-- A surface whose parts are tidy. -/
structure Surface.Tidy (s : Source) (surface : Surface) : Prop where
  name : Clean surface.name
  methods : ∀ stub ∈ surface.methods, stub.Tidy
  streams : ∀ opener ∈ surface.streams, opener.Tidy s
  helperNames : ∀ helper ∈ surface.prebuild, Clean helper.name
  helperParams : ∀ helper ∈ surface.prebuild, ∀ param ∈ helper.params, param.type.Tidy
  facades : ∀ facade ∈ surface.facades, Clean facade.name
  facadeMethods : ∀ facade ∈ surface.facades, ∀ entry ∈ facade.methods,
    Clean entry.name ∧ Clean entry.target

/-- The affixes of the styles have no bracket. -/
theorem CallStyle.clean_methodName (style : CallStyle) {base : String} (h : Clean base) :
    Clean (style.methodName base) := by
  cases style with
  | blocking => exact h
  | async => exact Clean.append h (clean_ofList rfl)
  | «try» => exact Clean.append (clean_ofList rfl) h
  | tryAsync => exact Clean.append (Clean.append (clean_ofList rfl) h) (clean_ofList rfl)

/-- What a call hands back is spelled with balanced brackets. -/
theorem ReturnShape.balanced_spelling (style : CallStyle) {result : Option DataType}
    (h : ∀ type ∈ result, type.Tidy) : Balanced (ReturnShape.of style result).spelling := by
  have hsettled : Balanced (settled style result).spelling := by
    unfold settled
    split
    · change Balanced ("Outcome<" ++ DataType.spellingOr result ++ ">")
      exact (DataType.balanced_spellingOr h).between fun _ => rfl
    · split
      · next type =>
          change Balanced ("Result<" ++ type.spelling ++ ", CallError>")
          exact (h type rfl).balanced_spelling.between fun _ => rfl
      · intro stack
        change scanText stack "Result<(), CallError>" = stack
        rw [scanText_ofList]
        rfl
  unfold of
  split
  · exact hsettled
  · exact hsettled

namespace Generated

variable {entry : Generated} (h : entry.operation.Tidy)

include h

/-- The stubs under one plain name, in all styles. -/
theorem tidy_stubsNamed {base : String} (hbase : Clean base) (prebuilt : Bool) {stub : Stub}
    (hstub : stub ∈ entry.stubsNamed base prebuilt) : stub.Tidy := by
  obtain ⟨style, -, rfl⟩ := List.mem_map.1 hstub
  refine ⟨style.clean_methodName hbase, hbase, ?_, ?_, h.doc⟩
  · intro param hparam
    dsimp only at hparam
    split at hparam
    · cases hparam
    · exact h.params hparam
  · exact ReturnShape.balanced_spelling style fun _ => h.result

/-- The stubs of an operation, with those for a message that was built ahead of time. -/
theorem tidy_stubs {stub : Stub} (hstub : stub ∈ entry.stubs) : stub.Tidy := by
  have hbase := entry.operation.clean_methodBase
  unfold stubs at hstub
  split at hstub
  · cases hstub
  · rcases List.mem_append.1 hstub with hstub | hstub
    · exact tidy_stubsNamed h hbase false hstub
    · split at hstub
      · exact tidy_stubsNamed h (Clean.append hbase (clean_ofList rfl)) true hstub
      · cases hstub

/-- The method that opens a stream. -/
theorem tidy_opener {s : Source} (hname : Clean (s.operationName entry.index))
    {opener : StreamOpener} (hopener : entry.opener? = some opener) : opener.Tidy s := by
  unfold opener? at hopener
  split at hopener
  · cases hopener
  · split at hopener
    · rw [← Option.some.inj hopener]
      exact ⟨Clean.append (clean_ofList rfl) entry.operation.clean_methodBase, hname,
        fun _ => h.params, fun _ => h.inputStream, fun _ => h.outputStream, fun _ => h.result,
        h.doc⟩
    · cases hopener

/-- The function that builds a message ahead of time. -/
theorem tidy_prebuildHelper {serializer : Serializer} {helper : PrebuildHelper}
    (hhelper : entry.prebuildHelper? serializer = some helper) :
    Clean helper.name ∧ ∀ param ∈ helper.params, param.type.Tidy := by
  unfold prebuildHelper? at hhelper
  split at hhelper
  · rw [← Option.some.inj hhelper]
    exact ⟨Clean.append (clean_ofList rfl) entry.operation.clean_methodBase, fun _ => h.params⟩
  · cases hhelper

end Generated

/-- A surface is called after the contract. -/
theorem Surface.clean_nameOf (c : Contract) (peer : Peer) : Clean (Surface.nameOf c peer) := by
  cases peer <;> exact Clean.append c.clean_typeName (clean_ofList rfl)

/-- A facade over tidy stubs has clean names. -/
theorem CallStyle.tidy_facade {style : CallStyle} {surface : String} {stubs : List Stub}
    {facade : Facade} (hsurface : Clean surface) (hstubs : ∀ stub ∈ stubs, stub.Tidy)
    (hfacade : style.facade? surface stubs = some facade) :
    Clean facade.name ∧ ∀ entry ∈ facade.methods, Clean entry.name ∧ Clean entry.target := by
  obtain ⟨suffix, hsuffix, hfacade⟩ := Option.map_eq_some_iff.1 hfacade
  rw [← hfacade]
  constructor
  · have hclean : Clean suffix := by
      cases style with
      | blocking => cases hsuffix
      | async => exact Option.some.inj hsuffix ▸ clean_ofList rfl
      | «try» => exact Option.some.inj hsuffix ▸ clean_ofList rfl
      | tryAsync => exact Option.some.inj hsuffix ▸ clean_ofList rfl
    exact hsurface.append hclean
  · intro entry hentry
    obtain ⟨stub, hstub, rfl⟩ := List.mem_map.1 hentry
    have htidy := hstubs stub (List.mem_of_mem_filter hstub)
    exact ⟨htidy.baseName, htidy.name⟩

/-! ## Handlers -/

/-- A handler with clean names, tidy types and clean documentation. -/
structure Handler.Tidy (handler : Handler) : Prop where
  name : Clean handler.name
  params : ∀ param ∈ handler.params, param.type.Tidy
  result : ∀ type ∈ handler.result, type.Tidy
  inputItem : ∀ type ∈ handler.inputItem, type.Tidy
  outputItem : ∀ type ∈ handler.outputItem, type.Tidy
  sentHook : ∀ hook ∈ handler.sentHook, Clean hook
  doc : ∀ doc ∈ handler.doc, Clean doc

/-- A test of a catch chain whose payload is tidy. -/
def CatchBranch.Tidy : CatchBranch → Prop
  | custom _ payload _ => payload.Tidy
  | declared => True
  | unexpected => True

/-- An arm with clean names whose catch chain is tidy. -/
structure Arm.Tidy (s : Source) (arm : Arm) : Prop where
  variant : Clean arm.variant
  handler : Clean arm.handler
  operation : Clean (s.operationName arm.operation)
  sentHook : ∀ request, arm = .request request → ∀ hook ∈ request.sentHook, Clean hook
  catchChain : ∀ request, arm = .request request → ∀ branch ∈ request.catchChain, branch.Tidy

/-- A plan whose parts are tidy. -/
structure DispatchPlan.Tidy (s : Source) (plan : DispatchPlan) : Prop where
  handlerTrait : Clean plan.handlerTrait
  dispatcher : Clean plan.dispatcher
  inbound : Clean plan.inbound
  handlers : ∀ handler ∈ plan.handlers, handler.Tidy
  arms : ∀ arm ∈ plan.arms, arm.Tidy s

/-- A hook is called after its operation. -/
theorem Operation.clean_sentHook {op : Operation} : ∀ hook ∈ op.sentHook?, Clean hook := by
  intro hook hhook
  unfold sentHook? at hhook
  split at hhook
  · rw [← Option.some.inj hhook]
    exact Clean.append (Clean.append (clean_ofList rfl) op.clean_methodBase) (clean_ofList rfl)
  · cases hhook

/-- The trait of a plan is called after the contract. -/
theorem DispatchPlan.clean_traitName (c : Contract) (peer : Peer) : Clean (traitName c peer) := by
  cases peer with
  | server => exact c.clean_typeName
  | client => exact Clean.append c.clean_typeName (clean_ofList rfl)

theorem DispatchPlan.clean_dispatcherName (c : Contract) (peer : Peer) :
    Clean (dispatcherName c peer) := by
  cases peer <;> exact Clean.append c.clean_typeName (clean_ofList rfl)

theorem DispatchPlan.clean_inboundName (c : Contract) (peer : Peer) :
    Clean (inboundName c peer) := by
  cases peer <;> exact Clean.append c.clean_typeName (clean_ofList rfl)

/-- A handler takes its names and its types from the operation. -/
theorem Generated.tidy_handler {entry : Generated} (h : entry.operation.Tidy) :
    entry.handler.Tidy :=
  ⟨entry.operation.clean_methodBase, fun _ => h.params, fun _ => h.result,
    fun _ => h.inputStream, fun _ => h.outputStream, Operation.clean_sentHook, h.doc⟩

/-- An arm takes its names from the operation and its chain from the catalog. -/
theorem Generated.tidy_arm {entry : Generated} {s : Source} {catalog : Catalog}
    (hname : Clean (s.operationName entry.index))
    (hchain : ∀ branch ∈ catalog.catchChain entry.index, branch.Tidy) (key : MessageKey) :
    (entry.arm catalog key).Tidy s := by
  have hvariant := entry.operation.clean_typeName
  have hhandler := entry.operation.clean_methodBase
  unfold Generated.arm
  split
  · exact ⟨hvariant, hhandler, hname, by simp, by simp⟩
  · refine ⟨hvariant, hhandler, hname, ?_, ?_⟩
    · intro request hrequest
      rw [← Arm.request.inj hrequest]
      exact Operation.clean_sentHook
    · intro request hrequest
      rw [← Arm.request.inj hrequest]
      exact hchain

namespace Compiled

variable {c : Contract} {options : Options} {compiled : Compiled}

/-- Every catch chain of a bracket-free contract is tidy. -/
theorem tidy_catchChain (h : c.compile options = .ok compiled) (hfree : c.BracketFree)
    (index : Nat) : ∀ branch ∈ compiled.catalog.catchChain index, branch.Tidy := by
  intro branch hbranch
  rcases List.mem_append.1 hbranch with hbranch | hbranch
  · obtain ⟨carrier, hcarrier, rfl⟩ := List.mem_map.1 hbranch
    cases hset : compiled.catalog.faultSet? index with
    | none => simp [hset] at hcarrier
    | some set =>
        rw [hset] at hcarrier
        obtain ⟨p, hp, -, -, rfl⟩ := mem_faultSets h (List.mem_of_find?_eq_some hset)
        obtain ⟨entry, hentry, rfl⟩ := Operation.exists_of_mem_carriers hcarrier
        exact (tidy_operation h hfree hp).payload (List.fst_mem_of_mem_zipIdx hentry)
  · simp only [List.mem_cons, List.not_mem_nil, or_false] at hbranch
    rcases hbranch with rfl | rfl <;> trivial

end Compiled

/-! ## Serializers -/

/-- A union with clean names. -/
structure Union.Tidy (union : Union) : Prop where
  name : Clean union.name
  members : ∀ member ∈ union.members, Clean member.name

/-- An adapter with clean names. -/
structure Adapter.Tidy (adapter : Adapter) : Prop where
  name : Clean adapter.name
  messageUnion : adapter.messageUnion.Tidy
  faultUnions : ∀ union ∈ adapter.faultUnions, union.Tidy

/-- The names of a catalog of tidy nodes are clean. -/
theorem Catalog.clean_name {catalog : Catalog} (h : ∀ node ∈ catalog.nodes, node.Tidy)
    (id : NodeId) : Clean (catalog.name id) := by
  unfold name
  cases hget : catalog.get? id with
  | none => exact clean_empty
  | some node => exact (h node (List.mem_of_getElem? hget)).name

/-- A union lists nodes of the catalog under their names. -/
theorem Union.tidy_below {catalog : Catalog} (h : ∀ node ∈ catalog.nodes, node.Tidy)
    (hierarchy : Hierarchy) (root : NodeId) : (Union.below catalog hierarchy root).Tidy := by
  refine ⟨catalog.clean_name h root, fun member hmember => ?_⟩
  obtain ⟨id, -, hid⟩ := List.mem_filterMap.1 hmember
  obtain ⟨node, hget, hnode⟩ := Option.bind_eq_some_iff.1 hid
  unfold Node.member? at hnode
  split at hnode
  · cases hnode
  · obtain ⟨tag, -, rfl⟩ := Option.map_eq_some_iff.1 hnode
    exact (h node (List.mem_of_getElem? hget)).name

/-- The names of the serializers are fixed. -/
theorem Serializer.clean_typeName (serializer : Serializer) : Clean serializer.typeName := by
  cases serializer <;> exact clean_ofList rfl

theorem Serializer.clean_identity (serializer : Serializer) : Clean serializer.identity := by
  cases serializer <;> exact clean_ofList rfl

/-- An adapter has a fixed name and the unions of the catalog. -/
theorem Binding.tidy_adapterFor (c : Contract) {catalog : Catalog}
    (h : ∀ node ∈ catalog.nodes, node.Tidy) (hierarchy : Hierarchy) (serializer : Serializer) :
    (Binding.adapterFor c catalog hierarchy serializer).Tidy := by
  refine ⟨Clean.append (c.clean_typeName.append serializer.clean_typeName) (clean_ofList rfl),
    Union.tidy_below h hierarchy _, fun union hunion => ?_⟩
  obtain ⟨set, -, rfl⟩ := List.mem_map.1 hunion
  exact Union.tidy_below h hierarchy _

namespace Compiled

variable {c : Contract} {options : Options} {s : Source}

section Parts

variable (h : c.compile options = .ok s.compiled) (hfree : c.BracketFree)

include h hfree

/-- The index of a placed operation leads back to it, and its name is clean. -/
theorem clean_operationName {p : Placement} (hp : p ∈ s.compiled.placements) :
    Clean (s.operationName p.generated.index) := by
  have hindex : p.generated.index = p.candidate.index := rfl
  rw [hindex, Source.operationName, Source.operation?, Contract.compile_contract h,
    (mem_placements h hp).1]
  exact (tidy_operation h hfree hp).name

/-- The stubs of a surface come from placed operations. -/
theorem tidy_stubs {peer : Peer} {stub : Stub} (hstub : stub ∈ (s.compiled.surface peer).methods) :
    stub.Tidy := by
  rw [methods_eq h] at hstub
  obtain ⟨p, hp, hstub⟩ := List.mem_flatMap.1 hstub
  exact Generated.tidy_stubs (tidy_operation h hfree (mem_directed.1 hp).1) hstub

theorem tidy_helpers {peer : Peer} {helper : PrebuildHelper}
    (hhelper : helper ∈ (s.compiled.surface peer).prebuild) :
    Clean helper.name ∧ ∀ param ∈ helper.params, param.type.Tidy := by
  rw [Contract.compile_surface h] at hhelper
  obtain ⟨entry, hentry, hhelper⟩ := List.mem_filterMap.1 hhelper
  rw [catalog_directed_eq h] at hentry
  obtain ⟨p, hp, rfl⟩ := List.mem_map.1 hentry
  exact Generated.tidy_prebuildHelper (tidy_operation h hfree (mem_directed.1 hp).1) hhelper

/-- A facade forwards to the stubs of its surface. -/
theorem tidy_facades {peer : Peer} {facade : Facade}
    (hfacade : facade ∈ (s.compiled.surface peer).facades) : Clean facade.name ∧
      ∀ entry ∈ facade.methods, Clean entry.name ∧ Clean entry.target := by
  have hstubs : ∀ stub ∈ (s.compiled.surface peer).methods, stub.Tidy :=
    fun stub hstub => tidy_stubs h hfree hstub
  rw [Contract.compile_surface h] at hfacade hstubs
  obtain ⟨style, -, hfacade⟩ := List.mem_filterMap.1 hfacade
  exact CallStyle.tidy_facade (Surface.clean_nameOf c peer) hstubs hfacade

/-- The surfaces of a bracket-free contract are tidy. -/
theorem tidy_surface (peer : Peer) : (s.compiled.surface peer).Tidy s := by
  have hname : (s.compiled.surface peer).name = Surface.nameOf c peer := by
    rw [Contract.compile_surface h]
    rfl
  refine ⟨hname ▸ Surface.clean_nameOf c peer, fun stub hstub => tidy_stubs h hfree hstub, ?_,
    fun helper hhelper => (tidy_helpers h hfree hhelper).1,
    fun helper hhelper => (tidy_helpers h hfree hhelper).2,
    fun facade hfacade => (tidy_facades h hfree hfacade).1,
    fun facade hfacade => (tidy_facades h hfree hfacade).2⟩
  intro opener hopener
  rw [streams_eq h] at hopener
  obtain ⟨p, hp, hopener⟩ := List.mem_filterMap.1 hopener
  have hplaced := (mem_directed.1 hp).1
  exact Generated.tidy_opener (tidy_operation h hfree hplaced)
    (clean_operationName h hfree hplaced) hopener

/-- The plans of a bracket-free contract are tidy. -/
theorem tidy_plan (peer : Peer) : (s.compiled.dispatch peer).Tidy s := by
  have htrait : (s.compiled.dispatch peer).handlerTrait = DispatchPlan.traitName c peer := by
    rw [Contract.compile_dispatch h]
    rfl
  have hdispatcher :
      (s.compiled.dispatch peer).dispatcher = DispatchPlan.dispatcherName c peer := by
    rw [Contract.compile_dispatch h]
    rfl
  have hinbound : (s.compiled.dispatch peer).inbound = DispatchPlan.inboundName c peer := by
    rw [Contract.compile_dispatch h]
    rfl
  refine ⟨?_, ?_, ?_, ?_, ?_⟩
  · rw [htrait]
    exact DispatchPlan.clean_traitName c peer
  · rw [hdispatcher]
    exact DispatchPlan.clean_dispatcherName c peer
  · rw [hinbound]
    exact DispatchPlan.clean_inboundName c peer
  · intro handler hhandler
    rw [handlers_eq h] at hhandler
    obtain ⟨p, hp, rfl⟩ := List.mem_map.1 hhandler
    exact Generated.tidy_handler (tidy_operation h hfree (mem_directed.1 hp).1)
  · intro arm harm
    rw [arms_eq h] at harm
    obtain ⟨p, hp, rfl⟩ := List.mem_map.1 harm
    exact Generated.tidy_arm (clean_operationName h hfree (mem_directed.1 hp).1)
      (tidy_catchChain h hfree _) _

end Parts

end Compiled

/-- A source whose names have no brackets and whose texts are balanced. -/
structure Source.Tidy (s : Source) : Prop where
  runtime : Clean s.runtime
  contractName : Clean s.contractName
  contractDoc : ∀ doc ∈ s.compiled.contract.doc, Clean doc
  nodes : ∀ node ∈ s.catalog.nodes, node.Tidy
  surfaces : ∀ peer, (s.compiled.surface peer).Tidy s
  plans : ∀ peer, (s.compiled.dispatch peer).Tidy s
  adapters : ∀ adapter ∈ s.compiled.binding.adapters, adapter.Tidy
  chooser : Clean s.compiled.binding.chooser.name

/-- **Compiled contracts are tidy.**  A bracket-free contract, with a bracket-free path of the
library it uses, gives a tidy source. -/
theorem Compiled.tidy {c : Contract} {options : Options} {s : Source}
    (h : c.compile options = .ok s.compiled) (hfree : c.BracketFree) (hruntime : Clean s.runtime) :
    s.Tidy := by
  have hcontract := Contract.compile_contract h
  have hnodes : ∀ node ∈ s.catalog.nodes, node.Tidy := fun node => tidy_node h hfree
  have hbinding := Contract.compile_binding h
  refine ⟨hruntime, ?_, ?_, hnodes, tidy_surface h hfree, tidy_plan h hfree, ?_, ?_⟩
  · rw [Source.contractName, hcontract]
    exact hfree.clean_qualifiedName
  · rw [hcontract]
    exact hfree.doc
  · intro adapter hadapter
    rw [hbinding] at hadapter
    obtain ⟨serializer, -, rfl⟩ := List.mem_map.1 hadapter
    exact Binding.tidy_adapterFor c hnodes _ serializer
  · rw [hbinding]
    change Clean (c.typeName ++ "Serializers")
    exact Clean.append c.clean_typeName (clean_ofList rfl)

end ServiceContract
