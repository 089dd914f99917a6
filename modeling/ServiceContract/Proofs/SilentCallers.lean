import ServiceContract.Proofs.SilentTypes

/-!
# Silent surfaces

Stubs, openers, facades and the functions that build messages ahead of time record no call, if what
they are made of stands on one line.  Lines that settle a call begin with the union of all messages,
and those of the control functions with the name of a system message; both are muted on their own.
-/

namespace ServiceContract

open Text Code

/-- What a stub returns is spelled on one line if the types in it are. -/
theorem ReturnShape.oneLine_spelling {shape : ReturnShape} (h : OneLineTypes shape.types) :
    OneLine shape.spelling := by
  match shape with
  | unit => exact oneLine_ofList (by decide)
  | value type => exact DataType.oneLine_between (h type (by simp [types])) (by decide) (by decide)
  | outcome type => exact DataType.oneLine_between (oneLine_spellingOr h) (by decide) (by decide)
  | awaitable settled => exact settled.oneLine_spelling h

/-- The parameters of a stub are among its types. -/
theorem Stub.Lined.params {stub : Stub} (h : stub.Lined) :
    ∀ param ∈ stub.params, OneLine param.type.spelling := fun _ hparam =>
  h.types _ (List.mem_append_left _ (List.mem_map_of_mem hparam))

theorem Stub.Lined.returns {stub : Stub} (h : stub.Lined) : OneLine stub.returns.spelling :=
  ReturnShape.oneLine_spelling (h.types.subset (List.subset_append_right _ _))

namespace Source

/-- The member that holds a result has a converted name. -/
theorem oneLine_resultField {s : Source} {operation : Nat} {field : String}
    (h : s.resultField? operation = some field) : OneLine field := by
  obtain ⟨param, -, rfl⟩ := Option.map_eq_some_iff.1 h
  exact param.oneLine_fieldName

/-- What every request sets besides its arguments. -/
theorem oneLine_requestInits : ∀ init ∈ requestInits, OneLine init.text := by
  intro init hinit
  simp only [requestInits, List.mem_cons, List.not_mem_nil, or_false] at hinit
  rcases hinit with rfl | rfl
  · exact oneLine_ofList (by decide)
  · exact FieldInit.oneLine_set (oneLine_ofList (by decide)) (oneLine_ofList (by decide))

/-- The members of a message that hold arguments. -/
theorem oneLine_paramInits (params : List Param) :
    ∀ init ∈ params.map Param.init, OneLine init.text := by
  intro init hinit
  obtain ⟨param, -, rfl⟩ := List.mem_map.1 hinit
  exact param.oneLine_init

/-- The parameters of a method that takes what an operation declares. -/
theorem oneLine_paramBinders {params : List Param} (h : ∀ param ∈ params, OneLine param.type.spelling) :
    ∀ binder ∈ params.map Param.binder, OneLine binder.name ∧ OneLine binder.text := by
  intro binder hbinder
  obtain ⟨param, hparam, rfl⟩ := List.mem_map.1 hbinder
  exact ⟨param.oneLine_ident, Param.oneLine_binder (h param hparam)⟩

variable {s : Source} (hs : s.Lined)
include hs

/-- A message is built on one line. -/
theorem Lined.oneWayLiteral (message : NodeId) (params : List Param) :
    OneLine (s.oneWayLiteral message params).text :=
  Literal.oneLine_text (hs.nodeName message) (oneLine_paramInits params)

/-- A request is built on one line. -/
theorem Lined.requestLiteral (request : NodeId) (params : List Param) :
    OneLine (s.requestLiteral request params).text := by
  refine Literal.oneLine_text (hs.nodeName request) fun init hinit => ?_
  rcases List.mem_append.1 hinit with hinit | hinit
  · exact oneLine_requestInits init hinit
  · exact oneLine_paramInits params init hinit

/-- So is a request that opens a stream, which has a window besides. -/
theorem Lined.openingLiteral (request : NodeId) (params : List Param) :
    OneLine (s.openingLiteral request params).text := by
  refine Literal.oneLine_text (hs.nodeName request) fun init hinit => ?_
  rcases List.mem_append.1 hinit with hinit | hinit
  · rcases List.mem_append.1 hinit with hinit | hinit
    · exact oneLine_requestInits init hinit
    · exact oneLine_paramInits params init hinit
  · rw [List.mem_singleton.1 hinit]
    exact oneLine_ofList (by decide)

/-! ## Answers -/

/-- A line that takes a message apart begins with the union of all messages. -/
theorem Lined.muted_baseVariant (id : NodeId) : Muted (s.base ++ "::" ++ s.nodeName id) :=
  (hs.base.append (oneLine_ofList (by decide))).append (hs.nodeName id)

/-- What a caller does with a fault records nothing, if the line it starts with does not. -/
theorem Lined.faultArm (fault : NodeId) {first last : String} (hfirst : Muted first)
    (hlast : OneLine last) : (s.faultArm fault first last).Silent := by
  have hlead : Muted (s.base ++ "::" ++ s.nodeName fault ++ "(fault) =>") :=
    (hs.muted_baseVariant fault).append (oneLine_ofList (by decide))
  unfold Source.faultArm
  dsimp only
  split
  · refine silent_block hlead ?_
    simp only [allSilent_cons, allSilent_nil, and_true]
    exact ⟨silent_line (muted_ofList (by decide)),
      silent_line ((hfirst.append (oneLine_ofList (by decide))).append hlast)⟩
  · exact silent_line (((((hlead.append (oneLine_ofList (by decide))).append
      hfirst.oneLine).append (oneLine_ofList (by decide))).append hlast).append
        (oneLine_ofList (by decide)))

/-- What a caller does with a response records nothing. -/
theorem Lined.responseArm (operation : Nat) (response : NodeId) {first last : String}
    (hfirst : OneLine first) (hlast : OneLine last) :
    (s.responseArm operation response first last).Silent := by
  have hlead := hs.muted_baseVariant response
  unfold Source.responseArm
  dsimp only
  split
  · next result hresult =>
      have hcall : Muted (s.base ++ "::" ++ s.nodeName response ++ "(response) => " ++ first ++
          "response.") :=
        (hlead.append (oneLine_ofList (by decide))).extend hfirst (by decide)
      exact silent_line (((hcall.append (oneLine_resultField hresult)).append hlast).append
        (oneLine_ofList (by decide)))
  · exact silent_line ((((hlead.append (oneLine_ofList (by decide))).extend hfirst
      (by decide)).append hlast).append (oneLine_ofList (by decide)))

/-! ## Stubs -/

/-- Every parameter of a stub stands on one line, and so does its name alone. -/
theorem Lined.stubBinders {stub : Stub} (h : stub.Lined) :
    ∀ binder ∈ s.stubBinders stub, OneLine binder.name ∧ OneLine binder.text := by
  unfold Source.stubBinders
  split
  · intro binder hbinder
    rw [List.mem_singleton.1 hbinder]
    have htype : OneLine ("&" ++ s.inRuntime "Prebuilt<" ++ s.nodeName stub.message ++ ">") :=
      (((oneLine_ofList (by decide)).append (hs.inRuntime (by decide))).append
        (hs.nodeName _)).append (oneLine_ofList (by decide))
    exact ⟨oneLine_ofList (by decide), Binder.oneLine_text (oneLine_ofList (by decide)) htype⟩
  · exact oneLine_paramBinders h.params

/-- The arguments of a stub are passed on in one line. -/
theorem Lined.stubArguments {stub : Stub} (h : stub.Lined) :
    OneLine (forwarded (s.stubBinders stub)) :=
  oneLine_forwarded fun binder hbinder => (hs.stubBinders h binder hbinder).1

/-- The header of a stub cannot be taken for a record, whatever stands behind it. -/
theorem Lined.stubHeader {stub : Stub} (h : stub.Lined) {name : String} (hname : OneLine name) :
    Muted (s.stubHeader stub name) := by
  have hparams : OneLine (methodParams (s.stubBinders stub)) :=
    oneLine_methodParams fun binder hbinder => (hs.stubBinders h binder hbinder).2
  have hasync : OneLine (if stub.returns.isAwaitable then "async " else "") := by
    split
    · exact oneLine_ofList (by decide)
    · exact madeOf_empty
  exact ((((muted_ofList (by decide)).extend hasync (by decide)).extend hname (by decide)).extend
    hparams (by decide)).append h.returns

omit hs in
/-- Sending a message that was built ahead of time records nothing. -/
theorem allSilent_prebuiltSend : AllSilent prebuiltSend := by
  simp only [prebuiltSend, allSilent_cons, allSilent_nil, and_true]
  exact ⟨silent_block (muted_ofList (by decide)) (allSilent_singleton.2 (silent_line
      ((muted_ofList (by decide)).extend (oneLine_braced (oneLine_ofList (by decide)))
        (by decide)))),
    silent_line (muted_ofList (by decide))⟩

/-- Sending a request and waiting for its answer records nothing. -/
theorem Lined.requestSend (stub : Stub) (messages : RequestMessages) :
    AllSilent (s.requestSend stub messages) := by
  simp only [Source.requestSend, allSilent_cons, allSilent_nil, and_true]
  refine ⟨silent_line (muted_ofList (by decide)),
    silent_line ((muted_ofList (by decide)).extend (hs.requestLiteral _ _) (by decide)),
    silent_block (muted_ofList (by decide)) ?_⟩
  simp only [allSilent_cons, allSilent_nil, and_true]
  exact ⟨hs.responseArm _ _ (oneLine_ofList (by decide)) (oneLine_ofList (by decide)),
    hs.faultArm _ (muted_ofList (by decide)) (oneLine_ofList (by decide)),
    silent_line ((muted_ofList (by decide)).extend (oneLine_braced (oneLine_ofList (by decide)))
      (by decide))⟩

/-- The body of the asynchronous stub, of whichever kind of call. -/
theorem Lined.sendBody (stub : Stub) : AllSilent (s.sendBody stub) := by
  unfold Source.sendBody
  split
  · exact allSilent_prebuiltSend
  · split
    · exact allSilent_singleton.2 (silent_line
        ((muted_ofList (by decide)).extend (hs.oneWayLiteral _ _) (by decide)))
    · split
      · exact hs.requestSend stub _
      · exact allSilent_nil

/-- The body of a stub, which sends or forwards by its style. -/
theorem Lined.stubBody {stub : Stub} (h : stub.Lined) : AllSilent (s.stubBody stub) := by
  have harguments := hs.stubArguments h
  have htarget : ∀ target ∈ stub.forwardsTo?, OneLine target := by
    intro target htarget
    unfold Stub.forwardsTo? at htarget
    split at htarget
    · exact Option.some.inj htarget ▸ CallStyle.oneLine_methodName _ h.baseName
    · cases htarget
    · exact Option.some.inj htarget ▸ CallStyle.oneLine_methodName _ h.baseName
    · exact Option.some.inj htarget ▸ CallStyle.oneLine_methodName _ h.baseName
  unfold Source.stubBody
  dsimp only
  split
  · next target _ hforwards =>
      exact allSilent_singleton.2 (silent_line (((hs.muted_inRuntime (by decide)).extend
        (htarget target hforwards) (by decide)).extend harguments (by decide)))
  · next target _ hforwards =>
      exact allSilent_singleton.2 (silent_line (((muted_ofList (by decide)).extend
        (htarget target hforwards) (by decide)).extend harguments (by decide)))
  · next target _ hforwards =>
      exact allSilent_singleton.2 (silent_line (((muted_ofList (by decide)).extend
        (htarget target hforwards) (by decide)).extend harguments (by decide)))
  · exact hs.sendBody stub

/-- A stub with its documentation and its header. -/
theorem Lined.stubMethod {stub : Stub} (h : stub.Lined) : AllSilent (s.stubMethod stub) :=
  allSilent_append.2 ⟨allSilent_docOf _,
    allSilent_singleton.2 (silent_block (hs.stubHeader h h.name) (hs.stubBody h))⟩

/-! ## Streams -/

omit hs in
/-- The type that wires a stream is called after the operation, in camel case. -/
theorem oneLine_wiringName (s : Source) (opener : StreamOpener) : OneLine (s.wiringName opener) :=
  (oneLine_camel _).append (oneLine_ofList (by decide))

/-- A method that builds a control message of a stream. -/
theorem Lined.controlMethod (message : SystemMessage) {name : String} (hname : OneLine name) :
    ∀ piece ∈ s.controlMethod name message.node, AllSilent piece := by
  intro piece hpiece
  unfold Source.controlMethod at hpiece
  split at hpiece
  · cases hpiece
  · next control hcontrol =>
      have hlined := hs.nodes control (List.mem_of_getElem? hcontrol)
      have hlead : Muted control.name := by
        have hmuted := hs.controls message
        rwa [Source.nodeName, Catalog.name, hcontrol] at hmuted
      obtain ⟨factory, hfactory, rfl⟩ := List.mem_map.1 hpiece
      have hmethod : OneLine factory.name :=
        hlined.methods factory (List.mem_of_mem_head? (Option.mem_toList.1 hfactory))
      have hbinders : OneLine (commaList ((control.fields.map s.fieldBinder).map Binder.text)) := by
        refine oneLine_commaList fun text htext => ?_
        rw [List.map_map] at htext
        obtain ⟨field, hfield, rfl⟩ := List.mem_map.1 htext
        exact hs.fieldBinder (hlined.fields field hfield)
      have harguments : OneLine (forwarded (control.fields.map s.fieldBinder)) := by
        refine oneLine_forwarded fun binder hbinder => ?_
        obtain ⟨field, -, rfl⟩ := List.mem_map.1 hbinder
        exact oneLine_fieldName _
      exact allSilent_singleton.2 (silent_block
        ((((muted_ofList (by decide)).extend hname (by decide)).extend hbinders (by decide)).append
          hs.base.oneLine)
        (allSilent_singleton.2 (silent_line (((hlead.append (oneLine_ofList (by decide))).extend
          hmethod (by decide)).extend harguments (by decide)))))

/-- How a page of items to send is built, if there are pages of them. -/
theorem Lined.inputPage (page : Option NodeId) :
    Muted (match page with
      | some page => "Some(" ++ s.nodeName page ++ "::page(call_id, items).into())"
      | none => "None") := by
  cases page with
  | none => exact muted_ofList (by decide)
  | some page => exact (muted_ofList (by decide)).extend (hs.nodeName page) (by decide)

/-- How a received page is taken apart, if there are pages to receive. -/
theorem Lined.outputPage (page : Option NodeId) :
    (match page with
      | some page => matchBlock "message"
          [s.base ++ "::" ++ s.nodeName page ++ "(page) => Ok(page.items),", "other => Err(other),"]
      | none => Code.line "Err(message)").Silent := by
  cases page with
  | none => exact silent_line (muted_ofList (by decide))
  | some page =>
      refine silent_matchBlock (oneLine_ofList (by decide)) fun arm harm => ?_
      simp only [List.mem_cons, List.not_mem_nil, or_false] at harm
      rcases harm with rfl | rfl
      · exact (hs.muted_baseVariant page).append (oneLine_ofList (by decide))
      · exact muted_ofList (by decide)

/-- The methods that wire a stream record nothing. -/
theorem Lined.wiringMethods {opener : StreamOpener} (h : opener.Lined) :
    ∀ piece ∈ s.wiringMethods opener, AllSilent piece := by
  have hbase := hs.base.oneLine
  have hpage := hs.inputPage opener.inputPage
  have hitems := hs.outputPage opener.outputPage
  have hsettle : AllSilent [s.responseArm opener.operation opener.response "Ok(Ok(" "))",
      s.faultArm opener.fault "Ok(Err(" "))", .line "other => Err(other),"] := by
    simp only [allSilent_cons, allSilent_nil, and_true]
    exact ⟨hs.responseArm _ _ (oneLine_ofList (by decide)) (oneLine_ofList (by decide)),
      hs.faultArm _ (muted_ofList (by decide)) (oneLine_ofList (by decide)),
      silent_line (muted_ofList (by decide))⟩
  intro piece hpiece
  unfold Source.wiringMethods at hpiece
  rw [h.control] at hpiece
  simp only [List.mem_append, List.mem_cons, List.not_mem_nil, or_false] at hpiece
  rcases hpiece with ((((rfl | rfl | rfl) | hpiece) | hpiece) | hpiece) | hpiece
  · exact allSilent_singleton.2 (silent_block (((muted_ofList (by decide)).append
      (oneLine_ofList (by decide))).extend hbase (by decide))
      (allSilent_singleton.2 (silent_line hpage)))
  · exact allSilent_singleton.2 (silent_block ((((muted_ofList (by decide)).extend hbase
      (by decide)).append (oneLine_ofList (by decide))).extend hbase (by decide))
      (allSilent_singleton.2 hitems))
  · exact allSilent_singleton.2 (silent_block ((((muted_ofList (by decide)).extend hbase
      (by decide)).append (oneLine_ofList (by decide))).extend hbase (by decide))
      (allSilent_singleton.2 (silent_block (muted_ofList (by decide)) hsettle)))
  · exact hs.controlMethod .pageAck (oneLine_ofList (by decide)) piece hpiece
  · exact hs.controlMethod .streamCancel (oneLine_ofList (by decide)) piece hpiece
  · exact hs.controlMethod .streamClose (oneLine_ofList (by decide)) piece hpiece
  · exact hs.controlMethod .streamCloseAck (oneLine_ofList (by decide)) piece hpiece

/-- The type that wires a stream, with its methods. -/
theorem Lined.wiring {opener : StreamOpener} (h : opener.Lined) : AllSilent (s.wiring opener) := by
  have hname := oneLine_wiringName s opener
  have hinput : OneLineTypes opener.inputItem.toList := h.types.subset fun type htype => by
    simp [StreamOpener.types, htype]
  have houtput : OneLineTypes opener.outputItem.toList := h.types.subset fun type htype => by
    simp [StreamOpener.types, htype]
  have hresult : OneLineTypes opener.result.toList := h.types.subset fun type htype => by
    simp [StreamOpener.types, htype]
  simp only [Source.wiring, allSilent_cons, allSilent_nil, and_true]
  refine ⟨silent_doc _, silent_line ((muted_ofList (by decide)).extend hname (by decide)),
    silent_blank, silent_block
      (((muted_ofList (by decide)).append (hs.inRuntime (by decide))).append hname)
      (allSilent_append.2 ⟨?_, allSilent_spaced (hs.wiringMethods h)⟩)⟩
  simp only [allSilent_cons, allSilent_nil, and_true]
  exact ⟨silent_line ((muted_ofList (by decide)).extend hs.base.oneLine (by decide)),
    silent_line ((muted_ofList (by decide)).extend (oneLine_spellingOr hinput) (by decide)),
    silent_line ((muted_ofList (by decide)).extend (oneLine_spellingOr houtput) (by decide)),
    silent_line ((muted_ofList (by decide)).extend (oneLine_spellingOr hresult) (by decide))⟩

/-- The method that opens a stream records nothing. -/
theorem Lined.openerMethod {opener : StreamOpener} (h : opener.Lined) :
    AllSilent (s.openerMethod opener) := by
  have hparams : ∀ param ∈ opener.params, OneLine param.type.spelling := fun param hparam =>
    h.types _ (by simp [StreamOpener.types, List.mem_map_of_mem hparam])
  have hbinders : OneLine (methodParams
      (opener.params.map Param.binder ++ [⟨"window_size", "u32"⟩])) := by
    refine oneLine_methodParams fun binder hbinder => ?_
    rcases List.mem_append.1 hbinder with hbinder | hbinder
    · exact (oneLine_paramBinders hparams binder hbinder).2
    · rw [List.mem_singleton.1 hbinder]
      exact Binder.oneLine_text (oneLine_ofList (by decide)) (oneLine_ofList (by decide))
  have hheader : Muted ("pub async fn " ++ opener.name ++ "(" ++
      methodParams (opener.params.map Param.binder ++ [⟨"window_size", "u32"⟩]) ++
      ") -> Result<" ++ s.inRuntime "StreamCall<'_, C, " ++ s.wiringName opener ++
      ">, CallError>") :=
    ((((muted_ofList (by decide)).extend h.name (by decide)).extend hbinders (by decide)).append
      (hs.inRuntime (by decide))).extend (oneLine_wiringName s opener) (by decide)
  refine allSilent_append.2 ⟨allSilent_docOf _, allSilent_singleton.2 (silent_block hheader ?_)⟩
  simp only [allSilent_cons, allSilent_nil, and_true]
  exact ⟨silent_line (muted_ofList (by decide)),
    silent_line ((muted_ofList (by decide)).extend (hs.openingLiteral _ _) (by decide)),
    silent_line ((hs.muted_inRuntime (by decide)).append (oneLine_ofList (by decide)))⟩

/-! ## Surfaces -/

/-- The bound on the channel of a surface. -/
theorem Lined.channelBound : AllSilent s.channelBound := by
  have hindent : Bare Code.indentUnit := bare_ofList (by decide)
  simp only [Source.channelBound, allSilent_cons, allSilent_nil, and_true]
  exact ⟨silent_line (muted_ofList (by decide)),
    silent_line (((hindent.muted (by decide)).append (hs.inRuntime (by decide))).extend
      hs.base.oneLine (by decide))⟩

/-- A facade, with the methods that forward to its surface. -/
theorem Lined.facade {surface : Surface} (h : surface.Lined) {facade : Facade}
    (hfacade : facade.Lined) : AllSilent (s.facade surface facade) := by
  simp only [Source.facade, allSilent_append, allSilent_cons, allSilent_nil, and_true]
  refine ⟨⟨⟨silent_doc _,
    silent_line (((muted_ofList (by decide)).extend hfacade.name.oneLine (by decide)).extend h.name
      (by decide)),
    silent_blank,
    silent_line ((muted_ofList (by decide)).extend hfacade.name.oneLine (by decide))⟩,
    hs.channelBound⟩, silent_braces (allSilent_separated fun piece hpiece => ?_)⟩
  obtain ⟨entry, hentry, hpiece⟩ := List.mem_filterMap.1 hpiece
  obtain ⟨target, htarget, rfl⟩ := Option.map_eq_some_iff.1 hpiece
  obtain ⟨hname, hforwards⟩ := hfacade.methods entry hentry
  have hlined := h.methods target (List.mem_of_find?_eq_some htarget)
  have hawait : OneLine (if target.returns.isAwaitable then ".await" else "") := by
    split
    · exact oneLine_ofList (by decide)
    · exact madeOf_empty
  exact allSilent_singleton.2 (silent_block (hs.stubHeader hlined hname)
    (allSilent_singleton.2 (silent_line ((((muted_ofList (by decide)).extend hforwards
      (by decide)).extend (hs.stubArguments hlined) (by decide)).append hawait))))

/-- The methods that every surface has. -/
theorem Lined.surfaceMethods : ∀ piece ∈ s.surfaceMethods, AllSilent piece := by
  have hchooser : OneLine ("channel, serializer: " ++ s.compiled.binding.chooser.name ++
      "::DEFAULT") :=
    DataType.oneLine_between hs.chooser (by decide) (by decide)
  intro piece hpiece
  simp only [Source.surfaceMethods, List.mem_cons, List.not_mem_nil, or_false] at hpiece
  rcases hpiece with rfl | rfl | rfl | rfl
  · simp only [allSilent_cons, allSilent_nil, and_true]
    exact ⟨silent_doc _, silent_block (muted_ofList (by decide)) (allSilent_singleton.2
      (silent_line ((muted_ofList (by decide)).append (oneLine_braced hchooser))))⟩
  · simp only [allSilent_cons, allSilent_nil, and_true]
    refine ⟨silent_doc _, silent_block
      ((muted_ofList (by decide)).append (hs.inRuntime (by decide))) ?_⟩
    simp only [allSilent_cons, allSilent_nil, and_true]
    exact ⟨silent_line ((muted_ofList (by decide)).extend hs.chooser (by decide)),
      silent_line ((muted_ofList (by decide)).extend (oneLine_braced (oneLine_ofList (by decide)))
        (by decide))⟩
  · exact allSilent_singleton.2 (silent_block (muted_ofList (by decide))
      (allSilent_singleton.2 (silent_line (muted_ofList (by decide)))))
  · exact allSilent_singleton.2 (silent_block (muted_ofList (by decide))
      (allSilent_singleton.2 (silent_line (muted_ofList (by decide)))))

omit hs in
/-- The method of a surface that gives out a facade. -/
theorem allSilent_accessorMethod {facade : Facade} (h : facade.Lined) {piece : List Code}
    (hpiece : accessorMethod facade = some piece) : AllSilent piece := by
  obtain ⟨accessor, haccessor, rfl⟩ := Option.map_eq_some_iff.1 hpiece
  have hname : OneLine accessor := by
    cases hstyle : facade.style <;> rw [hstyle] at haccessor
    · cases haccessor
    all_goals exact Option.some.inj haccessor ▸ oneLine_ofList (by decide)
  exact allSilent_singleton.2 (silent_block
    (((muted_ofList (by decide)).extend hname (by decide)).extend h.name.oneLine (by decide))
    (allSilent_singleton.2 (silent_line (h.name.muted (by decide)))))

/-- A surface is silent. -/
theorem Lined.surface {surface : Surface} (h : surface.Lined) : AllSilent (s.surface surface) := by
  have hfields : AllSilent [.line "channel: C,", .line "serializer: SerializerKind,"] := by
    simp only [allSilent_cons, allSilent_nil, and_true]
    exact ⟨silent_line (muted_ofList (by decide)), silent_line (muted_ofList (by decide))⟩
  simp only [Source.surface, allSilent_append, allSilent_cons, allSilent_nil, and_true]
  refine ⟨⟨⟨⟨allSilent_flatMap fun opener hopener => ?_, silent_doc _,
    silent_block ((muted_ofList (by decide)).extend h.name (by decide)) hfields, silent_blank,
    silent_line ((muted_ofList (by decide)).extend h.name (by decide))⟩, hs.channelBound⟩,
    silent_braces (allSilent_separated fun piece hpiece => ?_)⟩,
    allSilent_spaced fun piece hpiece => ?_⟩
  · exact allSilent_append.2
      ⟨hs.wiring (h.streams opener hopener), allSilent_singleton.2 silent_blank⟩
  · simp only [List.mem_append, List.mem_filterMap, List.mem_map] at hpiece
    rcases hpiece with ((hpiece | ⟨facade, hfacade, hpiece⟩) | ⟨stub, hstub, rfl⟩) |
      ⟨opener, hopener, rfl⟩
    · exact hs.surfaceMethods piece hpiece
    · exact allSilent_accessorMethod (h.facades facade hfacade) hpiece
    · exact hs.stubMethod (h.methods stub hstub)
    · exact hs.openerMethod (h.streams opener hopener)
  · obtain ⟨facade, hfacade, rfl⟩ := List.mem_map.1 hpiece
    exact hs.facade h (h.facades facade hfacade)

/-- The function that builds a message ahead of time records nothing. -/
theorem Lined.prebuildFunction {helper : PrebuildHelper} (h : helper.Lined) :
    AllSilent (s.prebuildFunction helper) := by
  have hparams : OneLine (commaList (helper.params.map fun param => param.binder.text)) := by
    refine oneLine_commaList fun text htext => ?_
    obtain ⟨param, hparam, rfl⟩ := List.mem_map.1 htext
    exact Param.oneLine_binder (h.types _ (List.mem_map_of_mem hparam))
  have hheader : Muted ("pub fn " ++ helper.name ++ "(" ++
      commaList (helper.params.map fun param => param.binder.text) ++ ") -> Result<" ++
      s.inRuntime "Prebuilt<" ++ s.nodeName helper.message ++ ">, " ++
      s.inRuntime "EncodeError>") :=
    (((((muted_ofList (by decide)).extend h.name (by decide)).extend hparams (by decide)).append
      (hs.inRuntime (by decide))).extend (hs.nodeName _) (by decide)).append
        (hs.inRuntime (by decide))
  simp only [Source.prebuildFunction, allSilent_cons, allSilent_nil, and_true]
  exact ⟨silent_doc _, silent_block hheader (allSilent_singleton.2 (silent_line
    (((hs.muted_inRuntime (by decide)).extend helper.serializer.oneLine_typeName
      (by decide)).extend (hs.oneWayLiteral _ _) (by decide))))⟩

/-- The functions that build messages ahead of time are silent. -/
theorem Lined.prebuildFunctions : AllSilent s.prebuildFunctions := by
  refine allSilent_separated fun piece hpiece => ?_
  obtain ⟨helper, hhelper, rfl⟩ := List.mem_map.1 hpiece
  rcases List.mem_append.1 hhelper with hhelper | hhelper
  · exact hs.prebuildFunction ((hs.surfaces .client).prebuild helper hhelper)
  · exact hs.prebuildFunction ((hs.surfaces .server).prebuild helper hhelper)

end Source

end ServiceContract
