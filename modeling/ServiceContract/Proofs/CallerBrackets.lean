import ServiceContract.Proofs.MessageBrackets
import ServiceContract.Source.Callers

/-!
# Brackets of call surfaces

For a tidy surface, the stubs, the wiring of streams, the facades and the functions that build
messages ahead of time are balanced.  The arms that settle a call put its result between two texts;
they are balanced if those texts match each other (`Tidy.responseArm`, `Tidy.faultArm`).
-/

namespace ServiceContract

open Code

/-- The labels of the styles are fixed. -/
theorem CallStyle.clean_label (style : CallStyle) : Clean style.label := by
  cases style <;> exact clean_ofList rfl

/-- A stub forwards to the same operation in another style. -/
theorem Stub.Tidy.clean_forwardsTo {stub : Stub} (h : stub.Tidy) {target : String}
    (htarget : stub.forwardsTo? = some target) : Clean target := by
  unfold forwardsTo? at htarget
  split at htarget
  · rw [← Option.some.inj htarget]
    exact CallStyle.clean_methodName _ h.baseName
  · cases htarget
  · rw [← Option.some.inj htarget]
    exact CallStyle.clean_methodName _ h.baseName
  · rw [← Option.some.inj htarget]
    exact CallStyle.clean_methodName _ h.baseName

namespace Source

/-- The check of the serializer and the call that sends are fixed code. -/
theorem allBalanced_prebuiltSend : AllBalanced prebuiltSend := by
  have hmismatch : Balanced
      (braced "surface: self.serializer, prebuilt: message.serializer()") :=
    balanced_braced (balanced_ofList fun _ => rfl)
  simp only [prebuiltSend, allBalanced_cons, allBalanced_nil, and_true]
  exact ⟨balanced_block (balanced_ofList fun _ => rfl)
    (allBalanced_singleton.2 (balanced_line (hmismatch.between fun _ => rfl))),
    balanced_line (balanced_ofList fun _ => rfl)⟩

/-- The wiring of a stream has a converted name. -/
theorem clean_wiringName (s : Source) (opener : StreamOpener) : Clean (s.wiringName opener) :=
  Clean.append (Text.clean_camel _) (clean_ofList rfl)

/-- The method of a surface that gives a facade. -/
theorem allBalanced_accessorMethod {facade : Facade} (h : Clean facade.name) {code : List Code}
    (hcode : accessorMethod facade = some code) : AllBalanced code := by
  obtain ⟨accessor, haccessor, rfl⟩ := Option.map_eq_some_iff.1 hcode
  have hclean : Clean accessor := by
    unfold CallStyle.accessor? at haccessor
    split at haccessor
    · cases haccessor
    all_goals
      rw [← Option.some.inj haccessor]
      exact clean_ofList rfl
  refine allBalanced_singleton.2 (balanced_block (fun stack => ?_)
    (allBalanced_singleton.2 (balanced_line fun stack => ?_)))
  · simp only [scanText_append, scanText_clean hclean, scanText_clean h]
    repeat rw [scanText_ofList]
    rfl
  · simp only [scanText_append, scanText_clean h]
    repeat rw [scanText_ofList]
    rfl

variable {s : Source} (hs : s.Tidy)

include hs

/-! ## Sending -/

/-- The message of a one-way call, built from its arguments. -/
theorem Tidy.oneWayLiteral (message : NodeId) (params : List Param) :
    Balanced (s.oneWayLiteral message params).text := by
  refine Literal.balanced_text (hs.nodeName message) fun init hinit => ?_
  obtain ⟨param, -, rfl⟩ := List.mem_map.1 hinit
  exact param.balanced_init

/-- The request that opens a stream, with its window. -/
theorem Tidy.openingLiteral (request : NodeId) (params : List Param) :
    Balanced (s.openingLiteral request params).text := by
  refine Literal.balanced_text (hs.nodeName request) fun init hinit => ?_
  rcases List.mem_append.1 hinit with hinit | hinit
  · rcases List.mem_append.1 hinit with hinit | hinit
    · exact balanced_requestInits init hinit
    · obtain ⟨param, -, rfl⟩ := List.mem_map.1 hinit
      exact param.balanced_init
  · obtain rfl := List.mem_singleton.1 hinit
    exact (clean_ofList rfl).balanced

/-- The request of a call without streams. -/
theorem Tidy.requestLiteral (request : NodeId) (params : List Param) :
    Balanced (s.requestLiteral request params).text := by
  refine Literal.balanced_text (hs.nodeName request) fun init hinit => ?_
  rcases List.mem_append.1 hinit with hinit | hinit
  · exact balanced_requestInits init hinit
  · obtain ⟨param, -, rfl⟩ := List.mem_map.1 hinit
    exact param.balanced_init

/-- Settling a fault, between two texts that match each other. -/
theorem Tidy.faultArm (fault : NodeId) {first last : String}
    (hpair : ∀ stack, scanText (scanText stack first) last = stack) :
    (s.faultArm fault first last).Balanced := by
  have hlead : Balanced (s.base ++ "::" ++ s.nodeName fault ++ "(fault) =>") := by
    intro stack
    simp only [scanText_append, scanText_clean hs.base, scanText_clean (hs.nodeName fault)]
    repeat rw [scanText_ofList]
    rfl
  have hremote : Balanced "CallError::remote(fault.code, fault.text, custom)" :=
    balanced_ofList fun _ => rfl
  have hnone : Balanced "CallError::remote(fault.code, fault.text, None)" :=
    balanced_ofList fun _ => rfl
  have hcomma : Clean "," := clean_ofList rfl
  have hblank : Clean " " := clean_ofList rfl
  unfold Source.faultArm
  dsimp only
  split
  · refine balanced_block hlead ?_
    simp only [allBalanced_cons, allBalanced_nil, and_true]
    refine ⟨balanced_line (balanced_ofList fun _ => rfl), balanced_line fun stack => ?_⟩
    rw [scanText_append, scanText_append, hremote, hpair]
  · refine balanced_line fun stack => ?_
    rw [scanText_append, scanText_append, scanText_append, scanText_append, scanText_append,
      hlead, scanText_clean hblank, hnone, hpair, scanText_clean hcomma]

/-- Settling a response, between two texts that match each other. -/
theorem Tidy.responseArm (operation : Nat) (response : NodeId) {first last : String}
    (hpair : ∀ stack, scanText (scanText stack first) last = stack) :
    (s.responseArm operation response first last).Balanced := by
  have hlead : Clean (s.base ++ "::" ++ s.nodeName response) :=
    Clean.append (Clean.append hs.base (clean_ofList rfl)) (hs.nodeName response)
  have hcomma : Clean "," := clean_ofList rfl
  unfold Source.responseArm
  dsimp only
  split
  · next result hresult =>
      have hresponse : Balanced "(response) => " := balanced_ofList fun _ => rfl
      have hmember : Clean "response." := clean_ofList rfl
      refine balanced_line fun stack => ?_
      rw [scanText_append, scanText_append, scanText_append, scanText_append, scanText_append,
        scanText_append, scanText_clean hlead, hresponse, scanText_clean hmember,
        scanText_clean (clean_resultField hresult), hpair, scanText_clean hcomma]
  · have hignored : Balanced "(_) => " := balanced_ofList fun _ => rfl
    have hunit : Balanced "()" := balanced_ofList fun _ => rfl
    refine balanced_line fun stack => ?_
    rw [scanText_append, scanText_append, scanText_append, scanText_append, scanText_append,
      scanText_clean hlead, hignored, hunit, hpair, scanText_clean hcomma]

/-! ## Stubs -/

/-- The parameters of a stub, with clean names to forward. -/
theorem Tidy.stubBinders {stub : Stub} (h : stub.Tidy) :
    ∀ binder ∈ s.stubBinders stub, Balanced binder.text ∧ Clean binder.name := by
  intro binder hbinder
  unfold Source.stubBinders at hbinder
  split at hbinder
  · obtain rfl := List.mem_singleton.1 hbinder
    refine ⟨Binder.balanced_text (clean_ofList rfl) fun stack => ?_, clean_ofList rfl⟩
    simp only [scanText_append, hs.scan_inRuntime, scanText_clean (hs.nodeName stub.message)]
    repeat rw [scanText_ofList]
    rfl
  · obtain ⟨param, hparam, rfl⟩ := List.mem_map.1 hbinder
    exact ⟨Param.balanced_binder (h.params param hparam), param.clean_ident⟩

/-- What a stub forwards is a list of those names. -/
theorem Tidy.forwardedStub {stub : Stub} (h : stub.Tidy) : Clean (forwarded (s.stubBinders stub)) :=
  clean_forwarded fun binder hbinder => (hs.stubBinders h binder hbinder).2

/-- The header of a stub, whatever clean name it goes by. -/
theorem Tidy.stubHeader {stub : Stub} (h : stub.Tidy) {name : String} (hname : Clean name) :
    Balanced (s.stubHeader stub name) := by
  have hparams : Balanced (methodParams (s.stubBinders stub)) :=
    balanced_methodParams fun binder hbinder => (hs.stubBinders h binder hbinder).1
  have hasync : Clean (if stub.returns.isAwaitable then "async " else "") := by
    split
    · exact clean_ofList rfl
    · exact clean_empty
  intro stack
  simp only [Source.stubHeader, scanText_append, scanText_clean hasync, scanText_clean hname,
    scanText_balanced hparams, scanText_balanced h.returns]
  repeat rw [scanText_ofList]
  rfl

/-- The code that sends a request and waits for what comes back. -/
theorem Tidy.requestSend (stub : Stub) (messages : RequestMessages) :
    AllBalanced (s.requestSend stub messages) := by
  have hother : Balanced (braced "key: other.key()") :=
    balanced_braced (balanced_ofList fun _ => rfl)
  have hpair : ∀ first : List Char, first.filter isBracket = ['('] → ∀ stack,
      scanText (scanText stack (String.ofList first)) ")" = stack := by
    intro first hfirst stack
    rw [scanText_ofList, scanText_ofList, hfirst]
    rfl
  simp only [Source.requestSend, allBalanced_cons, allBalanced_nil, and_true]
  refine ⟨balanced_line (balanced_ofList fun _ => rfl),
    balanced_line ((hs.requestLiteral _ _).between fun _ => rfl),
    balanced_block (balanced_ofList fun _ => rfl) ?_⟩
  simp only [allBalanced_cons, allBalanced_nil, and_true]
  exact ⟨hs.responseArm _ _ (hpair _ rfl), hs.faultArm _ (hpair _ rfl),
    balanced_line (hother.between fun _ => rfl)⟩

/-- The code that sends the message of a stub. -/
theorem Tidy.sendBody (stub : Stub) : AllBalanced (s.sendBody stub) := by
  unfold Source.sendBody
  split
  · exact allBalanced_prebuiltSend
  · split
    · exact allBalanced_singleton.2 (balanced_line ((hs.oneWayLiteral _ _).between fun _ => rfl))
    · split
      · exact hs.requestSend stub _
      · exact allBalanced_nil

/-- A stub either forwards or sends. -/
theorem Tidy.stubBody {stub : Stub} (h : stub.Tidy) : AllBalanced (s.stubBody stub) := by
  have hargs := hs.forwardedStub h
  unfold Source.stubBody
  dsimp only
  split
  · next target hstyle htarget =>
      refine allBalanced_singleton.2 (balanced_line fun stack => ?_)
      simp only [scanText_append, hs.scan_inRuntime, scanText_clean hargs,
        scanText_clean (h.clean_forwardsTo htarget)]
      repeat rw [scanText_ofList]
      rfl
  · next target hstyle htarget =>
      refine allBalanced_singleton.2 (balanced_line fun stack => ?_)
      simp only [scanText_append, scanText_clean hargs,
        scanText_clean (h.clean_forwardsTo htarget)]
      repeat rw [scanText_ofList]
      rfl
  · next target hstyle htarget =>
      refine allBalanced_singleton.2 (balanced_line fun stack => ?_)
      simp only [scanText_append, scanText_clean hargs,
        scanText_clean (h.clean_forwardsTo htarget)]
      repeat rw [scanText_ofList]
      rfl
  · exact hs.sendBody stub

/-- A stub is balanced. -/
theorem Tidy.stubMethod {stub : Stub} (h : stub.Tidy) : AllBalanced (s.stubMethod stub) :=
  allBalanced_append.2 ⟨allBalanced_docOf fun doc hdoc => (h.doc doc hdoc).balanced,
    allBalanced_singleton.2 (balanced_block (hs.stubHeader h h.name) (hs.stubBody h))⟩

/-! ## Streams -/

/-- A function of the wiring that builds a control message, with its fields for parameters. -/
theorem Tidy.controlMethod {name : String} (hname : Clean name) (node : NodeId) :
    ∀ piece ∈ s.controlMethod name node, AllBalanced piece := by
  intro piece hpiece
  unfold Source.controlMethod at hpiece
  split at hpiece
  · cases hpiece
  · next control hget =>
      have hcontrol : control.Tidy := hs.nodes control (List.mem_of_getElem? hget)
      obtain ⟨factory, hfactory, rfl⟩ := List.mem_map.1 hpiece
      have hfactory : Clean factory.name :=
        hcontrol.methods factory (List.mem_of_mem_head? (Option.mem_toList.1 hfactory))
      have hbinders : Balanced
          (commaList ((control.fields.map s.fieldBinder).map Binder.text)) := by
        refine balanced_commaList fun text htext => ?_
        rw [List.map_map] at htext
        obtain ⟨field, hfield, rfl⟩ := List.mem_map.1 htext
        exact hs.fieldBinder (hcontrol.fields field hfield)
      have hforwarded : Clean (forwarded (control.fields.map s.fieldBinder)) := by
        refine clean_forwarded fun binder hbinder => ?_
        obtain ⟨field, -, rfl⟩ := List.mem_map.1 hbinder
        exact clean_fieldName field.name
      refine allBalanced_singleton.2 (balanced_block (fun stack => ?_)
        (allBalanced_singleton.2 (balanced_line fun stack => ?_)))
      · simp only [scanText_append, scanText_clean hname, scanText_balanced hbinders,
          scanText_clean hs.base]
        repeat rw [scanText_ofList]
        rfl
      · simp only [scanText_append, scanText_clean hcontrol.name, scanText_clean hfactory,
          scanText_clean hforwarded]
        repeat rw [scanText_ofList]
        rfl

/-- The functions of the wiring, for streams in either direction. -/
theorem Tidy.wiringMethods (opener : StreamOpener) :
    ∀ piece ∈ s.wiringMethods opener, AllBalanced piece := by
  have hpair : ∀ first : List Char, first.filter isBracket = ['(', '('] → ∀ stack,
      scanText (scanText stack (String.ofList first)) "))" = stack := by
    intro first hfirst stack
    rw [scanText_ofList, scanText_ofList, hfirst]
    rfl
  intro piece hpiece
  simp only [Source.wiringMethods, List.mem_append, List.mem_cons, List.not_mem_nil, or_false]
    at hpiece
  rcases hpiece with (((hpiece | hpiece) | hpiece) | hpiece) | hpiece
  · rcases hpiece with rfl | rfl | rfl
    · refine allBalanced_singleton.2 (balanced_block (fun stack => ?_)
        (allBalanced_singleton.2 (balanced_line ?_)))
      · simp only [scanText_append, scanText_clean hs.base]
        repeat rw [scanText_ofList]
        rfl
      · split
        · exact (hs.nodeName _).balanced.between fun _ => rfl
        · exact (clean_ofList rfl).balanced
    · refine allBalanced_singleton.2 (balanced_block (fun stack => ?_)
        (allBalanced_singleton.2 ?_))
      · simp only [scanText_append, scanText_clean hs.base]
        repeat rw [scanText_ofList]
        rfl
      · split
        · next page hpage =>
            refine balanced_matchBlock (clean_ofList rfl).balanced fun arm harm => ?_
            simp only [List.mem_cons, List.not_mem_nil, or_false] at harm
            rcases harm with rfl | rfl
            · intro stack
              simp only [scanText_append, scanText_clean hs.base, scanText_clean (hs.nodeName page)]
              repeat rw [scanText_ofList]
              rfl
            · exact balanced_ofList fun _ => rfl
        · exact balanced_line (balanced_ofList fun _ => rfl)
    · refine allBalanced_singleton.2 (balanced_block (fun stack => ?_)
        (allBalanced_singleton.2 (balanced_block (clean_ofList rfl).balanced ?_)))
      · simp only [scanText_append, scanText_clean hs.base]
        repeat rw [scanText_ofList]
        rfl
      · simp only [allBalanced_cons, allBalanced_nil, and_true]
        exact ⟨hs.responseArm _ _ (hpair _ rfl), hs.faultArm _ (hpair _ rfl),
          balanced_line (balanced_ofList fun _ => rfl)⟩
  · exact hs.controlMethod (clean_ofList rfl) _ piece hpiece
  · exact hs.controlMethod (clean_ofList rfl) _ piece hpiece
  · exact hs.controlMethod (clean_ofList rfl) _ piece hpiece
  · exact hs.controlMethod (clean_ofList rfl) _ piece hpiece

/-- What ties a stream to its messages is balanced. -/
theorem Tidy.wiring {opener : StreamOpener} (h : opener.Tidy s) :
    AllBalanced (s.wiring opener) := by
  have hname := s.clean_wiringName opener
  simp only [Source.wiring, allBalanced_cons, allBalanced_nil, and_true]
  refine ⟨balanced_doc (h.operation.balanced.between fun _ => rfl),
    balanced_line (hname.balanced.between fun _ => rfl), balanced_blank,
    balanced_block (fun stack => ?_) (allBalanced_append.2
      ⟨?_, allBalanced_spaced (hs.wiringMethods opener)⟩)⟩
  · simp only [scanText_append, hs.scan_inRuntime, scanText_clean hname]
    repeat rw [scanText_ofList]
    rfl
  · simp only [allBalanced_cons, allBalanced_nil, and_true]
    exact ⟨balanced_line (hs.base.balanced.between fun _ => rfl),
      balanced_line ((DataType.balanced_spellingOr h.inputItem).between fun _ => rfl),
      balanced_line ((DataType.balanced_spellingOr h.outputItem).between fun _ => rfl),
      balanced_line ((DataType.balanced_spellingOr h.result).between fun _ => rfl)⟩

/-- The method that opens a stream. -/
theorem Tidy.openerMethod {opener : StreamOpener} (h : opener.Tidy s) :
    AllBalanced (s.openerMethod opener) := by
  have hparams : Balanced
      (methodParams (opener.params.map Param.binder ++ [⟨"window_size", "u32"⟩])) := by
    refine balanced_methodParams fun binder hbinder => ?_
    rcases List.mem_append.1 hbinder with hbinder | hbinder
    · obtain ⟨param, hparam, rfl⟩ := List.mem_map.1 hbinder
      exact Param.balanced_binder (h.params param hparam)
    · obtain rfl := List.mem_singleton.1 hbinder
      exact Binder.balanced_text (clean_ofList rfl) (clean_ofList rfl).balanced
  refine allBalanced_append.2 ⟨allBalanced_docOf fun doc hdoc => (h.doc doc hdoc).balanced,
    allBalanced_singleton.2 (balanced_block (fun stack => ?_) ?_)⟩
  · simp only [scanText_append, scanText_clean h.name, scanText_balanced hparams,
      hs.scan_inRuntime, scanText_clean (s.clean_wiringName opener)]
    repeat rw [scanText_ofList]
    rfl
  · simp only [allBalanced_cons, allBalanced_nil, and_true]
    refine ⟨balanced_line (balanced_ofList fun _ => rfl),
      balanced_line ((hs.openingLiteral _ _).between fun _ => rfl), balanced_line fun stack => ?_⟩
    simp only [scanText_append, hs.scan_inRuntime]
    repeat rw [scanText_ofList]
    rfl

/-! ## Surfaces -/

/-- The bound of the channel names the message base. -/
theorem Tidy.channelBound : AllBalanced s.channelBound := by
  simp only [Source.channelBound, allBalanced_cons, allBalanced_nil, and_true]
  refine ⟨balanced_line (clean_ofList rfl).balanced, balanced_line fun stack => ?_⟩
  have hindent : Clean Code.indentUnit := clean_ofList rfl
  simp only [scanText_append, scanText_clean hindent, hs.scan_inRuntime, scanText_clean hs.base]
  repeat rw [scanText_ofList]
  rfl

/-- A method of a facade, which calls the stub it stands for. -/
theorem Tidy.facadeMethod {surface : Surface} (h : surface.Tidy s) {entry : FacadeMethod}
    (hentry : Clean entry.name ∧ Clean entry.target) {code : List Code}
    (hcode : s.facadeMethod surface entry = some code) : AllBalanced code := by
  obtain ⟨target, hfind, rfl⟩ := Option.map_eq_some_iff.1 hcode
  have htarget : target.Tidy := h.methods target (List.mem_of_find?_eq_some hfind)
  have hawait : Clean (if target.returns.isAwaitable then ".await" else "") := by
    split
    · exact clean_ofList rfl
    · exact clean_empty
  refine allBalanced_singleton.2 (balanced_block (hs.stubHeader htarget hentry.1)
    (allBalanced_singleton.2 (balanced_line fun stack => ?_)))
  simp only [scanText_append, scanText_clean hentry.2, scanText_clean (hs.forwardedStub htarget),
    scanText_clean hawait]
  repeat rw [scanText_ofList]
  rfl

/-- A facade with its methods. -/
theorem Tidy.facade {surface : Surface} (h : surface.Tidy s) {facade : Facade}
    (hfacade : facade ∈ surface.facades) : AllBalanced (s.facade surface facade) := by
  have hname := h.facades facade hfacade
  simp only [Source.facade, allBalanced_append, allBalanced_cons, allBalanced_nil, and_true]
  refine ⟨⟨⟨balanced_doc fun stack => ?_, balanced_line fun stack => ?_, balanced_blank,
    balanced_line (hname.balanced.between fun _ => rfl)⟩, hs.channelBound⟩,
    balanced_block clean_empty.balanced (allBalanced_separated fun piece hpiece => ?_)⟩
  · simp only [scanText_append, scanText_clean h.name, scanText_clean facade.style.clean_label]
    repeat rw [scanText_ofList]
    rfl
  · simp only [scanText_append, scanText_clean h.name, scanText_clean hname]
    repeat rw [scanText_ofList]
    rfl
  · obtain ⟨entry, hentry, hpiece⟩ := List.mem_filterMap.1 hpiece
    exact hs.facadeMethod h (h.facadeMethods facade hfacade entry hentry) hpiece

/-- The methods that every surface has. -/
theorem Tidy.surfaceMethods : ∀ piece ∈ s.surfaceMethods, AllBalanced piece := by
  have hchooser := hs.chooser
  have hnew : Balanced
      (braced ("channel, serializer: " ++ s.compiled.binding.chooser.name ++ "::DEFAULT")) :=
    balanced_braced (hchooser.balanced.between fun _ => rfl)
  have hwith : Balanced (braced "channel, serializer") :=
    balanced_braced (clean_ofList rfl).balanced
  intro piece hpiece
  simp only [Source.surfaceMethods, List.mem_cons, List.not_mem_nil, or_false] at hpiece
  rcases hpiece with rfl | rfl | rfl | rfl
  · simp only [allBalanced_cons, allBalanced_nil, and_true]
    exact ⟨balanced_doc (balanced_ofList fun _ => rfl),
      balanced_block (balanced_ofList fun _ => rfl) (allBalanced_singleton.2
        (balanced_line (Balanced.append (clean_ofList rfl).balanced hnew)))⟩
  · simp only [allBalanced_cons, allBalanced_nil, and_true]
    refine ⟨balanced_doc (balanced_ofList fun _ => rfl), balanced_block (fun stack => ?_) ?_⟩
    · simp only [scanText_append, hs.scan_inRuntime]
      repeat rw [scanText_ofList]
      rfl
    · simp only [allBalanced_cons, allBalanced_nil, and_true]
      exact ⟨balanced_line (hchooser.balanced.between fun _ => rfl),
        balanced_line (hwith.between fun _ => rfl)⟩
  · exact allBalanced_singleton.2 (balanced_block (balanced_ofList fun _ => rfl)
      (allBalanced_singleton.2 (balanced_line (clean_ofList rfl).balanced)))
  · exact allBalanced_singleton.2 (balanced_block (balanced_ofList fun _ => rfl)
      (allBalanced_singleton.2 (balanced_line (clean_ofList rfl).balanced)))

/-- The documentation of a surface names the contract. -/
theorem Tidy.surfaceDoc (peer : Peer) : Balanced (s.surfaceDoc peer) := by
  cases peer <;> exact hs.contractName.balanced.between fun _ => rfl

/-- A surface is balanced. -/
theorem Tidy.surface {surface : Surface} (h : surface.Tidy s) :
    AllBalanced (s.surface surface) := by
  unfold Source.surface
  simp only [allBalanced_append, allBalanced_cons, allBalanced_nil, and_true]
  refine ⟨⟨⟨⟨allBalanced_flatMap fun opener hopener => ?_,
      balanced_doc (hs.surfaceDoc _),
      balanced_block (h.name.balanced.between fun _ => rfl) ?_, balanced_blank,
      balanced_line (h.name.balanced.between fun _ => rfl)⟩, hs.channelBound⟩,
    balanced_block clean_empty.balanced (allBalanced_separated fun piece hpiece => ?_)⟩,
    allBalanced_spaced fun piece hpiece => ?_⟩
  · exact allBalanced_append.2
      ⟨hs.wiring (h.streams opener hopener), allBalanced_singleton.2 balanced_blank⟩
  · simp only [allBalanced_cons, allBalanced_nil, and_true]
    exact ⟨balanced_line (clean_ofList rfl).balanced, balanced_line (clean_ofList rfl).balanced⟩
  · simp only [List.mem_append] at hpiece
    rcases hpiece with ((hpiece | hpiece) | hpiece) | hpiece
    · exact hs.surfaceMethods piece hpiece
    · obtain ⟨facade, hfacade, hpiece⟩ := List.mem_filterMap.1 hpiece
      exact allBalanced_accessorMethod (h.facades facade hfacade) hpiece
    · obtain ⟨stub, hstub, rfl⟩ := List.mem_map.1 hpiece
      exact hs.stubMethod (h.methods stub hstub)
    · obtain ⟨opener, hopener, rfl⟩ := List.mem_map.1 hpiece
      exact hs.openerMethod (h.streams opener hopener)
  · obtain ⟨facade, hfacade, rfl⟩ := List.mem_map.1 hpiece
    exact hs.facade h hfacade

/-- The function that builds a message ahead of time. -/
theorem Tidy.prebuildFunction {surface : Surface} (h : surface.Tidy s) {helper : PrebuildHelper}
    (hhelper : helper ∈ surface.prebuild) : AllBalanced (s.prebuildFunction helper) := by
  have hmessage := hs.nodeName helper.message
  have hliteral := hs.oneWayLiteral helper.message helper.params
  have hparams : Balanced (commaList (helper.params.map fun param => param.binder.text)) := by
    refine balanced_commaList fun text htext => ?_
    obtain ⟨param, hparam, rfl⟩ := List.mem_map.1 htext
    exact Param.balanced_binder (h.helperParams helper hhelper param hparam)
  simp only [Source.prebuildFunction, allBalanced_cons, allBalanced_nil, and_true]
  refine ⟨balanced_doc fun stack => ?_, balanced_block (fun stack => ?_)
    (allBalanced_singleton.2 (balanced_line fun stack => ?_))⟩
  · simp only [scanText_append, scanText_clean hmessage,
      scanText_clean helper.serializer.clean_identity]
    repeat rw [scanText_ofList]
    rfl
  · simp only [scanText_append, scanText_clean (h.helperNames helper hhelper),
      scanText_balanced hparams, hs.scan_inRuntime, scanText_clean hmessage]
    repeat rw [scanText_ofList]
    rfl
  · simp only [scanText_append, hs.scan_inRuntime, scanText_balanced hliteral,
      scanText_clean helper.serializer.clean_typeName]
    repeat rw [scanText_ofList]
    rfl

/-- The functions that build messages ahead of time are balanced. -/
theorem Tidy.prebuildFunctions : AllBalanced s.prebuildFunctions := by
  refine allBalanced_separated fun piece hpiece => ?_
  obtain ⟨helper, hhelper, rfl⟩ := List.mem_map.1 hpiece
  rcases List.mem_append.1 hhelper with hhelper | hhelper
  · exact hs.prebuildFunction (hs.surfaces .client) hhelper
  · exact hs.prebuildFunction (hs.surfaces .server) hhelper

end Source

end ServiceContract
