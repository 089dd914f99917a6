import ServiceContract.Proofs.SilentCallers

/-!
# Silent handlers and dispatchers

The choice of incoming messages, the interface of the handlers, the type of a dispatcher and the
methods that every dispatcher has record no call, whether calls are recorded or not.  The bodies of
the arms hold the records; they are silent if calls are not recorded.
-/

namespace ServiceContract

open Text Code

namespace Source

/-- A source that does not record calls has no lines that do. -/
theorem traceLines_of_plain {s : Source} (hplain : s.tracing = false) (operation : Nat)
    (message : NodeId) : s.traceLines operation message = [] :=
  if_neg (Bool.eq_false_iff.1 hplain)

/-- Arguments are read by the names of fields, which are single lines. -/
theorem oneLine_argumentReads (s : Source) {holder : String} (hholder : OneLine holder)
    (operation : Nat) : ∀ text ∈ s.argumentReads holder operation, OneLine text := by
  intro text htext
  obtain ⟨param, -, rfl⟩ := List.mem_map.1 htext
  exact (hholder.append (oneLine_ofList (by decide))).append param.oneLine_fieldName

/-- The type of a dispatcher records nothing. -/
theorem allSilent_dispatcherType {s : Source} {plan : DispatchPlan} (h : plan.Lined s) :
    AllSilent (dispatcherType plan) := by
  simp only [dispatcherType, allSilent_cons, allSilent_nil, and_true]
  exact ⟨silent_doc _, silent_block ((muted_ofList (by decide)).extend h.dispatcher (by decide))
    (allSilent_singleton.2 (silent_line (muted_ofList (by decide))))⟩

/-- A hook only takes notice of a result. -/
theorem allSilent_hookMethod {handler : Handler} {hook : String} {result : DataType}
    (hhook : OneLine hook) (hresult : OneLine result.spelling) :
    AllSilent (hookMethod handler hook result) := by
  have hparams : OneLine (methodParams [⟨"result", "&" ++ result.spelling⟩]) := by
    refine oneLine_methodParams fun binder hbinder => ?_
    rw [List.mem_singleton.1 hbinder]
    exact Binder.oneLine_text (oneLine_ofList (by decide)) ((oneLine_ofList (by decide)).append hresult)
  simp only [hookMethod, allSilent_cons, allSilent_nil, and_true]
  exact ⟨silent_doc _,
    silent_block (((muted_ofList (by decide)).extend hhook (by decide)).extend hparams (by decide))
      (allSilent_singleton.2 (silent_line (muted_ofList (by decide))))⟩

/-- A line that sends a reply is no record. -/
theorem silent_reply {literal : Literal} (h : OneLine literal.text) : (reply literal).Silent :=
  silent_line ((muted_ofList (by decide)).extend h (by decide))

theorem silent_okLine : (Code.line "Ok(())").Silent := silent_line (muted_ofList (by decide))

variable {s : Source} (hs : s.Lined)
include hs

/-! ## Incoming messages -/

/-- The choice of inbound messages records nothing. -/
theorem Lined.inboundType {plan : DispatchPlan} (h : plan.Lined s) :
    AllSilent (s.inboundType plan) := by
  have hself : ∀ arm ∈ plan.arms, Muted ("Self::" ++ arm.variant) := fun arm harm =>
    (muted_ofList (by decide)).append (h.arms arm harm).variant.oneLine
  have hdecoded : ∀ text ∈ plan.arms.map (fun arm => s.base ++ "::" ++ s.nodeName arm.inbound ++
      "(message) => Self::" ++ arm.variant ++ "(message),") ++
        ["other => Self::Unknown " ++ braced "key: other.key()" ++ ","], Muted text := by
    intro text htext
    rcases List.mem_append.1 htext with htext | htext
    · obtain ⟨arm, harm, rfl⟩ := List.mem_map.1 htext
      exact ((hs.muted_baseVariant _).append (oneLine_ofList (by decide))).extend
        (h.arms arm harm).variant.oneLine (by decide)
    · rw [List.mem_singleton.1 htext]
      exact (muted_ofList (by decide)).extend (oneLine_braced (oneLine_ofList (by decide)))
        (by decide)
  have hkeys : ∀ text ∈ plan.arms.map (fun arm => "Self::" ++ arm.variant ++ "(_) => " ++
      s.nodeName arm.inbound ++ "::KEY,") ++ ["Self::Unknown " ++ braced "key" ++ " => *key,"],
      Muted text := by
    intro text htext
    rcases List.mem_append.1 htext with htext | htext
    · obtain ⟨arm, harm, rfl⟩ := List.mem_map.1 htext
      exact ((hself arm harm).append (oneLine_ofList (by decide))).extend (hs.nodeName _) (by decide)
    · rw [List.mem_singleton.1 htext]
      exact (muted_ofList (by decide)).extend (oneLine_braced (oneLine_ofList (by decide)))
        (by decide)
  simp only [Source.inboundType, allSilent_cons, allSilent_nil, and_true]
  refine ⟨silent_doc _, silent_attr (oneLine_ofList (by decide)),
    silent_block ((muted_ofList (by decide)).append h.inbound.oneLine)
      (allSilent_append.2 ⟨allSilent_map fun arm harm => silent_line ?_, ?_⟩),
    silent_blank, silent_block ((muted_ofList (by decide)).append h.inbound.oneLine) ?_⟩
  · exact ((h.arms arm harm).variant.muted (by decide)).extend (hs.nodeName _) (by decide)
  · simp only [allSilent_cons, allSilent_nil, and_true]
    exact ⟨silent_doc _, silent_line ((muted_ofList (by decide)).extend
      (oneLine_braced (oneLine_ofList (by decide))) (by decide))⟩
  · simp only [allSilent_cons, allSilent_nil, and_true]
    exact ⟨silent_block ((muted_ofList (by decide)).extend hs.base.oneLine (by decide))
        (allSilent_singleton.2 (silent_matchBlock (oneLine_ofList (by decide)) hdecoded)),
      silent_blank,
      silent_block (muted_ofList (by decide))
        (allSilent_singleton.2 (silent_matchBlock (oneLine_ofList (by decide)) hkeys))⟩

/-! ## Handlers -/

/-- The context of a call is spelled on one line, with the items of its streams. -/
theorem Lined.contextType {handler : Handler} (h : handler.Lined) :
    OneLine (s.contextType handler) := by
  have hinput : OneLineTypes handler.inputItem.toList := h.types.subset fun type htype => by
    simp [Handler.types, htype]
  have houtput : OneLineTypes handler.outputItem.toList := h.types.subset fun type htype => by
    simp [Handler.types, htype]
  have hand : OneLine "&" := oneLine_ofList (by decide)
  unfold Source.contextType
  split
  · exact ((((hand.append (hs.inRuntime (by decide))).append (oneLine_spellingOr hinput)).append
      (oneLine_ofList (by decide))).append (oneLine_spellingOr houtput)).append
        (oneLine_ofList (by decide))
  · exact hand.append (hs.inRuntime (by decide))

/-- What a handler gives back is spelled on one line. -/
theorem Lined.handlerOutput {handler : Handler} (h : handler.Lined) :
    OneLine (s.handlerOutput handler) := by
  have hresult : OneLineTypes handler.result.toList := h.types.subset fun type htype => by
    simp [Handler.types, htype]
  unfold Source.handlerOutput
  split
  · exact oneLine_ofList (by decide)
  · exact (DataType.oneLine_between (oneLine_spellingOr hresult) (by decide) (by decide)).append
      (hs.inRuntime (by decide))

/-- Every parameter of a handler stands on one line. -/
theorem Lined.handlerBinders {handler : Handler} (h : handler.Lined) :
    ∀ binder ∈ s.handlerBinders handler, OneLine binder.text := by
  have hparams : ∀ param ∈ handler.params, OneLine param.type.spelling := fun param hparam =>
    h.types _ (by simp [Handler.types, List.mem_map_of_mem hparam])
  intro binder hbinder
  rcases List.mem_append.1 hbinder with hbinder | hbinder
  · split at hbinder
    · cases hbinder
    · rw [List.mem_singleton.1 hbinder]
      exact Binder.oneLine_text (oneLine_ofList (by decide)) (hs.contextType h)
  · exact (oneLine_paramBinders hparams binder hbinder).2

/-- A handler is only declared, and a declaration records nothing. -/
theorem Lined.handlerMethod {handler : Handler} (h : handler.Lined) :
    AllSilent (s.handlerMethod handler) :=
  allSilent_append.2 ⟨allSilent_docOf _, allSilent_singleton.2 (silent_line
    ((((muted_ofList (by decide)).extend h.name (by decide)).extend
      (oneLine_methodParams (hs.handlerBinders h)) (by decide)).extend (hs.handlerOutput h)
        (by decide)))⟩

/-- A handler and its hook. -/
theorem Lined.handlerMethods {handler : Handler} (h : handler.Lined) :
    ∀ piece ∈ s.handlerMethods handler, AllSilent piece := by
  have hmethod := hs.handlerMethod h
  intro piece hpiece
  unfold Source.handlerMethods at hpiece
  split at hpiece
  · next hook result hhook hresult =>
      have htype : OneLine result.spelling := h.types _ (by simp [Handler.types, hresult])
      rw [List.mem_cons, List.mem_singleton] at hpiece
      rcases hpiece with rfl | rfl
      · exact hmethod
      · exact allSilent_hookMethod (h.sentHook hook hhook) htype
  · rw [List.mem_singleton.1 hpiece]
    exact hmethod

/-- The trait that declares the handlers records nothing. -/
theorem Lined.handlerTrait {plan : DispatchPlan} (h : plan.Lined s) :
    AllSilent (s.handlerTrait plan) := by
  simp only [Source.handlerTrait, allSilent_cons, allSilent_nil, and_true]
  refine ⟨silent_doc _, silent_line ((muted_ofList (by decide)).append h.handlerTrait),
    silent_line (muted_ofList (by decide)),
    silent_braces (allSilent_separated fun piece hpiece => ?_)⟩
  obtain ⟨handler, hhandler, hpiece⟩ := List.mem_flatMap.1 hpiece
  exact hs.handlerMethods (h.handlers handler hhandler) piece hpiece

/-! ## Replies -/

/-- A response is built on one line. -/
theorem Lined.responseLiteral (arm : RequestArm) : OneLine (s.responseLiteral arm).text := by
  have hfield : OneLine ((s.resultField? arm.operation).getD "result") := by
    cases hresult : s.resultField? arm.operation with
    | none => exact oneLine_ofList (by decide)
    | some field => exact oneLine_resultField hresult
  have hvalue : OneLine (if arm.sentHook.isSome then "result.clone()" else "result") := by
    split <;> exact oneLine_ofList (by decide)
  refine Literal.oneLine_text (hs.nodeName _) fun init hinit => ?_
  rcases List.mem_cons.1 hinit with rfl | hinit
  · exact oneLine_ofList (by decide)
  · split at hinit
    · rw [List.mem_singleton.1 hinit]
      exact FieldInit.oneLine_set hfield hvalue
    · cases hinit

/-- A fault is built on one line, with or without a place for a carrier. -/
theorem Lined.faultLiteral (fault : NodeId) {text code : String} (htext : OneLine text)
    (hcode : OneLine code) : OneLine (s.faultLiteral fault text code).text := by
  refine Literal.oneLine_text (hs.nodeName _) fun init hinit => ?_
  simp only [Source.faultLiteral, List.mem_append, List.mem_cons, List.not_mem_nil, or_false]
    at hinit
  rcases hinit with (rfl | rfl | rfl) | hinit
  · exact oneLine_ofList (by decide)
  · exact FieldInit.oneLine_set (oneLine_ofList (by decide)) htext
  · exact FieldInit.oneLine_set (oneLine_ofList (by decide))
      ((oneLine_ofList (by decide)).append hcode)
  · split at hinit
    · rw [List.mem_singleton.1 hinit]
      exact FieldInit.oneLine_set (oneLine_ofList (by decide)) (oneLine_ofList (by decide))
    · cases hinit

/-- So is a fault that brings a carrier. -/
theorem Lined.carrierFaultLiteral (fault : NodeId) :
    OneLine (s.carrierFaultLiteral fault).text := by
  refine Literal.oneLine_text (hs.nodeName _) fun init hinit => ?_
  simp only [Source.carrierFaultLiteral, List.mem_cons, List.not_mem_nil, or_false] at hinit
  rcases hinit with rfl | rfl | rfl | rfl
  · exact oneLine_ofList (by decide)
  all_goals exact FieldInit.oneLine_set (oneLine_ofList (by decide)) (oneLine_ofList (by decide))

/-- The line that puts the payload of a fault into its carrier. -/
theorem Lined.carrierLine (carrier : NodeId) :
    Muted ("let data = " ++ s.carrierUnion carrier ++ "::" ++ s.catalog.faultVariant carrier ++
      "(" ++ (s.carrierLiteral carrier).text ++ ");") := by
  have hunion : OneLine (s.carrierUnion carrier) := by
    unfold carrierUnion
    cases (s.catalog.get? carrier).bind Node.base with
    | none => exact madeOf_empty
    | some base => exact hs.nodeName base
  have hliteral : OneLine (s.carrierLiteral carrier).text := by
    refine Literal.oneLine_text (hs.nodeName _) fun init hinit => ?_
    rw [List.mem_singleton.1 hinit]
    exact FieldInit.oneLine_set (oneLine_ofList (by decide)) (oneLine_ofList (by decide))
  exact (((muted_ofList (by decide)).extend hunion (by decide)).extend (hs.variant carrier)
    (by decide)).extend hliteral (by decide)

/-- The answer to a handler that succeeded records nothing. -/
theorem Lined.responseBlock {arm : RequestArm} (hhook : ∀ hook ∈ arm.sentHook, OneLine hook) :
    (s.responseBlock arm).Silent := by
  have hreply := silent_reply (hs.responseLiteral arm)
  unfold Source.responseBlock
  split
  · refine silent_block (muted_ofList (by decide)) ?_
    simp only [allSilent_append, allSilent_singleton]
    refine ⟨⟨hreply, allSilent_map fun hook hmem => silent_line ?_⟩, silent_okLine⟩
    exact (muted_ofList (by decide)).extend (hhook hook (Option.mem_toList.1 hmem)) (by decide)
  · refine silent_block (muted_ofList (by decide)) ?_
    simp only [allSilent_cons, allSilent_nil, and_true]
    exact ⟨hreply, silent_okLine⟩

/-- A test of the catch chain records nothing. -/
theorem Lined.catchBranch (fault : NodeId) {branch : CatchBranch} (h : OneLineTypes branch.types) :
    AllSilent (s.catchBranch fault branch) := by
  match branch with
  | .custom _ payload carrier =>
      have hpayload : OneLine payload.spelling := h payload List.mem_cons_self
      have hcaught : AllSilent [.line ("let data = " ++ s.carrierUnion carrier ++ "::" ++
            s.catalog.faultVariant carrier ++ "(" ++ (s.carrierLiteral carrier).text ++ ");"),
          reply (s.carrierFaultLiteral fault), .line "return Ok(());"] := by
        simp only [allSilent_cons, allSilent_nil, and_true]
        exact ⟨silent_line (hs.carrierLine carrier), silent_reply (hs.carrierFaultLiteral fault),
          silent_line (muted_ofList (by decide))⟩
      refine allSilent_singleton.2 (silent_blockClosed
        (((muted_ofList (by decide)).extend hpayload (by decide)).extend (hs.nodeName _) (by decide))
        ?_ (muted_ofList (by decide)))
      simp only [allSilent_cons, allSilent_nil, and_true]
      exact ⟨silent_block (muted_ofList (by decide)) hcaught,
        silent_line (muted_ofList (by decide))⟩
  | .declared =>
      simp only [Source.catchBranch, allSilent_cons, allSilent_nil, and_true]
      exact ⟨silent_reply (hs.faultLiteral fault (oneLine_ofList (by decide))
        (oneLine_ofList (by decide))), silent_okLine⟩
  | .unexpected => exact allSilent_nil

/-! ## Arms -/

omit hs in
/-- The body of a one-way arm, if calls are not recorded. -/
theorem allSilent_oneWayBody (hplain : s.tracing = false) (operation : Nat) {handler : String}
    (hhandler : OneLine handler) (message : NodeId) :
    AllSilent (s.oneWayBody operation handler message) := by
  have hreads : OneLine (commaList (s.argumentReads "message" operation)) :=
    oneLine_commaList (oneLine_argumentReads s (oneLine_ofList (by decide)) operation)
  simp only [Source.oneWayBody, traceLines_of_plain hplain, List.nil_append, allSilent_cons,
    allSilent_nil, and_true]
  exact ⟨silent_line (((muted_ofList (by decide)).extend hhandler (by decide)).extend hreads
    (by decide)), silent_okLine⟩

/-- The body of the arm of a request, if calls are not recorded. -/
theorem Lined.requestBody (hplain : s.tracing = false) {arm : RequestArm}
    (h : (Arm.request arm).Lined s) : AllSilent (s.requestBody arm) := by
  have hreads : OneLine (commaList ("&call" :: s.argumentReads "request" arm.operation)) := by
    refine oneLine_commaList fun text htext => ?_
    rcases List.mem_cons.1 htext with rfl | htext
    · exact oneLine_ofList (by decide)
    · exact oneLine_argumentReads s (oneLine_ofList (by decide)) arm.operation text htext
  have hchain : AllSilent (arm.catchChain.flatMap (s.catchBranch arm.fault)) :=
    allSilent_flatMap fun branch hbranch => hs.catchBranch _ (h.types.subset fun type htype =>
      List.mem_flatMap.2 ⟨branch, hbranch, htype⟩)
  have hpanic : AllSilent [reply (s.faultLiteral arm.fault "panic.to_string()" "Unexpected"),
      .line "Ok(())"] := by
    simp only [allSilent_cons, allSilent_nil, and_true]
    exact ⟨silent_reply (hs.faultLiteral _ (oneLine_ofList (by decide))
      (oneLine_ofList (by decide))), silent_okLine⟩
  simp only [Source.requestBody, traceLines_of_plain hplain, List.append_nil, List.cons_append,
    List.nil_append, allSilent_cons, allSilent_nil, and_true]
  refine ⟨silent_line (muted_ofList (by decide)), silent_line ?_, silent_line ?_, silent_line ?_,
    silent_block (muted_ofList (by decide)) ?_⟩
  · split <;> exact (muted_ofList (by decide)).append (hs.inRuntime (by decide))
  · exact (((muted_ofList (by decide)).append (hs.inRuntime (by decide))).extend h.handler
      (by decide)).extend hreads (by decide)
  · split <;> exact muted_ofList (by decide)
  · simp only [allSilent_cons, allSilent_nil, and_true]
    exact ⟨hs.responseBlock (h.sentHook arm rfl), silent_block (muted_ofList (by decide)) hchain,
      silent_block (muted_ofList (by decide)) hpanic⟩

/-! ## Dispatchers -/

theorem Lined.repliesBound : s.repliesBound.Silent :=
  silent_line (((muted_ofList (by decide)).append (hs.inRuntime (by decide))).extend
    hs.base.oneLine (by decide))

theorem Lined.dispatchOutput : OneLine s.dispatchOutput :=
  (oneLine_ofList (by decide)).append (hs.inRuntime (by decide))

/-- The choice between the arms only names methods. -/
theorem Lined.dispatchArms {plan : DispatchPlan} (h : plan.Lined s) :
    ∀ text ∈ s.dispatchArms plan, Muted text := by
  have hinbound := h.inbound
  intro text htext
  rcases List.mem_append.1 htext with htext | htext
  · obtain ⟨arm, harm, rfl⟩ := List.mem_map.1 htext
    have hlined := h.arms arm harm
    cases arm <;> exact ((((hinbound.append (oneLine_ofList (by decide))).append
      hlined.variant.oneLine).append (oneLine_ofList (by decide))).append hlined.handler).append
        (oneLine_ofList (by decide))
  · rw [List.mem_singleton.1 htext]
    exact (((hinbound.append (oneLine_ofList (by decide))).append
      (oneLine_braced (oneLine_ofList (by decide)))).append (oneLine_ofList (by decide))).append
        (hs.inRuntime (by decide))

omit hs in
/-- The parameters of a method that sends replies. -/
theorem oneLine_replyingParams {name type : String} (hname : OneLine name) (htype : OneLine type) :
    OneLine (methodParams [⟨name, type⟩, ⟨"replies", "&R"⟩]) := by
  refine oneLine_methodParams fun binder hbinder => ?_
  rw [List.mem_cons, List.mem_singleton] at hbinder
  rcases hbinder with rfl | rfl
  · exact Binder.oneLine_text hname htype
  · exact Binder.oneLine_text (oneLine_ofList (by decide)) (oneLine_ofList (by decide))

/-- The methods that every dispatcher has record nothing. -/
theorem Lined.dispatcherMethods {plan : DispatchPlan} (h : plan.Lined s) :
    ∀ piece ∈ s.dispatcherMethods plan, AllSilent piece := by
  have hbound := hs.repliesBound
  have houtput := hs.dispatchOutput
  intro piece hpiece
  simp only [Source.dispatcherMethods, List.mem_cons, List.not_mem_nil, or_false] at hpiece
  rcases hpiece with rfl | rfl | rfl | rfl
  · exact allSilent_singleton.2 (silent_block (muted_ofList (by decide)) (allSilent_singleton.2
      (silent_line ((muted_ofList (by decide)).append (oneLine_braced (oneLine_ofList (by decide)))))))
  · exact allSilent_singleton.2 (silent_block (muted_ofList (by decide)) (allSilent_singleton.2
      (silent_line (muted_ofList (by decide)))))
  · simp only [allSilent_cons, allSilent_nil, and_true]
    exact ⟨silent_line (((muted_ofList (by decide)).extend
        (oneLine_replyingParams (oneLine_ofList (by decide)) h.inbound.oneLine) (by decide)).append
          houtput),
      hbound, silent_braces (allSilent_singleton.2 (silent_matchBlock (oneLine_ofList (by decide))
        (hs.dispatchArms h)))⟩
  · simp only [allSilent_cons, allSilent_nil, and_true]
    exact ⟨silent_line (((muted_ofList (by decide)).extend
        (oneLine_replyingParams (oneLine_ofList (by decide)) hs.base.oneLine) (by decide)).append
          houtput),
      hbound, silent_braces (allSilent_singleton.2 (silent_line
        ((muted_ofList (by decide)).extend h.inbound.oneLine (by decide))))⟩

end Source

end ServiceContract
