import ServiceContract.Proofs.MessageBrackets
import ServiceContract.Source.Handlers

/-!
# Brackets of handlers and dispatchers

For a tidy plan, the choice of incoming messages, the interface of the handlers and the dispatcher
are balanced.  The body of a dispatching method is written out first and laid out line by line,
which keeps its brackets (`scan_writtenOut`).
-/

namespace ServiceContract

open Code

namespace Source

/-- Code that was written out has the brackets of the code, though not piece by piece. -/
theorem scan_writtenOut {code : List Code} (h : AllBalanced code) (stack : List Char) :
    scan stack (bracketsAll (writtenOut code)) = stack := by
  have hbrackets : bracketsAll (writtenOut code) = bracketsAll code := by
    rw [bracketsAll_eq_flatMap, writtenOut, List.flatMap_map]
    change (Text.lines (sectionText 0 code)).flatMap ServiceContract.brackets = _
    rw [flatMap_lines, brackets_sectionText]
  rw [hbrackets, h.scan]

/-- A block around code that was written out. -/
theorem balanced_writtenOut {header : String} {code : List Code} (hheader : Balanced header)
    (h : AllBalanced code) : (Code.block header (writtenOut code)).Balanced := by
  intro stack
  rw [scan_block, hheader, scan_writtenOut h, scanText_ofList]
  rfl

/-- A reply with a balanced literal. -/
theorem balanced_reply {literal : Literal} (h : Balanced literal.text) :
    (reply literal).Balanced :=
  balanced_line (h.between fun _ => rfl)

/-- The arguments are read from the fields of a message. -/
theorem balanced_argumentReads (s : Source) {holder : String} (hholder : Clean holder)
    (operation : Nat) : ∀ text ∈ s.argumentReads holder operation, Balanced text := by
  intro text htext
  obtain ⟨param, -, rfl⟩ := List.mem_map.1 htext
  exact (Clean.append (Clean.append hholder (clean_ofList rfl)) param.clean_fieldName).balanced

/-- The hook of a handler that is told about a result. -/
theorem allBalanced_hookMethod {handler : Handler} (h : handler.Tidy) {hook : String}
    (hhook : Clean hook) {result : DataType} (hresult : result.Tidy) :
    AllBalanced (hookMethod handler hook result) := by
  have hparams : Balanced (methodParams [⟨"result", "&" ++ result.spelling⟩]) := by
    refine balanced_methodParams fun binder hbinder => ?_
    obtain rfl := List.mem_singleton.1 hbinder
    exact Binder.balanced_text (clean_ofList rfl)
      (Balanced.append (clean_ofList rfl).balanced hresult.balanced_spelling)
  simp only [hookMethod, allBalanced_cons, allBalanced_nil, and_true]
  refine ⟨balanced_doc (h.name.balanced.between fun _ => rfl), balanced_block (fun stack => ?_)
    (allBalanced_singleton.2 (balanced_line (balanced_ofList fun _ => rfl)))⟩
  simp only [scanText_append, scanText_clean hhook, scanText_balanced hparams]
  repeat rw [scanText_ofList]
  rfl

/-- The type of a dispatcher is called after its plan. -/
theorem allBalanced_dispatcherType {s : Source} {plan : DispatchPlan} (h : plan.Tidy s) :
    AllBalanced (dispatcherType plan) := by
  simp only [dispatcherType, allBalanced_cons, allBalanced_nil, and_true]
  exact ⟨balanced_doc (h.inbound.balanced.between fun _ => rfl),
    balanced_block (h.dispatcher.balanced.between fun _ => rfl)
      (allBalanced_singleton.2 (balanced_line (balanced_ofList fun _ => rfl)))⟩

variable {s : Source} (hs : s.Tidy)

include hs

/-- The context of a call has the types of the items it streams. -/
theorem Tidy.contextType {handler : Handler} (h : handler.Tidy) :
    Balanced (s.contextType handler) := by
  intro stack
  unfold Source.contextType
  split
  · simp only [scanText_append, hs.scan_inRuntime,
      scanText_balanced (DataType.balanced_spellingOr h.inputItem),
      scanText_balanced (DataType.balanced_spellingOr h.outputItem)]
    repeat rw [scanText_ofList]
    rfl
  · simp only [scanText_append, hs.scan_inRuntime]
    repeat rw [scanText_ofList]
    rfl

/-- A handler gives back what its operation declares. -/
theorem Tidy.handlerOutput {handler : Handler} (h : handler.Tidy) :
    Balanced (s.handlerOutput handler) := by
  intro stack
  unfold Source.handlerOutput
  split
  · rw [scanText_ofList]
    rfl
  · simp only [scanText_append, hs.scan_inRuntime,
      scanText_balanced (DataType.balanced_spellingOr h.result)]
    repeat rw [scanText_ofList]
    rfl

/-- A method of the handler with its documentation. -/
theorem Tidy.handlerMethod {handler : Handler} (h : handler.Tidy) :
    AllBalanced (s.handlerMethod handler) := by
  have hparams : Balanced (methodParams (s.handlerBinders handler)) := by
    refine balanced_methodParams fun binder hbinder => ?_
    rcases List.mem_append.1 hbinder with hbinder | hbinder
    · split at hbinder
      · cases hbinder
      · obtain rfl := List.mem_singleton.1 hbinder
        exact Binder.balanced_text (clean_ofList rfl) (hs.contextType h)
    · obtain ⟨param, hparam, rfl⟩ := List.mem_map.1 hbinder
      exact Param.balanced_binder (h.params param hparam)
  refine allBalanced_append.2 ⟨allBalanced_docOf fun doc hdoc => (h.doc doc hdoc).balanced,
    allBalanced_singleton.2 (balanced_line fun stack => ?_)⟩
  simp only [scanText_append, scanText_clean h.name, scanText_balanced hparams,
    scanText_balanced (hs.handlerOutput h)]
  repeat rw [scanText_ofList]
  rfl

/-- The method of a handler and its hook, if it has one. -/
theorem Tidy.handlerMethods {handler : Handler} (h : handler.Tidy) :
    ∀ piece ∈ s.handlerMethods handler, AllBalanced piece := by
  intro piece hpiece
  unfold Source.handlerMethods at hpiece
  split at hpiece
  · next hook result hhook hresult =>
      simp only [List.mem_cons, List.not_mem_nil, or_false] at hpiece
      rcases hpiece with rfl | rfl
      · exact hs.handlerMethod h
      · exact allBalanced_hookMethod h (h.sentHook hook hhook) (h.result result hresult)
  · obtain rfl := List.mem_singleton.1 hpiece
    exact hs.handlerMethod h

/-- The interface of the handlers is balanced. -/
theorem Tidy.handlerTrait {plan : DispatchPlan} (h : plan.Tidy s) :
    AllBalanced (s.handlerTrait plan) := by
  simp only [Source.handlerTrait, allBalanced_cons, allBalanced_nil, and_true]
  refine ⟨balanced_doc (hs.contractName.balanced.between fun _ => rfl),
    balanced_line (Clean.append (clean_ofList rfl) h.handlerTrait).balanced,
    balanced_line (balanced_ofList fun _ => rfl),
    balanced_block clean_empty.balanced (allBalanced_separated fun piece hpiece => ?_)⟩
  obtain ⟨handler, hhandler, hpiece⟩ := List.mem_flatMap.1 hpiece
  exact hs.handlerMethods (h.handlers handler hhandler) piece hpiece

/-- The choice of incoming messages is balanced. -/
theorem Tidy.inboundType {plan : DispatchPlan} (h : plan.Tidy s) :
    AllBalanced (s.inboundType plan) := by
  have hkey : Balanced (braced "key: u32") := balanced_braced (clean_ofList rfl).balanced
  have hother : Balanced (braced "key: other.key()") :=
    balanced_braced (balanced_ofList fun _ => rfl)
  have hself : Balanced (braced "key") := balanced_braced (clean_ofList rfl).balanced
  have hinbound : ∀ keyword : String, Clean keyword → Balanced (keyword ++ plan.inbound) :=
    fun keyword hkeyword => (hkeyword.append h.inbound).balanced
  unfold Source.inboundType
  simp only [allBalanced_cons, allBalanced_nil, and_true]
  refine ⟨balanced_doc (h.handlerTrait.balanced.between fun _ => rfl),
    balanced_attr (balanced_ofList fun _ => rfl),
    balanced_block (hinbound _ (clean_ofList rfl)) (allBalanced_append.2
      ⟨allBalanced_map fun arm harm => balanced_line fun stack => ?_, ?_⟩),
    balanced_blank, balanced_block (hinbound _ (clean_ofList rfl)) ?_⟩
  · simp only [scanText_append, scanText_clean (h.arms arm harm).variant,
      scanText_clean (hs.nodeName arm.inbound)]
    repeat rw [scanText_ofList]
    rfl
  · simp only [allBalanced_cons, allBalanced_nil, and_true]
    exact ⟨balanced_doc (balanced_ofList fun _ => rfl), balanced_line (hkey.between fun _ => rfl)⟩
  · simp only [allBalanced_cons, allBalanced_nil, and_true]
    refine ⟨balanced_block (hs.base.balanced.between fun _ => rfl) (allBalanced_singleton.2
        (balanced_matchBlock (clean_ofList rfl).balanced fun text htext stack => ?_)),
      balanced_blank, balanced_block (balanced_ofList fun _ => rfl) (allBalanced_singleton.2
        (balanced_matchBlock (clean_ofList rfl).balanced fun text htext stack => ?_))⟩
    · rcases List.mem_append.1 htext with htext | htext
      · obtain ⟨arm, harm, rfl⟩ := List.mem_map.1 htext
        simp only [scanText_append, scanText_clean (h.arms arm harm).variant,
          scanText_clean (hs.nodeName arm.inbound), scanText_clean hs.base]
        repeat rw [scanText_ofList]
        rfl
      · obtain rfl := List.mem_singleton.1 htext
        exact hother.between (fun _ => rfl) stack
    · rcases List.mem_append.1 htext with htext | htext
      · obtain ⟨arm, harm, rfl⟩ := List.mem_map.1 htext
        simp only [scanText_append, scanText_clean (h.arms arm harm).variant,
          scanText_clean (hs.nodeName arm.inbound)]
        repeat rw [scanText_ofList]
        rfl
      · obtain rfl := List.mem_singleton.1 htext
        exact hself.between (fun _ => rfl) stack

/-- The lines that record a call name the operation. -/
theorem Tidy.traceLines {operation : Nat} (hname : Clean (s.operationName operation))
    (message : NodeId) : AllBalanced (s.traceLines operation message) := by
  have hcontract := balanced_quoted hs.contractName.balanced
  have hoperation := balanced_quoted hname.balanced
  have hdispatch : Balanced (quoted "dispatch") := balanced_quoted (clean_ofList rfl).balanced
  unfold Source.traceLines
  split
  · refine allBalanced_singleton.2 (balanced_line fun stack => ?_)
    simp only [scanText_append, scanText_balanced hcontract, scanText_balanced hoperation,
      scanText_balanced hdispatch, scanText_clean (hs.nodeName message)]
    repeat rw [scanText_ofList]
    rfl
  · exact allBalanced_nil

/-- The code that handles a message without an answer. -/
theorem Tidy.oneWayBody {operation : Nat} (hname : Clean (s.operationName operation))
    {handler : String} (hhandler : Clean handler) (message : NodeId) :
    AllBalanced (s.oneWayBody operation handler message) := by
  have hreads : Balanced (commaList (s.argumentReads "message" operation)) :=
    balanced_commaList (s.balanced_argumentReads (clean_ofList rfl) operation)
  simp only [Source.oneWayBody, allBalanced_append, allBalanced_cons, allBalanced_nil, and_true]
  refine ⟨hs.traceLines hname message, balanced_line fun stack => ?_,
    balanced_line (balanced_ofList fun _ => rfl)⟩
  simp only [scanText_append, scanText_clean hhandler, scanText_balanced hreads]
  repeat rw [scanText_ofList]
  rfl

/-- The response is built with the result or without one. -/
theorem Tidy.responseLiteral (arm : RequestArm) : Balanced (s.responseLiteral arm).text := by
  refine Literal.balanced_text (hs.nodeName _) fun init hinit => ?_
  rcases List.mem_cons.1 hinit with rfl | hinit
  · exact (clean_ofList rfl).balanced
  · split at hinit
    · obtain rfl := List.mem_singleton.1 hinit
      refine FieldInit.balanced_set ?_ ?_
      · cases hresult : s.resultField? arm.operation with
        | none => exact clean_ofList rfl
        | some field => exact clean_resultField hresult
      · split
        · exact balanced_ofList fun _ => rfl
        · exact (clean_ofList rfl).balanced
    · cases hinit

/-- The fault message is built with a text and a code that are given. -/
theorem Tidy.faultLiteral (fault : NodeId) {text code : String} (htext : Balanced text)
    (hcode : Clean code) : Balanced (s.faultLiteral fault text code).text := by
  refine Literal.balanced_text (hs.nodeName _) fun init hinit => ?_
  simp only [Source.faultLiteral, List.mem_append, List.mem_cons, List.not_mem_nil,
    or_false] at hinit
  rcases hinit with (rfl | rfl | rfl) | hinit
  · exact (clean_ofList rfl).balanced
  · exact FieldInit.balanced_set (clean_ofList rfl) htext
  · exact FieldInit.balanced_set (clean_ofList rfl)
      (Clean.append (clean_ofList rfl) hcode).balanced
  · split at hinit
    · obtain rfl := List.mem_singleton.1 hinit
      exact FieldInit.balanced_set (clean_ofList rfl) (clean_ofList rfl).balanced
    · cases hinit

/-- A fault message with a carrier takes its text from the fault. -/
theorem Tidy.carrierFaultLiteral (fault : NodeId) :
    Balanced (s.carrierFaultLiteral fault).text := by
  refine Literal.balanced_text (hs.nodeName _) fun init hinit => ?_
  simp only [Source.carrierFaultLiteral, List.mem_cons, List.not_mem_nil, or_false] at hinit
  rcases hinit with rfl | rfl | rfl | rfl
  · exact (clean_ofList rfl).balanced
  · exact FieldInit.balanced_set (clean_ofList rfl) (clean_ofList rfl).balanced
  · exact FieldInit.balanced_set (clean_ofList rfl) (clean_ofList rfl).balanced
  · exact FieldInit.balanced_set (clean_ofList rfl) (balanced_ofList fun _ => rfl)

/-- A carrier is built around the payload of the fault. -/
theorem Tidy.carrierLiteral (carrier : NodeId) : Balanced (s.carrierLiteral carrier).text := by
  refine Literal.balanced_text (hs.nodeName _) fun init hinit => ?_
  obtain rfl := List.mem_singleton.1 hinit
  exact FieldInit.balanced_set (clean_ofList rfl) (clean_ofList rfl).balanced

/-- The union that a carrier is listed in has the name of a node. -/
theorem Tidy.carrierUnion (carrier : NodeId) : Clean (s.carrierUnion carrier) := by
  unfold Source.carrierUnion
  cases (s.catalog.get? carrier).bind Node.base with
  | none => exact clean_empty
  | some marker => exact hs.nodeName marker

/-- The code that answers with a response. -/
theorem Tidy.responseBlock {arm : RequestArm} (hhook : ∀ hook ∈ arm.sentHook, Clean hook) :
    (s.responseBlock arm).Balanced := by
  have hreply := balanced_reply (hs.responseLiteral arm)
  have hdone : (Code.line "Ok(())").Balanced := balanced_line (balanced_ofList fun _ => rfl)
  unfold Source.responseBlock
  split
  · refine balanced_block (balanced_ofList fun _ => rfl) (allBalanced_append.2
      ⟨allBalanced_append.2 ⟨allBalanced_singleton.2 hreply,
        allBalanced_map fun hook hmem => balanced_line fun stack => ?_⟩,
      allBalanced_singleton.2 hdone⟩)
    simp only [scanText_append, scanText_clean (hhook hook (Option.mem_toList.1 hmem))]
    repeat rw [scanText_ofList]
    rfl
  · refine balanced_block (balanced_ofList fun _ => rfl) ?_
    simpa using ⟨hreply, hdone⟩

/-- A test of the catch chain, with the answer to a fault that it catches. -/
theorem Tidy.catchBranch (fault : NodeId) {branch : CatchBranch} (h : branch.Tidy) :
    AllBalanced (s.catchBranch fault branch) := by
  have hdeclared : Balanced (s.faultLiteral fault "fault.to_string()" "Declared").text :=
    hs.faultLiteral fault (balanced_ofList fun _ => rfl) (clean_ofList rfl)
  cases branch with
  | declared =>
      simp only [Source.catchBranch, allBalanced_cons, allBalanced_nil, and_true]
      exact ⟨balanced_reply hdeclared, balanced_line (balanced_ofList fun _ => rfl)⟩
  | unexpected => exact allBalanced_nil
  | custom key payload carrier =>
      have hpayload : payload.Tidy := h
      have hvariant := s.catalog.clean_faultVariant hs.nodes carrier
      refine allBalanced_singleton.2 (balanced_blockClosed (fun stack => ?_) ?_ fun stack => ?_)
      · simp only [scanText_append, scanText_balanced hpayload.balanced_spelling,
          scanText_clean (hs.nodeName carrier)]
        repeat rw [scanText_ofList]
        rfl
      · simp only [allBalanced_cons, allBalanced_nil, and_true]
        refine ⟨balanced_block (balanced_ofList fun _ => rfl) ?_,
          balanced_line (balanced_ofList fun _ => rfl)⟩
        simp only [allBalanced_cons, allBalanced_nil, and_true]
        refine ⟨balanced_line fun stack => ?_, balanced_reply (hs.carrierFaultLiteral fault),
          balanced_line (balanced_ofList fun _ => rfl)⟩
        simp only [scanText_append, scanText_clean (hs.carrierUnion carrier),
          scanText_clean hvariant, scanText_balanced (hs.carrierLiteral carrier)]
        repeat rw [scanText_ofList]
        rfl
      · rw [scanText_ofList]
        rfl

/-- How a request is handled is balanced. -/
theorem Tidy.requestBody {request : RequestArm} (h : (Arm.request request).Tidy s) :
    AllBalanced (s.requestBody request) := by
  have hreads : Balanced
      (commaList ("&call" :: s.argumentReads "request" request.operation)) := by
    refine balanced_commaList fun text htext => ?_
    rcases List.mem_cons.1 htext with rfl | htext
    · exact (clean_ofList rfl).balanced
    · exact s.balanced_argumentReads (clean_ofList rfl) _ text htext
  have hunexpected : Balanced
      (s.faultLiteral request.fault "panic.to_string()" "Unexpected").text :=
    hs.faultLiteral _ (balanced_ofList fun _ => rfl) (clean_ofList rfl)
  have hhandler : Clean request.handler := h.handler
  simp only [Source.requestBody, allBalanced_append, allBalanced_cons, allBalanced_nil, and_true]
  refine ⟨⟨balanced_line (balanced_ofList fun _ => rfl), hs.traceLines h.operation _⟩,
    balanced_line ?_, balanced_line fun stack => ?_, balanced_line ?_,
    balanced_block (balanced_ofList fun _ => rfl) ?_⟩
  · split
    · intro stack
      simp only [scanText_append, hs.scan_inRuntime]
      repeat rw [scanText_ofList]
      rfl
    · intro stack
      simp only [scanText_append, hs.scan_inRuntime]
      repeat rw [scanText_ofList]
      rfl
  · simp only [scanText_append, hs.scan_inRuntime, scanText_clean hhandler,
      scanText_balanced hreads]
    repeat rw [scanText_ofList]
    rfl
  · split
    · exact balanced_ofList fun _ => rfl
    · exact balanced_ofList fun _ => rfl
  · simp only [allBalanced_cons, allBalanced_nil, and_true]
    refine ⟨hs.responseBlock (h.sentHook request rfl),
      balanced_block (balanced_ofList fun _ => rfl) (allBalanced_flatMap fun branch hbranch =>
        hs.catchBranch request.fault (h.catchChain request rfl branch hbranch)),
      balanced_block (balanced_ofList fun _ => rfl) ?_⟩
    simp only [allBalanced_cons, allBalanced_nil, and_true]
    exact ⟨balanced_reply hunexpected, balanced_line (balanced_ofList fun _ => rfl)⟩

/-- The bound of the replies names the message base. -/
theorem Tidy.repliesBound : s.repliesBound.Balanced := by
  refine balanced_line fun stack => ?_
  simp only [scanText_append, hs.scan_inRuntime, scanText_clean hs.base]
  repeat rw [scanText_ofList]
  rfl

/-- What a dispatcher gives back. -/
theorem Tidy.dispatchOutput : Balanced s.dispatchOutput := by
  intro stack
  simp only [Source.dispatchOutput, scanText_append, hs.scan_inRuntime]
  repeat rw [scanText_ofList]
  rfl

/-- The method that handles a message is balanced. -/
theorem Tidy.armMethod {arm : Arm} (h : arm.Tidy s) : AllBalanced (s.armMethod arm) := by
  have houtput := hs.dispatchOutput
  cases arm with
  | oneWay variant key operation handler message =>
      have hhandler : Clean handler := h.handler
      have hparams : Balanced (methodParams [⟨"message", s.nodeName message⟩]) := by
        refine balanced_methodParams fun binder hbinder => ?_
        obtain rfl := List.mem_singleton.1 hbinder
        exact Binder.balanced_text (clean_ofList rfl) (hs.nodeName message).balanced
      refine allBalanced_singleton.2 (balanced_writtenOut (fun stack => ?_)
        (hs.oneWayBody h.operation hhandler message))
      simp only [scanText_append, scanText_clean hhandler, scanText_balanced hparams,
        scanText_balanced houtput]
      repeat rw [scanText_ofList]
      rfl
  | request request =>
      have hhandler : Clean request.handler := h.handler
      have hparams : Balanced
          (methodParams [⟨"request", s.nodeName request.request⟩, ⟨"replies", "&R"⟩]) := by
        refine balanced_methodParams fun binder hbinder => ?_
        simp only [List.mem_cons, List.not_mem_nil, or_false] at hbinder
        rcases hbinder with rfl | rfl
        · exact Binder.balanced_text (clean_ofList rfl) (hs.nodeName _).balanced
        · exact Binder.balanced_text (clean_ofList rfl) (clean_ofList rfl).balanced
      simp only [Source.armMethod, allBalanced_cons, allBalanced_nil, and_true]
      refine ⟨balanced_line fun stack => ?_, hs.repliesBound,
        balanced_writtenOut clean_empty.balanced (hs.requestBody h)⟩
      simp only [scanText_append, scanText_clean hhandler, scanText_balanced hparams,
        scanText_balanced houtput]
      repeat rw [scanText_ofList]
      rfl

/-- The arms that tell the received messages apart. -/
theorem Tidy.dispatchArms {plan : DispatchPlan} (h : plan.Tidy s) :
    ∀ text ∈ s.dispatchArms plan, Balanced text := by
  have hkey : Balanced (braced "key") := balanced_braced (clean_ofList rfl).balanced
  intro text htext stack
  rcases List.mem_append.1 htext with htext | htext
  · obtain ⟨arm, harm, rfl⟩ := List.mem_map.1 htext
    have htidy := h.arms arm harm
    cases arm with
    | oneWay variant key operation handler message =>
        have hvariant : Clean variant := htidy.variant
        have hhandler : Clean handler := htidy.handler
        simp only [scanText_append, scanText_clean h.inbound, scanText_clean hvariant,
          scanText_clean hhandler]
        repeat rw [scanText_ofList]
        rfl
    | request request =>
        have hvariant : Clean request.variant := htidy.variant
        have hhandler : Clean request.handler := htidy.handler
        simp only [scanText_append, scanText_clean h.inbound, scanText_clean hvariant,
          scanText_clean hhandler]
        repeat rw [scanText_ofList]
        rfl
  · obtain rfl := List.mem_singleton.1 htext
    simp only [scanText_append, scanText_clean h.inbound, scanText_balanced hkey,
      hs.scan_inRuntime]
    repeat rw [scanText_ofList]
    rfl

/-- The methods that every dispatcher has of its own. -/
theorem Tidy.dispatcherMethods {plan : DispatchPlan} (h : plan.Tidy s) :
    ∀ piece ∈ s.dispatcherMethods plan, AllBalanced piece := by
  have houtput := hs.dispatchOutput
  have hhandler : Balanced (braced "handler") := balanced_braced (clean_ofList rfl).balanced
  have hparams : ∀ binder : Binder, Balanced binder.text →
      Balanced (methodParams [binder, ⟨"replies", "&R"⟩]) := by
    intro binder hbinder
    refine balanced_methodParams fun other hother => ?_
    simp only [List.mem_cons, List.not_mem_nil, or_false] at hother
    rcases hother with rfl | rfl
    · exact hbinder
    · exact Binder.balanced_text (clean_ofList rfl) (clean_ofList rfl).balanced
  have hinbound : Balanced (methodParams [⟨"inbound", plan.inbound⟩, ⟨"replies", "&R"⟩]) :=
    hparams _ (Binder.balanced_text (clean_ofList rfl) h.inbound.balanced)
  have hmessage : Balanced (methodParams [⟨"message", s.base⟩, ⟨"replies", "&R"⟩]) :=
    hparams _ (Binder.balanced_text (clean_ofList rfl) hs.base.balanced)
  intro piece hpiece
  simp only [Source.dispatcherMethods, List.mem_cons, List.not_mem_nil, or_false] at hpiece
  rcases hpiece with rfl | rfl | rfl | rfl
  · refine allBalanced_singleton.2 (balanced_block (balanced_ofList fun _ => rfl)
      (allBalanced_singleton.2 (balanced_line ?_)))
    exact Balanced.append (clean_ofList rfl).balanced hhandler
  · exact allBalanced_singleton.2 (balanced_block (balanced_ofList fun _ => rfl)
      (allBalanced_singleton.2 (balanced_line (balanced_ofList fun _ => rfl))))
  · simp only [allBalanced_cons, allBalanced_nil, and_true]
    refine ⟨balanced_line fun stack => ?_, hs.repliesBound,
      balanced_block clean_empty.balanced (allBalanced_singleton.2
        (balanced_matchBlock (clean_ofList rfl).balanced (hs.dispatchArms h)))⟩
    simp only [scanText_append, scanText_balanced hinbound, scanText_balanced houtput]
    repeat rw [scanText_ofList]
    rfl
  · simp only [allBalanced_cons, allBalanced_nil, and_true]
    refine ⟨balanced_line fun stack => ?_, hs.repliesBound,
      balanced_block clean_empty.balanced (allBalanced_singleton.2
        (balanced_line (h.inbound.balanced.between fun _ => rfl)))⟩
    simp only [scanText_append, scanText_balanced hmessage, scanText_balanced houtput]
    repeat rw [scanText_ofList]
    rfl

/-- The dispatcher is balanced. -/
theorem Tidy.dispatcherImpl {plan : DispatchPlan} (h : plan.Tidy s) :
    AllBalanced (s.dispatcherImpl plan) := by
  simp only [Source.dispatcherImpl, allBalanced_cons, allBalanced_nil, and_true]
  refine ⟨balanced_line (h.dispatcher.balanced.between fun _ => rfl),
    balanced_line (h.handlerTrait.balanced.between fun _ => rfl),
    balanced_block clean_empty.balanced (allBalanced_separated fun piece hpiece => ?_)⟩
  rcases List.mem_append.1 hpiece with hpiece | hpiece
  · exact hs.dispatcherMethods h piece hpiece
  · obtain ⟨arm, harm, rfl⟩ := List.mem_map.1 hpiece
    exact hs.armMethod (h.arms arm harm)

end Source

end ServiceContract
