import ServiceContract.Proofs.LegalIdentifiers
import ServiceContract.Source.Handlers

/-!
# Arguments and the names around them

An argument is called in generated code as it was declared.  The functions that take it also have
names of their own: a receiver, parameters that are not arguments, and local variables.  A declared
name that is reserved for these is given up, and so is one of which nothing is left in snake case;
the argument then takes the name of the member that carries it, which is reserved for nothing
(`Operation.ident_notMem`).  Another argument may have been declared under that very name; such an
operation is not generated.

A `Routine` is a generated function that takes arguments, and `Source.partsOf` gives its receiver,
parameters and body apart from each other; together they are the code that is written
(`Source.code_partsOf`).  The names in its scope are those of the receiver, of the parameters and of
the variables that the body declares.

The main statement is `Source.arguments_apart`.
-/

namespace ServiceContract

/-- The names that generated functions give to what is not an argument. -/
def surroundingNames : List String :=
  ["self", "call", "call_id", "request", "replies", "message", "options", "window_size"]

/-! ## Identifiers of arguments -/

namespace Operation

/-- The member of an argument is neither reserved nor empty. -/
theorem fieldName_notMem {op : Operation} {param : Param} (h : param ∈ op.params) :
    param.fieldName ∉ "" :: reservedIdents := by
  have hapart : ∀ name ∈ "" :: reservedIdents, ¬ "arg".toList <+: name.toList := by decide +kernel
  rw [op.fieldName_of_mem_params h]
  intro hmem
  refine hapart _ hmem ?_
  rw [String.toList_append]
  exact List.prefix_append ..

/-- **Nothing reserved is used.**  Whatever name was declared for an argument, its identifier is
neither reserved nor empty. -/
theorem ident_notMem {op : Operation} {param : Param} (h : param ∈ op.params) :
    param.ident ∉ "" :: reservedIdents := by
  cases hname : param.name with
  | none =>
      rw [Param.ident, hname]
      exact fieldName_notMem h
  | some name =>
      by_cases hkept : Text.snake name ∈ "" :: reservedIdents
      · have hgiven : ((Text.snake name).isEmpty || decide (Text.snake name ∈ reservedIdents)) =
            true := by
          simpa [String.isEmpty_iff] using hkept
        simp only [Param.ident, hname, hgiven, if_true]
        exact fieldName_notMem h
      · have hgiven : ((Text.snake name).isEmpty || decide (Text.snake name ∈ reservedIdents)) =
            false := by
          simpa [String.isEmpty_iff] using hkept
        simpa only [Param.ident, hname, hgiven, Bool.false_eq_true, if_false] using hkept

/-- The identifier of an argument is none of the names around it. -/
theorem ident_notMem_surroundingNames {op : Operation} {param : Param} (h : param ∈ op.params) :
    param.ident ∉ surroundingNames := by
  have hreserved : surroundingNames ⊆ "" :: reservedIdents := by decide +kernel
  exact fun hmem => ident_notMem h (hreserved hmem)

/-- Identifiers of arguments between other names. -/
theorem WellFormed.nodup_scope {op : Operation} (hop : op.WellFormed) {front back : List String}
    (hdistinct : (front ++ back).Nodup) (hnames : front ++ back ⊆ surroundingNames) :
    (front ++ op.params.map Param.ident ++ back).Nodup := by
  have happart : ∀ name ∈ front ++ back, name ∉ op.params.map Param.ident := by
    intro name hname hmem
    obtain ⟨param, hparam, rfl⟩ := List.mem_map.1 hmem
    exact ident_notMem_surroundingNames hparam (hnames hname)
  have hperm : (front ++ op.params.map Param.ident ++ back).Perm
      (op.params.map Param.ident ++ (front ++ back)) := by
    rw [← List.append_assoc]
    exact List.perm_append_comm.append_right back
  refine hperm.nodup_iff.2 (List.nodup_append.2 ⟨hop.idents, hdistinct, ?_⟩)
  rintro ident hident name hname rfl
  exact happart _ hname hident

end Operation

/-! ## Local variables -/

/-- The variable that a line of code declares. -/
def letName? (text : String) : Option String :=
  ("let ".toList.isPrefixOf? text.toList).map fun rest =>
    String.ofList (rest.takeWhile fun c => c ≠ ' ')

/-- The variable that a piece of code declares for the pieces after it. -/
def Code.letName? : Code → Option String
  | line text => ServiceContract.letName? text
  | block header _ _ => ServiceContract.letName? header
  | _ => none

/-- The variables that code declares, apart from those inside its blocks. -/
def letNames (code : List Code) : List String := code.filterMap Code.letName?

/-- Only a line that starts with the keyword declares a variable. -/
theorem letName?_eq_none {text : String} (h : ¬ "let ".toList <+: text.toList) :
    letName? text = none := by
  rw [letName?, Option.map_eq_none_iff, Option.eq_none_iff_forall_ne_some]
  intro rest hrest
  exact h ⟨rest, List.isPrefixOf?_eq_some_iff_append_eq.1 hrest⟩

/-- The first character is enough to tell. -/
theorem letName?_of_head {text : String} {c : Char} (hhead : text.toList.head? = some c)
    (hc : c ≠ 'l') : letName? text = none := by
  refine letName?_eq_none ?_
  rintro ⟨rest, hrest⟩
  rw [← hrest] at hhead
  exact hc (Option.some.inj hhead).symm

/-- A line that declares nothing adds no variable. -/
theorem letNames_line {text : String} (h : letName? text = none) :
    letNames [.line text] = [] := by
  rw [letNames, List.filterMap_cons, Code.letName?, h, List.filterMap_nil]

/-- The variables of a function that builds a request. -/
theorem letNames_request (value : String) {last : Code} (hlast : last.letName? = none) :
    letNames [.line "let call_id = self.channel.next_call_id();",
      .line ("let request = " ++ value ++ ";"), last] = ["call_id", "request"] := by
  have hcall : (Code.line "let call_id = self.channel.next_call_id();").letName? =
      some "call_id" := rfl
  have hrequest : (Code.line ("let request = " ++ value ++ ";")).letName? = some "request" := by
    rw [Code.letName?, letName?, String.toList_append, String.toList_append]
    rfl
  simp only [letNames, List.filterMap_cons, List.filterMap_nil, hcall, hrequest, hlast]

/-- The path of the library does not look like the declaration of a variable. -/
def Source.PlainRuntime (s : Source) : Prop := ¬ "let ".toList <+: s.runtime.toList

/-- A line that starts with a name of the library declares no variable. -/
theorem Source.PlainRuntime.letName? {s : Source} (hs : s.PlainRuntime) (name rest : String) :
    letName? (s.inRuntime name ++ rest) = none := by
  refine letName?_eq_none fun hlet => ?_
  have htext : (s.inRuntime name ++ rest).toList =
      s.runtime.toList ++ ':' :: ':' :: (name.toList ++ rest.toList) := by
    simp [inRuntime]
  rw [htext] at hlet
  rcases List.prefix_or_prefix_of_prefix hlet (List.prefix_append ..) with hruntime | ⟨back, hback⟩
  · exact hs hruntime
  · -- the path would be cut short by a colon
    rw [← hback, List.prefix_append_right_inj] at hlet
    cases back with
    | nil => exact hs ⟨[], by simpa using hback.symm⟩
    | cons c back =>
        rw [(List.cons_prefix_cons.1 hlet).1] at hback
        have hcolon : ':' ∈ "let ".toList := hback ▸ List.mem_append_right _ (List.mem_cons_self ..)
        exact absurd hcolon (by decide)

/-! ## Generated functions -/

/-- A generated function in its parts.  One without a body is only declared. -/
structure FunctionParts where
  docs : List Code
  lead : String
  receiver : Bool
  binders : List Binder
  result : String
  body : Option (List Code)

namespace FunctionParts

/-- The line that starts the function. -/
def signature (f : FunctionParts) : String :=
  f.lead ++ "(" ++
    commaList ((if f.receiver then ["&self"] else []) ++ f.binders.map Binder.text) ++ ")" ++
    f.result

/-- The parts put together. -/
def code (f : FunctionParts) : List Code :=
  f.docs ++ [match f.body with
    | some body => .block f.signature body
    | none => .line (f.signature ++ ";")]

/-- The variables that the function declares. -/
def locals (f : FunctionParts) : List String := letNames (f.body.getD [])

/-- All names that the function binds. -/
def scope (f : FunctionParts) : List String :=
  (if f.receiver then ["self"] else []) ++ f.binders.map Binder.name ++ f.locals

end FunctionParts

/-- A generated function that takes arguments of an operation. -/
inductive Routine
  | handling (handler : Handler)
  | calling (stub : Stub)
  /-- A method of a facade of a surface, with the stub it forwards to. -/
  | forwarding (surface : Surface) (entry : FacadeMethod) (target : Stub)
  | opening (opener : StreamOpener)
  | building (helper : PrebuildHelper)

/-- The operation whose arguments a function takes. -/
def Routine.operation : Routine → Nat
  | .handling handler => handler.operation
  | .calling stub => stub.operation
  | .forwarding _ _ target => target.operation
  | .opening opener => opener.operation
  | .building helper => helper.operation

/-- A function takes the arguments of an operation.  A stub that sends a prebuilt message takes no
arguments. -/
def Routine.TakesArguments (op : Operation) : Routine → Prop
  | .handling handler => handler.params = op.params
  | .calling stub => stub.prebuilt = false → stub.params = op.params
  | .forwarding _ _ target => target.prebuilt = false → target.params = op.params
  | .opening opener => opener.params = op.params
  | .building helper => helper.params = op.params

/-- The functions of a surface. -/
def Surface.routines (surface : Surface) : List Routine :=
  surface.methods.map .calling ++ surface.streams.map .opening ++ surface.prebuild.map .building ++
    (surface.facades.flatMap Facade.methods).filterMap fun entry =>
      (surface.method? entry.target).map (.forwarding surface entry)

/-- The functions of both peers. -/
def Compiled.routines (compiled : Compiled) : List Routine :=
  [Peer.client, .server].flatMap fun peer =>
    (compiled.dispatch peer).handlers.map .handling ++ (compiled.surface peer).routines

/-- An opener takes the arguments of its operation. -/
theorem Generated.params_opener (entry : Generated) {opener : StreamOpener}
    (h : entry.opener? = some opener) : opener.params = entry.operation.params := by
  unfold opener? at h
  split at h
  · cases h
  · rw [Option.ite_none_right_eq_some, Option.some_inj] at h
    rw [← h.2]

namespace Compiled

variable {c : Contract} {options : Options} {compiled : Compiled}

/-- Where a function comes from. -/
theorem mem_routines {routine : Routine} (h : routine ∈ compiled.routines) :
    ∃ peer, match routine with
      | .handling handler => handler ∈ (compiled.dispatch peer).handlers
      | .calling stub => stub ∈ (compiled.surface peer).methods
      | .forwarding surface entry target =>
        surface = compiled.surface peer ∧ surface.method? entry.target = some target
      | .opening opener => opener ∈ (compiled.surface peer).streams
      | .building helper => helper ∈ (compiled.surface peer).prebuild := by
  obtain ⟨peer, -, hpeer⟩ := List.mem_flatMap.1 h
  refine ⟨peer, ?_⟩
  simp only [Surface.routines, List.mem_append, List.mem_map, List.mem_filterMap,
    Option.map_eq_some_iff] at hpeer
  obtain ⟨_, hfrom, rfl⟩ | ((⟨_, hfrom, rfl⟩ | ⟨_, hfrom, rfl⟩) | ⟨_, hfrom, rfl⟩) |
    ⟨_, -, _, hfrom, rfl⟩ := hpeer
  · exact hfrom
  · exact hfrom
  · exact hfrom
  · exact hfrom
  · exact ⟨rfl, hfrom⟩

/-- The stubs of a placed operation take its arguments. -/
theorem params_placed (h : c.compile options = .ok compiled) {p : Placement}
    (hp : p ∈ compiled.placements) {peer : Peer} {stub : Stub}
    (hstub : stub ∈ (compiled.surface peer).methods) (hindex : stub.operation = p.candidate.index)
    (hprebuilt : stub.prebuilt = false) : stub.params = p.candidate.operation.params := by
  have hmem : stub ∈ (compiled.surface peer).methodsFor p.candidate.index :=
    List.mem_filter.2 ⟨hstub, decide_eq_true hindex⟩
  rw [methodsFor_placed h hp, List.mem_ite_nil_right] at hmem
  obtain ⟨base, prebuilt, hnamed⟩ := p.generated.mem_stubsNamed hmem.2
  obtain ⟨style, -, rfl⟩ := List.mem_map.1 hnamed
  exact if_neg (by simpa using hprebuilt)

/-- The functions of a placed operation take its arguments. -/
theorem takesArguments (h : c.compile options = .ok compiled) {p : Placement}
    (hp : p ∈ compiled.placements) {routine : Routine} (hmem : routine ∈ compiled.routines)
    (hindex : routine.operation = p.candidate.index) :
    routine.TakesArguments p.candidate.operation := by
  obtain ⟨peer, hfrom⟩ := mem_routines hmem
  cases routine with
  | handling handler =>
      have hplaced : handler ∈ (compiled.dispatch peer).handlers.filter fun handler =>
          handler.operation = p.candidate.index :=
        List.mem_filter.2 ⟨hfrom, decide_eq_true hindex⟩
      rw [handlers_placed h hp, List.mem_ite_nil_right, List.mem_singleton] at hplaced
      rw [hplaced.2]
      rfl
  | calling stub => exact params_placed h hp hfrom hindex
  | forwarding surface entry target =>
      obtain ⟨rfl, htarget⟩ := hfrom
      exact params_placed h hp (List.mem_of_find?_eq_some htarget) hindex
  | opening opener =>
      have hplaced : opener ∈ (compiled.surface peer).streams.filter fun opener =>
          opener.operation = p.candidate.index :=
        List.mem_filter.2 ⟨hfrom, decide_eq_true hindex⟩
      rw [openers_placed h hp, List.mem_ite_nil_right, Option.mem_toList] at hplaced
      exact p.generated.params_opener hplaced.2
  | building helper =>
      have hplaced : helper ∈ (compiled.surface peer).prebuild.filter fun helper =>
          helper.operation = p.candidate.index :=
        List.mem_filter.2 ⟨hfrom, decide_eq_true hindex⟩
      rw [prebuild_placed h hp, List.mem_ite_nil_right, Option.mem_toList,
        Generated.prebuildHelper?, Option.ite_none_right_eq_some, Option.some_inj] at hplaced
      rw [← hplaced.2.2]
      rfl

end Compiled

namespace Source

/-- What is written for a function. -/
def routineCode? (s : Source) : Routine → Option (List Code)
  | .handling handler => some (s.handlerMethod handler)
  | .calling stub => some (s.stubMethod stub)
  | .forwarding surface entry _ => s.facadeMethod surface entry
  | .opening opener => some (s.openerMethod opener)
  | .building helper => some (s.prebuildFunction helper)

/-- A function that calls an operation like a stub does, in its parts. -/
def callParts (s : Source) (stub : Stub) (docs : List Code) (name : String) (body : List Code) :
    FunctionParts where
  docs := docs
  lead := "pub " ++ (if stub.returns.isAwaitable then "async " else "") ++ "fn " ++ name
  receiver := true
  binders := s.stubBinders stub
  result := " -> " ++ stub.returns.spelling
  body := some body

/-- A function in its parts. -/
def partsOf (s : Source) : Routine → FunctionParts
  | .handling handler =>
    { docs := Code.docOf handler.doc
      lead := "fn " ++ handler.name
      receiver := true
      binders := s.handlerBinders handler
      result := " -> impl ::std::future::Future<Output = " ++ s.handlerOutput handler ++ "> + Send"
      body := none }
  | .calling stub => s.callParts stub (Code.docOf stub.doc) stub.name (s.stubBody stub)
  | .forwarding _ entry target =>
    s.callParts target [] entry.name
      [.line ("self.0." ++ entry.target ++ "(" ++ forwarded (s.stubBinders target) ++ ")" ++
        if target.returns.isAwaitable then ".await" else "")]
  | .opening opener =>
    { docs := Code.docOf opener.doc
      lead := "pub async fn " ++ opener.name
      receiver := true
      binders := opener.params.map Param.binder ++ [⟨"window_size", "u32"⟩]
      result := " -> Result<" ++ s.inRuntime "StreamCall<'_, C, " ++ s.wiringName opener ++
        ">, CallError>"
      body := some
        [.line "let call_id = self.channel.next_call_id();",
          .line ("let request = " ++ (s.openingLiteral opener.request opener.params).text ++ ";"),
          .line (s.inRuntime "StreamCall::open(&self.channel, self.serializer, call_id, " ++
            "request.into(), window_size).await")] }
  | .building helper =>
    { docs := [.doc ("Serializes a `" ++ s.nodeName helper.message ++ "` once with `" ++
        helper.serializer.identity ++ "`, for repeated sends.")]
      lead := "pub fn " ++ helper.name
      receiver := false
      binders := helper.params.map Param.binder
      result := " -> Result<" ++ s.inRuntime "Prebuilt<" ++ s.nodeName helper.message ++ ">, " ++
        s.inRuntime "EncodeError>"
      body := some
        [.line (s.inRuntime "Prebuilt::encode(SerializerKind::" ++ helper.serializer.typeName ++
          ", " ++ (s.oneWayLiteral helper.message helper.params).text ++ ")")] }

variable {s : Source}

/-- The parts of the signature of a call are its header. -/
theorem signature_callParts (stub : Stub) (docs : List Code) (name : String) (body : List Code) :
    (s.callParts stub docs name body).signature = s.stubHeader stub name := by
  rw [← String.toList_inj]
  simp [FunctionParts.signature, callParts, stubHeader, methodParams]

/-- The parts of a function together are what is written. -/
theorem code_partsOf {compiled : Compiled} {routine : Routine} (h : routine ∈ compiled.routines) :
    s.routineCode? routine = some (s.partsOf routine).code := by
  cases routine with
  | handling handler =>
      have hsignature : (s.partsOf (.handling handler)).signature ++ ";" =
          "fn " ++ handler.name ++ "(" ++ methodParams (s.handlerBinders handler) ++
            ") -> impl ::std::future::Future<Output = " ++ s.handlerOutput handler ++
            "> + Send;" := by
        rw [← String.toList_inj]
        simp [FunctionParts.signature, partsOf, methodParams]
      simp only [routineCode?, handlerMethod]
      rw [← hsignature]
      rfl
  | calling stub =>
      simp only [routineCode?, stubMethod]
      rw [← signature_callParts]
      rfl
  | forwarding surface entry target =>
      obtain ⟨peer, -, htarget⟩ := Compiled.mem_routines h
      simp only [routineCode?, facadeMethod, htarget, Option.map_some]
      rw [← signature_callParts]
      rfl
  | opening opener =>
      have hsignature : (s.partsOf (.opening opener)).signature =
          "pub async fn " ++ opener.name ++ "(" ++
            methodParams (opener.params.map Param.binder ++ [⟨"window_size", "u32"⟩]) ++
            ") -> Result<" ++ s.inRuntime "StreamCall<'_, C, " ++ s.wiringName opener ++
            ">, CallError>" := by
        rw [← String.toList_inj]
        simp [FunctionParts.signature, partsOf, methodParams]
      simp only [routineCode?, openerMethod]
      rw [← hsignature]
      rfl
  | building helper =>
      have hsignature : (s.partsOf (.building helper)).signature =
          "pub fn " ++ helper.name ++ "(" ++
            commaList (helper.params.map fun param => param.binder.text) ++ ") -> Result<" ++
            s.inRuntime "Prebuilt<" ++ s.nodeName helper.message ++ ">, " ++
            s.inRuntime "EncodeError>" := by
        rw [← String.toList_inj]
        simp [FunctionParts.signature, partsOf, Function.comp_def]
      simp only [routineCode?, prebuildFunction]
      rw [← hsignature]
      rfl

/-! ## Scopes -/

/-- What an asynchronous stub does declares two variables if it sends a request, and none
otherwise. -/
theorem letNames_sendBody (s : Source) (stub : Stub) :
    letNames (s.sendBody stub) = [] ∨ letNames (s.sendBody stub) = ["call_id", "request"] := by
  unfold sendBody
  split
  · exact .inl rfl
  split
  · exact .inl (letNames_line (letName?_of_head (c := 's') (by simp) (by decide)))
  split
  · exact .inr (letNames_request _ rfl)
  · exact .inl rfl

/-- So does every stub, since one that forwards declares none. -/
theorem letNames_stubBody (hs : s.PlainRuntime) (stub : Stub) :
    letNames (s.stubBody stub) = [] ∨ letNames (s.stubBody stub) = ["call_id", "request"] := by
  unfold stubBody
  simp only
  split
  · refine .inl (letNames_line ?_)
    simpa only [String.append_assoc] using hs.letName? "block_on(self." _
  · exact .inl (letNames_line (letName?_of_head (c := 'O') (by simp) (by decide)))
  · exact .inl (letNames_line (letName?_of_head (c := 'O') (by simp) (by decide)))
  · exact s.letNames_sendBody stub

/-- The parameters of a function are bound under their identifiers. -/
theorem names_binders (params : List Param) :
    (params.map Param.binder).map Binder.name = params.map Param.ident := by
  rw [List.map_map]
  rfl

/-- A function that calls an operation and declares no variables other than those of a request. -/
theorem nodup_scope_callParts {op : Operation} (hop : op.WellFormed) {stub : Stub}
    (hparams : stub.prebuilt = false → stub.params = op.params) (docs : List Code) (name : String)
    {body : List Code} (hbody : letNames body = [] ∨ letNames body = ["call_id", "request"]) :
    (s.callParts stub docs name body).scope.Nodup := by
  have hscope : (s.callParts stub docs name body).scope =
      ["self"] ++ (s.stubBinders stub).map Binder.name ++ letNames body := rfl
  rw [hscope]
  cases hprebuilt : stub.prebuilt with
  | true =>
      have hnames : (s.stubBinders stub).map Binder.name = ["message"] := by
        simp [stubBinders, hprebuilt]
      rcases hbody with hbody | hbody
      · rw [hnames, hbody]
        decide
      · rw [hnames, hbody]
        decide
  | false =>
      have hnames : (s.stubBinders stub).map Binder.name = op.params.map Param.ident := by
        simp only [stubBinders, hprebuilt, Bool.false_eq_true, if_false, names_binders,
          hparams hprebuilt]
      rcases hbody with hbody | hbody
      · rw [hnames, hbody]
        exact hop.nodup_scope (by decide) (by decide)
      · rw [hnames, hbody]
        exact hop.nodup_scope (by decide) (by decide)

/-- No name is bound twice in a function that takes the arguments of a well-formed operation. -/
theorem nodup_scope {op : Operation} (hop : op.WellFormed) (hs : s.PlainRuntime)
    {routine : Routine} (htakes : routine.TakesArguments op) : (s.partsOf routine).scope.Nodup := by
  cases routine with
  | handling handler =>
      have hscope : (s.partsOf (.handling handler)).scope =
          ["self"] ++ (if handler.oneWay then [] else ["call"]) ++ op.params.map Param.ident ++
            [] := by
        rw [← (show handler.params = op.params from htakes), ← names_binders]
        cases hway : handler.oneWay <;>
          simp [FunctionParts.scope, FunctionParts.locals, letNames, partsOf, handlerBinders, hway]
      rw [hscope]
      cases handler.oneWay with
      | false => exact hop.nodup_scope (by decide) (by decide)
      | true => exact hop.nodup_scope (by decide) (by decide)
  | calling stub => exact nodup_scope_callParts hop htakes _ _ (letNames_stubBody hs stub)
  | forwarding surface entry target =>
      refine nodup_scope_callParts hop htakes _ _ (.inl (letNames_line ?_))
      exact letName?_of_head (c := 's') (by simp) (by decide)
  | opening opener =>
      have hlocals : (s.partsOf (.opening opener)).locals = ["call_id", "request"] :=
        letNames_request _ (hs.letName? ..)
      have hscope : (s.partsOf (.opening opener)).scope =
          ["self"] ++ op.params.map Param.ident ++ ["window_size", "call_id", "request"] := by
        rw [← (show opener.params = op.params from htakes), ← names_binders, FunctionParts.scope,
          hlocals]
        simp [partsOf]
      rw [hscope]
      exact hop.nodup_scope (by decide) (by decide)
  | building helper =>
      have hlocals : (s.partsOf (.building helper)).locals = [] := by
        refine letNames_line ?_
        simpa only [String.append_assoc] using hs.letName? "Prebuilt::encode(SerializerKind::" _
      have hscope : (s.partsOf (.building helper)).scope =
          [] ++ op.params.map Param.ident ++ [] := by
        rw [← (show helper.params = op.params from htakes), ← names_binders, FunctionParts.scope,
          hlocals]
        rfl
      rw [hscope]
      exact hop.nodup_scope (by decide) (by decide)

/-- **Arguments stand apart.**  The identifiers of the arguments of a generated operation differ
from each other and from all names around them.  In every function that takes the arguments, as it
is written, the receiver, the parameters and the declared variables have different names. -/
theorem arguments_apart {c : Contract} {options : Options} (h : c.compile options = .ok s.compiled)
    {index : Nat} {op : Operation} (hop : (index, op) ∈ s.compiled.generatedOperations) :
    (op.params.map Param.ident).Nodup ∧
    (∀ param ∈ op.params, param.ident ∉ surroundingNames) ∧
    (s.PlainRuntime → ∀ routine ∈ s.compiled.routines, routine.operation = index →
      s.routineCode? routine = some (s.partsOf routine).code ∧
      (s.partsOf routine).scope.Nodup) := by
  rw [Compiled.generatedOperations_eq h] at hop
  obtain ⟨p, hp, hpair⟩ := List.mem_map.1 hop
  obtain ⟨rfl, rfl⟩ := Prod.mk.inj hpair
  have hwell := Compiled.wellFormed h hp
  refine ⟨hwell.idents, fun param hparam => Operation.ident_notMem_surroundingNames hparam, ?_⟩
  intro hs routine hroutine hindex
  exact ⟨code_partsOf hroutine, nodup_scope hwell hs (Compiled.takesArguments h hp hroutine hindex)⟩

end Source

/-- Arguments declared under the name of another argument's member, under no name in two ways, and
under a reserved name.  In the second operation a reserved name is given up for that of a member
under which the next argument is declared. -/
def Contract.imitating : Contract :=
  .sample "Imitating"
    [{ name := "Send", kind := ⟨.oneWay, .toServer⟩, prebuild := true
       arguments := [⟨.primitive .u32, some "arg5"⟩, ⟨.primitive .u32, some ""⟩,
         ⟨.primitive .u32, some "--"⟩, ⟨.primitive .u32, some "Call-ID"⟩,
         ⟨.primitive .u32, some "to"⟩] },
     { name := "Meet", kind := ⟨.oneWay, .toServer⟩
       arguments := [⟨.primitive .u32, some "self"⟩, ⟨.primitive .u32, some "arg1"⟩] }]

/-- The arguments of `Contract.imitating` that are generated stand apart in 16 functions. -/
theorem Source.imitating_arguments_apart :
    ∃ (s : Source) (op : Operation), Contract.imitating.compile {} = .ok s.compiled ∧
      s.compiled.generatedOperations = [(0, op)] ∧ s.PlainRuntime ∧
      op.params.map Param.ident = ["arg5", "arg2", "arg3", "arg4", "to"] ∧
      (∀ param ∈ op.params, param.ident ∉ surroundingNames) ∧
      (s.compiled.routines.filter fun routine => routine.operation = 0).length = 16 ∧
      ∀ routine ∈ s.compiled.routines, routine.operation = 0 →
        s.routineCode? routine = some (s.partsOf routine).code ∧
        (s.partsOf routine).scope.Nodup := by
  obtain ⟨compiled, h, hcheck⟩ := Contract.exists_compile Contract.imitating {}
    (fun compiled => (compiled.routines.filter fun routine => routine.operation = 0).length = 16 ∧
      ∃ entry ∈ compiled.generatedOperations, compiled.generatedOperations = [entry] ∧
        entry.1 = 0 ∧
        entry.2.params.map Param.ident = ["arg5", "arg2", "arg3", "arg4", "to"])
    (by decide +kernel)
  obtain ⟨hlength, ⟨index, op⟩, hop, hall, rfl, hidents⟩ := of_decide_eq_true hcheck
  have hplain : (Source.mk compiled false "::pact_runtime").PlainRuntime :=
    show ¬ "let ".toList <+: "::pact_runtime".toList by decide
  obtain ⟨-, hapart, hscopes⟩ :=
    arguments_apart (s := ⟨compiled, false, "::pact_runtime"⟩) h hop
  exact ⟨⟨compiled, false, "::pact_runtime"⟩, op, h, hall, hplain, hidents, hapart, hlength,
    hscopes hplain⟩

end ServiceContract
