import ServiceContract.Source.Module

/-!
# The types a module declares

A module is written in parts: sections, and code that is laid out by itself
(`Source.moduleItems_eq`).  A piece of code at the outermost level of a part declares a type if it
starts with one of three keywords; the types of a module are what these pieces declare.

Each kind of part is read once (the lemmas `typeHeaders_`), and `Source.typeHeaders_moduleCode` puts
them together: the declarations of a module are a known list of heads, each a keyword, a name and
what follows the name.
-/

namespace ServiceContract

/-- What a declaration of a type starts with. -/
def typeKeywords : List String := ["pub struct ", "pub enum ", "pub trait "]

/-- Does the text declare a type? -/
def declaresType (text : String) : Bool :=
  typeKeywords.any fun keyword => keyword.toList.isPrefixOf text.toList

/-- The head of the declaration of a type. -/
structure TypeHead where
  keyword : String
  name : String
  /-- What follows the name: parameters, or the end. -/
  rest : String := ""
  deriving DecidableEq, Repr

/-- The head as it is written. -/
def TypeHead.text (head : TypeHead) : String := head.keyword ++ head.name ++ head.rest

/-- Whatever follows a keyword, a type is declared. -/
theorem declaresType_keyword {keyword : String} (h : keyword ∈ typeKeywords) (rest : String) :
    declaresType (keyword ++ rest) = true := by
  refine List.any_eq_true.2 ⟨keyword, h, ?_⟩
  rw [String.toList_append, List.isPrefixOf_iff_prefix]
  exact List.prefix_append ..

/-- What the other pieces of a module start with. -/
def otherLeads : List String :=
  ["impl ", "impl From<", "impl<C> ", "impl<H> ", "pub fn ", "where H: ", Code.indentUnit]

/-- A text that starts otherwise declares nothing, since the start and a keyword differ before
either ends. -/
theorem declaresType_lead {lead : String} (h : lead ∈ otherLeads) (rest : String) :
    declaresType (lead ++ rest) = false := by
  have hapart : ∀ lead ∈ otherLeads, ∀ keyword ∈ typeKeywords,
      ¬ keyword.toList <+: lead.toList ∧ ¬ lead.toList <+: keyword.toList := by
    decide +kernel
  refine List.any_eq_false.2 fun keyword hkeyword hprefix => ?_
  obtain ⟨hlead, hkey⟩ := hapart lead h keyword hkeyword
  rw [List.isPrefixOf_iff_prefix, String.toList_append] at hprefix
  rcases List.prefix_or_prefix_of_prefix hprefix (List.prefix_append ..) with hle | hle
  · exact hlead hle
  · exact hkey hle

/-- The fixed lines that declare nothing. -/
theorem declaresType_others : declaresType "" = false ∧ declaresType "where" = false ∧
    declaresType "where Self: Send + Sync," = false ∧
    declaresType "pub mod message_key" = false := by
  decide +kernel

namespace Code

/-- What a piece of code declares, as it is written. -/
def typeHeader? : Code → Option String
  | line text => if declaresType text then some text else none
  | block header _ _ => if declaresType header then some header else none
  | blank => none
  | doc _ => none
  | attr _ => none

/-- What code declares at its outermost level. -/
def typeHeaders (code : List Code) : List String := code.filterMap typeHeader?

@[simp]
theorem typeHeaders_nil : typeHeaders [] = [] := rfl

/-- A piece of code declares at most one type at its outermost level. -/
@[simp]
theorem typeHeaders_cons (piece : Code) (rest : List Code) :
    typeHeaders (piece :: rest) = (typeHeader? piece).toList ++ typeHeaders rest := by
  cases hpiece : typeHeader? piece <;> simp [typeHeaders, hpiece]

/-- Code behind code declares what both declare. -/
theorem typeHeaders_append (xs ys : List Code) :
    typeHeaders (xs ++ ys) = typeHeaders xs ++ typeHeaders ys :=
  List.filterMap_append

/-- Code that is made in groups declares what each group declares. -/
theorem typeHeaders_flatMap {α : Type} (items : List α) (f : α → List Code) :
    typeHeaders (items.flatMap f) = items.flatMap fun item => typeHeaders (f item) :=
  List.filterMap_flatMap ..

/-- Empty lines before pieces declare nothing. -/
theorem typeHeaders_spaced (pieces : List (List Code)) :
    typeHeaders (spaced pieces) = pieces.flatMap typeHeaders := by
  rw [spaced, typeHeaders_flatMap]
  rfl

/-- What is read off pieces of code, if the empty lines between them show nothing. -/
theorem filterMap_separated {α : Type} {f : Code → Option α} (hblank : f blank = none)
    (pieces : List (List Code)) :
    (separated pieces).filterMap f = pieces.flatMap (List.filterMap f) := by
  induction pieces with
  | nil => rfl
  | cons piece rest ih =>
      cases rest with
      | nil => simp [separated]
      | cons next rest =>
          have hcons : separated (piece :: next :: rest) =
              piece ++ blank :: separated (next :: rest) := by
            simp [separated, List.intercalate]
          rw [hcons, List.filterMap_append, List.flatMap_cons, ← ih,
            List.filterMap_cons_none hblank]

theorem typeHeaders_separated (pieces : List (List Code)) :
    typeHeaders (separated pieces) = pieces.flatMap typeHeaders :=
  filterMap_separated rfl pieces

end Code

namespace Source

open Code

variable (s : Source)

/-! ## The parts -/

/-- A part of a module: a section, or code that is laid out by itself. -/
structure Part where
  code : List Code
  alone : Bool := false
  deriving Repr

/-- A part as items of the module. -/
def Part.items (part : Part) : List Item :=
  if part.alone then [.code part.code] else moduleSection part.code

/-- The plans that are written: the server's, and the client's if it handles anything. -/
def plans : List DispatchPlan :=
  s.compiled.serverDispatch ::
    if s.compiled.callbackDispatch.isEmpty then [] else [s.compiled.callbackDispatch]

/-- The surfaces that are written: that of the client, and that of the server if it calls
anything. -/
def surfaces : List Surface :=
  s.compiled.client :: if s.compiled.callbackProxy.isEmpty then [] else [s.compiled.callbackProxy]

/-- The parts of a plan. -/
def planParts (plan : DispatchPlan) : List Part :=
  [⟨s.inboundType plan, false⟩, ⟨s.handlerTrait plan, true⟩, ⟨dispatcherType plan, false⟩,
    ⟨s.dispatcherImpl plan, true⟩]

/-- The parts of the module. -/
def parts : List Part :=
  [⟨s.messageKeys, false⟩, ⟨s.messageTypes, false⟩, ⟨s.faultUnions, false⟩,
    ⟨s.messageBaseUnion, false⟩] ++
    s.plans.flatMap s.planParts ++
    (s.surfaces.map fun surface => ⟨s.surface surface, false⟩) ++
    [⟨s.prebuildFunctions, false⟩, ⟨s.serializers, false⟩]

/-- The code of the module, without its header and its imports. -/
def moduleCode : List Code := s.parts.flatMap Part.code

/-- What stands before the parts of a module. -/
def moduleLead : List Item :=
  [.raw "// @generated by pact-codegen", .raw "// DO NOT EDIT - regenerate with build.rs\n",
    .raw s.moduleHeader] ++ s.imports

/-- A module is written part by part. -/
theorem moduleItems_eq :
    s.moduleItems = s.moduleLead ++ s.parts.flatMap Part.items ++ [.raw "\x7d"] := by
  cases hplan : s.compiled.callbackDispatch.isEmpty <;>
    cases hsurface : s.compiled.callbackProxy.isEmpty <;>
    simp [moduleItems, moduleLead, parts, plans, surfaces, planParts, Part.items, dispatchItems,
      hplan, hsurface]

/-! ## Their declarations -/

/-- The declarations of the types of the catalog: one for each node that is no marker, and one for
each union. -/
def catalogHeads : List TypeHead :=
  ((s.catalog.nodes.filter fun node => !node.role.isMarker).map fun node =>
      ⟨"pub struct ", node.name, ""⟩) ++
    (s.unions?.toList.flatMap fun adapter =>
      (adapter.faultUnions ++ [adapter.messageUnion]).map fun union =>
        ⟨"pub enum ", union.name, ""⟩)

/-- The declarations of a plan. -/
def planHeads (plan : DispatchPlan) : List TypeHead :=
  [⟨"pub enum ", plan.inbound, ""⟩, ⟨"pub trait ", plan.handlerTrait, ""⟩,
    ⟨"pub struct ", plan.dispatcher, "<H>"⟩]

/-- The declarations of a surface. -/
def surfaceHeads (surface : Surface) : List TypeHead :=
  (surface.streams.map fun opener => ⟨"pub struct ", s.wiringName opener, ";"⟩) ++
    ⟨"pub struct ", surface.name, "<C>"⟩ ::
      surface.facades.map fun facade =>
        ⟨"pub struct ", facade.name, "<'a, C>(&'a " ++ surface.name ++ "<C>);"⟩

/-- The declarations of the serializers. -/
def serializerHeads : List TypeHead :=
  (s.compiled.binding.adapters.map fun adapter => ⟨"pub struct ", adapter.name, ";"⟩) ++
    [⟨"pub struct ", s.compiled.binding.chooser.name, ";"⟩]

/-- Every declaration of a type in the module. -/
def typeHeads : List TypeHead :=
  s.catalogHeads ++ s.plans.flatMap planHeads ++ s.surfaces.flatMap s.surfaceHeads ++
    s.serializerHeads

/-- The key table is a module of constants, not a type. -/
theorem typeHeaders_messageKeys : typeHeaders s.messageKeys = [] := by
  simp [messageKeys, typeHeader?, declaresType_others]

/-- A node is a structure of its own name. -/
theorem typeHeaders_messageType (node : Node) :
    typeHeaders (s.messageType node) = ["pub struct " ++ node.name] := by
  simp (disch := decide) [messageType, typeHeader?, dataAttribute, declaresType_keyword,
    declaresType_lead]

theorem typeHeaders_unionHead (union : Union) : typeHeaders (s.unionHead union) = [] := by
  cases hdoc : (s.catalog.get? union.root).bind Node.doc <;>
    simp [unionHead, docOf, hdoc, typeHeader?, dataAttribute]

/-- The union of fault carriers is an enumeration. -/
theorem typeHeaders_faultUnion (union : Union) :
    typeHeaders (s.faultUnion union) = ["pub enum " ++ union.name] := by
  rw [faultUnion, typeHeaders_append, typeHeaders_unionHead]
  simp (disch := decide) [typeHeader?, declaresType_keyword, declaresType_lead]

theorem typeHeaders_messageUnion (union : Union) :
    typeHeaders (s.messageUnion union) = ["pub enum " ++ union.name] := by
  rw [messageUnion, typeHeaders_append, typeHeaders_append, typeHeaders_unionHead,
    typeHeaders_spaced]
  simp (disch := decide) [typeHeader?, declaresType_keyword, declaresType_lead,
    String.append_assoc]

/-- What a dispatcher receives is an enumeration. -/
theorem typeHeaders_inboundType (plan : DispatchPlan) :
    typeHeaders (s.inboundType plan) = ["pub enum " ++ plan.inbound] := by
  simp (disch := decide) [inboundType, typeHeader?, declaresType_keyword, declaresType_lead]

/-- The handler is a trait. -/
theorem typeHeaders_handlerTrait (plan : DispatchPlan) :
    typeHeaders (s.handlerTrait plan) = ["pub trait " ++ plan.handlerTrait] := by
  simp (disch := decide) [handlerTrait, typeHeader?, declaresType_keyword, declaresType_others]

/-- The dispatcher is a structure over its handler. -/
theorem typeHeaders_dispatcherType (plan : DispatchPlan) :
    typeHeaders (dispatcherType plan) = ["pub struct " ++ plan.dispatcher ++ "<H>"] := by
  simp (disch := decide) [dispatcherType, typeHeader?, declaresType_keyword, String.append_assoc]

theorem typeHeaders_dispatcherImpl (plan : DispatchPlan) :
    typeHeaders (s.dispatcherImpl plan) = [] := by
  simp (disch := decide) [dispatcherImpl, typeHeader?, declaresType_lead, declaresType_others,
    String.append_assoc]

theorem typeHeaders_channelBound : typeHeaders s.channelBound = [] := by
  simp (disch := decide) [channelBound, typeHeader?, declaresType_others, declaresType_lead,
    String.append_assoc]

/-- The wiring of a stream is a structure of its own. -/
theorem typeHeaders_wiring (opener : StreamOpener) :
    typeHeaders (s.wiring opener) = ["pub struct " ++ s.wiringName opener ++ ";"] := by
  simp (disch := decide) [wiring, typeHeader?, declaresType_keyword, declaresType_lead,
    String.append_assoc]

/-- A facade is a structure that borrows its surface. -/
theorem typeHeaders_facade (surface : Surface) (facade : Facade) :
    typeHeaders (s.facade surface facade) =
      ["pub struct " ++ facade.name ++ "<'a, C>(&'a " ++ surface.name ++ "<C>);"] := by
  rw [Source.facade, typeHeaders_append, typeHeaders_append, typeHeaders_channelBound]
  simp (disch := decide) [typeHeader?, declaresType_keyword, declaresType_lead,
    declaresType_others, String.append_assoc]

/-- A function that builds messages ahead of time declares no type. -/
theorem typeHeaders_prebuildFunction (helper : PrebuildHelper) :
    typeHeaders (s.prebuildFunction helper) = [] := by
  simp (disch := decide) [prebuildFunction, typeHeader?, declaresType_lead, String.append_assoc]

/-- An adapter is a structure without members. -/
theorem typeHeaders_adapter (adapter : Adapter) :
    typeHeaders (s.adapter adapter) = ["pub struct " ++ adapter.name ++ ";"] := by
  simp (disch := decide) [Source.adapter, typeHeader?, declaresType_keyword, declaresType_lead,
    String.append_assoc]

theorem typeHeaders_chooser (binding : Binding) :
    typeHeaders (s.chooser binding) = ["pub struct " ++ binding.chooser.name ++ ";"] := by
  simp (disch := decide) [Source.chooser, typeHeader?, declaresType_keyword, declaresType_lead,
    String.append_assoc]

/-- What the catalog declares. -/
theorem typeHeaders_catalog :
    typeHeaders s.messageTypes ++ typeHeaders s.faultUnions ++ typeHeaders s.messageBaseUnion =
      s.catalogHeads.map TypeHead.text := by
  have htypes : typeHeaders s.messageTypes =
      (s.catalog.nodes.filter fun node => !node.role.isMarker).map fun node =>
        "pub struct " ++ node.name := by
    rw [messageTypes, typeHeaders_separated, List.flatMap_map]
    simp only [typeHeaders_messageType]
    rw [List.map_eq_flatMap]
  cases hunions : s.unions? with
  | none => simp [htypes, faultUnions, messageBaseUnion, hunions, catalogHeads, TypeHead.text]
  | some adapter =>
      have hfaults : typeHeaders (separated (adapter.faultUnions.map s.faultUnion)) =
          adapter.faultUnions.map fun union => "pub enum " ++ union.name := by
        rw [typeHeaders_separated, List.flatMap_map]
        simp only [typeHeaders_faultUnion]
        rw [List.map_eq_flatMap]
      simp [htypes, faultUnions, messageBaseUnion, hunions, hfaults, typeHeaders_messageUnion,
        catalogHeads, TypeHead.text, Function.comp_def]

/-- What a plan declares. -/
theorem typeHeaders_planParts (plan : DispatchPlan) :
    ((s.planParts plan).flatMap fun part => typeHeaders part.code) =
      (planHeads plan).map TypeHead.text := by
  simp [planParts, typeHeaders_inboundType, typeHeaders_handlerTrait, typeHeaders_dispatcherType,
    typeHeaders_dispatcherImpl, planHeads, TypeHead.text]

/-- What a surface declares. -/
theorem typeHeaders_surface (surface : Surface) :
    typeHeaders (s.surface surface) = (s.surfaceHeads surface).map TypeHead.text := by
  have hstreams : typeHeaders (surface.streams.flatMap fun opener => s.wiring opener ++ [.blank]) =
      surface.streams.map fun opener => "pub struct " ++ s.wiringName opener ++ ";" := by
    rw [typeHeaders_flatMap, List.map_eq_flatMap]
    simp [typeHeaders_append, typeHeaders_wiring, typeHeader?]
  have hfacades : typeHeaders (spaced (surface.facades.map (s.facade surface))) =
      surface.facades.map fun facade =>
        "pub struct " ++ facade.name ++ "<'a, C>(&'a " ++ surface.name ++ "<C>);" := by
    rw [typeHeaders_spaced, List.flatMap_map, List.map_eq_flatMap]
    simp only [typeHeaders_facade]
  rw [Source.surface, typeHeaders_append, typeHeaders_append, typeHeaders_append,
    typeHeaders_append, hstreams, hfacades, typeHeaders_channelBound]
  simp (disch := decide) [typeHeader?, declaresType_keyword, declaresType_lead, declaresType_others,
    String.append_assoc, surfaceHeads, TypeHead.text, Function.comp_def]

/-- No function that builds messages ahead of time declares a type. -/
theorem typeHeaders_prebuildFunctions : typeHeaders s.prebuildFunctions = [] := by
  rw [prebuildFunctions, typeHeaders_separated, List.flatMap_map]
  simp [typeHeaders_prebuildFunction]

/-- What the serializers declare. -/
theorem typeHeaders_serializers :
    typeHeaders s.serializers = s.serializerHeads.map TypeHead.text := by
  rw [serializers, typeHeaders_append, typeHeaders_flatMap, typeHeaders_chooser, serializerHeads,
    List.map_append, List.map_map, List.map_eq_flatMap]
  simp [typeHeaders_append, typeHeaders_adapter, typeHeader?, TypeHead.text]

/-- **Declarations.**  The types that the code of a module declares, in the order of the module. -/
theorem typeHeaders_moduleCode :
    typeHeaders s.moduleCode = s.typeHeads.map TypeHead.text := by
  have hplans : ((s.plans.flatMap s.planParts).flatMap fun part => typeHeaders part.code) =
      (s.plans.flatMap planHeads).map TypeHead.text := by
    rw [List.flatMap_assoc, List.map_flatMap]
    simp only [typeHeaders_planParts]
  have hsurfaces : (s.surfaces.flatMap fun surface => typeHeaders (s.surface surface)) =
      (s.surfaces.flatMap s.surfaceHeads).map TypeHead.text := by
    rw [List.map_flatMap]
    simp only [typeHeaders_surface]
  rw [moduleCode, typeHeaders_flatMap, parts]
  simp only [List.flatMap_append, List.flatMap_cons, List.flatMap_nil, List.append_nil,
    List.flatMap_map, hplans, hsurfaces, typeHeaders_messageKeys, List.nil_append,
    typeHeaders_prebuildFunctions, typeHeaders_serializers]
  simp only [typeHeads, List.map_append, ← typeHeaders_catalog, List.append_assoc]

end Source

end ServiceContract
