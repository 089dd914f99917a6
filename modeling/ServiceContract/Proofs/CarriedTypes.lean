import ServiceContract.Proofs.References

/-!
# Every generated type can be carried

A declared type that no message can carry keeps its operation from being generated.  The check reads
the declaration; the catalog, the surfaces and the plans copy types from it on their own, some of
them inside a list or behind a return shape.  Each part of a compiled contract has a function that
lists the types it holds, and every one of them is a declared type, a page of declared items, or a
type of a system message.

`DataType.Occurs` says where the parts of a type are without searching for them.  The main statement
is `Compiled.no_unsupported_type`.
-/

namespace ServiceContract

/-! ## Parts of a type -/

namespace DataType

/-- The first type stands somewhere inside the second, or is it. -/
inductive Occurs (part : DataType) : DataType → Prop
  | here : Occurs part part
  | list {element} : Occurs part element → Occurs part (.list element)
  | option {inner} : Occurs part inner → Occurs part (.option inner)
  | set {element} : Occurs part element → Occurs part (.set element)
  | array {element length} : Occurs part element → Occurs part (.array element length)
  | key {key value} : Occurs part key → Occurs part (.map key value)
  | value {key value} : Occurs part value → Occurs part (.map key value)
  | tuple {element elements} : element ∈ elements → Occurs part element →
      Occurs part (.tuple elements)

/-- One unsupported type is enough for the search through several to find something. -/
theorem firstUnsupportedOf_isSome {element : DataType} {elements : List DataType}
    (hmem : element ∈ elements) (h : element.firstUnsupported.isSome = true) :
    (firstUnsupportedOf elements).isSome = true := by
  induction elements with
  | nil => cases hmem
  | cons first rest ih =>
      rw [firstUnsupportedOf, Option.isSome_or, Bool.or_eq_true]
      rcases List.mem_cons.1 hmem with rfl | hmem
      · exact .inl h
      · exact .inr (ih hmem)

/-- **The search is complete.**  It finds something in every type in which an unsupported type
occurs, however deep. -/
theorem firstUnsupported_isSome {what : String} {type : DataType}
    (h : (unsupported what).Occurs type) : type.firstUnsupported.isSome = true := by
  induction h with
  | here => rfl
  | list _ ih => exact ih
  | option _ ih => exact ih
  | set _ ih => exact ih
  | array _ ih => exact ih
  | key _ ih => rw [firstUnsupported, Option.isSome_or, ih, Bool.true_or]
  | value _ ih => rw [firstUnsupported, Option.isSome_or, ih, Bool.or_true]
  | tuple hmem _ ih => exact firstUnsupportedOf_isSome hmem ih

end DataType

/-! ## Which types there are -/

/-- The declared type of a field. -/
def FieldType.type? : FieldType → Option DataType
  | declared type => some type
  | _ => none

/-- The types of what a call hands back. -/
def ReturnShape.types : ReturnShape → List DataType
  | unit => []
  | value type => [type]
  | outcome type => type.toList
  | awaitable settled => settled.types

/-- The declared types of the fields of a node. -/
def Node.types (node : Node) : List DataType :=
  node.fields.filterMap fun field => field.type.type?

/-- The payloads of a fault set. -/
def FaultSet.types (set : FaultSet) : List DataType := set.carriers.map FaultCarrier.payload

/-- What a stub takes and hands back. -/
def Stub.types (stub : Stub) : List DataType := stub.params.map Param.type ++ stub.returns.types

/-- What an opener takes and hands back, and what its stream carries. -/
def StreamOpener.types (opener : StreamOpener) : List DataType :=
  opener.params.map Param.type ++ opener.result.toList ++ opener.inputItem.toList ++
    opener.outputItem.toList

/-- What is put into a message ahead of time. -/
def PrebuildHelper.types (helper : PrebuildHelper) : List DataType := helper.params.map Param.type

/-- What a handler takes and hands back, and what its stream carries. -/
def Handler.types (handler : Handler) : List DataType :=
  handler.params.map Param.type ++ handler.result.toList ++ handler.inputItem.toList ++
    handler.outputItem.toList

/-- The payload that a branch tests for. -/
def CatchBranch.types : CatchBranch → List DataType
  | custom _ payload _ => [payload]
  | _ => []

/-- The payloads that an arm tests for. -/
def Arm.types : Arm → List DataType
  | oneWay _ _ _ _ _ => []
  | request arm => arm.catchChain.flatMap CatchBranch.types

def Catalog.types (catalog : Catalog) : List DataType :=
  catalog.nodes.flatMap Node.types ++ catalog.faultSets.flatMap FaultSet.types

def Surface.types (surface : Surface) : List DataType :=
  surface.methods.flatMap Stub.types ++ surface.streams.flatMap StreamOpener.types ++
    surface.prebuild.flatMap PrebuildHelper.types

def DispatchPlan.types (plan : DispatchPlan) : List DataType :=
  plan.handlers.flatMap Handler.types ++ plan.arms.flatMap Arm.types

/-- Every type that stands in the catalog, the surfaces and the plans of a compiled contract. -/
def Compiled.types (compiled : Compiled) : List DataType :=
  compiled.catalog.types ++
    ([Peer.client, .server].flatMap fun peer => (compiled.surface peer).types) ++
    [Peer.client, .server].flatMap fun peer => (compiled.dispatch peer).types

/-- The declared types of an operation. -/
def Operation.types (op : Operation) : List DataType := op.declaredTypes.map Prod.snd

/-! ## Where they come from -/

namespace Operation

variable (op : Operation)

/-- The types of an operation, by where they are declared. -/
theorem types_eq :
    op.types = op.params.map Param.type ++ op.result.toList ++ op.inputStream.toList ++
      op.outputStream.toList ++ op.faults.map Fault.payload := by
  simp [types, declaredTypes, Function.comp_def]

/-- The types of the parameters are among them. -/
theorem params_subset_types : op.params.map Param.type ⊆ op.types := by
  intro type htype
  simp [types_eq, htype]

theorem result_subset_types : op.result.toList ⊆ op.types := by
  intro type htype
  simp [types_eq, htype]

/-- What goes into a carrier was declared. -/
theorem payload_mem_types {c : Contract} {index : Nat} {marker : NodeId} {carrier : FaultCarrier}
    (h : carrier ∈ (op.faultSet c index marker).carriers) : carrier.payload ∈ op.types := by
  obtain ⟨entry, hentry, rfl⟩ := exists_of_mem_carriers h
  have hpayload : entry.1.payload ∈ op.faults.map Fault.payload :=
    List.mem_map.2 ⟨entry.1, List.fst_mem_of_mem_zipIdx hentry, rfl⟩
  rw [types_eq]
  exact List.mem_append_right _ hpayload

/-- **What messages carry.**  The fields of the types of an operation have declared types, and pages
hold lists of them. -/
theorem types_of_mem_drafts {c : Contract} {index : Nat} {keys : OperationKeys} {first : NodeId} :
    ∀ draft ∈ op.drafts c index keys first,
      (draft.fields.filterMap fun field => field.type.type?) ⊆
        op.types ++ op.types.map DataType.list := by
  have hparams := List.Subset.trans op.params_subset_types
    (List.subset_append_left op.types (op.types.map .list))
  have hresult := List.Subset.trans op.result_subset_types
    (List.subset_append_left op.types (op.types.map .list))
  have hpage : ∀ item ∈ op.types, [DataType.list item] ⊆ op.types ++ op.types.map .list := by
    intro item hitem
    simp [hitem]
  apply forall_mem_drafts
  case oneWay =>
    intro key _
    have hfields : ((op.oneWayDraft c index key).fields.filterMap fun field => field.type.type?) =
        op.params.map Param.type := by
      simp [oneWayDraft, argumentFields, FieldType.type?]
    exact hfields ▸ hparams
  case request =>
    intro key
    have hfields : ((op.requestDraft c index key).fields.filterMap fun field => field.type.type?) =
        op.params.map Param.type := by
      cases hstream : op.isStreaming <;>
        simp [requestDraft, argumentFields, callIdField, FieldType.type?, hstream]
    exact hfields ▸ hparams
  case response =>
    intro key
    have hfields : ((op.responseDraft c index key).fields.filterMap fun field => field.type.type?) =
        op.result.toList := by
      cases hresult : op.result <;>
        simp [responseDraft, resultFields, resultParam, hresult, callIdField, FieldType.type?,
          Param.result]
    exact hfields ▸ hresult
  case marker => exact fun _ _ _ => List.nil_subset _
  case carrier =>
    intro call _ fault hfault
    have hpayload : fault.payload ∈ op.types := by
      rw [types_eq]
      exact List.mem_append_right _ (List.mem_map_of_mem hfault)
    simp [carrierDraft, FieldType.type?, hpayload]
  case fault =>
    intro call _
    simp [faultDraft, callIdField, FieldType.type?]
  case inputPage =>
    intro key item hitem
    exact hpage item (by simp [types_eq, hitem])
  case outputPage =>
    intro key item hitem
    exact hpage item (by simp [types_eq, hitem])

end Operation

/-- System messages carry a flag and an optional text. -/
theorem SystemMessage.supported_fields (message : SystemMessage) :
    ∀ type ∈ message.fields.filterMap fun field => field.type.type?,
      type.firstUnsupported = none := by
  cases message <;> simp [fields, FieldType.type?, DataType.firstUnsupported]

/-- Whatever the style, a stub gives back the declared result. -/
theorem ReturnShape.types_of (style : CallStyle) (result : Option DataType) :
    (ReturnShape.of style result).types = result.toList := by
  unfold ReturnShape.of settled
  cases result <;> cases style.isAsync <;> cases style.isTry <;> rfl

namespace Generated

variable (entry : Generated)

/-- A stub has no types but those of its operation. -/
theorem types_stub {stub : Stub} (h : stub ∈ entry.stubs) : stub.types ⊆ entry.operation.types := by
  obtain ⟨base, prebuilt, h⟩ := entry.mem_stubsNamed h
  obtain ⟨style, -, rfl⟩ := List.mem_map.1 h
  refine List.append_subset.2 ⟨?_, ?_⟩
  · cases prebuilt
    · exact entry.operation.params_subset_types
    · exact List.nil_subset _
  · rw [ReturnShape.types_of]
    exact entry.operation.result_subset_types

theorem types_opener {opener : StreamOpener} (h : entry.opener? = some opener) :
    opener.types ⊆ entry.operation.types := by
  unfold opener? at h
  split at h
  · cases h
  · rw [Option.ite_none_right_eq_some] at h
    rw [← Option.some.inj h.2, Operation.types_eq]
    exact List.subset_append_left _ _

theorem types_helper {serializer : Serializer} {helper : PrebuildHelper}
    (h : entry.prebuildHelper? serializer = some helper) :
    helper.types ⊆ entry.operation.types := by
  rw [prebuildHelper?, Option.ite_none_right_eq_some] at h
  rw [← Option.some.inj h.2]
  exact entry.operation.params_subset_types

theorem types_handler : entry.handler.types ⊆ entry.operation.types := by
  rw [Operation.types_eq]
  exact List.subset_append_left _ _

end Generated

namespace Compiled

variable {c : Contract} {options : Options} {compiled : Compiled}

section Supported

variable (h : c.compile options = .ok compiled)
include h

/-- A declared type of a placed operation can be carried, and so can a list of it. -/
theorem supported_placed {p : Placement} (hp : p ∈ compiled.placements) {type : DataType}
    (htype : type ∈ p.candidate.operation.types ++
      p.candidate.operation.types.map DataType.list) : type.firstUnsupported = none := by
  have hdeclared : ∀ type ∈ p.candidate.operation.types, type.firstUnsupported = none := by
    intro type htype
    obtain ⟨entry, hentry, rfl⟩ := List.mem_map.1 htype
    exact (wellFormed h hp).supported entry hentry
  rcases List.mem_append.1 htype with htype | htype
  · exact hdeclared type htype
  · obtain ⟨item, hitem, rfl⟩ := List.mem_map.1 htype
    exact hdeclared item hitem

/-- A placed operation declares no unsupported type. -/
theorem supported_declared {p : Placement} (hp : p ∈ compiled.placements) {type : DataType}
    (htype : type ∈ p.candidate.operation.types) : type.firstUnsupported = none :=
  supported_placed h hp (List.mem_append_left _ htype)

/-- So the catalog carries none. -/
theorem supported_catalog :
    ∀ type ∈ compiled.catalog.types, type.firstUnsupported = none := by
  intro type htype
  rcases List.mem_append.1 htype with htype | htype
  · obtain ⟨node, hnode, htype⟩ := List.mem_flatMap.1 htype
    rw [catalog_nodes h, List.mem_append] at hnode
    rcases hnode with hnode | hnode
    · obtain ⟨draft, hdraft, id, rfl⟩ := Draft.mem_finalizeFrom hnode
      rcases List.mem_cons.1 hdraft with rfl | hdraft
      · cases htype
      · obtain ⟨message, -, rfl⟩ := List.mem_map.1 hdraft
        exact message.supported_fields type htype
    · obtain ⟨p, hp, hnode⟩ := List.mem_flatMap.1 hnode
      obtain ⟨draft, hdraft, id, rfl⟩ := Draft.mem_finalizeFrom hnode
      exact supported_placed h hp (Operation.types_of_mem_drafts _ draft hdraft htype)
  · obtain ⟨set, hset, htype⟩ := List.mem_flatMap.1 htype
    obtain ⟨p, hp, -, -, rfl⟩ := mem_faultSets h hset
    obtain ⟨carrier, hcarrier, rfl⟩ := List.mem_map.1 htype
    exact supported_declared h hp (Operation.payload_mem_types _ hcarrier)

theorem supported_surface (peer : Peer) :
    ∀ type ∈ (compiled.surface peer).types, type.firstUnsupported = none := by
  intro type htype
  simp only [Surface.types, methods_eq h, streams_eq h, prebuild_eq h, List.mem_append,
    List.mem_flatMap, List.mem_filterMap] at htype
  rcases htype with (⟨stub, ⟨p, hp, hstub⟩, htype⟩ | ⟨opener, ⟨p, hp, hopener⟩, htype⟩) |
    ⟨helper, ⟨p, hp, hhelper⟩, htype⟩
  · exact supported_declared h (mem_directed.1 hp).1 (p.generated.types_stub hstub htype)
  · exact supported_declared h (mem_directed.1 hp).1 (p.generated.types_opener hopener htype)
  · exact supported_declared h (mem_directed.1 hp).1 (p.generated.types_helper hhelper htype)

theorem supported_dispatch (peer : Peer) :
    ∀ type ∈ (compiled.dispatch peer).types, type.firstUnsupported = none := by
  intro type htype
  simp only [DispatchPlan.types, handlers_eq h, arms_eq h, List.mem_append, List.mem_flatMap,
    List.mem_map] at htype
  rcases htype with ⟨_, ⟨p, hp, rfl⟩, htype⟩ | ⟨_, ⟨p, hp, rfl⟩, htype⟩
  · exact supported_declared h (mem_directed.1 hp).1 (p.generated.types_handler htype)
  · unfold Generated.arm at htype
    split at htype
    · cases htype
    · obtain ⟨branch, hbranch, htype⟩ := List.mem_flatMap.1 htype
      obtain ⟨carrier, hcarrier, rfl⟩ | rfl | rfl := mem_catchChain h (mem_directed.1 hp).1 hbranch
      · rw [List.mem_singleton.1 htype]
        exact supported_declared h (mem_directed.1 hp).1 (Operation.payload_mem_types _ hcarrier)
      · cases htype
      · cases htype

end Supported

/-- **Every generated type can be carried.**  Nowhere in the catalog, the surfaces or the plans of a
compiled contract does an unsupported type occur, at any depth. -/
theorem no_unsupported_type (h : c.compile options = .ok compiled) :
    ∀ type ∈ compiled.types, ∀ what, ¬ (DataType.unsupported what).Occurs type := by
  intro type htype what hoccurs
  have hnone : type.firstUnsupported = none := by
    simp only [Compiled.types, List.mem_append, List.mem_flatMap] at htype
    rcases htype with (htype | ⟨peer, -, htype⟩) | ⟨peer, -, htype⟩
    · exact supported_catalog h type htype
    · exact supported_surface h peer type htype
    · exact supported_dispatch h peer type htype
  have hsome := DataType.firstUnsupported_isSome hoccurs
  rw [hnone] at hsome
  cases hsome

end Compiled

/-- Two calls, of which the second takes something that no message can carry, deep inside its
argument. -/
def Contract.hooks : Contract :=
  .sample "Hooks"
    [{ name := "Find", kind := ⟨.requestResponse, .toServer⟩
       arguments := [⟨.map (.primitive .string) (.list (.named "Tag")), some "query"⟩]
       result := some (.option (.named "Hook")) },
     { name := "Install", kind := ⟨.requestResponse, .toServer⟩
       arguments :=
         [⟨.option (.tuple [.primitive .u32, .list (.unsupported "dyn Fn()")]), some "hook"⟩] }]

/-- The second call is skipped, and what is generated for the first one can be carried. -/
theorem Compiled.hooks_no_unsupported_type :
    ∃ compiled, Contract.hooks.compile {} = .ok compiled ∧
      (compiled.isGenerated 0 = true ∧ compiled.isGenerated 1 = false ∧
        .map (.primitive .string) (.list (.named "Tag")) ∈ compiled.types) ∧
      ∀ type ∈ compiled.types, ∀ what, ¬ (DataType.unsupported what).Occurs type := by
  obtain ⟨compiled, h, hcheck⟩ := Contract.exists_compile Contract.hooks {}
    (fun compiled => compiled.isGenerated 0 = true ∧ compiled.isGenerated 1 = false ∧
      .map (.primitive .string) (.list (.named "Tag")) ∈ compiled.types)
    (by decide +kernel)
  exact ⟨compiled, h, of_decide_eq_true hcheck, no_unsupported_type h⟩

end ServiceContract
