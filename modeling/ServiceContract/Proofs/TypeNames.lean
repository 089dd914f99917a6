import Mathlib.Data.List.Perm.Subperm
import ServiceContract.Proofs.Declarations
import ServiceContract.Proofs.MethodNames
import ServiceContract.Proofs.Unions

/-!
# Type names

Only the names in the catalog are compared with each other before they are used.  The module
declares more types: for each plan, each surface, each serializer, and for each stream that is
opened.  Their names are made from the name of the contract, or of an operation, and an ending.

Endings keep most of these names apart, since no ending of one kind ends with an ending of another
(`endings_apart`).  One name has no ending: the interface that the server implements is called like
the contract itself.  A contract may be called like any type of an operation, so the types of a
module are distinct exactly if that does not happen (`Source.type_names_distinct_iff`), and
`Contract.echoRequest` shows that it does.
-/

namespace ServiceContract

/-! ## Endings -/

/-- What a name in the catalog ends with. -/
def nodeEndings : List String :=
  SystemMessage.all.map SystemMessage.name ++
    [Role.messageBase, .oneWay, .request, .response, .faultData, .faultCarrier, .fault, .inputPage,
      .outputPage].map Role.suffix

/-- What the name of a wiring ends with. -/
def wiringEnding : String := "Stream"

/-- What the types of a plan add to the name of the contract. -/
def DispatchPlan.endings : Peer → List String
  | .server => ["Inbound", "", "Dispatcher"]
  | .client => ["CallbackInbound", "Callbacks", "CallbackDispatcher"]

/-- What the types of a surface add to the name of the contract. -/
def Surface.endings : Peer → List String
  | .client => ["Client", "ClientAsync", "ClientTry", "ClientTryAsync"]
  | .server =>
    ["CallbackProxy", "CallbackProxyAsync", "CallbackProxyTry", "CallbackProxyTryAsync"]

/-- What the type of an adapter adds to the name of the contract. -/
def Serializer.ending (serializer : Serializer) : String := serializer.typeName ++ "Adapter"

/-- What the plans and the surfaces of both peers add to the name of the contract. -/
def peerEndings : List String :=
  [Peer.server, .client].flatMap DispatchPlan.endings ++
    [Peer.client, .server].flatMap Surface.endings

/-- Everything that a type may add to the name of the contract. -/
def contractEndings : List String :=
  peerEndings ++ Serializer.all.map Serializer.ending ++ ["Serializers"]

/-- No two types add the same to the name of the contract. -/
theorem contractEndings_nodup : contractEndings.Nodup := by decide +kernel

/-- No ending of one kind ends with an ending of another kind. -/
theorem endings_apart :
    (∀ e ∈ wiringEnding :: nodeEndings, ∀ s ∈ contractEndings, s ≠ "" →
      ¬ e.toList <:+ s.toList ∧ ¬ s.toList <:+ e.toList) ∧
    ∀ e ∈ nodeEndings, ¬ e.toList <:+ wiringEnding.toList ∧ ¬ wiringEnding.toList <:+ e.toList := by
  decide +kernel

/-- The name ends with one of these endings. -/
def EndsIn (endings : List String) (name : String) : Prop :=
  ∃ stem, ∃ ending ∈ endings, name = stem ++ ending

/-- A name with one of the endings behind a stem. -/
theorem EndsIn.append {endings : List String} {ending : String} (h : ending ∈ endings)
    (stem : String) : EndsIn endings (stem ++ ending) :=
  ⟨stem, ending, h, rfl⟩

/-- A name that the contract lends to a type with an ending is neither in the catalog nor the name
of a wiring. -/
theorem EndsIn.ne_append {name x s : String} (h : EndsIn (wiringEnding :: nodeEndings) name)
    (hs : s ∈ contractEndings) (hne : s ≠ "") : name ≠ x ++ s := by
  rintro rfl
  obtain ⟨stem, e, he, heq⟩ := h
  obtain ⟨hle, hle'⟩ := endings_apart.1 e he s hs hne
  exact (endings_nested heq).elim hle' hle

/-- The name of a wiring is not in the catalog. -/
theorem EndsIn.ne_wiring {name : String} (h : EndsIn nodeEndings name) (stem : String) :
    name ≠ stem ++ wiringEnding := by
  rintro rfl
  obtain ⟨stem', e, he, heq⟩ := h
  obtain ⟨hle, hle'⟩ := endings_apart.2 e he
  exact (endings_nested heq).elim hle' hle

/-- The planned names end like those of nodes. -/
theorem Operation.endsIn_of_mem_plannedNames {op : Operation} {name : String}
    (h : name ∈ op.plannedNames) : EndsIn nodeEndings name := by
  have hrole : ∀ role ∈ [Role.oneWay, .request, .response, .faultData, .faultCarrier, .fault,
      .inputPage, .outputPage], role.suffix ∈ nodeEndings := by
    decide +kernel
  unfold plannedNames at h
  split at h
  · rw [List.mem_singleton.1 h]
    exact .append (hrole .oneWay (by decide)) _
  · simp only [List.mem_append, List.mem_cons, List.not_mem_nil, or_false, List.mem_ite_nil_left,
      List.mem_ite_nil_right, List.mem_map] at h
    rcases h with
      ((((rfl | rfl) | ⟨-, rfl | ⟨fault, -, rfl⟩⟩) | rfl) | ⟨-, rfl⟩) | ⟨-, rfl⟩
    · exact .append (hrole .request (by decide)) _
    · exact .append (hrole .response (by decide)) _
    · exact .append (hrole .faultData (by decide)) _
    · exact .append (hrole .faultCarrier (by decide)) _
    · exact .append (hrole .fault (by decide)) _
    · exact .append (hrole .inputPage (by decide)) _
    · exact .append (hrole .outputPage (by decide)) _

/-- The markers among numbered nodes are those among the drafts. -/
theorem Draft.map_name_filter_finalizeFrom (qualifier : String) (first : NodeId)
    (drafts : List Draft) :
    ((finalizeFrom qualifier first drafts).filter fun node => node.role.isMarker).map Node.name =
      (drafts.filter fun draft => draft.role.isMarker).map Draft.name := by
  induction drafts generalizing first with
  | nil => rfl
  | cons draft rest ih =>
      have hrole : (draft.finalize first qualifier).role = draft.role := rfl
      have hname : (draft.finalize first qualifier).name = draft.name := rfl
      by_cases hmarker : draft.role.isMarker <;>
        simp [finalizeFrom_cons, hrole, hname, hmarker, ih]

/-- An operation has a marker exactly if it can be answered by a declared fault. -/
theorem Operation.map_name_markers (c : Contract) (index : Nat) (op : Operation)
    (key : MessageKey) (first : NodeId) :
    ((op.drafts c index (op.keysFrom key) first).filter fun draft => draft.role.isMarker).map
        Draft.name =
      if op.kind.isOneWay || op.faults.isEmpty then []
      else [op.typeName ++ Role.faultData.suffix] := by
  cases hone : op.kind.isOneWay with
  | true => simp [drafts, keysFrom, hone, oneWayDraft, Role.isMarker]
  | false =>
      by_cases hnone : op.faults = [] <;> cases hin : op.inputStream <;>
        cases hout : op.outputStream <;>
        simp [drafts, requestDrafts, keysFrom, hone, hnone, hin, hout, requestDraft, responseDraft,
          faultDrafts, markerDraft, carrierDraft, faultDraft, pageDrafts, pageDraft, Role.isMarker,
          List.filter_map, Function.comp_def]

namespace Compiled

variable {c : Contract} {options : Options} {compiled : Compiled}

/-- Every name in the catalog has an ending. -/
theorem endsIn_of_mem_names (h : c.compile options = .ok compiled) {name : String}
    (hname : name ∈ compiled.catalog.nodes.map Node.name) : EndsIn nodeEndings name := by
  rw [map_name_nodes h, List.mem_append] at hname
  rcases hname with hname | hname
  · obtain ⟨draft, hdraft, rfl⟩ := List.mem_map.1 hname
    rcases List.mem_cons.1 hdraft with rfl | hdraft
    · exact .append (by decide +kernel) _
    · obtain ⟨message, hmessage, rfl⟩ := List.mem_map.1 hdraft
      refine ⟨"", message.name, ?_, (String.empty_append).symm⟩
      exact List.mem_append_left _ (List.mem_map.2 ⟨message, hmessage, rfl⟩)
  · obtain ⟨entry, -, hentry⟩ := List.mem_flatMap.1 hname
    exact Operation.endsIn_of_mem_plannedNames hentry

/-- No two generated operations have the same name in generated code. -/
theorem placements_pairwise_typeName (h : c.compile options = .ok compiled) :
    compiled.placements.Pairwise fun p q =>
      p.candidate.operation.typeName ≠ q.candidate.operation.typeName := by
  refine (List.pairwise_map.1 (placements_pairwise_index h)).imp_of_mem ?_
  intro p q hp hq hlt hsame
  obtain ⟨hop, -⟩ := mem_placements h hp
  obtain ⟨hop', haccepted, -⟩ := mem_placements h hq
  refine ((Contract.accepted_iff hop').1 haccepted).2 (List.mem_map.2 ⟨_, ?_, hsame⟩)
  exact List.mem_of_getElem? ((List.getElem?_take_of_lt hlt).trans hop)

/-! ## The names of the markers -/

/-- The name of the marker of a placed operation. -/
theorem name_marker (h : c.compile options = .ok compiled) {p : Placement}
    (hp : p ∈ compiled.placements) (hone : p.candidate.operation.kind.isOneWay = false)
    (hfaults : p.candidate.operation.faults ≠ []) :
    compiled.catalog.name (p.first + 2) =
      p.candidate.operation.typeName ++ Role.faultData.suffix := by
  obtain ⟨key, -, hkeys⟩ := exists_block h hp
  obtain ⟨front, back, hdrafts, hlength, -⟩ := Operation.drafts_of_faults c p.candidate.index
    p.candidate.operation p.first hone hfaults key
  have hmarker : (p.drafts c)[2]? =
      some (p.candidate.operation.markerDraft p.candidate.index (p.first + 2)) := by
    rw [Placement.drafts, hkeys, hdrafts, List.getElem?_append_right (Nat.le_of_eq hlength),
      hlength]
    rfl
  rw [placements, Contract.compile_contract h] at hp
  have hnode := Contract.getElem?_assembly_marker hp hmarker
  rw [Contract.compile_catalog h, Catalog.name]
  change (((c.assembly compiled.keys).nodes[p.first + 2]?).map Node.name).getD "" = _
  rw [hnode]
  rfl

/-- The markers among the nodes of a placed operation. -/
theorem map_name_markers_placement (h : c.compile options = .ok compiled) {p : Placement}
    (hp : p ∈ compiled.placements) :
    ((p.nodes c).filter fun node => node.role.isMarker).map Node.name =
      (p.faultSet? c).toList.map fun set => compiled.catalog.name set.marker := by
  obtain ⟨key, -, hkeys⟩ := exists_block h hp
  rw [Placement.nodes, Draft.map_name_filter_finalizeFrom, Placement.drafts, hkeys,
    Operation.map_name_markers, Placement.faultSet?, Operation.faultSet?]
  by_cases hnone : (p.candidate.operation.kind.isOneWay || p.candidate.operation.faults.isEmpty)
  · simp [hnone]
  · have hsome : p.candidate.operation.kind.isOneWay = false ∧
        p.candidate.operation.faults ≠ [] := by
      simpa using hnone
    simp [hnone, Operation.faultSet, name_marker h hp hsome.1 hsome.2]

/-- The markers of a catalog are the message base and those of the fault sets. -/
theorem map_name_markers (h : c.compile options = .ok compiled) :
    (compiled.catalog.nodes.filter fun node => node.role.isMarker).map Node.name =
      compiled.catalog.name messageBase ::
        compiled.catalog.faultSets.map fun set => compiled.catalog.name set.marker := by
  have hbase : compiled.catalog.name messageBase = c.typeName ++ Role.messageBase.suffix := by
    rw [Contract.compile_catalog h, Catalog.name]
    change (((c.assembly compiled.keys).nodes[messageBase]?).map Node.name).getD "" = _
    rw [Contract.getElem?_assembly_messageBase]
    rfl
  have hsystem : (c.systemDrafts.filter fun draft => draft.role.isMarker).map Draft.name =
      [c.typeName ++ Role.messageBase.suffix] := by
    simp [Contract.systemDrafts, Contract.baseDraft, SystemMessage.draft, Role.isMarker]
  rw [catalog_nodes h, List.filter_append, List.map_append, Draft.map_name_filter_finalizeFrom,
    List.filter_flatMap, List.map_flatMap,
    List.flatMap_congr fun p hp => map_name_markers_placement h hp, catalog_faultSets h,
    List.filterMap_eq_flatMap_toList, List.map_flatMap, hbase, hsystem, List.singleton_append]

end Compiled

/-! ## The names of a module -/

/-- No serializer is in use twice. -/
theorem Contract.serializersInUse_nodup (c : Contract) : c.serializersInUse.Nodup := by
  unfold serializersInUse
  split
  · exact List.nodup_singleton _
  · exact c.serializers_nodup

/-- The types of a plan are called after the contract. -/
theorem DispatchPlan.names_eq (c : Contract) (keys : KeyTable) (catalog : Catalog) (peer : Peer) :
    [(build c keys catalog peer).inbound, (build c keys catalog peer).handlerTrait,
        (build c keys catalog peer).dispatcher] =
      (endings peer).map fun ending => c.typeName ++ ending := by
  cases peer <;> simp [build, inboundName, traitName, dispatcherName, endings]

/-- The types of a surface are called after the contract. -/
theorem Surface.names_eq (c : Contract) (catalog : Catalog) (peer : Peer)
    (serializer : Serializer) :
    (build c catalog peer serializer).name ::
        (build c catalog peer serializer).facades.map Facade.name =
      (endings peer).map fun ending => c.typeName ++ ending := by
  cases peer <;> simp [build, nameOf, endings, CallStyle.all, CallStyle.facade?,
    CallStyle.facadeSuffix, String.append_assoc]

namespace Source

variable {c : Contract} {options : Options} {s : Source}

/-- The names of the wirings of all streams that are opened. -/
def wiringNames (s : Source) : List String :=
  s.surfaces.flatMap fun surface => surface.streams.map s.wiringName

/-- The names of the types that a module declares: those of the catalog, of the plans, of the
surfaces with the wirings of their streams, of the adapters, and of the chooser. -/
def typeNames (s : Source) : List String :=
  s.catalog.nodes.map Node.name ++
    (s.plans.flatMap fun plan => [plan.inbound, plan.handlerTrait, plan.dispatcher]) ++
    (s.surfaces.flatMap fun surface =>
      surface.streams.map s.wiringName ++ surface.name :: surface.facades.map Facade.name) ++
    s.compiled.binding.adapters.map Adapter.name ++ [s.compiled.binding.chooser.name]

/-- What the types of a module add to the name of the contract. -/
def endings (s : Source) : List String :=
  (s.plans.flatMap fun plan => DispatchPlan.endings plan.peer) ++
    (s.surfaces.flatMap fun surface => Surface.endings surface.peer) ++
    s.compiled.binding.adapters.map (fun adapter => adapter.serializer.ending) ++ ["Serializers"]

/-- The unions that are written are those of the first serializer in use. -/
theorem exists_unions (h : c.compile options = .ok s.compiled) :
    ∃ serializer, s.unions? =
      some (Binding.adapterFor c s.compiled.catalog s.compiled.hierarchy serializer) := by
  obtain ⟨first, rest, huse⟩ := List.exists_cons_of_ne_nil c.serializersInUse_ne_nil
  refine ⟨first, ?_⟩
  rw [unions?, Contract.compile_adapters h, huse]
  rfl

/-- The names of the catalog, as the module declares them. -/
theorem map_name_catalogHeads (h : c.compile options = .ok s.compiled) :
    (s.catalogHeads.map TypeHead.name).Perm (s.catalog.nodes.map Node.name) := by
  obtain ⟨serializer, hunions⟩ := exists_unions h
  have hmarkers : (s.catalogHeads.map TypeHead.name).Perm
      ((s.catalog.nodes.filter fun node => !node.role.isMarker).map Node.name ++
        (s.catalog.nodes.filter fun node => node.role.isMarker).map Node.name) := by
    rw [show s.catalog.nodes.filter (fun node => node.role.isMarker) =
      s.compiled.catalog.nodes.filter fun node => node.role.isMarker from rfl,
      Compiled.map_name_markers h]
    simp only [catalogHeads, hunions, Option.toList_some, List.flatMap_cons, List.flatMap_nil,
      List.append_nil, List.map_append, List.map_map, Binding.adapterFor, List.map_cons,
      List.map_nil]
    exact (List.perm_append_singleton _ _).append_left _
  have hsplit := (List.filter_append_perm (fun node : Node => node.role.isMarker)
    s.catalog.nodes).map Node.name
  rw [List.map_append] at hsplit
  exact hmarkers.trans (List.perm_append_comm.trans hsplit)

/-- The heads of a module declare its type names. -/
theorem map_name_typeHeads (h : c.compile options = .ok s.compiled) :
    (s.typeHeads.map TypeHead.name).Perm s.typeNames := by
  have hplans : (s.plans.flatMap planHeads).map TypeHead.name =
      s.plans.flatMap fun plan => [plan.inbound, plan.handlerTrait, plan.dispatcher] := by
    rw [List.map_flatMap]
    rfl
  have hsurfaces : (s.surfaces.flatMap s.surfaceHeads).map TypeHead.name =
      s.surfaces.flatMap fun surface =>
        surface.streams.map s.wiringName ++ surface.name :: surface.facades.map Facade.name := by
    rw [List.map_flatMap]
    simp [surfaceHeads, Function.comp_def]
  have hserializers : s.serializerHeads.map TypeHead.name =
      s.compiled.binding.adapters.map Adapter.name ++ [s.compiled.binding.chooser.name] := by
    simp [serializerHeads, Function.comp_def]
  simp only [typeHeads, typeNames, List.map_append, hplans, hsurfaces, hserializers,
    List.append_assoc]
  exact (map_name_catalogHeads h).append_right _

/-- The plans of a module are those of the two peers. -/
theorem mem_plans {plan : DispatchPlan} (hplan : plan ∈ s.plans) :
    ∃ peer, plan = s.compiled.dispatch peer := by
  rcases List.mem_cons.1 hplan with rfl | hplan
  · exact ⟨.server, rfl⟩
  · rw [List.mem_ite_nil_left, List.mem_singleton] at hplan
    exact ⟨.client, hplan.2⟩

theorem mem_surfaces {surface : Surface} (hsurface : surface ∈ s.surfaces) :
    ∃ peer, surface = s.compiled.surface peer := by
  rcases List.mem_cons.1 hsurface with rfl | hsurface
  · exact ⟨.client, rfl⟩
  · rw [List.mem_ite_nil_left, List.mem_singleton] at hsurface
    exact ⟨.server, hsurface.2⟩

/-- Every type that is not in the catalog and no wiring is called after the contract. -/
theorem typeNames_perm (h : c.compile options = .ok s.compiled) :
    s.typeNames.Perm (s.catalog.nodes.map Node.name ++ s.wiringNames ++
      s.endings.map fun ending => c.typeName ++ ending) := by
  have hplans : (s.plans.flatMap fun plan => [plan.inbound, plan.handlerTrait, plan.dispatcher]) =
      s.plans.flatMap fun plan =>
        (DispatchPlan.endings plan.peer).map fun ending => c.typeName ++ ending := by
    refine List.flatMap_congr fun plan hplan => ?_
    obtain ⟨peer, rfl⟩ := mem_plans hplan
    rw [Contract.compile_dispatch h]
    exact DispatchPlan.names_eq ..
  have hsurfaces :
      (s.surfaces.flatMap fun surface => surface.name :: surface.facades.map Facade.name) =
      s.surfaces.flatMap fun surface =>
        (Surface.endings surface.peer).map fun ending => c.typeName ++ ending := by
    refine List.flatMap_congr fun surface hsurface => ?_
    obtain ⟨peer, rfl⟩ := mem_surfaces hsurface
    rw [Contract.compile_surface h]
    exact Surface.names_eq ..
  have hadapters : s.compiled.binding.adapters.map Adapter.name =
      s.compiled.binding.adapters.map fun adapter => c.typeName ++ adapter.serializer.ending := by
    rw [Contract.compile_adapters h, List.map_map, List.map_map]
    refine List.map_congr_left fun serializer _ => ?_
    exact String.append_assoc ..
  have hchooser : s.compiled.binding.chooser.name = c.typeName ++ "Serializers" := by
    rw [Contract.compile_binding h]
    rfl
  have hlists : s.endings.map (fun ending => c.typeName ++ ending) =
      (s.plans.flatMap fun plan => [plan.inbound, plan.handlerTrait, plan.dispatcher]) ++
        ((s.surfaces.flatMap fun surface => surface.name :: surface.facades.map Facade.name) ++
          (s.compiled.binding.adapters.map Adapter.name ++
            [s.compiled.binding.chooser.name])) := by
    rw [hplans, hsurfaces, hadapters, hchooser]
    simp [endings, List.map_flatMap, Function.comp_def]
  -- the wirings stand between the plans and the rest of the surfaces
  have hwirings := (List.flatMap_append_perm s.surfaces
    (fun surface => surface.streams.map s.wiringName)
    fun surface => surface.name :: surface.facades.map Facade.name).symm
  rw [hlists, typeNames]
  simp only [List.append_assoc]
  refine List.Perm.append_left _ ?_
  refine ((hwirings.append_right _).append_left _).trans ?_
  rw [List.append_assoc]
  exact List.perm_append_comm_assoc ..

/-- What a module adds to the name of its contract is part of what any module may add. -/
theorem endings_subperm (h : c.compile options = .ok s.compiled) :
    s.endings.Subperm contractEndings := by
  have hserver : s.compiled.serverDispatch.peer = .server :=
    congrArg DispatchPlan.peer (Contract.compile_dispatch h .server)
  have hcallbacks : s.compiled.callbackDispatch.peer = .client :=
    congrArg DispatchPlan.peer (Contract.compile_dispatch h .client)
  have hclient : s.compiled.client.peer = .client :=
    congrArg Surface.peer (Contract.compile_surface h .client)
  have hproxy : s.compiled.callbackProxy.peer = .server :=
    congrArg Surface.peer (Contract.compile_surface h .server)
  have hpeers : ((s.plans.flatMap fun plan => DispatchPlan.endings plan.peer) ++
      s.surfaces.flatMap fun surface => Surface.endings surface.peer).Sublist peerEndings := by
    cases hplan : s.compiled.callbackDispatch.isEmpty <;>
      cases hsurface : s.compiled.callbackProxy.isEmpty <;>
      simp only [plans, surfaces, hplan, hsurface, if_true, if_false, Bool.false_eq_true,
        List.flatMap_cons, List.flatMap_nil, hserver, hcallbacks, hclient, hproxy] <;>
      decide +kernel
  have hadapters : (s.compiled.binding.adapters.map fun adapter =>
      adapter.serializer.ending).Subperm (Serializer.all.map Serializer.ending) := by
    rw [Contract.compile_adapters h, List.map_map]
    obtain ⟨used, hperm, hsub⟩ := List.subperm_of_subset c.serializersInUse_nodup
      fun serializer _ => (by cases serializer <;> decide : serializer ∈ Serializer.all)
    exact ⟨_, hperm.map _, hsub.map _⟩
  exact (hpeers.subperm.append hadapters).append (List.Subperm.refl _)

/-- No two types of a module add the same to the name of the contract. -/
theorem endings_nodup (h : c.compile options = .ok s.compiled) : s.endings.Nodup := by
  obtain ⟨sub, hperm, hsub⟩ := endings_subperm h
  exact hperm.nodup_iff.1 (contractEndings_nodup.sublist hsub)

/-- The interface that the server implements is called like the contract. -/
theorem empty_mem_endings (h : c.compile options = .ok s.compiled) : "" ∈ s.endings := by
  have hserver : s.compiled.serverDispatch.peer = .server :=
    congrArg DispatchPlan.peer (Contract.compile_dispatch h .server)
  simp [endings, plans, hserver, DispatchPlan.endings]

/-! ## Wirings -/

/-- A wiring is called after its operation. -/
theorem wiringName_eq (h : c.compile options = .ok s.compiled) {p : Placement}
    (hp : p ∈ s.compiled.placements) {opener : StreamOpener}
    (hopener : p.generated.opener? = some opener) :
    s.wiringName opener = p.candidate.operation.typeName ++ wiringEnding := by
  obtain ⟨hop, -⟩ := Compiled.mem_placements h hp
  have hindex : opener.operation = p.candidate.index := (Generated.opener?_eq_some _ hopener).1
  rw [wiringName, operationName, operation?, Contract.compile_contract h, hindex, hop]
  rfl

/-- The wirings of a module are those of the generated operations that are opened. -/
theorem wiringNames_perm (h : c.compile options = .ok s.compiled) :
    s.wiringNames.Perm (s.compiled.placements.filterMap fun p =>
      p.generated.opener?.map fun _ => p.candidate.operation.typeName ++ wiringEnding) := by
  have hstreams : ∀ peer, (s.compiled.surface peer).streams.map s.wiringName =
      (s.compiled.directed peer.calls).filterMap fun p =>
        p.generated.opener?.map fun _ => p.candidate.operation.typeName ++ wiringEnding := by
    intro peer
    rw [Compiled.streams_eq h, List.map_filterMap]
    refine List.filterMap_congr fun p hp => ?_
    cases hopener : p.generated.opener? with
    | none => rw [Option.map_none, Option.map_none]
    | some opener =>
        have hplaced := (Compiled.mem_directed.1 hp).1
        rw [Option.map_some, Option.map_some, wiringName_eq h hplaced hopener]
  -- a surface that is not written opens nothing
  have hboth : s.wiringNames = (s.compiled.surface .client).streams.map s.wiringName ++
      (s.compiled.surface .server).streams.map s.wiringName := by
    cases hempty : s.compiled.callbackProxy.isEmpty with
    | true =>
        have hnone : s.compiled.callbackProxy.streams = [] := by
          simp [Surface.isEmpty] at hempty
          exact hempty.2
        simp [wiringNames, surfaces, hempty, Compiled.surface, hnone]
    | false => simp [wiringNames, surfaces, hempty, Compiled.surface]
  rw [hboth, hstreams, hstreams, Peer.calls, Peer.calls, ← List.filterMap_append]
  exact s.compiled.directed_perm.filterMap _

/-- The wirings are called after operations with distinct names. -/
theorem wiringNames_nodup (h : c.compile options = .ok s.compiled) : s.wiringNames.Nodup := by
  refine (wiringNames_perm h).nodup_iff.2 (List.pairwise_filterMap.2 ?_)
  refine (Compiled.placements_pairwise_typeName h).imp ?_
  rintro p q hne _ hp _ hq rfl
  obtain ⟨_, -, rfl⟩ := Option.map_eq_some_iff.1 hp
  obtain ⟨_, -, hsame⟩ := Option.map_eq_some_iff.1 hq
  exact hne ((String.append_left_inj wiringEnding).1 hsame).symm

/-- The name of a wiring ends like that of a wiring. -/
theorem exists_wiring (h : c.compile options = .ok s.compiled) {name : String}
    (hname : name ∈ s.wiringNames) : ∃ stem, name = stem ++ wiringEnding := by
  obtain ⟨p, -, hp⟩ := List.mem_filterMap.1 ((wiringNames_perm h).subset hname)
  obtain ⟨_, -, rfl⟩ := Option.map_eq_some_iff.1 hp
  exact ⟨_, rfl⟩

/-! ## Distinct names -/

/-- All types but the interface of the server have names of their own. -/
theorem nodup_other_names (h : c.compile options = .ok s.compiled) :
    (s.catalog.nodes.map Node.name ++ s.wiringNames ++
      (s.endings.erase "").map fun ending => c.typeName ++ ending).Nodup := by
  have hnodes : ∀ name ∈ s.catalog.nodes.map Node.name, EndsIn nodeEndings name :=
    fun name hname => Compiled.endsIn_of_mem_names h hname
  have hcontract : ((s.endings.erase "").map fun ending => c.typeName ++ ending).Nodup :=
    List.Nodup.map (fun _ _ hsame => (String.append_right_inj c.typeName).1 hsame)
      ((endings_nodup h).erase _)
  refine List.nodup_append.2 ⟨List.nodup_append.2 ⟨(Compiled.index_lists h).nodup,
    wiringNames_nodup h, ?_⟩, hcontract, ?_⟩
  · intro name hname wiring hwiring
    obtain ⟨stem, rfl⟩ := exists_wiring h hwiring
    exact (hnodes name hname).ne_wiring stem
  · intro name hname other hother
    obtain ⟨ending, hending, rfl⟩ := List.mem_map.1 hother
    obtain ⟨hne, hmem⟩ := (endings_nodup h).mem_erase_iff.1 hending
    have hends : EndsIn (wiringEnding :: nodeEndings) name := by
      rcases List.mem_append.1 hname with hname | hname
      · obtain ⟨stem, e, he, rfl⟩ := hnodes name hname
        exact .append (List.mem_cons_of_mem _ he) stem
      · obtain ⟨stem, rfl⟩ := exists_wiring h hname
        exact .append List.mem_cons_self stem
    exact hends.ne_append ((endings_subperm h).subset hmem) hne

/-- The type names are distinct exactly if the contract is not called like one of its types. -/
theorem nodup_typeNames_iff (h : c.compile options = .ok s.compiled) :
    s.typeNames.Nodup ↔
      c.typeName ∉ s.catalog.nodes.map Node.name ∧ c.typeName ∉ s.wiringNames := by
  have hperm : s.typeNames.Perm (c.typeName :: (s.catalog.nodes.map Node.name ++ s.wiringNames ++
      (s.endings.erase "").map fun ending => c.typeName ++ ending)) := by
    have hendings := (List.perm_cons_erase (empty_mem_endings h)).map
      fun ending => c.typeName ++ ending
    rw [List.map_cons, String.append_empty] at hendings
    exact (typeNames_perm h).trans ((hendings.append_left _).trans List.perm_middle)
  have hself : c.typeName ∉ (s.endings.erase "").map fun ending => c.typeName ++ ending := by
    intro hmem
    obtain ⟨ending, hending, hsame⟩ := List.mem_map.1 hmem
    refine ((endings_nodup h).mem_erase_iff.1 hending).1 ?_
    exact (String.append_right_inj c.typeName).1 (hsame.trans String.append_empty.symm)
  rw [hperm.nodup_iff, List.nodup_cons, List.mem_append, List.mem_append, not_or, not_or]
  constructor
  · rintro ⟨⟨hfree, -⟩, -⟩
    exact hfree
  · intro hfree
    exact ⟨⟨hfree, hself⟩, nodup_other_names h⟩

/-- **Type names.**  A module is its parts, which declare the types of the catalog, of the plans, of
the surfaces with their wirings and of the serializers.  They have distinct names exactly if the
contract is called neither like a type of the catalog nor like the wiring of a stream. -/
theorem type_names_distinct_iff (h : c.compile options = .ok s.compiled) :
    s.moduleItems = s.moduleLead ++ s.parts.flatMap Part.items ++ [.raw "\x7d"] ∧
    ∃ heads : List TypeHead,
      Code.typeHeaders s.moduleCode = heads.map TypeHead.text ∧
      (heads.map TypeHead.name).Perm s.typeNames ∧
      ((heads.map TypeHead.name).Nodup ↔
        c.typeName ∉ s.catalog.nodes.map Node.name ∧ c.typeName ∉ s.wiringNames) := by
  have hperm := map_name_typeHeads h
  refine ⟨s.moduleItems_eq, s.typeHeads, s.typeHeaders_moduleCode, hperm, ?_⟩
  rw [hperm.nodup_iff, nodup_typeNames_iff h]

/-- The types of the sample contract, which has both plans, both surfaces, a stream, fault carriers
and two serializers, are distinct. -/
theorem chat_type_names_distinct :
    ∃ compiled, Contract.chat.compile {} = .ok compiled ∧
      ∃ heads : List TypeHead,
        Code.typeHeaders (Source.moduleCode { compiled }) = heads.map TypeHead.text ∧
        (heads.map TypeHead.name).Perm (Source.typeNames { compiled }) ∧
        heads.length = 39 ∧ (heads.map TypeHead.name).Nodup := by
  obtain ⟨compiled, h, hcheck⟩ := Contract.exists_compile Contract.chat {}
    (fun compiled => (Source.typeNames { compiled }).length = 39 ∧
      Contract.chat.typeName ∉ (Source.catalog { compiled }).nodes.map Node.name ∧
      Contract.chat.typeName ∉ Source.wiringNames { compiled }) (by decide +kernel)
  obtain ⟨hlength, hfree⟩ := of_decide_eq_true hcheck
  obtain ⟨-, heads, hheads, hperm, hiff⟩ := type_names_distinct_iff (s := { compiled }) h
  refine ⟨compiled, h, heads, hheads, hperm, ?_, hiff.2 hfree⟩
  rw [← hlength, ← hperm.length_eq, List.length_map]

end Source

/-- A contract that is called like the request of its only operation. -/
def Contract.echoRequest : Contract :=
  .sample "EchoRequest" [{ name := "Echo", kind := ⟨.requestResponse, .toServer⟩ }]

/-- `Contract.echoRequest` is compiled without a diagnostic, and its module declares both a message
and an interface called `EchoRequest`. -/
theorem Source.echoRequest_declared_twice :
    ∃ compiled, Contract.echoRequest.compile {} = .ok compiled ∧ compiled.diagnostics = [] ∧
      "pub struct EchoRequest" ∈ Code.typeHeaders (Source.moduleCode { compiled }) ∧
      "pub trait EchoRequest" ∈ Code.typeHeaders (Source.moduleCode { compiled }) ∧
      (Source.typeNames { compiled }).count "EchoRequest" = 2 := by
  obtain ⟨compiled, h, hcheck⟩ := Contract.exists_compile Contract.echoRequest {}
    (fun compiled => compiled.diagnostics = [] ∧
      "pub struct EchoRequest" ∈ (Source.typeHeads { compiled }).map TypeHead.text ∧
      "pub trait EchoRequest" ∈ (Source.typeHeads { compiled }).map TypeHead.text ∧
      (Source.typeNames { compiled }).count "EchoRequest" = 2) (by decide +kernel)
  refine ⟨compiled, h, ?_⟩
  rw [typeHeaders_moduleCode]
  exact of_decide_eq_true hcheck

end ServiceContract
