import ServiceContract.Proofs.Routing

/-!
# Renumbering operations and keys

The place where an operation is declared shows in what is generated for it as two kinds of numbers
only: its position among the operations and the keys of its messages.  A `Renumbering` puts other
numbers in their place and leaves everything else as it is.

* The generated types, stubs, openers, handlers and arms of a renumbered operation are those of the
  operation, renumbered: `Placement.nodes_renumber` and what follows it.
* A run of the assembly reads none of these numbers.  Only the names of types and methods decide
  what is placed, so a renumbered run places the same operations (`SameNames.outcomes_renumber`),
  whatever else is different about the two contracts.
-/

namespace ServiceContract

/-- Other numbers for operations and for keys. -/
structure Renumbering where
  index : Nat → Nat
  key : MessageKey → MessageKey

/-- Every number stays. -/
def Renumbering.refl : Renumbering := ⟨id, id⟩

/-- The keys of an operation under other numbers. -/
def OperationKeys.renumber (r : Renumbering) : OperationKeys → OperationKeys
  | oneWay message => .oneWay (r.key message)
  | request keys =>
    .request
      { request := r.key keys.request
        response := r.key keys.response
        fault := r.key keys.fault
        inputPage := keys.inputPage.map r.key
        outputPage := keys.outputPage.map r.key }

/-- The block of an operation under other numbers. -/
def KeyBlock.renumber (r : Renumbering) (block : KeyBlock) : KeyBlock :=
  { block with first := r.key block.first, keys := block.keys.renumber r }

/-- A candidate under other numbers. -/
def Candidate.renumber (r : Renumbering) (candidate : Candidate) : Candidate :=
  { candidate with
    index := r.index candidate.index
    keys := candidate.keys.renumber r }

/-- A placement under other numbers.  The numbers of its types stay. -/
def Placement.renumber (r : Renumbering) (p : Placement) : Placement :=
  { p with candidate := p.candidate.renumber r }

/-- A draft under other numbers. -/
def Draft.renumber (r : Renumbering) (draft : Draft) : Draft :=
  { draft with key := draft.key.map r.key, operation := draft.operation.map r.index }

/-- A generated type under other numbers. -/
def Node.renumber (r : Renumbering) (node : Node) : Node :=
  { node with key := node.key.map r.key, operation := node.operation.map r.index }

/-- A fault set under other numbers. -/
def FaultSet.renumber (r : Renumbering) (set : FaultSet) : FaultSet :=
  { set with operation := r.index set.operation }

/-- A generated operation under other numbers. -/
def Generated.renumber (r : Renumbering) (entry : Generated) : Generated :=
  { entry with index := r.index entry.index }

/-- A stub under other numbers. -/
def Stub.renumber (r : Renumbering) (stub : Stub) : Stub :=
  { stub with operation := r.index stub.operation }

/-- An opener under other numbers. -/
def StreamOpener.renumber (r : Renumbering) (opener : StreamOpener) : StreamOpener :=
  { opener with operation := r.index opener.operation }

/-- A prebuild helper under other numbers. -/
def PrebuildHelper.renumber (r : Renumbering) (helper : PrebuildHelper) : PrebuildHelper :=
  { helper with operation := r.index helper.operation }

/-- A surface under other numbers. -/
def Surface.renumber (r : Renumbering) (surface : Surface) : Surface :=
  { surface with
    methods := surface.methods.map (Stub.renumber r)
    streams := surface.streams.map (StreamOpener.renumber r)
    prebuild := surface.prebuild.map (PrebuildHelper.renumber r) }

/-- A handler under other numbers. -/
def Handler.renumber (r : Renumbering) (handler : Handler) : Handler :=
  { handler with operation := r.index handler.operation }

/-- An arm under other numbers. -/
def Arm.renumber (r : Renumbering) : Arm → Arm
  | oneWay variant key operation handler message =>
    .oneWay variant (r.key key) (r.index operation) handler message
  | request arm => .request { arm with key := r.key arm.key, operation := r.index arm.operation }

/-- A dispatch plan under other numbers. -/
def DispatchPlan.renumber (r : Renumbering) (plan : DispatchPlan) : DispatchPlan :=
  { plan with
    handlers := plan.handlers.map (Handler.renumber r)
    arms := plan.arms.map (Arm.renumber r) }

variable (r : Renumbering)

section Keys

/-- Numbers that are not changed change no candidate. -/
@[simp]
theorem Candidate.renumber_refl : Candidate.renumber .refl = id := by
  funext ⟨index, op, accepted, keys⟩
  cases keys <;> simp [renumber, OperationKeys.renumber, Renumbering.refl]

@[simp]
theorem Placement.renumber_refl : Placement.renumber .refl = id := by
  funext p
  simp [renumber]

/-- The first key of an operation is changed like every other. -/
@[simp]
theorem OperationKeys.outbound_renumber (keys : OperationKeys) :
    (keys.renumber r).outbound = r.key keys.outbound := by
  cases keys <;> rfl

end Keys

section Drafts

variable (c : Contract) (index : Nat) (op : Operation)

/-- The pages of a stream under other numbers. -/
theorem Operation.pageDrafts_renumber (role : Role) (key : Option MessageKey)
    (item : Option DataType) :
    op.pageDrafts c (r.index index) role (key.map r.key) item =
      (op.pageDrafts c index role key item).map (Draft.renumber r) := by
  cases key <;> cases item <;> rfl

/-- The marker and the carriers under other numbers. -/
theorem Operation.faultDrafts_renumber (marker : Option NodeId) :
    op.faultDrafts (r.index index) marker =
      (op.faultDrafts index marker).map (Draft.renumber r) := by
  cases marker with
  | none => rfl
  | some marker =>
      rw [faultDrafts, faultDrafts, List.map_cons, List.map_map]
      rfl

/-- **The types of a renumbered operation** are its types, renumbered. -/
theorem Operation.drafts_renumber (keys : OperationKeys) (first : NodeId) :
    op.drafts c (r.index index) (keys.renumber r) first =
      (op.drafts c index keys first).map (Draft.renumber r) := by
  cases keys with
  | oneWay key => rfl
  | request keys =>
      simp only [OperationKeys.renumber, drafts, requestDrafts, List.map_append,
        pageDrafts_renumber, faultDrafts_renumber]
      simp [requestDraft, responseDraft, faultDraft, Draft.renumber]

/-- The names of the types of an operation depend neither on the contract nor on their numbers. -/
theorem Operation.map_name_drafts (c' : Contract) (keys : OperationKeys) (first first' : NodeId) :
    (op.drafts c' index keys first').map Draft.name =
      (op.drafts c index keys first).map Draft.name := by
  cases keys with
  | oneWay key => simp [drafts, oneWayDraft]
  | request keys =>
      have hpages : ∀ role key item, (op.pageDrafts c' index role key item).map Draft.name =
          (op.pageDrafts c index role key item).map Draft.name := by
        intro role key item
        cases key <;> cases item <;> simp [pageDrafts, pageDraft]
      have hfaults : ∀ marker marker',
          (op.faultDrafts index (if op.faults.isEmpty then none else some marker')).map
              Draft.name =
            (op.faultDrafts index (if op.faults.isEmpty then none else some marker)).map
              Draft.name := by
        intro marker marker'
        split
        · rfl
        · simp [faultDrafts, markerDraft, carrierDraft]
      simp only [drafts, requestDrafts, List.map_append, hpages, hfaults (first + 2) (first' + 2)]
      simp [requestDraft, responseDraft, faultDraft]

/-- Numbering comes after renumbering as well as before it. -/
theorem Draft.finalizeFrom_renumber (qualifier : String) (first : NodeId) (drafts : List Draft) :
    finalizeFrom qualifier first (drafts.map (Draft.renumber r)) =
      (finalizeFrom qualifier first drafts).map (Node.renumber r) := by
  induction drafts generalizing first with
  | nil => rfl
  | cons draft rest ih =>
      rw [List.map_cons, finalizeFrom_cons, finalizeFrom_cons, List.map_cons, ih]
      rfl

/-- The types that every catalog starts with belong to no operation. -/
theorem Contract.systemDrafts_renumber
    (hkeys : ∀ message : SystemMessage, r.key message.key = message.key) :
    c.systemDrafts.map (Draft.renumber r) = c.systemDrafts := by
  rw [systemDrafts, List.map_cons, List.map_map]
  congr 1
  refine List.map_congr_left ?_
  intro message _
  simp [Draft.renumber, SystemMessage.draft, hkeys]

end Drafts

namespace Placement

variable (c : Contract) (p : Placement)

/-- The nodes of a placement are changed one by one. -/
theorem nodes_renumber : (p.renumber r).nodes c = (p.nodes c).map (Node.renumber r) := by
  have hdrafts : (p.renumber r).drafts c = (p.drafts c).map (Draft.renumber r) :=
    p.candidate.operation.drafts_renumber r c p.candidate.index p.candidate.keys p.first
  rw [nodes, hdrafts, Draft.finalizeFrom_renumber]
  rfl

theorem faultSet?_renumber :
    (p.renumber r).faultSet? c = (p.faultSet? c).map (FaultSet.renumber r) := by
  simp only [faultSet?, renumber, Candidate.renumber, Operation.faultSet?]
  rw [apply_ite (Option.map (FaultSet.renumber r))]
  rfl

theorem generated_renumber : (p.renumber r).generated = p.generated.renumber r := rfl

theorem outboundKey_renumber : (p.renumber r).outboundKey = r.key p.outboundKey :=
  OperationKeys.outbound_renumber r _

end Placement

namespace Generated

variable (entry : Generated)

/-- The method that opens a stream has its numbers changed. -/
theorem opener?_renumber :
    (entry.renumber r).opener? = entry.opener?.map (StreamOpener.renumber r) := by
  unfold opener?
  cases hmessages : entry.messages with
  | oneWay message => simp [renumber, hmessages]
  | request messages =>
      by_cases hstream : entry.operation.isStreaming <;>
        simp [renumber, hmessages, hstream, StreamOpener.renumber]

theorem stubs_renumber : (entry.renumber r).stubs = entry.stubs.map (Stub.renumber r) := by
  have hnamed : ∀ base prebuilt, (entry.renumber r).stubsNamed base prebuilt =
      (entry.stubsNamed base prebuilt).map (Stub.renumber r) := by
    intro base prebuilt
    rw [stubsNamed, stubsNamed, List.map_map]
    rfl
  simp only [stubs, opener?_renumber, Option.isSome_map, hnamed]
  split
  · rfl
  · rw [List.map_append, apply_ite (List.map (Stub.renumber r))]
    rfl

theorem prebuildHelper?_renumber (serializer : Serializer) :
    (entry.renumber r).prebuildHelper? serializer =
      (entry.prebuildHelper? serializer).map (PrebuildHelper.renumber r) := by
  simp only [prebuildHelper?, opener?_renumber, Option.isNone_map]
  rw [apply_ite (Option.map (PrebuildHelper.renumber r))]
  rfl

/-- The arm of an operation under other numbers, in a catalog that gives it the same catch chain. -/
theorem arm_renumber {catalog catalog' : Catalog} (key : MessageKey)
    (hchain : catalog.catchChain (r.index entry.index) = catalog'.catchChain entry.index) :
    (entry.renumber r).arm catalog (r.key key) = (entry.arm catalog' key).renumber r := by
  unfold arm
  cases hmessages : entry.messages <;>
    simp [renumber, hmessages, Arm.renumber, hchain]

end Generated

/-- A facade shows no numbers. -/
theorem CallStyle.facade?_renumber (style : CallStyle) (surface : String) (stubs : List Stub) :
    style.facade? surface (stubs.map (Stub.renumber r)) = style.facade? surface stubs := by
  rw [facade?, facade?, List.filter_map, List.map_map]
  rfl

/-- The surface over renumbered operations is the surface, renumbered. -/
theorem Surface.build_renumber {c c' : Contract} {catalog catalog' : Catalog} {peer : Peer}
    (serializer : Serializer) (hname : c.typeName = c'.typeName)
    (hcalled : catalog.directed c peer.calls =
      (catalog'.directed c' peer.calls).map (Generated.renumber r)) :
    build c catalog peer serializer = (build c' catalog' peer serializer).renumber r := by
  have hstubs : (catalog.directed c peer.calls).flatMap Generated.stubs =
      ((catalog'.directed c' peer.calls).flatMap Generated.stubs).map (Stub.renumber r) := by
    rw [hcalled, List.flatMap_map, List.map_flatMap]
    simp only [Generated.stubs_renumber]
  have hstreams : (catalog.directed c peer.calls).filterMap Generated.opener? =
      ((catalog'.directed c' peer.calls).filterMap Generated.opener?).map
        (StreamOpener.renumber r) := by
    rw [hcalled, List.filterMap_map, List.map_filterMap]
    exact List.filterMap_congr fun entry _ => entry.opener?_renumber r
  have hprebuild : (catalog.directed c peer.calls).filterMap (·.prebuildHelper? serializer) =
      ((catalog'.directed c' peer.calls).filterMap (·.prebuildHelper? serializer)).map
        (PrebuildHelper.renumber r) := by
    rw [hcalled, List.filterMap_map, List.map_filterMap]
    exact List.filterMap_congr fun entry _ => entry.prebuildHelper?_renumber r serializer
  have hsurface : nameOf c peer = nameOf c' peer := by
    cases peer <;> simp only [nameOf, hname]
  simp only [build, renumber, hsurface, hstubs, hstreams, hprebuild, CallStyle.facade?_renumber]

/-- The plan with renumbered handlers and arms is the plan, renumbered. -/
theorem DispatchPlan.build_renumber {c c' : Contract} {keys keys' : KeyTable}
    {catalog catalog' : Catalog} {peer : Peer} (hname : c.typeName = c'.typeName)
    (hhandlers : (build c keys catalog peer).handlers =
      (build c' keys' catalog' peer).handlers.map (Handler.renumber r))
    (harms : (build c keys catalog peer).arms =
      (build c' keys' catalog' peer).arms.map (Arm.renumber r)) :
    build c keys catalog peer = (build c' keys' catalog' peer).renumber r := by
  rw [renumber, ← hhandlers, ← harms]
  cases peer <;> simp only [build, traitName, dispatcherName, inboundName, hname]

namespace Assembly

variable {c c' : Contract} {a b : Assembly}

/-- Two assemblies in which the same names are taken. -/
structure SameNames (a b : Assembly) : Prop where
  size : b.nodes.length = a.nodes.length
  types : b.index = a.index
  methods : b.methods = a.methods

theorem SameNames.refl (a : Assembly) : SameNames a a := ⟨rfl, rfl, rfl⟩

/-- Nothing but the taken names decides whether a candidate clashes. -/
theorem SameNames.clash?_eq (hsame : SameNames a b) (op : Operation) :
    b.clash? op = a.clash? op := by
  rw [clash?, clash?, hsame.types, hsame.methods]

/-- A candidate is placed under other numbers exactly if it is placed under its own. -/
theorem SameNames.place?_eq (hsame : SameNames a b) (candidate : Candidate) :
    b.place? (candidate.renumber r) = (a.place? candidate).map (Placement.renumber r) := by
  rw [place?, place?, hsame.clash?_eq, hsame.size, apply_ite (Option.map (Placement.renumber r))]
  rfl

/-- A candidate that is taken in under other numbers takes the same names. -/
theorem SameNames.takeIn (hsame : SameNames a b) (candidate : Candidate) :
    SameNames (a.takeIn c candidate) (b.takeIn c' (candidate.renumber r)) := by
  have hnames : (candidate.operation.drafts c' (r.index candidate.index)
        (candidate.keys.renumber r) a.nodes.length).map Draft.name =
      (candidate.operation.drafts c candidate.index candidate.keys a.nodes.length).map
        Draft.name := by
    rw [Operation.drafts_renumber, List.map_map]
    exact Operation.map_name_drafts ..
  have hlength := congrArg List.length hnames
  rw [List.length_map, List.length_map] at hlength
  refine ⟨?_, ?_, congrArg (· ++ candidate.operation.claims) hsame.methods⟩
  · simp [Assembly.takeIn, Candidate.renumber, hsame.size, hlength]
  · simp only [Assembly.takeIn, Candidate.renumber, hsame.size, hsame.types]
    refine NameIndex.enterAll_congr _ ?_
    rw [Draft.map_entry_finalizeFrom, Draft.map_entry_finalizeFrom, hnames]

/-- **One step.**  The same names are taken afterwards: both steps take the candidate in, or both
leave it out. -/
theorem SameNames.step (hsame : SameNames a b) (candidate : Candidate) :
    SameNames (a.step c candidate) (b.step c' (candidate.renumber r)) := by
  have hplace : b.place? (candidate.renumber r) = _ := hsame.place?_eq r candidate
  obtain ⟨-, -, ha, hstep⟩ | ⟨ha, problems, hstep⟩ := step_cases c a candidate <;>
    obtain ⟨-, -, hb, hstep'⟩ | ⟨hb, problems', hstep'⟩ :=
      step_cases c' b (candidate.renumber r) <;>
    rw [ha, hb] at hplace
  · rw [hstep, hstep']
    exact hsame.takeIn r candidate
  · cases hplace
  · cases hplace
  · rw [hstep, hstep']
    exact ⟨hsame.size, hsame.types, hsame.methods⟩

/-- **A run reads no numbers.**  Where the same names are taken, renumbered candidates have the same
outcomes, renumbered. -/
theorem SameNames.outcomes_renumber (hsame : SameNames a b) (candidates : List Candidate) :
    b.outcomes c' (candidates.map (Candidate.renumber r)) =
      (a.outcomes c candidates).map (Option.map (Placement.renumber r)) := by
  induction candidates generalizing a b with
  | nil => rfl
  | cons candidate rest ih =>
      rw [List.map_cons, outcomes, outcomes, List.map_cons, hsame.place?_eq r,
        ih (hsame.step r candidate)]

/-- Where the same names are taken, the same candidates have the same outcomes, under one contract
or under two. -/
theorem SameNames.outcomes_eq (hsame : SameNames a b) (candidates : List Candidate) :
    b.outcomes c' candidates = a.outcomes c candidates := by
  have hrun : b.outcomes c' (candidates.map (Candidate.renumber .refl)) =
      (a.outcomes c candidates).map (Option.map (Placement.renumber .refl)) :=
    hsame.outcomes_renumber .refl candidates
  simpa using hrun

end Assembly

end ServiceContract
