import ServiceContract.Catalog.Assembly

/-!
# Placements

A candidate either enters the catalog as a whole or leaves nothing in it.  A `Placement` records
that a candidate entered, and the number its first type got; everything the assembly holds can be
read off the placements.

`step_cases` says what one step does, and the `foldl_step` lemmas what a whole run does: nodes,
operations, fault sets and method claims are those of the placements, one after the other, and the
numbers of their types follow each other without gaps (`Placement.Chain`).
-/

namespace ServiceContract

namespace Draft

@[simp]
theorem length_finalizeFrom (qualifier : String) (first : NodeId) (drafts : List Draft) :
    (finalizeFrom qualifier first drafts).length = drafts.length := by
  simp [finalizeFrom]

/-- Drafts are numbered in a row. -/
theorem finalizeFrom_cons (qualifier : String) (first : NodeId) (draft : Draft)
    (drafts : List Draft) :
    finalizeFrom qualifier first (draft :: drafts) =
      draft.finalize first qualifier :: finalizeFrom qualifier (first + 1) drafts :=
  rfl

/-- Numbering goes on where it stopped. -/
theorem finalizeFrom_append (qualifier : String) (first : NodeId) (xs ys : List Draft) :
    finalizeFrom qualifier first (xs ++ ys) =
      finalizeFrom qualifier first xs ++ finalizeFrom qualifier (first + xs.length) ys := by
  rw [finalizeFrom, List.zipIdx_append, List.map_append]
  rfl

/-- The node at a place is the draft there under its number. -/
theorem getElem?_finalizeFrom (qualifier : String) (first : NodeId) (drafts : List Draft)
    (i : Nat) :
    (finalizeFrom qualifier first drafts)[i]? =
      drafts[i]?.map fun draft => draft.finalize (first + i) qualifier := by
  simp [finalizeFrom, List.getElem?_zipIdx, Function.comp_def]

/-- What a node takes from its draft unchanged can be read off the drafts. -/
theorem map_finalizeFrom {α : Type} {f : Node → α} {g : Draft → α} (qualifier : String)
    (first : NodeId) (drafts : List Draft)
    (hfg : ∀ draft id, f (finalize draft id qualifier) = g draft) :
    (finalizeFrom qualifier first drafts).map f = drafts.map g := by
  induction drafts generalizing first with
  | nil => rfl
  | cons draft rest ih =>
      have hrest := ih (first + 1)
      simp only [finalizeFrom] at hrest
      simp [finalizeFrom, hfg, hrest]

/-- The names of consecutive nodes with their numbers. -/
theorem map_entry_finalizeFrom (qualifier : String) (first : NodeId) (drafts : List Draft) :
    (finalizeFrom qualifier first drafts).map (fun node => (node.name, node.id)) =
      (drafts.map Draft.name).zipIdx first := by
  rw [finalizeFrom, List.map_map, List.zipIdx_map]
  rfl

/-- A node of a finalized list comes from a draft. -/
theorem mem_finalizeFrom {qualifier : String} {first : NodeId} {drafts : List Draft} {node : Node}
    (h : node ∈ finalizeFrom qualifier first drafts) :
    ∃ draft ∈ drafts, ∃ id, node = draft.finalize id qualifier := by
  obtain ⟨i, hi⟩ := List.mem_iff_getElem?.1 h
  rw [getElem?_finalizeFrom] at hi
  obtain ⟨draft, hdraft, rfl⟩ := Option.map_eq_some_iff.1 hi
  exact ⟨draft, List.mem_of_getElem? hdraft, first + i, rfl⟩

end Draft

/-- An index reads only the names of nodes and their numbers. -/
theorem NameIndex.enterAll_congr (index : NameIndex) {xs ys : List Node}
    (h : xs.map (fun node => (node.name, node.id)) = ys.map fun node => (node.name, node.id)) :
    index.enterAll xs = index.enterAll ys := by
  have hread : ∀ nodes, index.enterAll nodes = (nodes.map fun node => (node.name, node.id)).foldl
      (fun index entry => if entry.1 ∈ index.names then index else ⟨index.entries ++ [entry]⟩)
      index := by
    intro nodes
    rw [List.foldl_map]
    rfl
  rw [hread, hread, h]

/-- The types of an operation depend on the name of the contract only. -/
theorem Operation.drafts_congr {c c' : Contract} (hname : c'.typeName = c.typeName)
    (op : Operation) (index : Nat) (keys : OperationKeys) (first : NodeId) :
    op.drafts c' index keys first = op.drafts c index keys first := by
  have hlabel : op.displayLabel c' = op.displayLabel c := by
    rw [displayLabel, displayLabel, hname]
  cases keys with
  | oneWay key => simp only [drafts, oneWayDraft, hlabel]
  | request keys =>
      have hpages : op.pageDrafts c' index = op.pageDrafts c index := by
        funext role key item
        cases key <;> cases item <;> simp only [pageDrafts, pageDraft, hlabel]
      simp only [drafts, requestDrafts, requestDraft, responseDraft, faultDraft, hlabel, hpages]

/-- The fault set of an operation depends on the specificity of its payloads only. -/
theorem Operation.faultSet?_congr {c c' : Contract} {op : Operation}
    (hspecificity : ∀ fault ∈ op.faults,
      c'.specificity fault.payload = c.specificity fault.payload) (index : Nat) (first : NodeId) :
    op.faultSet? c' index first = op.faultSet? c index first := by
  have hcarriers : ((op.faults.zipIdx (first + 2 + 1)).map fun entry =>
        (⟨entry.2, entry.1.key, entry.1.payload, c'.specificity entry.1.payload⟩ : FaultCarrier)) =
      (op.faults.zipIdx (first + 2 + 1)).map fun entry =>
        ⟨entry.2, entry.1.key, entry.1.payload, c.specificity entry.1.payload⟩ := by
    refine List.map_congr_left ?_
    intro entry hentry
    rw [hspecificity entry.1 (List.fst_mem_of_mem_zipIdx hentry)]
  simp only [faultSet?, faultSet, hcarriers]

/-- A candidate that entered the catalog, with the number of its first type. -/
structure Placement where
  candidate : Candidate
  first : NodeId
  deriving DecidableEq, Repr

namespace Placement

/-- The types of a placed operation. -/
def drafts (c : Contract) (p : Placement) : List Draft :=
  p.candidate.operation.drafts c p.candidate.index p.candidate.keys p.first

/-- The nodes of a placed operation. -/
def nodes (c : Contract) (p : Placement) : List Node :=
  Draft.finalizeFrom c.qualifiedName p.first (p.drafts c)

/-- The numbers of the types of a placed operation. -/
def messages (p : Placement) : OperationMessages :=
  p.candidate.operation.messagesFrom p.first

/-- The fault set of a placed operation, if it declares faults. -/
def faultSet? (c : Contract) (p : Placement) : Option FaultSet :=
  p.candidate.operation.faultSet? c p.candidate.index p.first

/-- The nodes of a placed operation depend on the names of the contract only. -/
theorem nodes_congr {c c' : Contract} (hname : c'.typeName = c.typeName)
    (hqualified : c'.qualifiedName = c.qualifiedName) : nodes c' = nodes c := by
  funext p
  rw [nodes, nodes, drafts, drafts, Operation.drafts_congr hname, hqualified]

/-- Each placement starts where the types of the one before it end. -/
def Chain (c : Contract) : NodeId → List Placement → Prop
  | _, [] => True
  | next, p :: rest => p.first = next ∧ Chain c (next + (p.drafts c).length) rest

end Placement

namespace Assembly

/-- The first nodes depend on the names of the contract only. -/
theorem start_congr {c c' : Contract} (hname : c'.typeName = c.typeName)
    (hqualified : c'.qualifiedName = c.qualifiedName) : start c' = start c := by
  simp only [start, Contract.systemDrafts, Contract.baseDraft, hname, hqualified]

/-- Where a candidate would be placed next: nowhere if it was not accepted or clashes. -/
def place? (a : Assembly) (candidate : Candidate) : Option Placement :=
  if candidate.accepted ∧ a.clash? candidate.operation = none then some ⟨candidate, a.nodes.length⟩
  else none

/-- **One step.**  It places the candidate and takes in everything of it, or places nothing and
leaves the catalog as it was. -/
theorem step_cases (c : Contract) (a : Assembly) (candidate : Candidate) :
    (candidate.accepted = true ∧ a.clash? candidate.operation = none ∧
      a.place? candidate = some ⟨candidate, a.nodes.length⟩ ∧
      a.step c candidate = a.takeIn c candidate) ∨
    (a.place? candidate = none ∧
      ∃ problems, a.step c candidate = a.leaveOut problems) := by
  by_cases haccepted : candidate.accepted = true
  · cases hclash : a.clash? candidate.operation with
    | none => exact .inl ⟨haccepted, rfl, by simp [place?, haccepted, hclash],
        by simp [step, haccepted, hclash]⟩
    | some problem => exact .inr ⟨by simp [place?, hclash],
        [problem], by simp [step, haccepted, hclash]⟩
  · exact .inr ⟨by simp [place?, haccepted], [], by simp [step, haccepted]⟩

/-- What becomes of each candidate of a run. -/
def outcomes (c : Contract) (a : Assembly) : List Candidate → List (Option Placement)
  | [] => []
  | candidate :: rest => a.place? candidate :: outcomes c (a.step c candidate) rest

/-- The placements of a run. -/
def placed (c : Contract) (a : Assembly) (candidates : List Candidate) : List Placement :=
  (a.outcomes c candidates).filterMap id

section Run

variable (c : Contract) (a : Assembly) (candidates : List Candidate)

/-- Every candidate is placed or skipped. -/
@[simp]
theorem length_outcomes : (a.outcomes c candidates).length = candidates.length := by
  induction candidates generalizing a with
  | nil => rfl
  | cons candidate rest ih => simp [outcomes, ih]

/-- A run goes on where another one ended. -/
theorem outcomes_append (more : List Candidate) :
    a.outcomes c (candidates ++ more) =
      a.outcomes c candidates ++ (candidates.foldl (step c) a).outcomes c more := by
  induction candidates generalizing a with
  | nil => rfl
  | cons candidate rest ih => simp [outcomes, ih]

/-- The nodes after a run. -/
theorem foldl_step_nodes :
    (candidates.foldl (step c) a).nodes =
      a.nodes ++ (a.placed c candidates).flatMap (Placement.nodes c) := by
  induction candidates generalizing a with
  | nil => simp [placed, outcomes]
  | cons candidate rest ih =>
      rw [List.foldl_cons, ih]
      obtain ⟨-, -, hplace, hstep⟩ | ⟨hplace, problems, hstep⟩ := step_cases c a candidate
      · simp [placed, outcomes, hplace, hstep, takeIn, Placement.nodes, Placement.drafts]
      · simp [placed, outcomes, hplace, hstep, leaveOut]

/-- The types of each operation after a run. -/
theorem foldl_step_operations :
    (candidates.foldl (step c) a).operations =
      a.operations ++ (a.outcomes c candidates).map (Option.map Placement.messages) := by
  induction candidates generalizing a with
  | nil => simp [outcomes]
  | cons candidate rest ih =>
      rw [List.foldl_cons, ih]
      obtain ⟨-, -, hplace, hstep⟩ | ⟨hplace, problems, hstep⟩ := step_cases c a candidate
      · simp [outcomes, hplace, hstep, takeIn, Placement.messages]
      · simp [outcomes, hplace, hstep, leaveOut]

/-- The flags after a run: an operation is generated if it was placed. -/
theorem foldl_step_generated :
    (candidates.foldl (step c) a).generated =
      a.generated ++ (a.outcomes c candidates).map Option.isSome := by
  induction candidates generalizing a with
  | nil => simp [outcomes]
  | cons candidate rest ih =>
      rw [List.foldl_cons, ih]
      obtain ⟨haccepted, -, hplace, hstep⟩ | ⟨hplace, problems, hstep⟩ := step_cases c a candidate
      · simp [outcomes, hplace, hstep, takeIn, haccepted]
      · simp [outcomes, hplace, hstep, leaveOut]

/-- The fault sets after a run. -/
theorem foldl_step_faultSets :
    (candidates.foldl (step c) a).faultSets =
      a.faultSets ++ (a.placed c candidates).filterMap (Placement.faultSet? c) := by
  induction candidates generalizing a with
  | nil => simp [placed, outcomes]
  | cons candidate rest ih =>
      rw [List.foldl_cons, ih]
      obtain ⟨-, -, hplace, hstep⟩ | ⟨hplace, problems, hstep⟩ := step_cases c a candidate
      · cases hset : candidate.operation.faultSet? c candidate.index a.nodes.length <;>
          simp [placed, outcomes, hplace, hstep, takeIn, Placement.faultSet?, hset]
      · simp [placed, outcomes, hplace, hstep, leaveOut]

/-- The placed candidates are some of the candidates, in their order. -/
theorem placed_sublist :
    ((a.placed c candidates).map Placement.candidate).Sublist candidates := by
  induction candidates generalizing a with
  | nil => exact .slnil
  | cons candidate rest ih =>
      have hrest := ih (a.step c candidate)
      obtain ⟨-, -, hplace, -⟩ | ⟨hplace, -⟩ := step_cases c a candidate
      · simpa [placed, outcomes, hplace] using hrest
      · simpa [placed, outcomes, hplace] using hrest.cons candidate

/-- Placements follow each other without gaps. -/
theorem placed_chain : Placement.Chain c a.nodes.length (a.placed c candidates) := by
  induction candidates generalizing a with
  | nil => trivial
  | cons candidate rest ih =>
      have hrest := ih (a.step c candidate)
      obtain ⟨-, -, hplace, hstep⟩ | ⟨hplace, problems, hstep⟩ := step_cases c a candidate
      · rw [hstep] at hrest
        have hsize : (a.takeIn c candidate).nodes.length = a.nodes.length +
            (Placement.drafts c ⟨candidate, a.nodes.length⟩).length := by
          simp [takeIn, Placement.drafts]
        rw [hsize] at hrest
        simpa [placed, outcomes, hplace, hstep, Placement.Chain] using hrest
      · rw [hstep] at hrest
        simpa [placed, outcomes, hplace, hstep, leaveOut] using hrest

variable {c a candidates}

/-- An outcome at a position is about the candidate there, which was accepted. -/
theorem getElem?_outcomes {i : Nat} {p : Placement}
    (h : (a.outcomes c candidates)[i]? = some (some p)) :
    candidates[i]? = some p.candidate ∧ p.candidate.accepted = true := by
  induction candidates generalizing a i with
  | nil => simp [outcomes] at h
  | cons candidate rest ih =>
      cases i with
      | succ i =>
          rw [outcomes, List.getElem?_cons_succ] at h
          rw [List.getElem?_cons_succ]
          exact ih h
      | zero =>
          simp only [outcomes, List.getElem?_cons_zero, Option.some.injEq] at h
          obtain ⟨haccepted, -, hplace, -⟩ | ⟨hplace, -⟩ := step_cases c a candidate
          · rw [hplace, Option.some.injEq] at h
            subst h
            exact ⟨rfl, haccepted⟩
          · rw [hplace] at h
            cases h

/-- The nodes of a placement stand in the catalog under their numbers. -/
theorem getElem?_nodes_of_placed {p : Placement} (hp : p ∈ a.placed c candidates) {i : Nat}
    (hi : i < (p.drafts c).length) :
    (candidates.foldl (step c) a).nodes[p.first + i]? = (p.nodes c)[i]? := by
  induction candidates generalizing a with
  | nil => simp [placed, outcomes] at hp
  | cons candidate rest ih =>
      obtain ⟨-, -, hplace, hstep⟩ | ⟨hplace, problems, hstep⟩ := step_cases c a candidate
      · have hcons : a.placed c (candidate :: rest) =
            ⟨candidate, a.nodes.length⟩ :: (a.step c candidate).placed c rest := by
          simp [placed, outcomes, hplace]
        rw [hcons] at hp
        rcases List.mem_cons.1 hp with rfl | hp
        · rw [foldl_step_nodes, hcons, List.flatMap_cons, List.getElem?_append_right (by simp),
            List.getElem?_append_left (by simpa [Placement.nodes] using hi)]
          simp
        · exact ih hp
      · have hskip : a.placed c (candidate :: rest) = (a.step c candidate).placed c rest := by
          simp [placed, outcomes, hplace]
        exact ih (hskip ▸ hp)

end Run

end Assembly

end ServiceContract
