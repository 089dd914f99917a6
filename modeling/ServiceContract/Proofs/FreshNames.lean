import ServiceContract.Proofs.Ancestry

/-!
# Fresh names

The names of an operation's types are planned before anything is generated, and compared with the
names in the index.  The operation is taken in only if all of them are new and differ from each
other, and what is generated then has exactly the planned names
(`Operation.map_name_drafts_keysFrom`).

So along a whole run the index stays what it is at the start, a list of the nodes under their own
names (`NameIndex.Lists`): one step keeps it (`Assembly.lists_step`), and hence every run does.
Nothing checks the types that a catalog starts with; they differ because no system message is called
like a message base (`Contract.nodup_systemNames`).

The main statement is `Compiled.names_exact`.
-/

namespace ServiceContract

section Clashes

variable {α : Type} [DecidableEq α]

/-- Nothing clashes exactly if the elements differ from each other and from those taken. -/
theorem firstClash_eq_none_iff {taken items : List α} :
    firstClash taken items = none ↔ items.Nodup ∧ ∀ a ∈ items, a ∉ taken := by
  induction items generalizing taken with
  | nil => simp [firstClash]
  | cons a rest ih =>
      by_cases ha : a ∈ taken
      · simp [firstClash, ha]
      · simp only [firstClash, ha, if_false, ih, List.nodup_cons, List.mem_cons, not_or]
        constructor
        · rintro ⟨hnodup, hnew⟩
          refine ⟨⟨fun hmem => (hnew a hmem).1 rfl, hnodup⟩, ?_⟩
          rintro b (rfl | hb)
          · exact ha
          · exact (hnew b hb).2
        · rintro ⟨⟨hhead, hnodup⟩, hnew⟩
          refine ⟨hnodup, fun b hb => ⟨?_, hnew b (.inr hb)⟩⟩
          rintro rfl
          exact hhead hb

/-- What does not clash can be added. -/
theorem nodup_append_of_firstClash {taken items : List α} (htaken : taken.Nodup)
    (h : firstClash taken items = none) : (taken ++ items).Nodup := by
  obtain ⟨hitems, hnew⟩ := firstClash_eq_none_iff.1 h
  refine List.nodup_append.2 ⟨htaken, hitems, ?_⟩
  rintro a ha b hb rfl
  exact hnew a hb ha

/-- An operation clashes with nothing if neither its types nor its methods do. -/
theorem Assembly.clash?_eq_none_iff {a : Assembly} {op : Operation} :
    a.clash? op = none ↔
      firstClash a.index.names op.plannedNames = none ∧ firstClash a.methods op.claims = none := by
  unfold clash?
  split <;> simp_all

end Clashes

/-- Of two endings of one text, one ends with the other. -/
theorem endings_nested {x y s t : String} (h : x ++ s = y ++ t) :
    s.toList <:+ t.toList ∨ t.toList <:+ s.toList := by
  have hlist := congrArg String.toList h
  rw [String.toList_append, String.toList_append] at hlist
  exact List.suffix_or_suffix_of_suffix ⟨_, hlist⟩ ⟨_, rfl⟩

namespace NameIndex

/-- The index lists the nodes, each under a name of its own. -/
structure Lists (index : NameIndex) (nodes : List Node) : Prop where
  entries : index.entries = nodes.map fun node => (node.name, node.id)
  nodup : (nodes.map Node.name).Nodup

/-- A name that is not in the index is not found. -/
theorem find?_eq_none {index : NameIndex} {name : String} (h : name ∉ index.names) :
    index.find? name = none := by
  rw [find?, Option.map_eq_none_iff, List.find?_eq_none]
  intro entry hentry heq
  exact h (List.mem_map.2 ⟨entry, hentry, of_decide_eq_true heq⟩)

namespace Lists

variable {index : NameIndex} {nodes : List Node} (h : index.Lists nodes)
include h

/-- The index has the names of the nodes. -/
theorem names_eq : index.names = nodes.map Node.name := by
  rw [names, h.entries, List.map_map]
  rfl

/-- A name leads to the number of its node. -/
theorem find?_eq_some {node : Node} (hnode : node ∈ nodes) :
    index.find? node.name = some node.id := by
  rw [find?, h.entries, List.find?_map, Option.map_map]
  cases hfound : nodes.find? ((fun entry => decide (entry.1 = node.name)) ∘
      fun node => (node.name, node.id)) with
  | none =>
      have hdiffers := List.find?_eq_none.1 hfound node hnode
      simp at hdiffers
  | some other =>
      have hname : other.name = node.name := by simpa using List.find?_some hfound
      have hsame := List.inj_on_of_nodup_map h.nodup (List.mem_of_find?_eq_some hfound) hnode hname
      rw [hsame]
      rfl

/-- A node with a new name is listed behind the others. -/
theorem enter {node : Node} (hnew : node.name ∉ nodes.map Node.name) :
    (index.enter node).Lists (nodes ++ [node]) := by
  rw [NameIndex.enter, h.names_eq, if_neg hnew]
  refine ⟨by simp [h.entries], ?_⟩
  rw [List.map_append, List.map_singleton]
  exact List.nodup_append.2 ⟨h.nodup, List.nodup_singleton _, by
    rintro name hname other hother rfl
    exact hnew (List.mem_singleton.1 hother ▸ hname)⟩

/-- So are further nodes, if no name is there twice. -/
theorem enterAll {more : List Node} (hnodup : ((nodes ++ more).map Node.name).Nodup) :
    (index.enterAll more).Lists (nodes ++ more) := by
  induction more generalizing index nodes with
  | nil => simpa [NameIndex.enterAll] using h
  | cons node rest ih =>
      have hnew : node.name ∉ nodes.map Node.name := by
        intro hmem
        rw [List.map_append, List.nodup_append] at hnodup
        exact hnodup.2.2 _ hmem node.name (by simp) rfl
      have hrest := ih (h.enter hnew) (by simpa using hnodup)
      simpa [NameIndex.enterAll] using hrest

end Lists

/-- An index made of nodes with distinct names lists them. -/
theorem lists_enterAll_empty {nodes : List Node} (hnodup : (nodes.map Node.name).Nodup) :
    (enterAll {} nodes).Lists nodes := by
  have hempty : Lists {} [] := ⟨rfl, List.nodup_nil⟩
  exact hempty.enterAll hnodup

end NameIndex

/-- **Planned names.**  What is generated for an operation has the planned names, in their order. -/
theorem Operation.map_name_drafts_keysFrom (c : Contract) (index : Nat) (op : Operation)
    (key : MessageKey) (first : NodeId) :
    (op.drafts c index (op.keysFrom key) first).map Draft.name = op.plannedNames := by
  cases hone : op.kind.isOneWay with
  | true => simp [drafts, keysFrom, plannedNames, hone, oneWayDraft]
  | false =>
      -- the marker and the carriers are there together or not at all
      by_cases hnone : op.faults = [] <;> cases hin : op.inputStream <;>
        cases hout : op.outputStream <;>
        simp [drafts, requestDrafts, keysFrom, plannedNames, hone, hnone, hin, hout, requestDraft,
          responseDraft, faultDrafts, markerDraft, carrierDraft, faultDraft, pageDrafts, pageDraft]

/-- The types that every catalog starts with have names of their own. -/
theorem Contract.nodup_systemNames (c : Contract) : (c.systemDrafts.map Draft.name).Nodup := by
  have hsystem : ∀ message ∈ SystemMessage.all, ¬ Role.messageBase.suffix.toList <:+
      message.name.toList ∧ ¬ message.name.toList <:+ Role.messageBase.suffix.toList := by
    decide +kernel
  have hnames : c.systemDrafts.map Draft.name =
      (c.typeName ++ Role.messageBase.suffix) :: SystemMessage.all.map SystemMessage.name := by
    rw [systemDrafts, List.map_cons, List.map_map]
    rfl
  rw [hnames]
  refine List.nodup_cons.2 ⟨?_, by decide +kernel⟩
  intro hmem
  obtain ⟨message, hmessage, hname⟩ := List.mem_map.1 hmem
  rw [← String.empty_append (s := message.name)] at hname
  rcases endings_nested hname with hle | hle
  · exact (hsystem message hmessage).2 hle
  · exact (hsystem message hmessage).1 hle

namespace Assembly

variable {c : Contract} {a : Assembly}

/-- The index of a catalog that has no operations yet. -/
theorem lists_start (c : Contract) : (start c).index.Lists (start c).nodes := by
  simp only [start]
  apply NameIndex.lists_enterAll_empty
  rw [Draft.map_finalizeFrom _ _ _ fun _ _ => rfl]
  exact c.nodup_systemNames

/-- **One step.**  A candidate whose keys are the ones its declaration asks for leaves an index that
lists the nodes. -/
theorem lists_step (h : a.index.Lists a.nodes) {candidate : Candidate} {key : MessageKey}
    (hkeys : candidate.keys = candidate.operation.keysFrom key) :
    (a.step c candidate).index.Lists (a.step c candidate).nodes := by
  obtain ⟨-, hclash, -, hstep⟩ | ⟨-, problems, hstep⟩ := step_cases c a candidate
  · rw [hstep]
    refine h.enterAll ?_
    rw [List.map_append, Draft.map_finalizeFrom _ _ _ fun _ _ => rfl, hkeys,
      Operation.map_name_drafts_keysFrom, ← h.names_eq]
    refine nodup_append_of_firstClash ?_ (clash?_eq_none_iff.1 hclash).1
    rw [h.names_eq]
    exact h.nodup
  · rw [hstep]
    exact h

/-- **A whole run** does so too. -/
theorem lists_foldl_step (h : a.index.Lists a.nodes) {candidates : List Candidate}
    (hkeys : ∀ candidate ∈ candidates,
      ∃ key, candidate.keys = candidate.operation.keysFrom key) :
    (candidates.foldl (step c) a).index.Lists (candidates.foldl (step c) a).nodes := by
  induction candidates generalizing a with
  | nil => exact h
  | cons candidate rest ih =>
      obtain ⟨key, hkey⟩ := hkeys candidate List.mem_cons_self
      exact ih (lists_step h hkey) fun other hother => hkeys other (List.mem_cons_of_mem _ hother)

end Assembly

/-- The keys of a candidate are the ones its declaration asks for. -/
theorem Contract.keys_of_mem_candidates {c : Contract} {options : Options} {keys : KeyTable}
    (h : KeyTable.allocate c options = .ok keys) {accepted : List Bool} {candidate : Candidate}
    (hmem : candidate ∈ c.candidates accepted keys) :
    ∃ key, candidate.keys = candidate.operation.keysFrom key := by
  obtain ⟨i, hi⟩ := List.mem_iff_getElem?.1 hmem
  obtain ⟨-, hop, -, block, hblock, hkeys⟩ := getElem?_candidates hi
  rw [KeyTable.block?, KeyTable.allocate_blocks h] at hblock
  obtain ⟨op, first, hop', rfl⟩ := KeyTable.getElem?_blocksAt hblock
  rw [hop, Option.some_inj] at hop'
  subst hop'
  exact ⟨first, hkeys⟩

namespace Compiled

variable {c : Contract} {options : Options} {compiled : Compiled}

/-- The index of a catalog lists its nodes. -/
theorem index_lists (h : c.compile options = .ok compiled) :
    compiled.catalog.index.Lists compiled.catalog.nodes := by
  rw [Contract.compile_catalog h]
  exact Assembly.lists_foldl_step (Assembly.lists_start c) fun candidate hmem =>
    Contract.keys_of_mem_candidates (Contract.compile_keys h) hmem

/-- The nodes of a placed operation have its planned names. -/
theorem map_name_placement (h : c.compile options = .ok compiled) {p : Placement}
    (hp : p ∈ compiled.placements) :
    (p.nodes c).map Node.name = p.candidate.operation.plannedNames := by
  obtain ⟨key, -, hkeys⟩ := exists_block h hp
  rw [Placement.nodes, Draft.map_finalizeFrom _ _ _ fun _ _ => rfl, Placement.drafts, hkeys]
  exact Operation.map_name_drafts_keysFrom ..

/-- The names of a catalog: those that every catalog starts with, then the planned names of each
generated operation. -/
theorem map_name_nodes (h : c.compile options = .ok compiled) :
    compiled.catalog.nodes.map Node.name = c.systemDrafts.map Draft.name ++
      compiled.generatedOperations.flatMap fun entry => entry.2.plannedNames := by
  rw [catalog_nodes h, List.map_append, Draft.map_finalizeFrom _ _ _ fun _ _ => rfl,
    List.map_flatMap, List.flatMap_congr fun p hp => map_name_placement h hp,
    generatedOperations_eq h, List.flatMap_map]

/-- **Names are exact.**  No two nodes of a catalog share a name, a name leads to its node, and any
other text leads to none.  The names are those that were planned for the generated operations,
behind those of the message base and the system messages. -/
theorem names_exact (h : c.compile options = .ok compiled) :
    (compiled.catalog.nodes.map Node.name).Nodup ∧
    (∀ node ∈ compiled.catalog.nodes, compiled.catalog.byName? node.name = some node) ∧
    (∀ name, (∀ node ∈ compiled.catalog.nodes, node.name ≠ name) →
      compiled.catalog.byName? name = none) ∧
    compiled.catalog.nodes.map Node.name = c.systemDrafts.map Draft.name ++
      compiled.generatedOperations.flatMap fun entry => entry.2.plannedNames := by
  have hlists := index_lists h
  refine ⟨hlists.nodup, ?_, ?_, map_name_nodes h⟩
  · intro node hnode
    rw [Catalog.byName?, hlists.find?_eq_some hnode, Option.bind_some]
    exact (tiered h).getElem?_id hnode
  · intro name hname
    have hnew : name ∉ compiled.catalog.index.names := by
      rw [hlists.names_eq]
      intro hmem
      obtain ⟨node, hnode, heq⟩ := List.mem_map.1 hmem
      exact hname node hnode heq
    rw [Catalog.byName?, NameIndex.find?_eq_none hnew, Option.bind_none]

end Compiled

/-- Three calls.  The fault of the second would be called like the carrier of the first, and the
last has two faults whose carriers would share a name. -/
def Contract.uploads : Contract :=
  { Contract.sample "Uploads"
      [{ name := "Upload", kind := ⟨.requestResponse, .toServer⟩
         faults := [⟨1, .named "Quota"⟩] },
       { name := "UploadQuota", kind := ⟨.requestResponse, .toServer⟩ },
       { name := "Fetch", kind := ⟨.requestResponse, .toClient⟩
         faults := [⟨1, .named "Quota"⟩, ⟨2, .named "disk::Quota"⟩] }] with
    faultKinds := [⟨.named "Quota", none⟩, ⟨.named "disk::Quota", none⟩] }

/-- Of the three calls of `Contract.uploads` the first is generated, and its names lead to its
types. -/
theorem Compiled.uploads_names_exact :
    ∃ compiled, Contract.uploads.compile {} = .ok compiled ∧
      compiled.generatedOperations.map Prod.fst = [0] ∧
      (compiled.catalog.nodes.map Node.name).Nodup ∧
      (∀ node ∈ compiled.catalog.nodes, compiled.catalog.byName? node.name = some node) ∧
      (∀ name, (∀ node ∈ compiled.catalog.nodes, node.name ≠ name) →
        compiled.catalog.byName? name = none) ∧
      compiled.catalog.nodes.map Node.name = Contract.uploads.systemDrafts.map Draft.name ++
        compiled.generatedOperations.flatMap fun entry => entry.2.plannedNames := by
  obtain ⟨compiled, h, hcheck⟩ := Contract.exists_compile Contract.uploads {}
    (fun compiled => compiled.generatedOperations.map Prod.fst = [0]) (by decide +kernel)
  exact ⟨compiled, h, of_decide_eq_true hcheck, names_exact h⟩

end ServiceContract
