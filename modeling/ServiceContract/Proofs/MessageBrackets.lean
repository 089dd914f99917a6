import ServiceContract.Proofs.BalancedCode

/-!
# Brackets of message types

The table of keys, the types of all nodes and the unions of a tidy source are balanced.
-/

namespace ServiceContract

open Code

/-- Constants are named in upper case with underscores. -/
theorem clean_constantName (name : String) : Clean (constantName name) := Text.clean_shouty name

theorem clean_fieldName (name : String) : Clean (fieldName name) := Text.clean_snake name

/-- The attribute of the generated types has brackets of two kinds, which match. -/
theorem balanced_dataAttribute : dataAttribute.Balanced :=
  balanced_attr (balanced_ofList fun _ => rfl)

/-- A choice is balanced if its subject and its arms are. -/
theorem balanced_matchBlock {subject : String} {arms : List String} (hsubject : Balanced subject)
    (harms : ∀ arm ∈ arms, Balanced arm) : (matchBlock subject arms).Balanced := by
  refine balanced_block ?_ (allBalanced_map fun arm harm => balanced_line (harms arm harm))
  intro stack
  rw [scanText_append, scanText_ofList, hsubject]
  rfl

/-- A variant is a piece of the name of a carrier, or the whole of it. -/
theorem Catalog.clean_faultVariant {catalog : Catalog} (h : ∀ node ∈ catalog.nodes, node.Tidy)
    (carrier : NodeId) : Clean (catalog.faultVariant carrier) := by
  have hname := catalog.clean_name h carrier
  unfold faultVariant
  dsimp only
  split
  · next variant hvariant =>
      split
      · exact hname
      · exact clean_iff.2 fun c hc => clean_iff.1 hname c (mem_of_mem_between hvariant hc)
  · exact hname

namespace Source

variable {s : Source}

/-- The table of keys is balanced for every source. -/
theorem allBalanced_messageKeys (s : Source) : AllBalanced s.messageKeys := by
  simp only [messageKeys, allBalanced_cons, allBalanced_nil, and_true]
  refine ⟨balanced_doc (balanced_ofList fun _ => rfl),
    balanced_block (balanced_ofList fun _ => rfl) (allBalanced_map ?_)⟩
  rintro ⟨name, key⟩ -
  refine balanced_line fun stack => ?_
  simp only [scanText_append, scanText_clean (clean_constantName name),
    scanText_clean (clean_hexKey key)]
  repeat rw [scanText_ofList]
  rfl

/-- The constants of a type are its names and its key. -/
theorem allBalanced_messageConstants {node : Node} (h : node.Tidy) :
    AllBalanced (messageConstants node) := by
  simp only [messageConstants, allBalanced_append, allBalanced_singleton]
  refine ⟨⟨balanced_line ?_, allBalanced_map fun _ _ => balanced_line ?_⟩,
    allBalanced_map fun faultKey _ => balanced_line ?_⟩
  · exact (balanced_quoted h.qualifiedName.balanced).between fun _ => rfl
  · exact (clean_constantName node.name).balanced.between fun _ => rfl
  · exact (clean_toString faultKey).balanced.between fun _ => rfl

section Tidy

variable (hs : s.Tidy)

include hs

/-- A member with its documentation. -/
theorem Tidy.member {field : Field} (h : field.Tidy) : AllBalanced (s.member field) := by
  simp only [Source.member, allBalanced_cons, allBalanced_nil, and_true]
  exact ⟨balanced_line ((balanced_quoted h.name.balanced).between fun _ => rfl),
    balanced_line ((hs.fieldBinder h).between fun _ => rfl)⟩

/-- The payload of a carrier is spelled with balanced brackets. -/
theorem Tidy.payloadType {node : Node} (h : node.Tidy) : Balanced (s.payloadType node) := by
  unfold Source.payloadType
  cases hfield : node.field? "Payload" with
  | none => exact balanced_ofList fun _ => rfl
  | some field => exact hs.fieldType (h.fields field (List.mem_of_find?_eq_some hfield))

/-- A method of a generated type, of each kind. -/
theorem Tidy.messageMethod {node : Node} (h : node.Tidy) {method : Method}
    (hmethod : Clean method.name) : AllBalanced (s.messageMethod node method) := by
  have hpayload := hs.payloadType h
  have hbinders : Balanced
      (commaList (node.fields.map fun field => (s.fieldBinder field).text)) := by
    refine balanced_commaList fun text htext => ?_
    obtain ⟨field, hfield, rfl⟩ := List.mem_map.1 htext
    exact hs.fieldBinder (h.fields field hfield)
  have hliteral : Balanced
      (Literal.text ⟨"Self", node.fields.map fun field => .short (fieldName field.name)⟩) := by
    refine Literal.balanced_text (clean_ofList rfl) fun init hinit => ?_
    obtain ⟨field, -, rfl⟩ := List.mem_map.1 hinit
    exact (clean_fieldName field.name).balanced
  have hfactory : AllBalanced
      [.block ("pub fn " ++ method.name ++ "(" ++
          commaList (node.fields.map fun field => (s.fieldBinder field).text) ++ ") -> Self")
        [.line (Literal.text
          ⟨"Self", node.fields.map fun field => .short (fieldName field.name)⟩)]] := by
    refine allBalanced_singleton.2 (balanced_block (fun stack => ?_)
      (allBalanced_singleton.2 (balanced_line hliteral)))
    simp only [scanText_append, scanText_clean hmethod, scanText_balanced hbinders]
    repeat rw [scanText_ofList]
    rfl
  unfold Source.messageMethod
  dsimp only
  split
  · exact hfactory
  · exact hfactory
  · refine allBalanced_singleton.2 (balanced_block (fun stack => ?_)
      (allBalanced_singleton.2 (balanced_line (balanced_ofList fun _ => rfl))))
    simp only [scanText_append, scanText_clean hmethod, scanText_balanced hpayload]
    repeat rw [scanText_ofList]
    rfl
  · simp only [allBalanced_cons, allBalanced_nil, and_true]
    refine ⟨balanced_doc (balanced_ofList fun _ => rfl), balanced_block (fun stack => ?_)
      (allBalanced_singleton.2 (balanced_line fun stack => ?_))⟩
    · simp only [scanText_append, scanText_clean hmethod, scanText_balanced hpayload,
        hs.scan_inRuntime]
      repeat rw [scanText_ofList]
      rfl
    · rw [hs.scan_inRuntime, scanText_ofList]
      rfl

/-- **A generated type** is balanced: its members are, and so are its methods. -/
theorem Tidy.messageType {node : Node} (h : node.Tidy) : AllBalanced (s.messageType node) := by
  have hdoc : Balanced (node.doc.getD ("`" ++ node.displayName ++ "`.")) := by
    cases hnode : node.doc with
    | none => exact h.displayName.between fun _ => rfl
    | some doc => exact h.doc doc hnode
  have hheader : ∀ keyword : String, Clean keyword → Balanced (keyword ++ node.name) :=
    fun keyword hkeyword => (hkeyword.append h.name).balanced
  simp only [Source.messageType, allBalanced_cons, allBalanced_nil, and_true]
  refine ⟨balanced_doc hdoc, balanced_dataAttribute,
    balanced_block (hheader _ (clean_ofList rfl))
      (allBalanced_flatMap fun field hfield => hs.member (h.fields field hfield)),
    balanced_blank, balanced_block (hheader _ (clean_ofList rfl)) (allBalanced_append.2
      ⟨allBalanced_messageConstants h, allBalanced_spaced fun piece hpiece => ?_⟩)⟩
  obtain ⟨method, hmethod, rfl⟩ := List.mem_map.1 hpiece
  exact hs.messageMethod h (h.methods method hmethod)

/-- The types of all nodes are balanced. -/
theorem Tidy.messageTypes : AllBalanced s.messageTypes := by
  refine allBalanced_separated fun piece hpiece => ?_
  obtain ⟨node, hnode, rfl⟩ := List.mem_map.1 hpiece
  exact hs.messageType (hs.nodes node (List.mem_of_mem_filter hnode))

/-- What stands before a union is documentation and attributes. -/
theorem Tidy.unionHead (union : Union) : AllBalanced (s.unionHead union) := by
  refine allBalanced_append.2 ⟨allBalanced_docOf fun doc hdoc => ?_, ?_⟩
  · obtain ⟨node, hget, hdoc⟩ := Option.bind_eq_some_iff.1 hdoc
    exact (hs.nodes node (List.mem_of_getElem? hget)).doc doc hdoc
  · simp only [allBalanced_cons, allBalanced_nil, and_true]
    exact ⟨balanced_dataAttribute, balanced_attr (balanced_ofList fun _ => rfl)⟩

/-- The union of the carriers of an operation, with the methods that choose between them. -/
theorem Tidy.faultUnion {union : Union} (h : union.Tidy) : AllBalanced (s.faultUnion union) := by
  have hvariant := s.catalog.clean_faultVariant hs.nodes
  have hname : ∀ keyword : String, Clean keyword → Balanced (keyword ++ union.name) :=
    fun keyword hkeyword => (hkeyword.append h.name).balanced
  unfold Source.faultUnion
  simp only [allBalanced_append, allBalanced_cons, allBalanced_nil, and_true]
  refine ⟨hs.unionHead union,
    balanced_block (hname _ (clean_ofList rfl))
      (allBalanced_map fun member hmember => balanced_line fun stack => ?_),
    balanced_blank, balanced_block (hname _ (clean_ofList rfl)) ?_⟩
  · simp only [scanText_append, scanText_clean (hvariant member.node),
      scanText_clean (h.members member hmember), scanText_clean (clean_toString member.tag)]
    repeat rw [scanText_ofList]
    rfl
  · simp only [allBalanced_cons, allBalanced_nil, and_true]
    refine ⟨balanced_block (balanced_ofList fun _ => rfl) (allBalanced_singleton.2
        (balanced_matchBlock (clean_ofList rfl).balanced fun arm harm stack => ?_)),
      balanced_blank, balanced_block (fun stack => ?_) (allBalanced_singleton.2
        (balanced_matchBlock (clean_ofList rfl).balanced fun arm harm stack => ?_))⟩
    · obtain ⟨member, hmember, rfl⟩ := List.mem_map.1 harm
      simp only [scanText_append, scanText_clean (hvariant member.node),
        scanText_clean (h.members member hmember)]
      repeat rw [scanText_ofList]
      rfl
    · simp only [scanText_append, hs.scan_inRuntime]
      repeat rw [scanText_ofList]
      rfl
    · obtain ⟨member, hmember, rfl⟩ := List.mem_map.1 harm
      simp only [scanText_append, scanText_clean (hvariant member.node)]
      repeat rw [scanText_ofList]
      rfl

/-- The unions that are written are those of an adapter. -/
theorem Tidy.mem_unions {adapter : Adapter} (h : s.unions? = some adapter) : adapter.Tidy :=
  hs.adapters adapter (List.mem_of_mem_head? h)

/-- The unions of the fault carriers are balanced. -/
theorem Tidy.faultUnions : AllBalanced s.faultUnions := by
  unfold Source.faultUnions
  split
  · next adapter hadapter =>
      refine allBalanced_separated fun piece hpiece => ?_
      obtain ⟨union, hunion, rfl⟩ := List.mem_map.1 hpiece
      exact hs.faultUnion ((hs.mem_unions hadapter).faultUnions union hunion)
  · exact allBalanced_nil

/-- The union of all messages, with a conversion from each member. -/
theorem Tidy.messageUnion {union : Union} (h : union.Tidy) :
    AllBalanced (s.messageUnion union) := by
  have hname : ∀ keyword : String, Clean keyword → Balanced (keyword ++ union.name) :=
    fun keyword hkeyword => (hkeyword.append h.name).balanced
  unfold Source.messageUnion
  simp only [allBalanced_append, allBalanced_cons, allBalanced_nil, and_true]
  refine ⟨⟨hs.unionHead union,
    balanced_block (hname _ (clean_ofList rfl))
      (allBalanced_map fun member hmember => balanced_line fun stack => ?_),
    balanced_blank, balanced_block (hname _ (clean_ofList rfl)) ?_⟩,
    allBalanced_spaced fun piece hpiece => ?_⟩
  · simp only [scanText_append, scanText_clean (h.members member hmember),
      scanText_clean (clean_constantName member.name)]
    repeat rw [scanText_ofList]
    rfl
  · simp only [allBalanced_cons, allBalanced_nil, and_true]
    refine ⟨balanced_doc (balanced_ofList fun _ => rfl),
      balanced_block (balanced_ofList fun _ => rfl) (allBalanced_singleton.2
        (balanced_matchBlock (clean_ofList rfl).balanced fun arm harm stack => ?_)),
      balanced_blank, balanced_block (balanced_ofList fun _ => rfl) (allBalanced_singleton.2
        (balanced_matchBlock (clean_ofList rfl).balanced fun arm harm stack => ?_))⟩
    all_goals
      obtain ⟨member, hmember, rfl⟩ := List.mem_map.1 harm
      simp only [scanText_append, scanText_clean (h.members member hmember)]
      repeat rw [scanText_ofList]
      rfl
  · obtain ⟨member, hmember, rfl⟩ := List.mem_map.1 hpiece
    have hmember := h.members member hmember
    refine allBalanced_singleton.2 (balanced_block (fun stack => ?_) (allBalanced_singleton.2
      (balanced_block (fun stack => ?_) (allBalanced_singleton.2 (balanced_line fun stack => ?_)))))
    all_goals
      simp only [scanText_append, scanText_clean hmember, scanText_clean h.name]
      repeat rw [scanText_ofList]
      rfl

/-- The union of all messages is balanced. -/
theorem Tidy.messageBaseUnion : AllBalanced s.messageBaseUnion := by
  unfold Source.messageBaseUnion
  split
  · next adapter hadapter => exact hs.messageUnion (hs.mem_unions hadapter).messageUnion
  · exact allBalanced_nil

end Tidy

end Source

end ServiceContract
