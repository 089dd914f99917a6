import ServiceContract.Proofs.CaseImages
import ServiceContract.Proofs.Forwarding
import ServiceContract.Proofs.MemberNames

/-!
# Legal identifiers

An identifier of generated code is a word, a letter or underscore followed by letters, digits and
underscores, that is not one of the `keywords`.

The methods of an operation are called after it in snake case, with affixes.  An operation is called
by an identifier, so all these names are words, and an affix keeps a name from being a keyword.
Nothing keeps the plain name from being one.  An argument keeps its declared name in snake case
unless that is reserved; the reserved names hold some of the keywords, and a declared name may hold
anything at all, so what is kept need not be a word either.

`Compiled.identifiers_legal_iff` gives the exact conditions, and `Contract.typing` shows that a
contract which breaks them is compiled.
-/

namespace ServiceContract

/-! ## Words and keywords -/

/-- A character that may follow the first one of a word. -/
def isWordChar (c : Char) : Bool := c.isAlphanum || c = '_'

/-- A letter or underscore, then letters, digits and underscores. -/
def isWord (text : String) : Bool :=
  match text.toList with
  | [] => false
  | first :: rest => (first.isAlpha || first = '_') && rest.all isWordChar

/-- The words that the language of generated code keeps for itself. -/
def keywords : List String :=
  ["_", "as", "async", "await", "break", "const", "continue", "crate", "dyn", "else", "enum",
    "extern", "false", "fn", "for", "if", "impl", "in", "let", "loop", "match", "mod", "move",
    "mut", "pub", "ref", "return", "self", "Self", "static", "struct", "super", "trait", "true",
    "type", "unsafe", "use", "where", "while", "abstract", "become", "box", "do", "final", "gen",
    "macro", "override", "priv", "try", "typeof", "unsized", "virtual", "yield"]

/-- A text that can stand for a name in generated code. -/
def LegalIdent (text : String) : Prop := isWord text = true ∧ text ∉ keywords

instance (text : String) : Decidable (LegalIdent text) :=
  inferInstanceAs (Decidable (isWord text = true ∧ text ∉ keywords))

/-- A word starts with a letter or an underscore, and goes on with characters of words. -/
theorem isWord_iff {text : String} :
    isWord text = true ↔ ∃ first rest, text.toList = first :: rest ∧
      (first.isAlpha = true ∨ first = '_') ∧ ∀ c ∈ rest, isWordChar c = true := by
  unfold isWord
  cases text.toList with
  | nil => simp
  | cons first rest => simp

/-- Its first character is one of them as well. -/
theorem isWordChar_of_isWord {text : String} (h : isWord text = true) :
    ∀ c ∈ text.toList, isWordChar c = true := by
  obtain ⟨first, rest, htext, hfirst, hrest⟩ := isWord_iff.1 h
  rw [htext]
  intro c hc
  rcases List.mem_cons.1 hc with rfl | hc
  · rcases hfirst with halpha | rfl
    · simp [isWordChar, Char.isAlphanum, halpha]
    · decide
  · exact hrest c hc

/-- A word goes on with any characters of words. -/
theorem isWord_append {a b : String} (ha : isWord a = true)
    (hb : ∀ c ∈ b.toList, isWordChar c = true) : isWord (a ++ b) = true := by
  obtain ⟨first, rest, ha, hfirst, hrest⟩ := isWord_iff.1 ha
  refine isWord_iff.2 ⟨first, rest ++ b.toList, by simp [ha], hfirst, fun c hc => ?_⟩
  exact (List.mem_append.1 hc).elim (hrest c) (hb c)

/-- No keyword has an underscore and something else. -/
theorem notMem_keywords_of_underscore {text : String} (h : '_' ∈ text.toList)
    (hlength : 1 < text.toList.length) : text ∉ keywords := by
  intro hmem
  have hshort : ∀ keyword ∈ keywords, '_' ∈ keyword.toList → ¬ 1 < keyword.toList.length := by
    decide +kernel
  exact hshort text hmem h hlength

/-! ## Names in snake case -/

namespace Text

/-- A name in snake case is a word exactly if it is ASCII and does not start with a digit. -/
theorem isWord_snake_iff {name : String} :
    isWord (snake name) = true ↔ snake name ≠ "" ∧
      (∀ c ∈ (snake name).toList, c.toNat < 128) ∧
      ∀ c ∈ (snake name).toList.head?, c.isDigit = false := by
  have hplain : ∀ c ∈ (snake name).toList, c.toNat < 128 → c.isAlphanum = true ∨ c = '_' := by
    intro c hc hascii
    have hmade := madeOf_snake (P := fun c => c = '_' ∨ PlainIfAscii c) (fun _ => .inr) (.inl rfl)
    exact (hmade name c hc).symm.imp_left fun hplain => (hplain hascii).2
  constructor
  · intro hword
    obtain ⟨first, rest, hlist, hfirst, -⟩ := isWord_iff.1 hword
    refine ⟨?_, fun c hc => ?_, fun c hc => ?_⟩
    · intro hempty
      rw [hempty] at hlist
      cases hlist
    · have hchar := isWordChar_of_isWord hword c hc
      rw [isWordChar, Bool.or_eq_true, decide_eq_true_eq] at hchar
      rcases hchar with halnum | rfl
      · exact toNat_lt_of_isAlphanum halnum
      · decide
    · rw [hlist, List.head?_cons, Option.mem_some_iff] at hc
      subst hc
      rcases hfirst with halpha | rfl
      · exact forall_ascii (P := fun c => c.isAlpha = true → c.isDigit = false) (by decide)
          (toNat_lt_of_isAlphanum (by simp [Char.isAlphanum, halpha])) halpha
      · decide
  · rintro ⟨hne, hascii, hdigit⟩
    cases hlist : (snake name).toList with
    | nil => exact absurd (String.toList_eq_nil_iff.1 hlist) hne
    | cons first rest =>
        rw [hlist] at hplain hascii hdigit
        refine isWord_iff.2 ⟨first, rest, hlist, ?_, fun c hc => ?_⟩
        · have hfirst := hplain first (by simp) (hascii first (by simp))
          simpa [Char.isAlphanum, hdigit first (by simp)] using hfirst
        · simpa [isWordChar] using hplain c (by simp [hc]) (hascii c (by simp [hc]))

/-- In snake case, an ASCII name that starts with a letter starts with that letter. -/
theorem snakeChars_eq_cons {first : Char} {rest : List Char}
    (hascii : ∀ c ∈ first :: rest, c.toNat < 128) (halpha : first.isAlpha = true) :
    ∃ tail, snakeChars (first :: rest) = first.toLower :: tail := by
  have hfirst : IsPlain first := ⟨hascii first (by simp), by simp [Char.isAlphanum, halpha]⟩
  obtain ⟨word, others, hwords⟩ := words_eq_cons (isAlphanumeric_of_isPlain hfirst) rest
  have hlower : lowerWord (first :: word) = first.toLower :: word.map Char.toLower := by
    refine lowerWord_of_plain fun c hc => ?_
    exact isPlain_of_mem_words hascii (hwords ▸ List.mem_cons_self) hc
  rw [snakeChars, hwords, List.map_cons, hlower]
  cases others with
  | nil => exact ⟨_, List.intercalate_singleton ..⟩
  | cons next others =>
      rw [List.map_cons, List.intercalate_cons_cons]
      exact ⟨_, rfl⟩

/-- An identifier in snake case is a word. -/
theorem isWord_snake {name : String} (h : isIdentifier name = true) :
    isWord (snake name) = true := by
  have hascii : ∀ c ∈ name.toList, c.toNat < 128 := fun c hc => toNat_lt_of_isIdentifier h hc
  obtain ⟨first, rest, hname, halpha, -⟩ := isIdentifier_eq_true h
  obtain ⟨tail, htail⟩ := snakeChars_eq_cons (hname ▸ hascii) halpha
  have hsnake : (snake name).toList = first.toLower :: tail := by
    rw [snake, String.toList_ofList, hname, htail]
  refine isWord_snake_iff.2 ⟨?_, fun c hc => ?_, fun c hc => ?_⟩
  · intro hempty
    rw [hempty] at hsnake
    cases hsnake
  · rw [snake, String.toList_ofList] at hc
    rcases mem_intercalate hc with hc | ⟨word, hword, hc⟩
    · rw [List.mem_singleton.1 hc]
      decide
    · obtain ⟨w, hw, rfl⟩ := List.mem_map.1 hword
      have hplain : ∀ d ∈ w, IsPlain d := fun d hd => isPlain_of_mem_words hascii hw hd
      rw [lowerWord_of_plain hplain] at hc
      obtain ⟨d, hd, rfl⟩ := List.mem_map.1 hc
      exact (isPlain_toLower (hplain d hd)).1
  · rw [hsnake, List.head?_cons, Option.mem_some_iff] at hc
    subst hc
    exact forall_ascii (P := fun c => c.isAlpha = true → c.toLower.isDigit = false) (by decide)
      (hascii first (by simp [hname])) halpha

end Text

/-! ## Methods -/

/-- What is put around the plain name of an operation to call its methods. -/
def methodAffixes : List (String × String) :=
  [("", "_async"), ("try_", ""), ("try_", "_async"), ("", "_prebuilt"), ("", "_prebuilt_async"),
    ("try_", "_prebuilt"), ("try_", "_prebuilt_async"), ("open_", ""), ("prebuild_", ""),
    ("on_", "_sent")]

/-- A plain name that is a word is legal with any affixes. -/
theorem legalIdent_affixed {base : String} (hbase : isWord base = true) {affix : String × String}
    (haffix : affix ∈ methodAffixes) : LegalIdent (affix.1 ++ base ++ affix.2) := by
  have hfacts : ∀ affix ∈ methodAffixes, (affix.1 = "" ∨ isWord affix.1 = true) ∧
      affix.2.toList.all isWordChar = true ∧ '_' ∈ affix.1.toList ++ affix.2.toList ∧
      1 < affix.1.toList.length + affix.2.toList.length := by
    decide +kernel
  obtain ⟨hfront, hback, hunderscore, hlength⟩ := hfacts affix haffix
  constructor
  · refine isWord_append ?_ (List.all_eq_true.1 hback)
    rcases hfront with hempty | hword
    · rw [hempty, String.empty_append]
      exact hbase
    · exact isWord_append hword (isWordChar_of_isWord hbase)
  · refine notMem_keywords_of_underscore ?_ ?_
    · simp only [String.toList_append, List.mem_append] at hunderscore ⊢
      exact hunderscore.imp .inl id
    · simp only [String.toList_append, List.length_append]
      omega

namespace Operation

/-- The names of the methods that an operation adds. -/
def methodNames (op : Operation) : List String :=
  op.methodBase :: op.sentHook?.toList ++ op.callerNames ++ op.moduleNames

/-- The name is the plain name of the operation with affixes. -/
def IsAffixed (op : Operation) (name : String) : Prop :=
  ∃ affix ∈ methodAffixes, name = affix.1 ++ op.methodBase ++ affix.2

/-- The stubs of a style are called by the plain name, or by an affixed one. -/
theorem eq_or_isAffixed_methodName (op : Operation) (style : CallStyle) :
    (style.methodName op.methodBase = op.methodBase ∨
      op.IsAffixed (style.methodName op.methodBase)) ∧
    op.IsAffixed (style.methodName op.prebuiltBase) := by
  cases style with
  | blocking =>
      exact ⟨.inl rfl, ("", "_prebuilt"), by decide, by
        simp [CallStyle.methodName, prebuiltBase]⟩
  | async =>
      exact ⟨.inr ⟨("", "_async"), by decide, by simp [CallStyle.methodName]⟩,
        ("", "_prebuilt_async"), by decide, by
          simp [CallStyle.methodName, prebuiltBase, ← String.toList_inj]⟩
  | «try» =>
      exact ⟨.inr ⟨("try_", ""), by decide, by simp [CallStyle.methodName]⟩,
        ("try_", "_prebuilt"), by decide, by
          simp [CallStyle.methodName, prebuiltBase, ← String.toList_inj]⟩
  | tryAsync =>
      exact ⟨.inr ⟨("try_", "_async"), by decide, by simp [CallStyle.methodName]⟩,
        ("try_", "_prebuilt_async"), by decide, by
          simp [CallStyle.methodName, prebuiltBase, ← String.toList_inj]⟩

/-- Every method is called by the plain name of its operation or by an affixed one. -/
theorem eq_or_isAffixed_of_mem_methodNames {op : Operation} {name : String}
    (h : name ∈ op.methodNames) : name = op.methodBase ∨ op.IsAffixed name := by
  simp only [methodNames, sentHook?, callerNames, moduleNames, List.mem_append,
    List.mem_cons] at h
  rcases h with ((rfl | hhook) | hcaller) | hmodule
  · exact .inl rfl
  · split at hhook
    · rw [Option.toList_some, List.mem_singleton] at hhook
      exact .inr ⟨("on_", "_sent"), by decide, hhook⟩
    · cases hhook
  · split at hcaller
    · rw [List.mem_singleton] at hcaller
      exact .inr ⟨("open_", ""), by decide, by simpa using hcaller⟩
    · rcases List.mem_append.1 hcaller with hcaller | hcaller
      · obtain ⟨style, -, rfl⟩ := List.mem_map.1 hcaller
        exact (op.eq_or_isAffixed_methodName style).1
      · rw [List.mem_ite_nil_right] at hcaller
        obtain ⟨style, -, rfl⟩ := List.mem_map.1 hcaller.2
        exact .inr (op.eq_or_isAffixed_methodName style).2
  · rw [List.mem_ite_nil_right, List.mem_singleton] at hmodule
    exact .inr ⟨("prebuild_", ""), by decide, by simpa using hmodule.2⟩

/-- **Methods.**  The names of the methods of an operation that is called by an identifier are
words, and all are legal exactly if its plain name is no keyword. -/
theorem legal_methodNames_iff {op : Operation} (h : isIdentifier op.name = true) :
    (∀ name ∈ op.methodNames, isWord name = true) ∧
    ((∀ name ∈ op.methodNames, LegalIdent name) ↔ op.methodBase ∉ keywords) := by
  have hbase : isWord op.methodBase = true := Text.isWord_snake h
  have haffixed : ∀ name, op.IsAffixed name → LegalIdent name := by
    rintro _ ⟨affix, haffix, rfl⟩
    exact legalIdent_affixed hbase haffix
  refine ⟨fun name hname => ?_, fun hlegal => ?_, fun hfree name hname => ?_⟩
  · rcases eq_or_isAffixed_of_mem_methodNames hname with rfl | hname
    · exact hbase
    · exact (haffixed name hname).1
  · exact (hlegal op.methodBase (by simp [methodNames])).2
  · rcases eq_or_isAffixed_of_mem_methodNames hname with rfl | hname
    · exact ⟨hbase, hfree⟩
    · exact haffixed name hname

end Operation

/-! ## Arguments -/

/-- A declared name can be kept: in snake case it is ASCII, does not start with a digit, and is no
keyword. -/
structure CanBeKept (name : String) : Prop where
  ascii : ∀ c ∈ (Text.snake name).toList, c.toNat < 128
  no_digit : ∀ c ∈ (Text.snake name).toList.head?, c.isDigit = false
  no_keyword : Text.snake name ∉ keywords

instance (name : String) : Decidable (CanBeKept name) :=
  decidable_of_iff (((Text.snake name).toList.all fun c => c.toNat < 128) = true ∧
      ((Text.snake name).toList.head?.all fun c => !c.isDigit) = true ∧
      Text.snake name ∉ keywords) <| by
    simp only [List.all_eq_true, decide_eq_true_eq, Option.all_eq_true, Bool.not_eq_true']
    exact ⟨fun h => ⟨h.1, h.2.1, h.2.2⟩, fun h => ⟨h.ascii, h.no_digit, h.no_keyword⟩⟩

/-- The member of an argument is always legal. -/
theorem Operation.legalIdent_fieldName {op : Operation} {param : Param} (h : param ∈ op.params) :
    LegalIdent param.fieldName := by
  rw [op.fieldName_of_mem_params h]
  have hapart : ∀ keyword ∈ keywords, ¬ "arg".toList <+: keyword.toList := by decide +kernel
  refine ⟨isWord_append (by decide +kernel) fun c hc => ?_, fun hmem => ?_⟩
  · rw [Nat.toString_eq_ofList_toDigits, String.toList_ofList] at hc
    have hdigit := Nat.isDigit_of_mem_toDigits (by decide : 0 < 10) (Nat.le_refl _) hc
    simp [isWordChar, Char.isAlphanum, hdigit]
  · refine hapart _ hmem ?_
    rw [String.toList_append]
    exact List.prefix_append ..

/-- **Arguments.**  The identifier of an argument is legal exactly if its declared name, in case
that is not given up, can be kept. -/
theorem Operation.legal_ident_iff {op : Operation} {param : Param} (h : param ∈ op.params) :
    LegalIdent param.ident ↔
      ∀ name ∈ param.name, Text.snake name ∉ "" :: reservedIdents → CanBeKept name := by
  have hmember := op.legalIdent_fieldName h
  cases hname : param.name with
  | none =>
      rw [Param.ident, hname]
      exact iff_of_true hmember fun name hmem => by cases hmem
  | some name =>
      have hgiven : ((Text.snake name).isEmpty = true ∨ Text.snake name ∈ reservedIdents) ↔
          Text.snake name ∈ "" :: reservedIdents := by
        rw [List.mem_cons, String.isEmpty_iff]
      simp only [Param.ident, hname, Bool.or_eq_true, decide_eq_true_eq, hgiven,
        Option.mem_some_iff, forall_eq']
      by_cases hup : Text.snake name ∈ "" :: reservedIdents
      · rw [if_pos hup]
        exact iff_of_true hmember fun hkept => absurd hup hkept
      · rw [if_neg hup, LegalIdent, Text.isWord_snake_iff]
        have hne : Text.snake name ≠ "" := fun hempty => hup (hempty ▸ List.mem_cons_self)
        constructor
        · rintro ⟨⟨-, hascii, hdigit⟩, hfree⟩ -
          exact ⟨hascii, hdigit, hfree⟩
        · intro hkept
          exact ⟨⟨hne, (hkept hup).ascii, (hkept hup).no_digit⟩, (hkept hup).no_keyword⟩

/-! ## Compiled contracts -/

namespace Compiled

variable {c : Contract} {options : Options} {compiled : Compiled}

/-- The names of the methods that the handlers and the stubs of the operation at a position have, on
both peers. -/
def methodNames (compiled : Compiled) (index : Nat) : List String :=
  [Peer.client, .server].flatMap fun peer =>
    ((compiled.dispatch peer).handlers.filter fun handler =>
        handler.operation = index).flatMap (fun handler =>
      handler.name :: handler.sentHook.toList) ++
    ((compiled.surface peer).methodsFor index).map Stub.name ++
    ((compiled.surface peer).streams.filter fun opener =>
      opener.operation = index).map StreamOpener.name ++
    ((compiled.surface peer).prebuild.filter fun helper =>
      helper.operation = index).map PrebuildHelper.name

/-- The handlers of a placed operation on a peer. -/
theorem handlers_placed (h : c.compile options = .ok compiled) {p : Placement}
    (hp : p ∈ compiled.placements) (peer : Peer) :
    ((compiled.dispatch peer).handlers.filter fun handler =>
        handler.operation = p.candidate.index) =
      if p.candidate.operation.kind.direction = peer.handles then [p.generated.handler]
      else [] := by
  rw [handlers_eq h, List.map_eq_flatMap]
  refine filter_flatMap_directed h hp _ fun q handler hhandler => ?_
  rw [List.mem_singleton.1 hhandler]
  rfl

/-- The prebuild helpers of a placed operation on a surface. -/
theorem prebuild_placed (h : c.compile options = .ok compiled) {p : Placement}
    (hp : p ∈ compiled.placements) (peer : Peer) :
    ((compiled.surface peer).prebuild.filter fun helper =>
        helper.operation = p.candidate.index) =
      if p.candidate.operation.kind.direction = peer.calls then
        (p.generated.prebuildHelper? (c.chooseSerializers options).default).toList
      else [] := by
  rw [prebuild_eq h, List.filterMap_eq_flatMap_toList]
  refine filter_flatMap_directed h hp _ fun q helper hhelper => ?_
  rw [Option.mem_toList, Generated.prebuildHelper?, Option.ite_none_right_eq_some,
    Option.some_inj] at hhelper
  rw [← hhelper.2]
  rfl

/-- A placed operation is handled and called under the names of its methods. -/
theorem methodNames_perm (h : c.compile options = .ok compiled) {p : Placement}
    (hp : p ∈ compiled.placements) :
    (compiled.methodNames p.candidate.index).Perm p.candidate.operation.methodNames := by
  have hcalls := p.map_name_calls
  have hprebuild := p.map_name_prebuild (c.chooseSerializers options).default
  have hhandler : p.generated.handler.name :: p.generated.handler.sentHook.toList =
      p.candidate.operation.methodBase :: p.candidate.operation.sentHook?.toList := rfl
  -- one peer handles the operation and the other one calls it
  simp only [methodNames, Operation.methodNames, methodsFor_placed h hp, openers_placed h hp,
    handlers_placed h hp, prebuild_placed h hp, List.flatMap_cons, List.flatMap_nil, Peer.calls,
    Peer.handles]
  cases p.candidate.operation.kind.direction with
  | toServer =>
      simp only [reduceCtorEq, if_true, if_false, List.flatMap_cons, List.flatMap_nil, List.map_nil,
        List.nil_append, List.append_nil, hcalls, hprebuild, hhandler]
      exact List.perm_append_comm.trans (.of_eq (List.append_assoc ..).symm)
  | toClient =>
      simp only [reduceCtorEq, if_true, if_false, List.flatMap_cons, List.flatMap_nil, List.map_nil,
        List.nil_append, List.append_nil, hcalls, hprebuild, hhandler]
      exact .of_eq (List.append_assoc ..).symm

/-- **Legal identifiers.**  The methods of a generated operation are called by words, and by legal
identifiers exactly if its plain name is no keyword.  An argument is called by a legal identifier
exactly if its declared name is given up or can be kept. -/
theorem identifiers_legal_iff (h : c.compile options = .ok compiled) {index : Nat}
    {op : Operation} (hop : (index, op) ∈ compiled.generatedOperations) :
    (∀ name ∈ compiled.methodNames index, isWord name = true) ∧
    ((∀ name ∈ compiled.methodNames index, LegalIdent name) ↔ op.methodBase ∉ keywords) ∧
    ∀ param ∈ op.params, (LegalIdent param.ident ↔
      ∀ name ∈ param.name, Text.snake name ∉ "" :: reservedIdents → CanBeKept name) := by
  rw [generatedOperations_eq h] at hop
  obtain ⟨p, hp, hpair⟩ := List.mem_map.1 hop
  obtain ⟨rfl, rfl⟩ := Prod.mk.inj hpair
  have hnames := methodNames_perm h hp
  obtain ⟨hwords, hlegal⟩ := Operation.legal_methodNames_iff (wellFormed h hp).name_identifier
  refine ⟨fun name hname => hwords name (hnames.subset hname), ?_,
    fun param hparam => Operation.legal_ident_iff hparam⟩
  rw [← hlegal]
  exact ⟨fun hall name hname => hall name (hnames.symm.subset hname),
    fun hall name hname => hall name (hnames.subset hname)⟩

end Compiled

/-- Arguments whose declared names are kept, also one that starts with the Kelvin sign, or given
up. -/
def Contract.measuring : Contract :=
  .sample "Measuring"
    [{ name := "HTTPPut", kind := ⟨.oneWay, .toServer⟩, prebuild := true
       arguments := [⟨.primitive .u32, some "\u212aeyOf"⟩, ⟨.primitive .u32, some "match"⟩,
         ⟨.primitive .u32, none⟩, ⟨.primitive .u32, some "unit2"⟩] }]

/-- The identifiers of `Contract.measuring` are legal. -/
theorem Compiled.measuring_identifiers_legal :
    ∃ compiled op, Contract.measuring.compile {} = .ok compiled ∧
      (0, op) ∈ compiled.generatedOperations ∧
      op.params.map Param.ident = ["key_of", "arg2", "arg3", "unit2"] ∧
      (compiled.methodNames 0).length = 10 ∧
      (∀ name ∈ compiled.methodNames 0, LegalIdent name) ∧
      ∀ param ∈ op.params, LegalIdent param.ident := by
  obtain ⟨compiled, h, hcheck⟩ := Contract.exists_compile Contract.measuring {}
    (fun compiled => (compiled.methodNames 0).length = 10 ∧
      ∃ entry ∈ compiled.generatedOperations, entry.1 = 0 ∧
        entry.2.params.map Param.ident = ["key_of", "arg2", "arg3", "unit2"] ∧
        entry.2.methodBase ∉ keywords ∧
        ∀ param ∈ entry.2.params, ∀ name ∈ param.name,
          Text.snake name ∉ "" :: reservedIdents → CanBeKept name)
    (by decide +kernel)
  obtain ⟨hlength, ⟨index, op⟩, hop, rfl, hidents, hbase, hkept⟩ := of_decide_eq_true hcheck
  obtain ⟨-, hmethods, harguments⟩ := identifiers_legal_iff h hop
  exact ⟨compiled, op, h, hop, hidents, hlength, hmethods.2 hbase,
    fun param hparam => (harguments param hparam).2 (hkept param hparam)⟩

/-- An operation that is called like a keyword, with arguments whose names cannot be kept. -/
def Contract.typing : Contract :=
  .sample "Typing"
    [{ name := "Type", kind := ⟨.oneWay, .toServer⟩
       arguments := [⟨.primitive .u32, some "where"⟩, ⟨.primitive .u32, some "1st"⟩,
         ⟨.primitive .u32, some "x²"⟩] }]

/-- `Contract.typing` is compiled without a diagnostic.  Its handler is called by a keyword, and the
identifiers of its arguments are a keyword and no words. -/
theorem Compiled.typing_identifiers_not_legal :
    ∃ compiled op, Contract.typing.compile {} = .ok compiled ∧ compiled.diagnostics = [] ∧
      (0, op) ∈ compiled.generatedOperations ∧
      ("type" ∈ compiled.methodNames 0 ∧ ¬ LegalIdent "type") ∧
      op.params.map Param.ident = ["where", "1st", "x²"] ∧
      ∀ param ∈ op.params, ¬ LegalIdent param.ident := by
  obtain ⟨compiled, h, hcheck⟩ := Contract.exists_compile Contract.typing {}
    (fun compiled => compiled.diagnostics = [] ∧ "type" ∈ compiled.methodNames 0 ∧
      ∃ entry ∈ compiled.generatedOperations, entry.1 = 0 ∧
        entry.2.params.map Param.ident = ["where", "1st", "x²"] ∧
        ∀ param ∈ entry.2.params, ¬ LegalIdent param.ident) (by decide +kernel)
  obtain ⟨hsilent, hmethod, ⟨index, op⟩, hop, rfl, hidents, hillegal⟩ := of_decide_eq_true hcheck
  exact ⟨compiled, op, h, hsilent, hop, ⟨hmethod, by decide +kernel⟩, hidents, hillegal⟩

end ServiceContract
