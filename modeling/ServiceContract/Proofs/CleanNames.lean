import ServiceContract.DataType.Spelling
import ServiceContract.Identifier
import ServiceContract.Proofs.Brackets
import ServiceContract.Proofs.CaseImages
import ServiceContract.Source.Messages

/-!
# Names without brackets

Whatever name it is given, a conversion to snake, shouty or camel case leaves no bracket, since its
only ASCII characters are letters, digits and underscores (`clean_snake`, `clean_shouty`,
`clean_camel`).  Numbers have none either.

A type that a message can carry is spelled with balanced brackets
(`DataType.Tidy.balanced_spelling`), and its piece of a generated name has none, provided the paths
of its named types have none.
-/

namespace ServiceContract

namespace Text

/-- All brackets are among the first 128 characters, and none is a letter or a digit. -/
theorem isBracket_of_plainIfAscii {c : Char} (h : PlainIfAscii c) : isBracket c = false := by
  by_cases hascii : c.toNat < 128
  · exact forall_ascii (P := fun c => c.isAlphanum = true → isBracket c = false) (by decide)
      hascii (h hascii).2
  · rw [Bool.eq_false_iff]
    intro hbracket
    simp only [isBracket, Bool.or_eq_true, beq_iff_eq] at hbracket
    rcases hbracket with ((((rfl | rfl) | rfl) | rfl) | rfl) | rfl <;> exact hascii (by decide)

/-- Whatever name was given, a converted one has no bracket. -/
theorem clean_snake (name : String) : Clean (snake name) :=
  clean_iff.2 (madeOf_snake (fun _ => isBracket_of_plainIfAscii) rfl name)

theorem clean_shouty (name : String) : Clean (shouty name) :=
  clean_iff.2 (madeOf_shouty (fun _ => isBracket_of_plainIfAscii) rfl name)

theorem clean_camel (name : String) : Clean (camel name) :=
  clean_iff.2 (madeOf_camel (fun _ => isBracket_of_plainIfAscii) name)

end Text

/-! ## Numbers -/

theorem isBracket_digitChar (digit : Nat) : isBracket (Nat.digitChar digit) = false := by
  by_cases hdigit : digit < 16
  · exact (by decide : ∀ d < 16, isBracket (Nat.digitChar d) = false) digit hdigit
  · have hstar : Nat.digitChar digit = '*' := by
      unfold Nat.digitChar
      repeat rw [if_neg (by omega)]
    rw [hstar]
    rfl

/-- The loop that writes a number adds digits only. -/
theorem isBracket_of_mem_toDigitsCore {base fuel n : Nat} {digits : List Char}
    (hdigits : ∀ c ∈ digits, isBracket c = false) {c : Char}
    (hc : c ∈ Nat.toDigitsCore base fuel n digits) : isBracket c = false := by
  induction fuel generalizing n digits with
  | zero => exact hdigits c hc
  | succ fuel ih =>
      have hcons : ∀ d ∈ Nat.digitChar (n % base) :: digits, isBracket d = false := by
        intro d hd
        rcases List.mem_cons.1 hd with rfl | hd
        · exact isBracket_digitChar _
        · exact hdigits d hd
      rw [Nat.toDigitsCore] at hc
      split at hc
      · exact hcons c hc
      · exact ih hcons hc

theorem isBracket_of_mem_toDigits {base n : Nat} {c : Char} (hc : c ∈ Nat.toDigits base n) :
    isBracket c = false :=
  isBracket_of_mem_toDigitsCore (by simp) hc

/-- A number has no bracket. -/
theorem clean_toString (n : Nat) : Clean (toString n) := by
  rw [Nat.toString_eq_ofList_toDigits]
  refine clean_ofList (List.filter_eq_nil_iff.2 fun c hc => ?_)
  simp [isBracket_of_mem_toDigits hc]

theorem clean_hexKey (key : MessageKey) : Clean (hexKey key) := by
  refine Clean.append (clean_ofList rfl) (clean_ofList (List.filter_eq_nil_iff.2 fun c hc => ?_))
  rcases List.mem_append.1 hc with hc | hc
  · rw [List.eq_of_mem_replicate hc]
    decide
  · simp [isBracket_of_mem_toDigits hc]

/-! ## Identifiers -/

/-- An identifier has letters, digits and underscores. -/
theorem clean_of_isIdentifier {name : String} (h : isIdentifier name = true) : Clean name := by
  have halnum : ∀ c : Char, c.isAlphanum = true → isBracket c = false := by
    intro c hc
    exact Text.forall_ascii (P := fun c => c.isAlphanum = true → isBracket c = false) (by decide)
      (toNat_lt_of_isAlphanum hc) hc
  obtain ⟨first, rest, hname, hfirst, hrest⟩ := isIdentifier_eq_true h
  rw [clean_iff, hname]
  intro c hc
  rcases List.mem_cons.1 hc with rfl | hc
  · exact halnum c (by simp [Char.isAlphanum, hfirst])
  · rcases hrest c hc with hc | rfl
    · exact halnum c hc
    · decide

theorem Param.clean_fieldName (param : Param) : Clean param.fieldName := Text.clean_snake _

/-- An argument is bound to its declared name in snake case, or to the name of its field. -/
theorem Param.clean_ident (param : Param) : Clean param.ident := by
  unfold ident
  split
  · dsimp only
    split
    · exact param.clean_fieldName
    · exact Text.clean_snake _
  · exact param.clean_fieldName

/-! ## Types -/

/-- The text before two colons is a part of the text. -/
theorem mem_of_mem_untilDoubleColon {c : Char} {cs : List Char} (h : c ∈ untilDoubleColon cs) :
    c ∈ cs := by
  fun_induction untilDoubleColon cs with
  | case1 => cases h
  | case2 => cases h
  | case3 d rest _ ih =>
      rcases List.mem_cons.1 h with rfl | h
      · exact List.mem_cons_self
      · exact List.mem_cons_of_mem _ (ih h)

/-- The last segment of a path is a part of it. -/
theorem mem_of_mem_lastSegment {c : Char} {path : String} (h : c ∈ (lastSegment path).toList) :
    c ∈ path.toList := by
  rw [lastSegment, String.toList_ofList, List.mem_reverse] at h
  exact List.mem_reverse.1 (mem_of_mem_untilDoubleColon h)

/-- What stands between two texts stands in the text they enclose it in. -/
theorem mem_of_mem_between {first last text inner : String}
    (h : between? first last text = some inner) {c : Char} (hc : c ∈ inner.toList) :
    c ∈ text.toList := by
  obtain ⟨rest, hrest, h⟩ := Option.bind_eq_some_iff.1 h
  obtain ⟨cs, hcs, rfl⟩ := Option.map_eq_some_iff.1 h
  have htext : text.toList = first.toList ++ (cs ++ last.toList) := by
    rw [List.isSuffixOf?_eq_some_iff_append_eq.1 hcs,
      List.isPrefixOf?_eq_some_iff_append_eq.1 hrest]
  rw [String.toList_ofList] at hc
  simp [htext, hc]

/-- The primitive types read without brackets. -/
theorem Primitive.balanced_text (kind : Primitive) : Balanced kind.text := by
  intro stack
  cases kind <;> (rw [Primitive.text, scanText_ofList]; rfl)

/-- They are spelled as they read, apart from two that have a path. -/
theorem Primitive.balanced_spelling (kind : Primitive) : Balanced kind.spelling := by
  cases kind with
  | string => exact (clean_ofList rfl).balanced
  | bytes => exact (clean_ofList rfl).balanced
  | _ => exact balanced_text _

namespace DataType

mutual

/-- The paths of the named types inside a type. -/
def paths : DataType → List String
  | list element => paths element
  | option inner => paths inner
  | set element => paths element
  | array element _ => paths element
  | map key value => paths key ++ paths value
  | tuple elements => pathsOf elements
  | named path => [path]
  | primitive _ => []
  | unsupported _ => []

/-- The paths of the named types inside several types. -/
def pathsOf : List DataType → List String
  | [] => []
  | element :: rest => paths element ++ pathsOf rest

end

section Fragment

open Text (MadeOf PlainIfAscii madeOf_plain madeOf_toString)

variable {P : Char → Prop}

mutual

/-- The piece that a type contributes to a name is made of letters, digits and characters of the
paths of its named types. -/
theorem madeOf_fragment (hplain : ∀ c, PlainIfAscii c → P c) {type : DataType}
    (h : ∀ path ∈ type.paths, MadeOf P path) : MadeOf P type.fragment := by
  match type with
  | primitive kind => cases kind <;> exact madeOf_plain hplain rfl
  | list element =>
      change MadeOf P ("List" ++ element.fragment)
      exact (madeOf_plain hplain rfl).append (madeOf_fragment hplain h)
  | option inner =>
      change MadeOf P ("Option" ++ inner.fragment)
      exact (madeOf_plain hplain rfl).append (madeOf_fragment hplain h)
  | set element =>
      change MadeOf P ("Set" ++ element.fragment)
      exact (madeOf_plain hplain rfl).append (madeOf_fragment hplain h)
  | map key value =>
      have hkey : MadeOf P key.fragment :=
        madeOf_fragment hplain fun p hp => h p (by simp [paths, hp])
      have hvalue : MadeOf P value.fragment :=
        madeOf_fragment hplain fun p hp => h p (by simp [paths, hp])
      change MadeOf P ("Map" ++ key.fragment ++ value.fragment)
      exact ((madeOf_plain hplain rfl).append hkey).append hvalue
  | array element length =>
      have helement : MadeOf P ("Array" ++ element.fragment) :=
        (madeOf_plain hplain rfl).append (madeOf_fragment hplain h)
      change MadeOf P ("Array" ++ element.fragment ++ "x" ++ toString length)
      exact (helement.append (madeOf_plain hplain rfl)).append (madeOf_toString hplain length)
  | tuple elements =>
      change MadeOf P ("Tuple" ++ fragments elements)
      exact (madeOf_plain hplain rfl).append (madeOf_fragments hplain h)
  | named path => exact fun c hc => h path (by simp [paths]) c (mem_of_mem_lastSegment hc)
  | unsupported what => exact madeOf_plain hplain rfl

theorem madeOf_fragments (hplain : ∀ c, PlainIfAscii c → P c) {types : List DataType}
    (h : ∀ path ∈ pathsOf types, MadeOf P path) : MadeOf P (fragments types) := by
  match types with
  | [] => exact Text.madeOf_empty
  | element :: rest =>
      have helement : MadeOf P element.fragment :=
        madeOf_fragment hplain fun p hp => h p (by simp [pathsOf, hp])
      have hrest : MadeOf P (fragments rest) :=
        madeOf_fragments hplain fun p hp => h p (by simp [pathsOf, hp])
      exact helement.append hrest

end

end Fragment

/-- The piece that a type contributes to a name has no bracket. -/
theorem clean_fragment {type : DataType} (h : ∀ path ∈ type.paths, Clean path) :
    Clean type.fragment :=
  clean_iff.2 (madeOf_fragment (fun _ => Text.isBracket_of_plainIfAscii) fun path hpath =>
    clean_iff.1 (h path hpath))

/-- A type that a message can carry, whose named types have paths without brackets. -/
structure Tidy (type : DataType) : Prop where
  supported : type.firstUnsupported = none
  paths : ∀ path ∈ type.paths, Clean path

/-- Both types of a map are tidy if the map is. -/
theorem Tidy.key_value {key value : DataType} (h : (map key value).Tidy) :
    key.Tidy ∧ value.Tidy := by
  have hsupported := Option.or_eq_none_iff.1 h.supported
  exact ⟨⟨hsupported.1, fun p hp => h.paths p (by simp [DataType.paths, hp])⟩,
    ⟨hsupported.2, fun p hp => h.paths p (by simp [DataType.paths, hp])⟩⟩

theorem Tidy.mem_tuple {elements : List DataType} (h : (tuple elements).Tidy) {type : DataType}
    (hmem : type ∈ elements) : type.Tidy := by
  obtain ⟨hsupported, hpaths⟩ := h
  simp only [firstUnsupported, DataType.paths] at hsupported hpaths
  induction elements with
  | nil => cases hmem
  | cons element rest ih =>
      simp only [firstUnsupportedOf, Option.or_eq_none_iff, pathsOf, List.mem_append]
        at hsupported hpaths
      rcases List.mem_cons.1 hmem with rfl | hmem
      · exact ⟨hsupported.1, fun p hp => hpaths p (.inl hp)⟩
      · exact ih hmem hsupported.2 fun p hp => hpaths p (.inr hp)

/-- Types are spelled one by one. -/
theorem spellings_eq_map (types : List DataType) : spellings types = types.map spelling := by
  induction types with
  | nil => rfl
  | cons type rest ih => rw [spellings, ih, List.map_cons]

/-- A tidy type reads with balanced brackets. -/
theorem Tidy.balanced_text {type : DataType} (h : type.Tidy) : Balanced type.text := by
  match type with
  | primitive kind => exact kind.balanced_text
  | list element =>
      have helement : Balanced element.text := balanced_text ⟨h.supported, h.paths⟩
      change Balanced ("Vec<" ++ element.text ++ ">")
      exact helement.between fun _ => rfl
  | option inner =>
      have hinner : Balanced inner.text := balanced_text ⟨h.supported, h.paths⟩
      change Balanced ("Option<" ++ inner.text ++ ">")
      exact hinner.between fun _ => rfl
  | set element =>
      have helement : Balanced element.text := balanced_text ⟨h.supported, h.paths⟩
      change Balanced ("Set<" ++ element.text ++ ">")
      exact helement.between fun _ => rfl
  | map key value =>
      have hkey := balanced_text h.key_value.1
      have hvalue := balanced_text h.key_value.2
      intro stack
      change scanText stack ("Map<" ++ key.text ++ ", " ++ value.text ++ ">") = stack
      simp only [scanText_append, scanText_balanced hkey, scanText_balanced hvalue]
      repeat rw [scanText_ofList]
      rfl
  | array element length =>
      have helement : Balanced element.text := balanced_text ⟨h.supported, h.paths⟩
      intro stack
      change scanText stack ("[" ++ element.text ++ "; " ++ toString length ++ "]") = stack
      simp only [scanText_append, scanText_balanced helement,
        scanText_balanced (clean_toString length).balanced]
      repeat rw [scanText_ofList]
      rfl
  | tuple elements =>
      have hall : Balanced (", ".intercalate (texts elements)) := by
        refine balanced_intercalate (clean_ofList rfl) fun text htext => ?_
        obtain ⟨type, hmem, rfl⟩ := List.mem_map.1 (texts_eq_map elements ▸ htext)
        exact balanced_text (h.mem_tuple hmem)
      change Balanced ("(" ++ ", ".intercalate (texts elements) ++ ")")
      exact hall.between fun _ => rfl
  | named path => exact (h.paths path (by simp [DataType.paths])).balanced
  | unsupported what => cases h.supported

/-- A tidy type is spelled with balanced brackets. -/
theorem Tidy.balanced_spelling {type : DataType} (h : type.Tidy) : Balanced type.spelling := by
  match type with
  | primitive kind => exact kind.balanced_spelling
  | list element =>
      have helement : Balanced element.spelling := balanced_spelling ⟨h.supported, h.paths⟩
      change Balanced ("::std::vec::Vec<" ++ element.spelling ++ ">")
      exact helement.between fun _ => rfl
  | option inner =>
      have hinner : Balanced inner.spelling := balanced_spelling ⟨h.supported, h.paths⟩
      change Balanced ("::std::option::Option<" ++ inner.spelling ++ ">")
      exact hinner.between fun _ => rfl
  | set element =>
      have helement : Balanced element.spelling := balanced_spelling ⟨h.supported, h.paths⟩
      change Balanced ("::std::collections::HashSet<" ++ element.spelling ++ ">")
      exact helement.between fun _ => rfl
  | map key value =>
      have hkey := balanced_spelling h.key_value.1
      have hvalue := balanced_spelling h.key_value.2
      intro stack
      change scanText stack
        ("::std::collections::HashMap<" ++ key.spelling ++ ", " ++ value.spelling ++ ">") = stack
      simp only [scanText_append, scanText_balanced hkey, scanText_balanced hvalue]
      repeat rw [scanText_ofList]
      rfl
  | array element length =>
      have helement : Balanced element.spelling := balanced_spelling ⟨h.supported, h.paths⟩
      intro stack
      change scanText stack ("[" ++ element.spelling ++ "; " ++ toString length ++ "]") = stack
      simp only [scanText_append, scanText_balanced helement,
        scanText_balanced (clean_toString length).balanced]
      repeat rw [scanText_ofList]
      rfl
  | tuple [] => exact (clean_empty.balanced).between fun _ => rfl
  | tuple [element] =>
      have helement : Balanced element.spelling := balanced_spelling (h.mem_tuple (by simp))
      change Balanced ("(" ++ element.spelling ++ ",)")
      exact helement.between fun _ => rfl
  | tuple (first :: second :: rest) =>
      have hall : Balanced (", ".intercalate (spellings (first :: second :: rest))) := by
        refine balanced_intercalate (clean_ofList rfl) fun text htext => ?_
        obtain ⟨type, hmem, rfl⟩ := List.mem_map.1 (spellings_eq_map _ ▸ htext)
        exact balanced_spelling (h.mem_tuple hmem)
      change Balanced ("(" ++ ", ".intercalate (spellings (first :: second :: rest)) ++ ")")
      exact hall.between fun _ => rfl
  | named path =>
      have hpath := h.paths path (by simp [DataType.paths])
      change Balanced ("super::" ++ path)
      exact (Clean.append (clean_ofList rfl) hpath).balanced
  | unsupported what => cases h.supported

/-- What may be absent is spelled with balanced brackets. -/
theorem balanced_spellingOr {type : Option DataType} (h : ∀ t ∈ type, t.Tidy) :
    Balanced (spellingOr type) := by
  cases type with
  | none =>
      intro stack
      change scanText stack "()" = stack
      rw [scanText_ofList]
      rfl
  | some type => exact (h type rfl).balanced_spelling

end DataType

end ServiceContract
