import ServiceContract.Proofs.CleanNames

/-!
# Spellings are faithful

Two types that are spelled alike are the same type, up to the two types that have another name:
bytes are a list of `u8`, and the unit type is the tuple of nothing.  `DataType.normal` writes both
out, at every depth.

The text of a type is that of a *phrase*: a word, a word with arguments in angle brackets, an array
or a tuple.  A phrase can be read off any text that starts with it, provided the rest starts with
none of the characters that could prolong it (`Phrase.text_unique`).  A type can be read off its
phrase (`DataType.ofPhrase_phrase`).  The main statement is `DataType.spelling_faithful`.
-/

namespace ServiceContract

open Text (MadeOf)

/-- A character of a path: a letter, a digit, an underscore or a colon. -/
def isPathChar (c : Char) : Bool := c.isAlphanum || c == '_' || c == ':'

/-- A run of characters ends where the text goes on with another kind of character. -/
theorem append_inj_of_run {p : Char → Bool} {a b r s : List Char} (ha : ∀ c ∈ a, p c = true)
    (hb : ∀ c ∈ b, p c = true) (hr : ∀ c ∈ r.head?, p c = false)
    (hs : ∀ c ∈ s.head?, p c = false) (h : a ++ r = b ++ s) : a = b ∧ r = s := by
  have hrun : ∀ {x y : List Char}, (∀ c ∈ x, p c = true) → (∀ c ∈ y.head?, p c = false) →
      (x ++ y).takeWhile p = x := by
    intro x y hx hy
    rw [List.takeWhile_append_of_pos hx]
    cases y with
    | nil => simp
    | cons c y => simp [hy c rfl]
  have hab : a = b := by rw [← hrun ha hr, h, hrun hb hs]
  subst hab
  exact ⟨rfl, List.append_cancel_left h⟩

/-! ## Phrases -/

/-- The form of a spelled type. -/
inductive Phrase
  | word (chars : List Char)
  /-- A word with at least one argument. -/
  | generic (head : List Char) (first : Phrase) (rest : List Phrase)
  | array (element : Phrase) (length : Nat)
  | tuple (elements : List Phrase)

namespace Phrase

/-- What closes a tuple behind its first element and the ones that follow it. -/
def tupleEnd (rest : List Phrase) : List Char := if rest.isEmpty then [',', ')'] else [')']

mutual

/-- The text of a phrase. -/
def text : Phrase → List Char
  | word chars => chars
  | generic head first rest => head ++ '<' :: (text first ++ (more rest ++ ['>']))
  | array element length =>
    '[' :: (text element ++ ';' :: ' ' :: (Nat.toDigits 10 length ++ [']']))
  | tuple elements => '(' :: tupleText elements

/-- The text of phrases that follow another one. -/
def more : List Phrase → List Char
  | [] => []
  | next :: rest => ',' :: ' ' :: (text next ++ more rest)

/-- The text of a tuple behind its bracket. -/
def tupleText : List Phrase → List Char
  | [] => [')']
  | first :: rest => text first ++ (more rest ++ tupleEnd rest)

end

mutual

/-- The words of a phrase. -/
def words : Phrase → List (List Char)
  | word chars => [chars]
  | generic head first rest => head :: (words first ++ wordsOf rest)
  | array element _ => words element
  | tuple elements => wordsOf elements

/-- The words of several phrases. -/
def wordsOf : List Phrase → List (List Char)
  | [] => []
  | next :: rest => words next ++ wordsOf rest

end

/-- A word made of characters of paths. -/
structure IsWord (chars : List Char) : Prop where
  nonempty : chars ≠ []
  path : ∀ c ∈ chars, isPathChar c = true

/-- A phrase whose words are made of characters of paths. -/
def Plain (p : Phrase) : Prop := ∀ chars ∈ p.words, IsWord chars

/-- Phrases whose words are made of characters of paths. -/
def AllPlain (ps : List Phrase) : Prop := ∀ chars ∈ wordsOf ps, IsWord chars

/-- A word with arguments is plain if the word and all arguments are. -/
theorem plain_generic {head : List Char} {first : Phrase} {rest : List Phrase} :
    (generic head first rest).Plain ↔ IsWord head ∧ first.Plain ∧ AllPlain rest := by
  simp [Plain, AllPlain, words, or_imp, forall_and]

theorem allPlain_nil : AllPlain [] := by simp [AllPlain, wordsOf]

/-- Phrases are plain one by one. -/
theorem allPlain_cons {next : Phrase} {rest : List Phrase} :
    AllPlain (next :: rest) ↔ next.Plain ∧ AllPlain rest := by
  simp [Plain, AllPlain, wordsOf, or_imp, forall_and]

/-! ## Reading phrases -/

/-- The characters that may stand behind a phrase. -/
def marks : List Char := ['>', ',', ';', ')']

/-- A text that ends whatever phrase stands before it. -/
def Stops (text : List Char) : Prop := ∀ c ∈ text.head?, c ∈ marks

/-- A text that ends whatever list of phrases stands before it. -/
structure Closes (text : List Char) : Prop where
  stops : Stops text
  no_next : ¬ [',', ' '] <+: text

theorem stops_cons {c : Char} {rest : List Char} : Stops (c :: rest) ↔ c ∈ marks := by
  simp [Stops]

/-- Further phrases start with a comma, so they end the phrase before them. -/
theorem stops_more {rest : List Phrase} {text : List Char} (h : Stops text) :
    Stops (more rest ++ text) := by
  cases rest with
  | nil => exact h
  | cons next rest => exact stops_cons.2 (by decide)

/-- An angle ends the arguments of a word. -/
theorem closes_angle (rest : List Char) : Closes ('>' :: rest) :=
  ⟨stops_cons.2 (by decide), by simp⟩

/-- The end of a tuple ends its elements, also with the comma of a single one. -/
theorem closes_tupleEnd (elements : List Phrase) (rest : List Char) :
    Closes (tupleEnd elements ++ rest) := by
  unfold tupleEnd
  split
  · exact ⟨stops_cons.2 (by decide), by simp⟩
  · exact ⟨stops_cons.2 (by decide), by simp⟩

/-- The word that a phrase starts with, if it starts with one. -/
def lead : Phrase → List Char
  | word chars => chars
  | generic head _ _ => head
  | array _ _ => []
  | tuple _ => []

/-- What stands behind the first word of a phrase. -/
def body : Phrase → List Char
  | word _ => []
  | generic _ first rest => '<' :: (text first ++ (more rest ++ ['>']))
  | array element length =>
    '[' :: (text element ++ ';' :: ' ' :: (Nat.toDigits 10 length ++ [']']))
  | tuple elements => '(' :: tupleText elements

/-- A phrase is its first word and the rest. -/
theorem text_eq (p : Phrase) : p.text = p.lead ++ p.body := by
  cases p <;> simp [text, lead, body]

/-- The first word of a plain phrase is made of characters of paths. -/
theorem Plain.lead {p : Phrase} (h : p.Plain) : ∀ c ∈ p.lead, isPathChar c = true := by
  cases p with
  | word chars => exact (h chars (by simp [words])).path
  | generic head first rest => exact (plain_generic.1 h).1.path
  | array element length => simp [Phrase.lead]
  | tuple elements => simp [Phrase.lead]

/-- What stands behind the first word cannot be taken for a part of it. -/
theorem body_no_path (p : Phrase) {r : List Char} (hr : Stops r) :
    ∀ c ∈ (p.body ++ r).head?, isPathChar c = false := by
  have hmarks : ∀ c ∈ marks, isPathChar c = false := by simp [marks, isPathChar]
  cases p with
  | word chars => exact fun c hc => hmarks c (hr c hc)
  | generic head first rest => simp [body, isPathChar]
  | array element length => simp [body, isPathChar]
  | tuple elements => simp [body, isPathChar]

/-- The words that two phrases start with are the same if the texts are. -/
theorem lead_unique {p q : Phrase} (hp : p.Plain) (hq : q.Plain) {r s : List Char} (hr : Stops r)
    (hs : Stops s) (h : p.text ++ r = q.text ++ s) :
    p.lead = q.lead ∧ p.body ++ r = q.body ++ s := by
  rw [text_eq, text_eq, List.append_assoc, List.append_assoc] at h
  exact append_inj_of_run hp.lead hq.lead (body_no_path p hr) (body_no_path q hs) h

/-- No phrase starts like the end of a tuple. -/
theorem Plain.ne_closed {p : Phrase} (h : p.Plain) (r s : List Char) :
    ')' :: s ≠ p.text ++ r := by
  have hword : ∀ {chars : List Char} {rest : List Char}, IsWord chars →
      ')' :: s ≠ chars ++ rest := by
    intro chars rest hchars heq
    obtain ⟨c, cs, rfl⟩ := List.exists_cons_of_ne_nil hchars.nonempty
    have hpath := hchars.path c List.mem_cons_self
    rw [← (List.cons.inj heq).1] at hpath
    exact absurd hpath (by decide)
  cases p with
  | word chars => exact hword (h chars (by simp [words]))
  | generic head first rest =>
      rw [text, List.append_assoc]
      exact hword (plain_generic.1 h).1
  | array element length => simp [text]
  | tuple elements => simp [text]

/-- The length of an array can be read off its digits. -/
theorem length_unique {m n : Nat} {r s : List Char}
    (h : Nat.toDigits 10 m ++ ']' :: r = Nat.toDigits 10 n ++ ']' :: s) : m = n ∧ r = s := by
  have hdigit : ∀ n, ∀ c ∈ Nat.toDigits 10 n, c.isDigit = true := fun n c hc =>
    Nat.isDigit_of_mem_toDigits (by decide) (by decide) hc
  have hbracket : ∀ rest : List Char, ∀ c ∈ (']' :: rest).head?, c.isDigit = false := by simp
  obtain ⟨hdigits, hrest⟩ := append_inj_of_run (hdigit m) (hdigit n) (hbracket r) (hbracket s) h
  rw [← Nat.ofDigitChars_ten_toDigits (n := m), hdigits, Nat.ofDigitChars_ten_toDigits]
  exact ⟨rfl, (List.cons.inj hrest).2⟩

mutual

/-- **Unique reading.**  Of two texts that start with phrases, and stop there, the phrases are the
same if the texts are. -/
theorem text_unique {p q : Phrase} (hp : p.Plain) (hq : q.Plain) {r s : List Char} (hr : Stops r)
    (hs : Stops s) (h : p.text ++ r = q.text ++ s) : p = q ∧ r = s := by
  obtain ⟨hlead, hbody⟩ := lead_unique hp hq hr hs h
  match p, q with
  | word v, word w => exact ⟨congrArg word hlead, hbody⟩
  | generic head first rest, generic head' first' rest' =>
      obtain rfl : head = head' := hlead
      have hp := (plain_generic.1 hp).2
      have hq := (plain_generic.1 hq).2
      have hargs : first.text ++ (more rest ++ '>' :: r) =
          first'.text ++ (more rest' ++ '>' :: s) := by
        simpa [body] using hbody
      obtain ⟨rfl, hrest⟩ := text_unique hp.1 hq.1 (stops_more (closes_angle r).stops)
        (stops_more (closes_angle s).stops) hargs
      obtain ⟨rfl, hend⟩ := more_unique hp.2 hq.2 (closes_angle r) (closes_angle s) hrest
      exact ⟨rfl, (List.cons.inj hend).2⟩
  | array element m, array element' n =>
      have hp : element.Plain := hp
      have hq : element'.Plain := hq
      have hparts : element.text ++ ';' :: ' ' :: (Nat.toDigits 10 m ++ ']' :: r) =
          element'.text ++ ';' :: ' ' :: (Nat.toDigits 10 n ++ ']' :: s) := by
        simpa [body] using hbody
      obtain ⟨rfl, hlength⟩ := text_unique hp hq (stops_cons.2 (by decide))
        (stops_cons.2 (by decide)) hparts
      obtain ⟨rfl, hrest⟩ := length_unique (List.cons.inj (List.cons.inj hlength).2).2
      exact ⟨rfl, hrest⟩
  | tuple elements, tuple elements' =>
      obtain ⟨rfl, hrest⟩ := tupleText_unique hp hq (List.cons.inj hbody).2
      exact ⟨rfl, hrest⟩
  -- A word stops where the other phrase goes on.
  | word _, generic _ _ _ | word _, array _ _ | word _, tuple _ =>
      rw [show r = _ from hbody] at hr
      exact absurd (stops_cons.1 hr) (by decide)
  | generic _ _ _, word _ | array _ _, word _ | tuple _, word _ =>
      rw [show s = _ from hbody.symm] at hs
      exact absurd (stops_cons.1 hs) (by decide)
  | generic _ _ _, array _ _ | generic _ _ _, tuple _ | array _ _, generic _ _ _
  | array _ _, tuple _ | tuple _, generic _ _ _ | tuple _, array _ _ => simp [body] at hbody

/-- A list of phrases goes on as long as there is a comma with a blank. -/
theorem more_unique {ps qs : List Phrase} (hp : AllPlain ps) (hq : AllPlain qs) {r s : List Char}
    (hr : Closes r) (hs : Closes s) (h : more ps ++ r = more qs ++ s) : ps = qs ∧ r = s := by
  match ps, qs with
  | [], [] => exact ⟨rfl, h⟩
  | [], next :: rest => exact absurd ⟨_, h.symm⟩ hr.no_next
  | next :: rest, [] => exact absurd ⟨_, h⟩ hs.no_next
  | next :: rest, next' :: rest' =>
      have hp := allPlain_cons.1 hp
      have hq := allPlain_cons.1 hq
      have hparts : next.text ++ (more rest ++ r) = next'.text ++ (more rest' ++ s) := by
        simpa [more] using h
      obtain ⟨rfl, hrest⟩ := text_unique hp.1 hq.1 (stops_more hr.stops) (stops_more hs.stops)
        hparts
      obtain ⟨rfl, hend⟩ := more_unique hp.2 hq.2 hr hs hrest
      exact ⟨rfl, hend⟩

/-- The elements of a tuple can be read back from its text, as can what follows it. -/
theorem tupleText_unique {ps qs : List Phrase} (hp : AllPlain ps) (hq : AllPlain qs)
    {r s : List Char} (h : tupleText ps ++ r = tupleText qs ++ s) : ps = qs ∧ r = s := by
  match ps, qs with
  | [], [] => exact ⟨rfl, (List.cons.inj h).2⟩
  | [], first :: rest =>
      rw [tupleText, tupleText, List.append_assoc] at h
      exact absurd h ((allPlain_cons.1 hq).1.ne_closed _ _)
  | first :: rest, [] =>
      rw [tupleText, tupleText, List.append_assoc] at h
      exact absurd h.symm ((allPlain_cons.1 hp).1.ne_closed _ _)
  | first :: rest, first' :: rest' =>
      have hp := allPlain_cons.1 hp
      have hq := allPlain_cons.1 hq
      have hr := closes_tupleEnd rest r
      have hs := closes_tupleEnd rest' s
      have hparts : first.text ++ (more rest ++ (tupleEnd rest ++ r)) =
          first'.text ++ (more rest' ++ (tupleEnd rest' ++ s)) := by
        simpa [tupleText] using h
      obtain ⟨rfl, hrest⟩ := text_unique hp.1 hq.1 (stops_more hr.stops) (stops_more hs.stops)
        hparts
      obtain ⟨rfl, hend⟩ := more_unique hp.2 hq.2 hr hs hrest
      exact ⟨rfl, List.append_cancel_left hend⟩

end

end Phrase

/-! ## Types as phrases -/

namespace DataType

mutual

/-- A type without the two types that have another name: bytes are a list of `u8`, and the unit type
is the tuple of nothing. -/
def normal : DataType → DataType
  | primitive .unit => tuple []
  | primitive .bytes => list (primitive .u8)
  | primitive kind => primitive kind
  | list element => list (normal element)
  | option inner => option (normal inner)
  | map key value => map (normal key) (normal value)
  | set element => set (normal element)
  | array element length => array (normal element) length
  | tuple elements => tuple (normals elements)
  | named path => named path
  | unsupported what => unsupported what

/-- Several types without those that have another name. -/
def normals : List DataType → List DataType
  | [] => []
  | element :: rest => normal element :: normals rest

end

/-- The word that makes a list of its argument. -/
def listWord : String := "::std::vec::Vec"

/-- The word that makes an option of its argument. -/
def optionWord : String := "::std::option::Option"

/-- The word that makes a set of its argument. -/
def setWord : String := "::std::collections::HashSet"

/-- The word that makes a map of its arguments. -/
def mapWord : String := "::std::collections::HashMap"

mutual

/-- The phrase that spells a type. -/
def phrase : DataType → Phrase
  | primitive .unit => .tuple []
  | primitive .bytes => .generic listWord.toList (.word Primitive.u8.spelling.toList) []
  | primitive kind => .word kind.spelling.toList
  | list element => .generic listWord.toList (phrase element) []
  | option inner => .generic optionWord.toList (phrase inner) []
  | map key value => .generic mapWord.toList (phrase key) [phrase value]
  | set element => .generic setWord.toList (phrase element) []
  | array element length => .array (phrase element) length
  | tuple elements => .tuple (phrases elements)
  | named path => .word ("super::" ++ path).toList
  | unsupported what => .word (unsupported what).spelling.toList

/-- The phrases that spell several types. -/
def phrases : List DataType → List Phrase
  | [] => []
  | element :: rest => phrase element :: phrases rest

end

/-- A word with an argument, as it is spelled. -/
theorem text_oneArgument {word lead : String} (hlead : lead = word ++ "<") {first : Phrase}
    {inner : String} (hfirst : first.text = inner.toList) :
    (Phrase.generic word.toList first []).text = (lead ++ inner ++ ">").toList := by
  subst hlead
  simp [Phrase.text, Phrase.more, hfirst]

mutual

/-- A type is spelled by the text of its phrase. -/
theorem text_phrase (type : DataType) : type.phrase.text = type.spelling.toList := by
  match type with
  | primitive kind =>
      cases kind with
      | unit =>
          change ['(', ')'] = "()".toList
          rw [String.toList_ofList]
      | bytes =>
          have hbytes : (primitive .bytes).spelling = "::std::vec::Vec<" ++ "u8" ++ ">" := rfl
          rw [hbytes]
          exact text_oneArgument rfl rfl
      | _ => rfl
  | list element => exact text_oneArgument rfl (text_phrase element)
  | option inner => exact text_oneArgument rfl (text_phrase inner)
  | set element => exact text_oneArgument rfl (text_phrase element)
  | map key value =>
      have hlead : "::std::collections::HashMap<" = mapWord ++ "<" := rfl
      change (Phrase.generic mapWord.toList key.phrase [value.phrase]).text =
        ("::std::collections::HashMap<" ++ key.spelling ++ ", " ++ value.spelling ++ ">").toList
      rw [hlead]
      simp [Phrase.text, Phrase.more, text_phrase key, text_phrase value]
  | array element length =>
      change (Phrase.array element.phrase length).text =
        ("[" ++ element.spelling ++ "; " ++ toString length ++ "]").toList
      simp [Phrase.text, text_phrase element]
  | tuple [] =>
      change ['(', ')'] = ("(" ++ "" ++ ")").toList
      simp
  | tuple [element] =>
      change (Phrase.tuple [element.phrase]).text = ("(" ++ element.spelling ++ ",)").toList
      simp [Phrase.text, Phrase.tupleText, Phrase.more, Phrase.tupleEnd, text_phrase element]
  | tuple (first :: second :: rest) =>
      have hmore := more_phrases first.spelling (second :: rest)
      change '(' :: (first.phrase.text ++ (Phrase.more (phrases (second :: rest)) ++ [')'])) =
        ("(" ++ ", ".intercalate (spellings (first :: second :: rest)) ++ ")").toList
      rw [text_phrase first, ← List.append_assoc, hmore]
      simp [spellings]
  | named path => rfl
  | unsupported what => rfl

/-- The phrases behind a first text are the list of spellings with its commas. -/
theorem more_phrases (first : String) (types : List DataType) :
    first.toList ++ Phrase.more (phrases types) =
      (", ".intercalate (first :: spellings types)).toList := by
  match types with
  | [] => simp [phrases, spellings, Phrase.more]
  | next :: rest =>
      have hrest := more_phrases next.spelling rest
      simp [phrases, spellings, Phrase.more, String.intercalate_cons_cons, text_phrase next, hrest]

end

mutual

/-- Types with the same normal form have the same phrase. -/
theorem phrase_normal (type : DataType) : type.normal.phrase = type.phrase := by
  match type with
  | primitive kind => cases kind <;> rfl
  | list element => simp only [normal, phrase, phrase_normal element]
  | option inner => simp only [normal, phrase, phrase_normal inner]
  | set element => simp only [normal, phrase, phrase_normal element]
  | map key value => simp only [normal, phrase, phrase_normal key, phrase_normal value]
  | array element length => simp only [normal, phrase, phrase_normal element]
  | tuple elements => simp only [normal, phrase, phrases_normals elements]
  | named path => rfl
  | unsupported what => rfl

theorem phrases_normals (types : List DataType) : phrases (normals types) = phrases types := by
  match types with
  | [] => rfl
  | next :: rest => simp only [normals, phrases, phrase_normal next, phrases_normals rest]

end

/-! ## Phrases as types -/

/-- The primitive types that are spelled by one word. -/
def wordKinds : List Primitive :=
  [.bool, .u8, .u16, .u32, .u64, .u128, .i8, .i16, .i32, .i64, .i128, .f32, .f64, .char, .string]

/-- The type that a word spells. -/
def ofWord (chars : List Char) : DataType :=
  match "super::".toList.isPrefixOf? chars with
  | some path => named (String.ofList path)
  | none => primitive ((wordKinds.find? (·.spelling.toList == chars)).getD .unit)

/-- The type that a word with arguments spells. -/
def ofGeneric (head : List Char) (first : DataType) : List DataType → DataType
  | [] =>
    if head = listWord.toList then list first
    else if head = optionWord.toList then option first
    else set first
  | second :: _ => map first second

mutual

/-- The type that a phrase spells. -/
def ofPhrase : Phrase → DataType
  | .word chars => ofWord chars
  | .generic head first rest => ofGeneric head (ofPhrase first) (ofPhrases rest)
  | .array element length => array (ofPhrase element) length
  | .tuple elements => tuple (ofPhrases elements)

/-- The types that several phrases spell. -/
def ofPhrases : List Phrase → List DataType
  | [] => []
  | next :: rest => ofPhrase next :: ofPhrases rest

end

/-- A primitive type is read back from its word. -/
theorem ofWord_spelling {kind : Primitive} (h : kind ∈ wordKinds) :
    ofWord kind.spelling.toList = primitive kind := by
  have hall : wordKinds.all (fun kind => ofWord kind.spelling.toList == primitive kind) = true := by
    decide +kernel
  exact eq_of_beq (List.all_eq_true.1 hall kind h)

/-- A named type is read back from its path. -/
theorem ofWord_path (path : String) : ofWord ("super::" ++ path).toList = named path := by
  have hpath : "super::".toList.isPrefixOf? ("super::" ++ path).toList = some path.toList := by
    rw [String.toList_append]
    exact List.isPrefixOf?_eq_some_iff_append_eq.2 rfl
  rw [ofWord, hpath]
  exact congrArg named String.ofList_toList

/-- A list is told apart by its word. -/
theorem ofGeneric_list (element : DataType) :
    ofGeneric listWord.toList element [] = list element := by
  rw [ofGeneric, if_pos rfl]

theorem ofGeneric_option (inner : DataType) :
    ofGeneric optionWord.toList inner [] = option inner := by
  have hlist : optionWord.toList ≠ listWord.toList := by decide +kernel
  rw [ofGeneric, if_neg hlist, if_pos rfl]

/-- A set is what is left. -/
theorem ofGeneric_set (element : DataType) : ofGeneric setWord.toList element [] = set element := by
  have hlist : setWord.toList ≠ listWord.toList := by decide +kernel
  have hoption : setWord.toList ≠ optionWord.toList := by decide +kernel
  rw [ofGeneric, if_neg hlist, if_neg hoption]

mutual

/-- The phrase of a type spells the type, with bytes and the unit type written out. -/
theorem ofPhrase_phrase {type : DataType} (h : type.firstUnsupported = none) :
    ofPhrase type.phrase = type.normal := by
  match type with
  | primitive kind =>
      cases kind with
      | unit => rfl
      | bytes =>
          change ofGeneric listWord.toList (ofWord Primitive.u8.spelling.toList) [] =
            list (primitive .u8)
          rw [ofGeneric_list, ofWord_spelling (by decide)]
      | _ => exact ofWord_spelling (by decide)
  | list element =>
      have helement : ofPhrase element.phrase = element.normal := ofPhrase_phrase h
      rw [phrase, ofPhrase, ofPhrases, ofGeneric_list, normal, helement]
  | option inner =>
      have hinner : ofPhrase inner.phrase = inner.normal := ofPhrase_phrase h
      rw [phrase, ofPhrase, ofPhrases, ofGeneric_option, normal, hinner]
  | set element =>
      have helement : ofPhrase element.phrase = element.normal := ofPhrase_phrase h
      rw [phrase, ofPhrase, ofPhrases, ofGeneric_set, normal, helement]
  | map key value =>
      have hparts := Option.or_eq_none_iff.1 h
      simp only [phrase, ofPhrase, ofPhrases, ofGeneric, normal, ofPhrase_phrase hparts.1,
        ofPhrase_phrase hparts.2]
  | array element length =>
      have helement : ofPhrase element.phrase = element.normal := ofPhrase_phrase h
      rw [phrase, ofPhrase, normal, helement]
  | tuple elements => rw [phrase, ofPhrase, normal, ofPhrases_phrases h]
  | named path => exact ofWord_path path
  | unsupported what => cases h

theorem ofPhrases_phrases {types : List DataType} (h : firstUnsupportedOf types = none) :
    ofPhrases (phrases types) = normals types := by
  match types with
  | [] => rfl
  | next :: rest =>
      have hparts := Option.or_eq_none_iff.1 h
      simp only [phrases, ofPhrases, normals, ofPhrase_phrase hparts.1, ofPhrases_phrases hparts.2]

end

/-! ## The words of a type -/

/-- A literal is checked for characters of paths. -/
theorem madeOf_path {cs : List Char} (h : cs.all isPathChar = true) :
    MadeOf (isPathChar · = true) (String.ofList cs) :=
  Text.madeOf_ofList (List.all_eq_true.1 h)

/-- A literal that is not empty is a word if it is made of characters of paths. -/
theorem isWord_ofList {cs : List Char} (hne : cs ≠ []) (hcs : cs.all isPathChar = true) :
    Phrase.IsWord (String.ofList cs).toList :=
  ⟨by rwa [String.toList_ofList], madeOf_path hcs⟩

/-- A path is a word with the module in front. -/
theorem isWord_path {path : String} (h : MadeOf (isPathChar · = true) path) :
    Phrase.IsWord ("super::" ++ path).toList := by
  have hsuper : Phrase.IsWord "super::".toList := isWord_ofList (by decide) (by decide)
  rw [String.toList_append]
  refine ⟨List.append_ne_nil_of_left_ne_nil hsuper.nonempty _, fun c hc => ?_⟩
  rcases List.mem_append.1 hc with hc | hc
  · exact hsuper.path c hc
  · exact h c hc

/-- A word with one argument is plain if both are. -/
theorem plain_oneArgument {head : List Char} {first : Phrase} (hhead : Phrase.IsWord head)
    (hfirst : first.Plain) : (Phrase.generic head first []).Plain :=
  Phrase.plain_generic.2 ⟨hhead, hfirst, Phrase.allPlain_nil⟩

theorem plain_word {chars : List Char} (h : Phrase.IsWord chars) : (Phrase.word chars).Plain := by
  simpa [Phrase.Plain, Phrase.words] using h

mutual

/-- The phrase of a type is plain if the paths of its named types are. -/
theorem plain_phrase {type : DataType} (hsupported : type.firstUnsupported = none)
    (hpaths : ∀ path ∈ type.paths, MadeOf (isPathChar · = true) path) : type.phrase.Plain := by
  have hlist : Phrase.IsWord listWord.toList := isWord_ofList (by decide) (by decide)
  match type with
  | primitive kind =>
      cases kind with
      | unit => exact Phrase.allPlain_nil
      | bytes => exact plain_oneArgument hlist (plain_word (isWord_ofList (by decide) (by decide)))
      | _ => exact plain_word (isWord_ofList (by decide) (by decide))
  | list element => exact plain_oneArgument hlist (plain_phrase hsupported hpaths)
  | option inner =>
      exact plain_oneArgument (isWord_ofList (by decide) (by decide))
        (plain_phrase hsupported hpaths)
  | set element =>
      exact plain_oneArgument (isWord_ofList (by decide) (by decide))
        (plain_phrase hsupported hpaths)
  | map key value =>
      have hparts := Option.or_eq_none_iff.1 hsupported
      have hkey : key.phrase.Plain :=
        plain_phrase hparts.1 fun p hp => hpaths p (by simp [paths, hp])
      have hvalue : value.phrase.Plain :=
        plain_phrase hparts.2 fun p hp => hpaths p (by simp [paths, hp])
      exact Phrase.plain_generic.2 ⟨isWord_ofList (by decide) (by decide), hkey,
        Phrase.allPlain_cons.2 ⟨hvalue, Phrase.allPlain_nil⟩⟩
  | array element length =>
      have helement : element.phrase.Plain := plain_phrase hsupported hpaths
      exact helement
  | tuple elements => exact allPlain_phrases hsupported hpaths
  | named path => exact plain_word (isWord_path (hpaths path (by simp [paths])))
  | unsupported what => cases hsupported

theorem allPlain_phrases {types : List DataType} (hsupported : firstUnsupportedOf types = none)
    (hpaths : ∀ path ∈ pathsOf types, MadeOf (isPathChar · = true) path) :
    Phrase.AllPlain (phrases types) := by
  match types with
  | [] => exact Phrase.allPlain_nil
  | next :: rest =>
      have hparts := Option.or_eq_none_iff.1 hsupported
      have hnext : next.phrase.Plain :=
        plain_phrase hparts.1 fun p hp => hpaths p (by simp [pathsOf, hp])
      have hrest : Phrase.AllPlain (phrases rest) :=
        allPlain_phrases hparts.2 fun p hp => hpaths p (by simp [pathsOf, hp])
      exact Phrase.allPlain_cons.2 ⟨hnext, hrest⟩

end

/-! ## The statement -/

/-- **Faithful spellings.**  Two types that a message can carry, whose named types have paths of
letters, digits, underscores and colons, are spelled alike just when they are the same type once
bytes are read as a list of `u8` and the unit type as the tuple of nothing, at every depth. -/
theorem spelling_faithful {type other : DataType} (htype : type.isSupported = true)
    (hother : other.isSupported = true)
    (htypePaths : ∀ path ∈ type.paths, MadeOf (isPathChar · = true) path)
    (hotherPaths : ∀ path ∈ other.paths, MadeOf (isPathChar · = true) path) :
    type.spelling = other.spelling ↔ type.normal = other.normal := by
  have htype := Option.isNone_iff_eq_none.1 htype
  have hother := Option.isNone_iff_eq_none.1 hother
  constructor
  · intro h
    have htext : type.phrase.text ++ [] = other.phrase.text ++ [] := by
      rw [text_phrase, text_phrase, h]
    have hend : Phrase.Stops [] := by simp [Phrase.Stops]
    obtain ⟨hphrase, -⟩ := Phrase.text_unique (plain_phrase htype htypePaths)
      (plain_phrase hother hotherPaths) hend hend htext
    rw [← ofPhrase_phrase htype, hphrase, ofPhrase_phrase hother]
  · intro h
    rw [← String.toList_inj, ← text_phrase, ← text_phrase, ← phrase_normal type, h, phrase_normal]

/-- Bytes and the unit type are spelled like their other names inside a map, while a tuple and the
one-element tuple around it are told apart. -/
theorem spelling_faithful_nested :
    (map (named "auth::Token") (option (tuple [primitive .bytes, primitive .unit]))).spelling =
        (map (named "auth::Token") (option (tuple [list (primitive .u8), tuple []]))).spelling ∧
      (tuple [named "Token", primitive .u8]).spelling ≠
        (tuple [tuple [named "Token", primitive .u8]]).spelling := by
  have hscoped : ∀ path ∈ ["auth::Token"], MadeOf (isPathChar · = true) path :=
    List.forall_mem_singleton.2 (madeOf_path (by decide))
  have hplain : ∀ path ∈ ["Token"], MadeOf (isPathChar · = true) path :=
    List.forall_mem_singleton.2 (madeOf_path (by decide))
  constructor
  · exact Iff.mpr (spelling_faithful rfl rfl hscoped hscoped) rfl
  · exact mt (Iff.mp (spelling_faithful rfl rfl hplain hplain)) (by decide)

end DataType

end ServiceContract
