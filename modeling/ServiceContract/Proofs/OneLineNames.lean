import ServiceContract.Proofs.CleanNames
import ServiceContract.Proofs.FreshNames
import ServiceContract.Proofs.WrittenLines

/-!
# Names on one line

The lines of a text have no line feeds, and a text that is made of such lines is cut into them again
at its line feeds (`feedLines_intercalate`).

Names in generated code are converted names, numbers and pieces of paths.  If the paths of named
types have no line feed, then no name of a catalog has one (`Compiled.oneLine_name`), and neither
has the spelling of a type.
-/

namespace ServiceContract

namespace Text

/-- A text without a line feed. -/
abbrev OneLine (text : String) : Prop := MadeOf (fun c => c ≠ '\n') text

/-- A line feed is among the first 128 characters, and it is neither a letter nor a digit. -/
theorem ne_feed_of_plainIfAscii {c : Char} (h : PlainIfAscii c) : c ≠ '\n' := by
  rintro rfl
  exact absurd (h (by decide)) (by decide)

/-- A literal on one line.  Every literal is such a text. -/
theorem oneLine_ofList {cs : List Char} (h : '\n' ∉ cs) : OneLine (String.ofList cs) :=
  madeOf_ofList fun _ hc heq => h (heq ▸ hc)

/-- Whatever name was given, a converted one stands on one line. -/
theorem oneLine_snake (name : String) : OneLine (snake name) :=
  madeOf_snake (fun _ => ne_feed_of_plainIfAscii) (by decide) name

theorem oneLine_camel (name : String) : OneLine (camel name) :=
  madeOf_camel (fun _ => ne_feed_of_plainIfAscii) name

/-- An identifier has letters, digits and underscores. -/
theorem oneLine_of_isIdentifier {name : String} (h : isIdentifier name = true) :
    OneLine name := by
  obtain ⟨first, rest, hname, hfirst, hrest⟩ := isIdentifier_eq_true h
  rintro c hc rfl
  rw [hname, List.mem_cons] at hc
  rcases hc with rfl | hc
  · exact absurd hfirst (by decide)
  · exact absurd (hrest _ hc) (by decide)

/-- A text on one line that neither starts nor ends with a blank. -/
structure Snug (text : String) : Prop where
  oneLine : OneLine text
  first : ∀ c ∈ text.toList.head?, isBlank c = false
  last : ∀ c ∈ text.toList.getLast?, isBlank c = false

/-- There is nothing to drop where no blank stands first. -/
theorem dropWhile_isBlank_eq {cs : List Char} (h : ∀ c ∈ cs.head?, isBlank c = false) :
    cs.dropWhile isBlank = cs := by
  cases cs with
  | nil => rfl
  | cons c cs => rw [List.dropWhile_cons, h c rfl, if_neg Bool.false_ne_true]

/-- Nothing is trimmed from a snug text. -/
theorem Snug.trim_eq {text : String} (h : Snug text) : trim text = text := by
  have hlast : ∀ c ∈ text.toList.reverse.head?, isBlank c = false := by
    rw [List.head?_reverse]
    exact h.last
  rw [trim, dropWhile_isBlank_eq h.first, dropWhile_isBlank_eq hlast, List.reverse_reverse,
    String.ofList_toList]

/-- A snug text is written as one line. -/
theorem Snug.isLine {text : String} (h : Snug text) : IsLine text where
  no_feed hmem := h.oneLine _ hmem rfl
  no_return hreturn := absurd (h.last _ hreturn) (by decide)

/-- There is no blank, if there is a character at all. -/
def noBlank (c? : Option Char) : Bool := c?.all fun c => !isBlank c

theorem noBlank_iff {c? : Option Char} : noBlank c? = true ↔ ∀ c ∈ c?, isBlank c = false := by
  simp [noBlank, Option.all_eq_true]

/-- A literal is checked at its ends. -/
theorem snug_ofList {cs : List Char}
    (h : '\n' ∉ cs ∧ noBlank cs.head? = true ∧ noBlank cs.getLast? = true) :
    Snug (String.ofList cs) := by
  refine ⟨oneLine_ofList h.1, ?_, ?_⟩
  · rw [String.toList_ofList]
    exact noBlank_iff.1 h.2.1
  · rw [String.toList_ofList]
    exact noBlank_iff.1 h.2.2

/-- The start of a text on one line that does not start with a blank. -/
structure Opens (text : String) : Prop where
  oneLine : OneLine text
  nonempty : text.toList ≠ []
  first : ∀ c ∈ text.toList.head?, isBlank c = false

/-- A literal that a line may start with. -/
theorem opens_ofList {cs : List Char}
    (h : '\n' ∉ cs ∧ cs ≠ [] ∧ noBlank cs.head? = true) : Opens (String.ofList cs) := by
  refine ⟨oneLine_ofList h.1, ?_, ?_⟩
  · rw [String.toList_ofList]
    exact h.2.1
  · rw [String.toList_ofList]
    exact noBlank_iff.1 h.2.2

/-- The end of a text on one line that does not end with a blank. -/
structure Ends (text : String) : Prop where
  oneLine : OneLine text
  nonempty : text.toList ≠ []
  last : ∀ c ∈ text.toList.getLast?, isBlank c = false

/-- A literal that a line may end with. -/
theorem ends_ofList {cs : List Char}
    (h : '\n' ∉ cs ∧ cs ≠ [] ∧ noBlank cs.getLast? = true) : Ends (String.ofList cs) := by
  refine ⟨oneLine_ofList h.1, ?_, ?_⟩
  · rw [String.toList_ofList]
    exact h.2.1
  · rw [String.toList_ofList]
    exact noBlank_iff.1 h.2.2

/-- What stands in front does not matter for the end of a line, as long as it has no feed. -/
theorem Ends.behind {a b : String} (hb : Ends b) (ha : OneLine a) : Ends (a ++ b) := by
  refine ⟨ha.append hb.oneLine, ?_, ?_⟩
  · rw [String.toList_append]
    exact List.append_ne_nil_of_right_ne_nil _ hb.nonempty
  · rw [String.toList_append, List.getLast?_append_of_ne_nil _ hb.nonempty]
    exact hb.last

/-- A line with a good start and a good end is snug, whatever stands between. -/
theorem Opens.snug {a b : String} (ha : Opens a) (hb : Ends b) : Snug (a ++ b) := by
  refine ⟨ha.oneLine.append hb.oneLine, ?_, (hb.behind ha.oneLine).last⟩
  rw [String.toList_append, List.head?_append_of_ne_nil _ ha.nonempty]
  exact ha.first

end Text

open Text

/-! ## Lines of a text -/

/-- Without the blanks at its end, a text is a start of itself. -/
theorem blanksDropped_starts (cs : List Char) :
    (cs.reverse.dropWhile isBlank).reverse <+: cs := by
  have hprefix : (cs.reverse.dropWhile isBlank).reverse <+: cs.reverse.reverse :=
    List.reverse_prefix.2 (List.dropWhile_suffix isBlank)
  rwa [List.reverse_reverse] at hprefix

/-- Cutting a text at its feeds leaves none. -/
theorem no_feed_of_mem_linesFrom {line cs : List Char} (h : '\n' ∉ line) :
    ∀ found ∈ linesFrom line cs, '\n' ∉ found := by
  fun_induction linesFrom line cs with
  | case1 line => exact fun found hfound => by cases hfound
  | case2 line =>
      intro found hfound
      rw [List.mem_singleton.1 hfound, List.mem_reverse]
      exact h
  | case3 line rest ih =>
      intro found hfound
      rcases List.mem_cons.1 hfound with rfl | hfound
      · rw [List.mem_reverse]
        unfold withoutReturn
        split
        · exact fun hmem => h (List.mem_cons_of_mem _ hmem)
        · exact h
      · exact ih List.not_mem_nil found hfound
  | case4 line c rest hc ih =>
      refine ih ?_
      rw [List.mem_cons, not_or]
      exact ⟨Ne.symm hc, h⟩

/-- The lines of a text are single lines. -/
theorem oneLine_of_mem_lines {text line : String} (h : line ∈ lines text) : OneLine line := by
  obtain ⟨found, hfound, rfl⟩ := List.mem_map.1 h
  exact oneLine_ofList (no_feed_of_mem_linesFrom List.not_mem_nil found hfound)

/-- What is left after trimming the end is how the text starts. -/
theorem trimEnd_starts (text : String) : (trimEnd text).toList <+: text.toList := by
  rw [trimEnd, String.toList_ofList]
  exact blanksDropped_starts _

/-- Trimming the end of a line leaves one line. -/
theorem oneLine_trimEnd {text : String} (h : OneLine text) : OneLine (trimEnd text) :=
  fun c hc => h c ((trimEnd_starts text).subset hc)

/-- The lines of a text, cut at its line feeds. -/
def feedLines (text : String) : List String := (text.toList.splitOn '\n').map String.ofList

/-- The lines that a text was made of are found again. -/
theorem feedLines_intercalate {texts : List String} (hne : texts ≠ [])
    (h : ∀ text ∈ texts, OneLine text) : feedLines ("\n".intercalate texts) = texts := by
  have hfeed : ∀ cs ∈ texts.map String.toList, '\n' ∉ cs := by
    intro cs hcs hmem
    obtain ⟨text, htext, rfl⟩ := List.mem_map.1 hcs
    exact h text htext _ hmem rfl
  have hchars : ("\n".intercalate texts).toList =
      List.intercalate ['\n'] (texts.map String.toList) := String.toList_intercalate
  rw [feedLines, hchars, List.splitOn_intercalate '\n' hfeed (by simpa using hne), List.map_map]
  simp [Function.comp_def]

/-! ## Spellings -/

/-- Primitive types are spelled on one line. -/
theorem Primitive.oneLine_spelling (kind : Primitive) : OneLine kind.spelling := by
  cases kind <;> exact oneLine_ofList (by decide)

namespace DataType

/-- A text on one line between two literals. -/
theorem oneLine_between {text : String} (h : OneLine text) {first last : List Char}
    (hfirst : '\n' ∉ first) (hlast : '\n' ∉ last) :
    OneLine (String.ofList first ++ text ++ String.ofList last) :=
  ((oneLine_ofList hfirst).append h).append (oneLine_ofList hlast)

mutual

/-- A type that a message can carry is spelled on one line if the paths of its named types are. -/
theorem oneLine_spelling {type : DataType} (hsupported : type.firstUnsupported = none)
    (hpaths : ∀ path ∈ type.paths, OneLine path) : OneLine type.spelling := by
  match type with
  | primitive kind => exact kind.oneLine_spelling
  | list element =>
      have helement : OneLine element.spelling := oneLine_spelling hsupported hpaths
      change OneLine ("::std::vec::Vec<" ++ element.spelling ++ ">")
      exact oneLine_between helement (by decide) (by decide)
  | option inner =>
      have hinner : OneLine inner.spelling := oneLine_spelling hsupported hpaths
      change OneLine ("::std::option::Option<" ++ inner.spelling ++ ">")
      exact oneLine_between hinner (by decide) (by decide)
  | set element =>
      have helement : OneLine element.spelling := oneLine_spelling hsupported hpaths
      change OneLine ("::std::collections::HashSet<" ++ element.spelling ++ ">")
      exact oneLine_between helement (by decide) (by decide)
  | map key value =>
      obtain ⟨hkeys, hvalues⟩ := Option.or_eq_none_iff.1 hsupported
      have hkey : OneLine key.spelling :=
        oneLine_spelling hkeys fun path hpath => hpaths path (List.mem_append_left _ hpath)
      have hvalue : OneLine value.spelling :=
        oneLine_spelling hvalues fun path hpath => hpaths path (List.mem_append_right _ hpath)
      change OneLine ("::std::collections::HashMap<" ++ key.spelling ++ ", " ++
        value.spelling ++ ">")
      exact ((oneLine_between hkey (by decide) (by decide)).append hvalue).append
        (oneLine_ofList (by decide))
  | array element length =>
      have helement : OneLine element.spelling := oneLine_spelling hsupported hpaths
      have hlength : OneLine (toString length) :=
        madeOf_toString (fun _ => ne_feed_of_plainIfAscii) length
      change OneLine ("[" ++ element.spelling ++ "; " ++ toString length ++ "]")
      exact ((oneLine_between helement (by decide) (by decide)).append hlength).append
        (oneLine_ofList (by decide))
  | tuple [] =>
      change OneLine ("(" ++ "" ++ ")")
      exact oneLine_between madeOf_empty (by decide) (by decide)
  | tuple [element] =>
      have hall := oneLine_spellings hsupported hpaths
      change OneLine ("(" ++ element.spelling ++ ",)")
      exact oneLine_between (hall element.spelling (by simp [spellings])) (by decide) (by decide)
  | tuple (element :: next :: rest) =>
      have hall := oneLine_spellings hsupported hpaths
      change OneLine ("(" ++ ", ".intercalate (spellings (element :: next :: rest)) ++ ")")
      exact oneLine_between (madeOf_intercalate (oneLine_ofList (by decide)) hall) (by decide)
        (by decide)
  | named path => exact (oneLine_ofList (by decide)).append (hpaths path (by simp [paths]))
  | unsupported what => cases hsupported

theorem oneLine_spellings {types : List DataType} (hsupported : firstUnsupportedOf types = none)
    (hpaths : ∀ path ∈ pathsOf types, OneLine path) :
    ∀ text ∈ spellings types, OneLine text := by
  match types with
  | [] => exact fun text htext => by cases htext
  | element :: rest =>
      obtain ⟨helement, hrest⟩ := Option.or_eq_none_iff.1 hsupported
      intro text htext
      rcases List.mem_cons.1 htext with rfl | htext
      · exact oneLine_spelling helement fun path hpath =>
          hpaths path (List.mem_append_left _ hpath)
      · exact oneLine_spellings hrest (fun path hpath =>
          hpaths path (List.mem_append_right _ hpath)) text htext

end

end DataType

/-- The lines of a section whose texts are snug, without their indentation. -/
theorem Code.map_trim_lines {code : List Code} (h : ∀ text ∈ textsAll code, Snug text)
    (depth : Nat) : (Text.lines (sectionText depth code)).map trim = textsAll code := by
  have hsnug : ∀ entry ∈ outlineAll depth code, Snug entry.2 := by
    intro entry hentry
    exact h entry.2 (map_snd_outlineAll depth code ▸ List.mem_map_of_mem hentry)
  rw [lines_sectionText fun entry hentry => (hsnug entry hentry).isLine, printed, List.map_map,
    ← map_snd_outlineAll depth code]
  refine List.map_congr_left fun entry hentry => ?_
  exact (trim_writtenLine ..).trans (hsnug entry hentry).trim_eq

/-! ## Names of a catalog -/

/-- No text of a contract that stands inside a line has a line feed: neither its names, nor the path
of a named type that a fault carries.  Names of operations and arguments may be anything. -/
structure Contract.OneLineNames (c : Contract) : Prop where
  space : OneLine c.space
  name : OneLine c.name
  paths : ∀ op ∈ c.operations, ∀ fault ∈ op.faults, ∀ path ∈ fault.payload.paths, OneLine path

/-- The full name of a contract is made of its two names. -/
theorem Contract.OneLineNames.qualifiedName {c : Contract} (h : c.OneLineNames) :
    OneLine c.qualifiedName := by
  unfold Contract.qualifiedName
  split
  · exact h.name
  · exact (h.space.append (oneLine_ofList (by decide))).append h.name

theorem Role.oneLine_suffix (role : Role) : OneLine role.suffix := by
  cases role <;> exact oneLine_ofList (by decide)

/-- The types of an operation are called after it and after the payloads of its faults. -/
theorem Operation.oneLine_of_mem_plannedNames {op : Operation}
    (h : ∀ fault ∈ op.faults, ∀ path ∈ fault.payload.paths, OneLine path) {name : String}
    (hname : name ∈ op.plannedNames) : OneLine name := by
  have hrole : ∀ role : Role, OneLine (op.typeName ++ role.suffix) :=
    fun role => (oneLine_camel _).append role.oneLine_suffix
  unfold plannedNames at hname
  split at hname
  · rw [List.mem_singleton.1 hname]
    exact hrole _
  · simp only [List.mem_append, List.mem_cons, List.not_mem_nil, or_false, List.mem_ite_nil_left,
      List.mem_ite_nil_right, List.mem_map] at hname
    rcases hname with
      ((((rfl | rfl) | ⟨-, rfl | ⟨fault, hfault, rfl⟩⟩) | rfl) | ⟨-, rfl⟩) | ⟨-, rfl⟩
    · exact hrole _
    · exact hrole _
    · exact hrole _
    · have hfragment : OneLine fault.payload.fragment :=
        DataType.madeOf_fragment (fun _ => ne_feed_of_plainIfAscii) (h fault hfault)
      exact ((oneLine_camel _).append hfragment).append (Role.oneLine_suffix _)
    · exact hrole _
    · exact hrole _
    · exact hrole _

namespace Compiled

variable {c : Contract} {options : Options} {compiled : Compiled}

/-- Every name in the catalog of a compiled contract is on one line. -/
theorem oneLine_name (h : c.compile options = .ok compiled) (hc : c.OneLineNames) (id : NodeId) :
    OneLine (compiled.catalog.name id) := by
  cases hget : compiled.catalog.get? id with
  | none =>
      rw [Catalog.name, hget]
      exact madeOf_empty
  | some node =>
      have hname : node.name ∈ compiled.catalog.nodes.map Node.name :=
        List.mem_map_of_mem (List.mem_of_getElem? hget)
      rw [Catalog.name, hget, Option.map_some, Option.getD_some]
      rw [map_name_nodes h, List.mem_append] at hname
      rcases hname with hname | hname
      · obtain ⟨draft, hdraft, hname⟩ := List.mem_map.1 hname
        rw [← hname]
        rcases List.mem_cons.1 hdraft with rfl | hdraft
        · exact (oneLine_camel _).append (Role.oneLine_suffix _)
        · obtain ⟨message, -, rfl⟩ := List.mem_map.1 hdraft
          cases message <;> exact oneLine_ofList (by decide)
      · obtain ⟨⟨index, op⟩, hop, hname⟩ := List.mem_flatMap.1 hname
        rw [generatedOperations_eq h] at hop
        obtain ⟨p, hp, hpair⟩ := List.mem_map.1 hop
        obtain ⟨rfl, rfl⟩ := Prod.mk.inj hpair
        have hdeclared := List.mem_of_getElem? (mem_placements h hp).1
        exact Operation.oneLine_of_mem_plannedNames (hc.paths _ hdeclared) hname

/-- A variant is a piece of the name of a carrier, or the whole of it. -/
theorem oneLine_faultVariant (h : c.compile options = .ok compiled) (hc : c.OneLineNames)
    (carrier : NodeId) : OneLine (compiled.catalog.faultVariant carrier) := by
  have hname := oneLine_name h hc carrier
  unfold Catalog.faultVariant
  dsimp only
  split
  · next variant hvariant =>
      split
      · exact hname
      · exact fun c hc => hname c (mem_of_mem_between hvariant hc)
  · exact hname

end Compiled

end ServiceContract
