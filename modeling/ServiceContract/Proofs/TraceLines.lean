import Mathlib.Data.List.TakeWhile
import ServiceContract.Proofs.FileLines
import ServiceContract.Proofs.Replies
import ServiceContract.Source.Module

/-!
# Lines that record calls

A line records a call if it starts, behind blanks, with the call of one macro.  Which lines of a file
do so is read off the texts of its code: a text is *muted* if it stands on one line and records
nothing, however it goes on.  Most lines show this early.  Before the exclamation mark of the macro
only the letters of its path may stand, so any other character there is enough (`strays`), and a name
that is called may also tell itself apart by not starting with two colons.

Code is *silent* if none of its texts records a call.  The two ways in which code becomes the lines of
a file, the writer and the layout, cut texts off or put blanks in front of them, and both keep silent
code silent (`untraced_moduleSection`, `untraced_layoutAll`).
-/

namespace ServiceContract

open Text

/-- What a line that records a call starts with. -/
def traceStart : String := "::tracing::debug!("

/-- Does the line record a call?  Blanks at its ends make no difference. -/
def isTraceLine (line : String) : Bool := startsLike traceStart (trim line)

/-- Only the blanks at the start have to be dropped. -/
theorem isTraceLine_iff {line : String} :
    isTraceLine line = true ↔ traceStart.toList <+: line.toList.dropWhile isBlank := by
  rw [isTraceLine, startsLike, List.isPrefixOf_iff_prefix, trim, String.toList_ofList]
  generalize line.toList.dropWhile isBlank = cs
  constructor
  · exact fun hstart => hstart.trans (blanksDropped_starts cs)
  · rintro ⟨rest, rfl⟩
    have hsolid : (traceStart.toList.reverse.dropWhile isBlank).reverse = traceStart.toList := by
      decide
    rw [List.reverse_append, List.dropWhile_append]
    split
    · exact ⟨[], by rw [List.append_nil, hsolid]⟩
    · rw [List.reverse_append, List.reverse_reverse]
      exact List.prefix_append ..

/-- A line records a call if it starts with one that does. -/
theorem isTraceLine_of_start {line longer : String} (h : line.toList <+: longer.toList)
    (htrace : isTraceLine line = true) : isTraceLine longer = true := by
  rw [isTraceLine_iff] at htrace ⊢
  obtain ⟨rest, hrest⟩ := h
  have hne : line.toList.dropWhile isBlank ≠ [] := by
    intro hnil
    rw [hnil, List.prefix_nil] at htrace
    exact absurd htrace (by decide)
  rw [← hrest, List.dropWhile_append, if_neg (by simpa using hne)]
  exact htrace.trans (List.prefix_append ..)

/-! ## Texts that record nothing -/

/-- A line of its own that records no call. -/
structure Untraced (text : String) : Prop where
  oneLine : OneLine text
  no_trace : isTraceLine text = false

/-- A line that is cut short records nothing if the whole does not. -/
theorem Untraced.of_start {text line : String} (h : Untraced text)
    (hline : line.toList <+: text.toList) : Untraced line where
  oneLine := fun c hc => h.oneLine c (hline.subset hc)
  no_trace := by
    rw [Bool.eq_false_iff]
    intro htrace
    exact Bool.eq_false_iff.1 h.no_trace (isTraceLine_of_start hline htrace)

theorem untraced_empty : Untraced "" := ⟨madeOf_empty, by decide⟩

/-- Blanks in front of a line. -/
theorem Untraced.behind {text blanks : String} (h : Untraced text)
    (hblanks : ∀ c ∈ blanks.toList, c = ' ') : Untraced (blanks ++ text) where
  oneLine := MadeOf.append (fun c hc => by rw [hblanks c hc]; decide) h.oneLine
  no_trace := by
    have hblank : ∀ c ∈ blanks.toList, isBlank c = true := fun c hc => by rw [hblanks c hc]; decide
    rw [isTraceLine, trim_append_of_blank hblank]
    exact h.no_trace

/-- A text on one line that records no call, however it goes on. -/
structure Muted (text : String) : Prop where
  oneLine : OneLine text
  no_trace : ∀ rest, isTraceLine (text ++ rest) = false

/-- A text that records nothing however it goes on records nothing as it stands. -/
theorem Muted.untraced {text : String} (h : Muted text) : Untraced text :=
  ⟨h.oneLine, by simpa using h.no_trace ""⟩

/-- It may go on in any way that stays on the line. -/
theorem Muted.append {a b : String} (ha : Muted a) (hb : OneLine b) : Muted (a ++ b) where
  oneLine := ha.oneLine.append hb
  no_trace := fun rest => by rw [String.append_assoc]; exact ha.no_trace _

/-- More text, and then a literal. -/
theorem Muted.extend {a b : String} (ha : Muted a) (hb : OneLine b) {cs : List Char}
    (hcs : '\n' ∉ cs) : Muted (a ++ b ++ String.ofList cs) :=
  (ha.append hb).append (oneLine_ofList hcs)

/-- A character that does not stand before the exclamation mark of a line that records a call. -/
def offTrace (c : Char) : Bool := !"::tracing::debug".toList.contains c && !isBlank c

/-- Does something stand before the first exclamation mark that keeps a line from recording a
call? -/
def strays (cs : List Char) : Bool := (cs.takeWhile (· != '!')).any offTrace

/-- Before its exclamation mark a record has none but its own characters and blanks. -/
theorem strays_of_isTraceLine {line : String} (h : isTraceLine line = true) :
    strays line.toList = false := by
  obtain ⟨rest, hrest⟩ := isTraceLine_iff.1 h
  have hline : line.toList =
      (line.toList.takeWhile isBlank ++ "::tracing::debug".toList) ++ '!' :: '(' :: rest := by
    have hstart : traceStart.toList = "::tracing::debug".toList ++ ['!', '('] := by decide
    conv_lhs => rw [← List.takeWhile_append_dropWhile (p := isBlank) (l := line.toList), ← hrest]
    rw [hstart]
    simp
  have hfront : ∀ c ∈ line.toList.takeWhile isBlank ++ "::tracing::debug".toList,
      (c != '!') = true ∧ offTrace c = false := by
    intro c hc
    rcases List.mem_append.1 hc with hc | hc
    · have hblank := List.mem_takeWhile_imp hc
      refine ⟨?_, by simp [offTrace, hblank]⟩
      rw [bne_iff_ne]
      rintro rfl
      exact absurd hblank (by decide)
    · refine ⟨?_, by rw [offTrace, List.contains_iff_mem.2 hc]; rfl⟩
      rw [bne_iff_ne]
      rintro rfl
      exact absurd hc (by decide)
  rw [strays, hline, List.takeWhile_append_of_pos fun c hc => (hfront c hc).1,
    List.takeWhile_cons_of_neg (by decide), List.append_nil, List.any_eq_false]
  exact fun c hc => by simp [(hfront c hc).2]

/-- What keeps a line from being a record is not undone by what stands behind it. -/
theorem strays_append {a : List Char} (h : strays a = true) (b : List Char) :
    strays (a ++ b) = true := by
  obtain ⟨c, hc, hoff⟩ := List.any_eq_true.1 h
  refine List.any_eq_true.2 ⟨c, ?_, hoff⟩
  rw [List.takeWhile_append]
  split
  · exact List.mem_append_left _ (List.takeWhile_subset _ hc)
  · exact hc

/-- One stray character is enough. -/
theorem muted_of_strays {text : String} (hline : OneLine text) (h : strays text.toList = true) :
    Muted text where
  oneLine := hline
  no_trace := fun rest => by
    rw [Bool.eq_false_iff]
    intro htrace
    have hnot := strays_of_isTraceLine htrace
    rw [String.toList_append, strays_append h] at hnot
    cases hnot

/-- A literal that keeps its line from recording a call. -/
theorem muted_ofList {cs : List Char} (h : '\n' ∉ cs ∧ strays cs = true) :
    Muted (String.ofList cs) :=
  muted_of_strays (oneLine_ofList h.1) (by rw [String.toList_ofList]; exact h.2)

/-- A text with neither line feeds nor exclamation marks, such as a name or a path. -/
abbrev Bare (text : String) : Prop := MadeOf (fun c => c ≠ '\n' ∧ c ≠ '!') text

theorem Bare.oneLine {text : String} (h : Bare text) : OneLine text := fun c hc => (h c hc).1

/-- A literal is checked for feeds and exclamation marks. -/
theorem bare_ofList {cs : List Char} (h : '\n' ∉ cs ∧ '!' ∉ cs) : Bare (String.ofList cs) :=
  madeOf_ofList fun _ hc => ⟨fun heq => h.1 (heq ▸ hc), fun heq => h.2 (heq ▸ hc)⟩

/-- A name or a path, and behind it a literal. -/
theorem Bare.muted {a : String} (ha : Bare a) {cs : List Char}
    (h : '\n' ∉ cs ∧ strays cs = true) : Muted (a ++ String.ofList cs) := by
  refine muted_of_strays (ha.oneLine.append (oneLine_ofList h.1)) ?_
  have hfront : ∀ c ∈ a.toList, (c != '!') = true := fun c hc => bne_iff_ne.2 (ha c hc).2
  rw [String.toList_append, String.toList_ofList, strays, List.takeWhile_append_of_pos hfront,
    List.any_append, Bool.or_eq_true]
  exact .inr h.2

/-- Neither a feed nor an exclamation mark is a letter or a digit. -/
theorem bare_of_plainIfAscii {c : Char} (h : PlainIfAscii c) : c ≠ '\n' ∧ c ≠ '!' := by
  refine ⟨ne_feed_of_plainIfAscii h, ?_⟩
  rintro rfl
  exact absurd (h (by decide)) (by decide)

/-- Whatever name was given, a converted one is bare. -/
theorem bare_camel (name : String) : Bare (camel name) :=
  madeOf_camel (fun _ => bare_of_plainIfAscii) name

/-- Does the text start, behind blanks, with two colons? -/
def startsAtRoot (text : String) : Bool := "::".toList.isPrefixOf (text.toList.dropWhile isBlank)

theorem startsAtRoot_eq_false_iff {text : String} :
    startsAtRoot text = false ↔ ¬ [':', ':'] <+: text.toList.dropWhile isBlank := by
  rw [startsAtRoot, Bool.eq_false_iff, ne_eq, List.isPrefixOf_iff_prefix]
  rfl

/-- A character that is neither a blank nor a colon ends every start with two colons. -/
theorem startsAtRoot_append {text : String} (h : startsAtRoot text = false) {c : Char}
    (hc : isBlank c = false ∧ c ≠ ':') (cs : List Char) :
    ¬ [':', ':'] <+: (text.toList ++ c :: cs).dropWhile isBlank := by
  intro hstart
  rw [List.dropWhile_append] at hstart
  split at hstart
  · rw [List.dropWhile_cons_of_neg (by simp [hc.1])] at hstart
    exact hc.2 (List.cons_prefix_cons.1 hstart).1.symm
  · next hsome =>
      rw [startsAtRoot_eq_false_iff] at h
      generalize text.toList.dropWhile isBlank = front at hsome hstart h
      match front with
      | [] => exact hsome rfl
      | [d] =>
          have hsecond := (List.cons_prefix_cons.1 (List.cons_prefix_cons.1 hstart).2).1
          exact hc.2 hsecond.symm
      | d :: e :: front =>
          obtain ⟨hd, hstart⟩ := List.cons_prefix_cons.1 hstart
          obtain ⟨he, -⟩ := List.cons_prefix_cons.1 hstart
          exact h ⟨front, by rw [← hd, ← he]; rfl⟩

/-- A name that is called, unless it starts with two colons. -/
theorem muted_call {name : String} (hline : OneLine name) (h : startsAtRoot name = false) :
    Muted (name ++ "(") where
  oneLine := hline.append (oneLine_ofList (by decide))
  no_trace := fun rest => by
    rw [Bool.eq_false_iff]
    intro htrace
    have hcolons : [':', ':'] <+: traceStart.toList := by decide
    have hchars : (name ++ "(" ++ rest).toList = name.toList ++ '(' :: rest.toList := by simp
    have hstart := hcolons.trans (isTraceLine_iff.1 htrace)
    rw [hchars] at hstart
    exact startsAtRoot_append h (by decide) rest.toList hstart

/-- A literal that starts with neither a blank nor a colon. -/
theorem muted_lead {cs : List Char}
    (h : '\n' ∉ cs ∧ cs.head?.any (fun c => !isBlank c && c != ':') = true) :
    Muted (String.ofList cs) where
  oneLine := oneLine_ofList h.1
  no_trace := fun rest => by
    rw [Bool.eq_false_iff]
    intro htrace
    have hstart := isTraceLine_iff.1 htrace
    cases cs with
    | nil => cases h.2
    | cons c cs =>
        have hc : isBlank c = false ∧ c ≠ ':' := by simpa using h.2
        rw [String.toList_append, String.toList_ofList, List.cons_append,
          List.dropWhile_cons_of_neg (by simp [hc.1])] at hstart
        exact hc.2 (List.cons_prefix_cons.1 hstart).1.symm

/-! ## Lines of a text -/

/-- A text that some lines start with has no lines but theirs, except that the last one may be cut
off. -/
theorem untraced_of_mem_linesFrom {texts : List String} (h : ∀ text ∈ texts, Untraced text)
    {cs : List Char} (hcs : cs <+: (unlines texts).toList) :
    ∀ line ∈ linesFrom [] cs, Untraced (String.ofList line) := by
  induction texts generalizing cs with
  | nil =>
      rw [unlines_nil, String.toList_empty, List.prefix_nil] at hcs
      rw [hcs]
      exact fun line hline => by cases hline
  | cons text more ih =>
      have htext := h text List.mem_cons_self
      have hfeed : '\n' ∉ text.toList := fun hmem => htext.oneLine _ hmem rfl
      have hchars : (unlines (text :: more)).toList =
          (text.toList ++ ['\n']) ++ (unlines more).toList := by
        simp [unlines]
      have hcut : cs <+: text.toList ∨
          ∃ rest, cs = text.toList ++ '\n' :: rest ∧ rest <+: (unlines more).toList := by
        rw [hchars] at hcs
        rcases List.prefix_or_prefix_of_prefix hcs (List.prefix_append ..) with hshort | ⟨rest, rfl⟩
        · rcases List.prefix_concat_iff.1 hshort with rfl | hshort
          · exact .inr ⟨[], rfl, List.nil_prefix⟩
          · exact .inl hshort
        · exact .inr ⟨rest, by simp, (List.prefix_append_right_inj _).1 hcs⟩
      intro line hline
      rcases hcut with hshort | ⟨rest, rfl, hrest⟩
      · have hlines := linesFrom_append (fun hmem => hfeed (hshort.subset hmem)) [] []
        rw [List.append_nil, List.append_nil] at hlines
        rw [hlines, linesFrom] at hline
        split at hline
        · cases hline
        · rw [List.mem_singleton.1 hline, List.reverse_reverse]
          exact htext.of_start (by rwa [String.toList_ofList])
      · rw [linesFrom_append hfeed, linesFrom, if_pos rfl, List.append_nil] at hline
        rcases List.mem_cons.1 hline with rfl | hline
        · refine htext.of_start ?_
          rw [String.toList_ofList, ← List.reverse_suffix, List.reverse_reverse]
          unfold withoutReturn
          split
          · next hreverse =>
              rw [hreverse]
              exact List.suffix_cons ..
          · exact List.suffix_rfl
        · exact ih (fun other hother => h other (List.mem_cons_of_mem _ hother)) hrest line hline

/-- The lines of a text that is made of untraced ones, also if its last feed is missing. -/
theorem untraced_of_mem_lines {texts : List String} (h : ∀ text ∈ texts, Untraced text)
    {text : String} (htext : text.toList <+: (unlines texts).toList) :
    ∀ line ∈ lines text, Untraced line := by
  intro line hline
  obtain ⟨found, hfound, rfl⟩ := List.mem_map.1 hline
  exact untraced_of_mem_linesFrom h htext found hfound

/-- The lines of a finished text in a file. -/
theorem untraced_raw {texts : List String} (h : ∀ text ∈ texts, Untraced text) {text : String}
    (htext : text.toList <+: (unlines texts).toList) :
    ∀ line ∈ (Item.raw text).lines, Untraced line := by
  have hlines := untraced_of_mem_lines h htext
  intro line hline
  change line ∈ writtenLines text at hline
  unfold writtenLines at hline
  split at hline
  · rw [List.mem_singleton.1 hline]
    exact untraced_empty
  · split at hline
    · rcases List.mem_append.1 hline with hline | hline
      · exact hlines line hline
      · rw [List.mem_singleton.1 hline]
        exact untraced_empty
    · exact hlines line hline

/-! ## Silent code -/

namespace Code

/-- A piece of code that records no call. -/
def Silent (code : Code) : Prop := ∀ text ∈ code.texts, Untraced text

/-- Pieces of code that record no call. -/
def AllSilent (code : List Code) : Prop := ∀ piece ∈ code, piece.Silent

theorem allSilent_nil : AllSilent [] := by simp [AllSilent]

/-- Code is silent piece by piece. -/
theorem allSilent_cons {piece : Code} {rest : List Code} :
    AllSilent (piece :: rest) ↔ piece.Silent ∧ AllSilent rest := by
  simp [AllSilent]

theorem allSilent_singleton {piece : Code} : AllSilent [piece] ↔ piece.Silent := by
  simp [AllSilent]

/-- Code behind code is silent if both are. -/
theorem allSilent_append {front back : List Code} :
    AllSilent (front ++ back) ↔ AllSilent front ∧ AllSilent back := by
  simp [AllSilent, or_imp, forall_and]

/-- Pieces that are made one by one. -/
theorem allSilent_map {α : Type} {f : α → Code} {xs : List α} (h : ∀ x ∈ xs, (f x).Silent) :
    AllSilent (xs.map f) := by
  intro piece hpiece
  obtain ⟨x, hx, rfl⟩ := List.mem_map.1 hpiece
  exact h x hx

/-- Pieces that are made in groups. -/
theorem allSilent_flatMap {α : Type} {f : α → List Code} {xs : List α}
    (h : ∀ x ∈ xs, AllSilent (f x)) : AllSilent (xs.flatMap f) := by
  intro piece hpiece
  obtain ⟨x, hx, hpiece⟩ := List.mem_flatMap.1 hpiece
  exact h x hx piece hpiece

/-- No text of silent code records a call. -/
theorem AllSilent.untraced {code : List Code} (h : AllSilent code) :
    ∀ text ∈ textsAll code, Untraced text := by
  induction code with
  | nil => exact fun text htext => by cases htext
  | cons piece rest ih =>
      intro text htext
      obtain ⟨hpiece, hrest⟩ := allSilent_cons.1 h
      rcases List.mem_append.1 htext with htext | htext
      · exact hpiece text htext
      · exact ih hrest text htext

theorem silent_blank : Code.blank.Silent := by
  intro text htext
  rw [List.mem_singleton.1 htext]
  exact untraced_empty

/-- A line is silent if its text cannot be taken for a record. -/
theorem silent_line {text : String} (h : Muted text) : (line text).Silent := by
  intro other hother
  rw [List.mem_singleton.1 hother]
  exact h.untraced

/-- Documentation says so at the start of each of its lines. -/
theorem untraced_docLine {rest : String} (h : OneLine rest) : Untraced ("/// " ++ rest) :=
  ((muted_ofList (by decide)).append h).untraced

theorem untraced_emptyDocLine : Untraced "///" := (muted_ofList (by decide)).untraced

/-- Documentation is always silent, since each of its lines starts with slashes. -/
theorem silent_doc (text : String) : (doc text).Silent := by
  intro found hfound
  obtain ⟨line, hline, rfl⟩ := List.mem_map.1 hfound
  split
  · exact untraced_emptyDocLine
  · exact untraced_docLine (oneLine_trimEnd (oneLine_of_mem_lines hline))

/-- An attribute is silent if it is on one line. -/
theorem silent_attr {text : String} (h : OneLine text) : (attr text).Silent := by
  intro other hother
  rw [List.mem_singleton.1 hother]
  exact ((muted_ofList (by decide)).extend h (by decide)).untraced

/-- A brace behind a header makes no record of it. -/
theorem untraced_opening {header : String} (h : Muted header) : Untraced (opening header) := by
  unfold opening
  split
  · exact (muted_ofList (by decide)).untraced
  · exact (h.append (oneLine_ofList (by decide))).untraced

/-- A block without a header opens with a brace. -/
theorem untraced_brace : Untraced (opening "") :=
  (muted_ofList (by decide) : Muted "\x7b").untraced

/-- A block is silent if its first line, its body and its last line are. -/
theorem silent_of_opening {header close : String} {body : List Code}
    (hopening : Untraced (opening header)) (hbody : AllSilent body) (hclose : Untraced close) :
    (block header body close).Silent := by
  intro text htext
  rw [texts_block, List.mem_append, List.mem_cons, List.mem_singleton] at htext
  rcases htext with (rfl | htext) | rfl
  · exact hopening
  · exact hbody.untraced text htext
  · exact hclose

/-- A block with a header and an ending of its own. -/
theorem silent_blockClosed {header close : String} {body : List Code} (hheader : Muted header)
    (hbody : AllSilent body) (hclose : Muted close) : (block header body close).Silent :=
  silent_of_opening (untraced_opening hheader) hbody hclose.untraced

/-- A block that ends with a brace. -/
theorem silent_block {header : String} {body : List Code} (hheader : Muted header)
    (hbody : AllSilent body) : (block header body).Silent :=
  silent_blockClosed hheader hbody (muted_ofList (by decide))

/-- A block without a header. -/
theorem silent_braces {body : List Code} (hbody : AllSilent body) : (block "" body).Silent :=
  silent_of_opening untraced_brace hbody (muted_ofList (by decide)).untraced

/-- Empty lines between pieces record nothing. -/
theorem allSilent_separated {pieces : List (List Code)}
    (h : ∀ piece ∈ pieces, AllSilent piece) : AllSilent (separated pieces) := by
  unfold separated
  induction pieces with
  | nil => exact allSilent_nil
  | cons piece rest ih =>
      have hpiece := h piece (by simp)
      have hrest := ih fun other hother => h other (by simp [hother])
      cases rest with
      | nil => simpa using hpiece
      | cons next rest =>
          rw [List.intercalate_cons_cons, allSilent_append, allSilent_append, allSilent_singleton]
          exact ⟨⟨hpiece, silent_blank⟩, hrest⟩

theorem allSilent_spaced {pieces : List (List Code)} (h : ∀ piece ∈ pieces, AllSilent piece) :
    AllSilent (spaced pieces) :=
  allSilent_flatMap fun piece hpiece => allSilent_cons.2 ⟨silent_blank, h piece hpiece⟩

/-- Documentation that may be missing. -/
theorem allSilent_docOf (text : Option String) : AllSilent (docOf text) := by
  cases text with
  | none => exact allSilent_nil
  | some text => exact allSilent_singleton.2 (silent_doc text)

/-! ## Written and laid out -/

/-- A section of silent code is made of lines that record nothing. -/
theorem exists_untraced_lines {code : List Code} (h : AllSilent code) (depth : Nat) :
    ∃ texts, sectionText depth code = unlines texts ∧ ∀ text ∈ texts, Untraced text := by
  refine ⟨_, sectionText_eq depth code, fun line hline => ?_⟩
  obtain ⟨entry, hentry, rfl⟩ := List.mem_map.1 hline
  have hentry := h.untraced entry.2 (map_snd_outlineAll depth code ▸ List.mem_map_of_mem hentry)
  unfold writtenLine
  split
  · exact hentry
  · exact hentry.behind fun c hc => eq_space_of_mem_indentation hc

/-- Indentation hides no record and makes none. -/
theorem isTraceLine_indentLine (level : Nat) (line : String) :
    isTraceLine (indentLine level line) = isTraceLine line := by
  unfold indentLine
  split
  · rfl
  · have hblank : ∀ c ∈ (indentation level).toList, isBlank c = true := fun c hc => by
      rw [eq_space_of_mem_indentation hc]
      decide
    rw [isTraceLine, isTraceLine]
    exact congrArg _ (trim_append_of_blank hblank)

theorem oneLine_indentLine {line : String} (h : OneLine line) (level : Nat) :
    OneLine (indentLine level line) := by
  unfold indentLine
  split
  · exact h
  · refine MadeOf.append (fun c hc => ?_) h
    rw [eq_space_of_mem_indentation hc]
    decide

/-- An indented line records as little as it did before. -/
theorem untraced_indentLine {line : String} (h : Untraced line) (level : Nat) :
    Untraced (indentLine level line) :=
  ⟨oneLine_indentLine h.oneLine level, (isTraceLine_indentLine level line).trans h.no_trace⟩

/-- A text on one line is laid out as one line. -/
theorem indentText_of_oneLine {text : String} (h : OneLine text) (level : Nat) :
    indentText level text = [indentLine level text] := by
  have hfeed : '\n' ∉ text.toList := fun hmem => h _ hmem rfl
  have hlines : writtenLines text = [text] := by
    unfold writtenLines
    split
    · next hnone =>
        rw [List.getLast?_eq_none_iff, String.toList_eq_nil_iff] at hnone
        rw [hnone]
    · next last hlast =>
        have hmem := List.mem_of_getLast? hlast
        have hne : last ≠ '\n' := by
          rintro rfl
          exact hfeed hmem
        rw [if_neg hne, lines_of_no_feed hfeed (List.ne_nil_of_mem hmem)]
  rw [indentText, hlines, List.map_singleton]

/-- A text that is indented line by line. -/
theorem untraced_indentText {text : String} (h : Untraced text) (level : Nat) :
    ∀ line ∈ indentText level text, Untraced line := by
  intro line hline
  rw [indentText_of_oneLine h.oneLine, List.mem_singleton] at hline
  rw [hline]
  exact untraced_indentLine h level

mutual

/-- **Layout.**  Silent code is laid out in lines that record nothing. -/
theorem untraced_layout {code : Code} (h : code.Silent) (level : Nat) :
    ∀ line ∈ layout level code, Untraced line := by
  match code with
  | line text => exact untraced_indentText (h text (by simp)) level
  | blank =>
      intro line hline
      rw [List.mem_singleton.1 hline]
      exact untraced_empty
  | doc text =>
      intro line hline
      obtain ⟨found, hfound, rfl⟩ := List.mem_map.1 hline
      obtain ⟨written, hwritten, rfl⟩ := List.mem_map.1 hfound
      refine untraced_indentLine ?_ level
      split
      · exact untraced_emptyDocLine
      · exact untraced_docLine (oneLine_of_mem_lines hwritten)
  | attr text => exact untraced_indentText (h (attributeLine text) (by simp [texts])) level
  | block header body close =>
      have hbody : ∀ text ∈ textsAll body, Untraced text := fun text htext => h text (by simp [htext])
      intro line hline
      rw [layout, List.mem_append, List.mem_append] at hline
      rcases hline with (hline | hline) | hline
      · exact untraced_indentText (h (opening header) (by simp)) level line hline
      · exact untraced_layoutAll hbody (level + 1) line hline
      · exact untraced_indentText (h close (by simp)) level line hline

/-- Code whose texts record nothing is laid out in lines that record nothing. -/
theorem untraced_layoutAll {code : List Code} (h : ∀ text ∈ textsAll code, Untraced text)
    (level : Nat) : ∀ line ∈ layoutAll level code, Untraced line := by
  match code with
  | [] => exact fun line hline => by cases hline
  | piece :: rest =>
      intro line hline
      rcases List.mem_append.1 hline with hline | hline
      · exact untraced_layout (fun text htext => h text (by simp [htext])) level line hline
      · exact untraced_layoutAll (fun text htext => h text (by simp [htext])) level line hline

end

end Code

open Code

/-- Silent code as an item of a file. -/
theorem untraced_codeItem {code : List Code} (h : AllSilent code) :
    ∀ line ∈ (Item.code code).lines, Untraced line :=
  untraced_layoutAll h.untraced 0

/-- A section of silent code in a module, which loses the blanks at its end. -/
theorem untraced_moduleSection {code : List Code} (h : AllSilent code) :
    ∀ item ∈ Source.moduleSection code, ∀ line ∈ item.lines, Untraced line := by
  intro item hitem
  obtain ⟨texts, hsection, htexts⟩ := exists_untraced_lines h 1
  rw [Source.moduleSection, hsection, Item.section?] at hitem
  split at hitem
  · cases hitem
  · rw [Option.toList_some, List.mem_singleton] at hitem
    rw [hitem]
    exact untraced_raw htexts (trimEnd_starts _)

/-- Silent code stays silent if it is written out first. -/
theorem allSilent_writtenOut {code : List Code} (h : AllSilent code) :
    AllSilent (Source.writtenOut code) := by
  obtain ⟨texts, hsection, htexts⟩ := exists_untraced_lines h 0
  refine allSilent_map fun line hline text htext => ?_
  rw [List.mem_singleton.1 htext]
  exact untraced_of_mem_lines htexts (hsection ▸ List.prefix_rfl) line hline

end ServiceContract
