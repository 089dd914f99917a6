import ServiceContract.Code.Writer

/-!
# The lines a writer writes

A writer that stands at the start of a line, and has room, writes whole lines: what it writes for
code depends on its level alone.  `Code.outline` is a plain printer, which lists the texts of code
with their levels; a text is written behind its indentation, unless it is blank.  By
`Code.sectionText_eq` a section holds these lines, and if none of them has a line end inside, they
are also what is read off the section (`Code.lines_sectionText`).
-/

namespace ServiceContract

/-! ## Lines of a text -/

namespace Text

/-- Lines, each with a line feed behind it. -/
def unlines (texts : List String) : String := String.join (texts.map (· ++ "\n"))

theorem unlines_nil : unlines [] = "" := rfl

/-- Lines behind lines are texts behind each other, since every line brings its feed. -/
theorem unlines_append (xs ys : List String) : unlines (xs ++ ys) = unlines xs ++ unlines ys := by
  rw [unlines, List.map_append, String.join_append]
  rfl

theorem unlines_singleton (text : String) : unlines [text] = text ++ "\n" := by
  simp [unlines]

/-- A text that is one line: it has no line feed inside, and no carriage return at its end that
would belong to the line feed behind it. -/
structure IsLine (text : String) : Prop where
  no_feed : '\n' ∉ text.toList
  no_return : text.toList.getLast? ≠ some '\r'

/-- A line stays one behind a text without line feeds. -/
theorem IsLine.behind {front text : String} (h : IsLine text) (hfront : '\n' ∉ front.toList)
    (hne : text.toList ≠ []) : IsLine (front ++ text) := by
  obtain ⟨last, hlast⟩ := Option.ne_none_iff_exists'.1 (mt List.getLast?_eq_none_iff.1 hne)
  have hreturn := h.no_return
  rw [hlast] at hreturn
  constructor
  · rw [String.toList_append, List.mem_append, not_or]
    exact ⟨hfront, h.no_feed⟩
  · rw [String.toList_append, List.getLast?_append, hlast]
    exact hreturn

/-- Characters without a feed only make the current line longer. -/
theorem linesFrom_append {cs : List Char} (h : '\n' ∉ cs) (line rest : List Char) :
    linesFrom line (cs ++ rest) = linesFrom (cs.reverse ++ line) rest := by
  induction cs generalizing line with
  | nil => rfl
  | cons c cs ih =>
      rw [List.mem_cons, not_or] at h
      rw [List.cons_append, linesFrom, if_neg (Ne.symm h.1), ih h.2]
      simp

/-- A line that does not end with a carriage return keeps all its characters. -/
theorem withoutReturn_reverse {cs : List Char} (h : cs.getLast? ≠ some '\r') :
    withoutReturn cs.reverse = cs.reverse := by
  unfold withoutReturn
  split
  · next rest hreverse =>
      refine absurd ?_ h
      rw [← List.head?_reverse, hreverse]
      rfl
  · rfl

/-- **Reading lines back.** -/
theorem lines_unlines {texts : List String} (h : ∀ text ∈ texts, IsLine text) :
    lines (unlines texts) = texts := by
  induction texts with
  | nil => rfl
  | cons text rest ih =>
      have htext := h text List.mem_cons_self
      have hchars : (unlines (text :: rest)).toList =
          text.toList ++ '\n' :: (unlines rest).toList := by
        simp [unlines]
      rw [lines, hchars, linesFrom_append htext.no_feed, linesFrom, if_pos rfl, List.append_nil,
        withoutReturn_reverse htext.no_return, List.reverse_reverse, List.map_cons,
        String.ofList_toList]
      exact congrArg _ (ih fun other hother => h other (List.mem_cons_of_mem _ hother))

/-- Blanks in front make no difference to what is left without blanks. -/
theorem trim_append_of_blank {blanks text : String} (h : ∀ c ∈ blanks.toList, isBlank c = true) :
    trim (blanks ++ text) = trim text := by
  rw [trim, trim, String.toList_append, List.dropWhile_append_of_pos h]

end Text

/-! ## Lines of code -/

namespace Code

/-- Some levels of indentation. -/
def indentation (depth : Nat) : String := String.join (List.replicate depth indentUnit)

/-- A text as a line at a level; blank text is not indented. -/
def writtenLine (depth : Nat) (text : String) : String :=
  if Text.allBlank text then text else indentation depth ++ text

mutual

/-- The texts of code that starts at a level, each with its own level. -/
def outline (depth : Nat) : Code → List (Nat × String)
  | line text => [(depth, text)]
  | blank => [(depth, "")]
  | doc text => (docLines text).map fun line => (depth, line)
  | attr text => [(depth, attributeLine text)]
  | block header body close =>
    (depth, opening header) :: outlineAll (depth + 1) body ++ [(depth, close)]

/-- The texts of pieces of code that start at a level. -/
def outlineAll (depth : Nat) : List Code → List (Nat × String)
  | [] => []
  | code :: rest => outline depth code ++ outlineAll depth rest

end

/-- The lines of texts with levels. -/
def printed (texts : List (Nat × String)) : List String :=
  texts.map fun entry => writtenLine entry.1 entry.2

mutual

/-- The texts of code, whatever their levels. -/
def texts : Code → List String
  | line text => [text]
  | blank => [""]
  | doc text => docLines text
  | attr text => [attributeLine text]
  | block header body close => opening header :: textsAll body ++ [close]

/-- The texts of pieces of code. -/
def textsAll : List Code → List String
  | [] => []
  | code :: rest => texts code ++ textsAll rest

end

@[simp]
theorem texts_line (text : String) : (line text).texts = [text] := rfl

/-- The texts of a block are its first line, those of its body and its last line. -/
@[simp]
theorem texts_block (header : String) (body : List Code) (close : String) :
    (block header body close).texts = opening header :: textsAll body ++ [close] := rfl

@[simp]
theorem textsAll_nil : textsAll [] = [] := rfl

@[simp]
theorem textsAll_cons (code : Code) (rest : List Code) :
    textsAll (code :: rest) = code.texts ++ textsAll rest := rfl

/-- The texts of code, piece by piece. -/
theorem textsAll_append (front back : List Code) :
    textsAll (front ++ back) = textsAll front ++ textsAll back := by
  induction front with
  | nil => rfl
  | cons code rest ih => simp [ih]

/-- The texts of pieces that are made in groups. -/
theorem textsAll_flatMap {α : Type} (items : List α) (f : α → List Code) :
    textsAll (items.flatMap f) = items.flatMap fun item => textsAll (f item) := by
  induction items with
  | nil => rfl
  | cons item rest ih => rw [List.flatMap_cons, textsAll_append, ih, List.flatMap_cons]

/-- Lines that are made one by one are their own texts. -/
theorem textsAll_map_line {α : Type} (items : List α) (f : α → String) :
    textsAll (items.map fun item => .line (f item)) = items.map f := by
  induction items with
  | nil => rfl
  | cons item rest ih => rw [List.map_cons, textsAll_cons, ih, List.map_cons]; rfl

mutual

/-- Without its depths the outline of code is its texts. -/
theorem map_snd_outline (depth : Nat) (code : Code) :
    (outline depth code).map Prod.snd = texts code := by
  match code with
  | line text => rfl
  | blank => rfl
  | doc text => simp [outline, texts, Function.comp_def]
  | attr text => rfl
  | block header body close => simp [outline, texts, map_snd_outlineAll (depth + 1) body]

theorem map_snd_outlineAll (depth : Nat) (code : List Code) :
    (outlineAll depth code).map Prod.snd = textsAll code := by
  match code with
  | [] => rfl
  | piece :: rest =>
      rw [outlineAll, List.map_append, map_snd_outline depth piece,
        map_snd_outlineAll depth rest, textsAll_cons]

end

/-- Indentation is made of spaces. -/
theorem eq_space_of_mem_indentation {depth : Nat} {c : Char} (h : c ∈ (indentation depth).toList) :
    c = ' ' := by
  induction depth with
  | zero => cases h
  | succ depth ih =>
      rw [indentation, List.replicate_succ, String.join_cons, String.toList_append,
        List.mem_append] at h
      rcases h with h | h
      · simpa [indentUnit] using h
      · exact ih h

/-- A line without the blanks at its ends does not show its level. -/
theorem trim_writtenLine (depth : Nat) (text : String) :
    Text.trim (writtenLine depth text) = Text.trim text := by
  unfold writtenLine
  split
  · rfl
  · refine Text.trim_append_of_blank fun c hc => ?_
    rw [eq_space_of_mem_indentation hc]
    decide

/-- Indentation keeps a line one line. -/
theorem isLine_writtenLine {text : String} (h : Text.IsLine text) (depth : Nat) :
    Text.IsLine (writtenLine depth text) := by
  unfold writtenLine
  split
  · exact h
  · next hblank =>
      have hne : text.toList ≠ [] := by
        intro hnil
        simp [Text.allBlank, hnil] at hblank
      exact h.behind (fun hmem => absurd (eq_space_of_mem_indentation hmem) (by decide)) hne

end Code

/-! ## Writers -/

namespace Writer

/-- The writer after it has written some text. -/
def wrote (w : Writer) (text : String) : Writer := { w with text := w.text ++ text }

theorem wrote_empty (w : Writer) : w.wrote "" = w := by simp [wrote]

/-- What is written in two steps can be written in one. -/
theorem wrote_wrote (w : Writer) (a b : String) : (w.wrote a).wrote b = w.wrote (a ++ b) := by
  simp [wrote, String.append_assoc]

/-- After a first action that succeeds the next one starts where it ended. -/
theorem andThen_eq {first next : Action} {w w' : Writer} (h : first w = (w', true)) :
    andThen first next w = next w' := by
  rw [andThen, h]

/-- A writer with room for everything takes a piece of text as it is. -/
theorem put_eq {w : Writer} (hroom : w.room = none) (piece : String) :
    put piece w = (w.wrote piece, true) := by
  rw [put, hroom]
  simp [wrote, hroom]

/-- At the start of a line and with room without limit, an action succeeds and writes these lines,
which depend on the level only. -/
def Writes (action : Action) (texts : Nat → List String) : Prop :=
  ∀ w : Writer, w.room = none → w.atLineStart = true →
    action w = (w.wrote (Text.unlines (texts w.depth)), true)

theorem writes_done : Writes done fun _ => [] := by
  intro w _ _
  rw [Text.unlines_nil, wrote_empty]
  rfl

/-- Two actions in a row write the lines of the one and then those of the other. -/
theorem Writes.andThen {first next : Action} {texts texts' : Nat → List String}
    (hfirst : Writes first texts) (hnext : Writes next texts') :
    Writes (andThen first next) fun depth => texts depth ++ texts' depth := by
  intro w hroom hstart
  rw [andThen_eq (hfirst w hroom hstart), hnext (w.wrote _) hroom hstart, wrote_wrote,
    Text.unlines_append]
  rfl

/-- The indentation is written level by level. -/
theorem putIndent_eq (levels : Nat) {w : Writer} (hroom : w.room = none) :
    putIndent levels w = (w.wrote (Code.indentation levels), true) := by
  induction levels generalizing w with
  | zero => exact congrArg (·, true) w.wrote_empty.symm
  | succ levels ih =>
      have hrest : (w.wrote Code.indentUnit).room = none := hroom
      rw [putIndent, andThen_eq (put_eq hroom _), ih hrest, wrote_wrote, Code.indentation,
        Code.indentation, List.replicate_succ, String.join_cons]

/-- The end of a line is a feed, and the next text starts a line. -/
theorem endLine_eq {w : Writer} (hroom : w.room = none) :
    endLine w = ({ w.wrote "\n" with atLineStart := true }, true) := by
  rw [endLine, andThen_eq (put_eq hroom _)]
  rfl

/-- At the start of a line, its end makes an empty line. -/
theorem writes_endLine : Writes endLine fun _ => [""] := by
  intro w hroom hstart
  rw [endLine_eq hroom, Text.unlines_singleton, String.empty_append, ← hstart]
  rfl

/-- Text at the start of a line is written as the line says; only the end of the line is missing. -/
theorem write_eq {w : Writer} (hroom : w.room = none) (hstart : w.atLineStart = true)
    (text : String) :
    ∃ w', write text w = (w', true) ∧ w'.room = none ∧
      { w' with atLineStart := true } = w.wrote (Code.writtenLine w.depth text) := by
  by_cases hblank : Text.allBlank text = true
  · refine ⟨w.wrote text, ?_, hroom, ?_⟩
    · rw [write]
      split
      · next hempty => rw [String.isEmpty_iff.1 hempty, wrote_empty]
      · rw [if_neg (by simp [hblank]), put_eq hroom]
    · rw [Code.writtenLine, if_pos hblank, ← hstart]
      rfl
  · have hne : text.isEmpty ≠ true := by
      intro hempty
      rw [String.isEmpty_iff.1 hempty] at hblank
      exact hblank rfl
    refine ⟨{ (w.wrote (Code.indentation w.depth)).wrote text with atLineStart := false },
      ?_, hroom, ?_⟩
    · rw [write, if_neg hne, if_pos (by simp [hstart, hblank]),
        andThen_eq (putIndent_eq _ hroom), andThen_eq rfl]
      exact put_eq (by exact hroom) text
    · rw [Code.writtenLine, if_neg hblank, ← hstart, ← wrote_wrote]
      rfl

/-- A text and the end of its line make one line, indented to the depth. -/
theorem writes_writeLine (text : String) :
    Writes (writeLine text) fun depth => [Code.writtenLine depth text] := by
  intro w hroom hstart
  obtain ⟨w', hwrite, hroom', hwrote⟩ := write_eq hroom hstart text
  rw [writeLine, andThen_eq hwrite, endLine_eq hroom', Text.unlines_singleton, ← wrote_wrote,
    ← hwrote]
  rfl

/-- Lines are written one below the other at the same depth. -/
theorem writes_writeLines (texts : List String) :
    Writes (writeLines texts) fun depth => texts.map (Code.writtenLine depth) := by
  induction texts with
  | nil => exact writes_done
  | cons text rest ih => exact (writes_writeLine text).andThen ih

/-- A block writes its body one level deeper, between its first and its last line. -/
theorem Writes.block {body : Action} {texts : Nat → List String} (h : Writes body texts)
    (header close : String) :
    Writes (block header close body) fun depth =>
      [Code.writtenLine depth (Code.opening header)] ++
        (texts (depth + 1) ++ [Code.writtenLine depth close]) := by
  have hdeeper : Writes (deeper body) fun depth => texts (depth + 1) := by
    intro w hroom hstart
    rw [deeper, h w.indent hroom hstart]
    rfl
  exact (writes_writeLine _).andThen (hdeeper.andThen (writes_writeLine _))

end Writer

namespace Code

mutual

/-- **The printer.**  Code is written as its outline says. -/
theorem writes_write (code : Code) :
    Writer.Writes code.write fun depth => printed (outline depth code) := by
  match code with
  | line text => exact Writer.writes_writeLine text
  | blank => exact Writer.writes_endLine
  | doc text =>
      have hlines := Writer.writes_writeLines (docLines text)
      simpa [write, outline, printed, Function.comp_def] using hlines
  | attr text => exact Writer.writes_writeLine _
  | block header body close =>
      have hblock := (writes_writeAll body).block header close
      simpa [write, outline, printed] using hblock

theorem writes_writeAll (code : List Code) :
    Writer.Writes (writeAll code) fun depth => printed (outlineAll depth code) := by
  match code with
  | [] => exact Writer.writes_done
  | piece :: rest =>
      have hboth := (writes_write piece).andThen (writes_writeAll rest)
      simpa [writeAll, outlineAll, printed] using hboth

end

/-- A section is the lines of its outline. -/
theorem sectionText_eq (depth : Nat) (code : List Code) :
    sectionText depth code = Text.unlines (printed (outlineAll depth code)) := by
  rw [sectionText, writes_writeAll code _ rfl rfl]
  exact String.empty_append

/-- The lines of a section, if the texts of its outline are single lines. -/
theorem lines_sectionText {depth : Nat} {code : List Code}
    (h : ∀ entry ∈ outlineAll depth code, Text.IsLine entry.2) :
    Text.lines (sectionText depth code) = printed (outlineAll depth code) := by
  rw [sectionText_eq]
  refine Text.lines_unlines fun text htext => ?_
  obtain ⟨entry, hentry, rfl⟩ := List.mem_map.1 htext
  exact isLine_writtenLine (h entry hentry) _

end Code

end ServiceContract
