import ServiceContract.Code.Layout
import ServiceContract.Proofs.WrittenLines

/-!
# The lines of a file

A file is the lines of its items, with an empty line between any two items.  A section enters a file
without the blanks at its end, so it loses the line feed of its last line and gets it back from the
file: its lines are lines of the file, as they were (`writtenLines_trimEnd`), and they stand there
one after the other (`Item.fileText_around`).
-/

namespace ServiceContract

namespace Text

/-- Reading lines back, with more text behind them. -/
theorem lines_unlines_append {texts : List String} (h : ∀ text ∈ texts, IsLine text)
    (rest : String) : lines (unlines texts ++ rest) = texts ++ lines rest := by
  induction texts with
  | nil => rw [unlines_nil, String.empty_append, List.nil_append]
  | cons text more ih =>
      have htext := h text List.mem_cons_self
      have hchars : (unlines (text :: more) ++ rest).toList =
          text.toList ++ '\n' :: (unlines more ++ rest).toList := by
        simp [unlines]
      rw [lines, hchars, linesFrom_append htext.no_feed, linesFrom, if_pos rfl, List.append_nil,
        withoutReturn_reverse htext.no_return, List.reverse_reverse, List.map_cons,
        String.ofList_toList, List.cons_append]
      exact congrArg _ (ih fun other hother => h other (List.mem_cons_of_mem _ hother))

/-- A text without line feeds is one line. -/
theorem lines_of_no_feed {text : String} (hfeed : '\n' ∉ text.toList) (hne : text.toList ≠ []) :
    lines text = [text] := by
  have hlines := linesFrom_append hfeed [] []
  rw [List.append_nil, List.append_nil] at hlines
  rw [lines, hlines, linesFrom, if_neg (by simpa using hne), List.reverse_reverse, List.map_singleton,
    String.ofList_toList]

/-- Lines with other lines behind them end with line feeds. -/
theorem intercalate_lines_append (texts : List String) {rest : List String} (hrest : rest ≠ []) :
    "\n".intercalate (texts ++ rest) = unlines texts ++ "\n".intercalate rest := by
  induction texts with
  | nil => simp [unlines]
  | cons text more ih =>
      obtain ⟨next, others, hnext⟩ : ∃ next others, more ++ rest = next :: others :=
        List.exists_cons_of_ne_nil (by simp [hrest])
      rw [List.cons_append, hnext, String.intercalate_cons_cons, ← hnext, ih]
      simp [unlines, String.append_assoc]

/-- An indented line is a line. -/
theorem IsLine.indented {text : String} (h : IsLine text) : IsLine ("    " ++ text) := by
  constructor
  · simpa using h.no_feed
  · rw [String.toList_append, List.getLast?_append]
    cases hlast : text.toList.getLast? with
    | none => decide
    | some c =>
        have hreturn := h.no_return
        rwa [hlast] at hreturn

/-- Only the blanks behind the last other character are removed from the end. -/
theorem trimEnd_append {text blanks : String} {last : Char} (hlast : text.toList.getLast? = some last)
    (hsolid : isBlank last = false) (hblank : ∀ c ∈ blanks.toList, isBlank c = true) :
    trimEnd (text ++ blanks) = text := by
  obtain ⟨front, hfront⟩ := List.getLast?_eq_some_iff.1 hlast
  have hreverse : (text ++ blanks).toList.reverse =
      blanks.toList.reverse ++ last :: front.reverse := by
    simp [hfront]
  rw [trimEnd, hreverse, List.dropWhile_append_of_pos (by simpa using hblank),
    List.dropWhile_cons_of_neg (by simp [hsolid])]
  simp [← hfront]

/-- A text is blank if all its parts are. -/
theorem allBlank_append (a b : String) : allBlank (a ++ b) = (allBlank a && allBlank b) := by
  simp [allBlank]

end Text

/-! ## Deeper sections -/

namespace Code

/-- A line one level deeper; blank lines stay. -/
def deeperLine (line : String) : String :=
  if Text.allBlank line then line else indentUnit ++ line

/-- Each level indents by one more unit. -/
theorem indentation_succ (depth : Nat) : indentation (depth + 1) = indentUnit ++ indentation depth := by
  rw [indentation, List.replicate_succ, String.join_cons, indentation]

/-- Indentation is blank. -/
theorem allBlank_indentation (depth : Nat) : Text.allBlank (indentation depth) = true := by
  refine List.all_eq_true.2 fun c hc => ?_
  rw [eq_space_of_mem_indentation hc]
  rfl

/-- A line that is written one level deeper is the line moved by one unit. -/
theorem writtenLine_succ (depth : Nat) (text : String) :
    writtenLine (depth + 1) text = deeperLine (writtenLine depth text) := by
  by_cases hblank : Text.allBlank text = true
  · simp [writtenLine, deeperLine, hblank]
  · simp [writtenLine, deeperLine, hblank, Text.allBlank_append, allBlank_indentation,
      indentation_succ, String.append_assoc]

mutual

/-- The outline of code one level deeper. -/
theorem outline_succ (depth : Nat) (code : Code) :
    outline (depth + 1) code = (outline depth code).map fun entry => (entry.1 + 1, entry.2) := by
  match code with
  | line text => rfl
  | blank => rfl
  | doc text => simp [outline, Function.comp_def]
  | attr text => rfl
  | block header body close => simp [outline, outlineAll_succ (depth + 1) body]

theorem outlineAll_succ (depth : Nat) (code : List Code) :
    outlineAll (depth + 1) code =
      (outlineAll depth code).map fun entry => (entry.1 + 1, entry.2) := by
  match code with
  | [] => rfl
  | piece :: rest =>
      rw [outlineAll, outlineAll, List.map_append, outline_succ depth piece,
        outlineAll_succ depth rest]

end

/-- A section one level deeper has the same lines, each one level deeper. -/
theorem printed_outlineAll_succ (depth : Nat) (code : List Code) :
    printed (outlineAll (depth + 1) code) = (printed (outlineAll depth code)).map deeperLine := by
  rw [outlineAll_succ, printed, printed, List.map_map, List.map_map]
  exact List.map_congr_left fun entry _ => writtenLine_succ entry.1 entry.2

end Code

/-! ## Sections in files -/

open Text (IsLine unlines)

/-- The lines of a section in a file, if its last line does not end with a blank. -/
theorem writtenLines_trimEnd {texts : List String} {last : String} {c : Char}
    (h : ∀ text ∈ texts, IsLine text) (hlast : texts.getLast? = some last)
    (hend : last.toList.getLast? = some c) (hsolid : Text.isBlank c = false) :
    writtenLines (Text.trimEnd (unlines texts)) = texts := by
  obtain ⟨front, rfl⟩ := List.getLast?_eq_some_iff.1 hlast
  have hfront : ∀ text ∈ front, IsLine text := fun text htext =>
    h text (List.mem_append_left _ htext)
  have hfeedless : '\n' ∉ last.toList := (h last (by simp)).no_feed
  have hshape : unlines (front ++ [last]) = unlines front ++ last ++ "\n" := by
    rw [Text.unlines_append, Text.unlines_singleton, String.append_assoc]
  have hends : (unlines front ++ last).toList.getLast? = some c := by
    rw [String.toList_append, List.getLast?_append, hend]
    rfl
  have hfeed : c ≠ '\n' := by
    rintro rfl
    exact absurd hsolid (by decide)
  have hne : last.toList ≠ [] := by
    intro hnil
    rw [hnil] at hend
    cases hend
  rw [hshape, Text.trimEnd_append hends hsolid (by simp [Text.isBlank]), writtenLines, hends]
  dsimp only
  rw [if_neg hfeed, Text.lines_unlines_append hfront, Text.lines_of_no_feed hfeedless hne]

namespace Item

/-- A section whose last line does not end with a blank is an item with the same lines. -/
theorem section?_unlines {texts : List String} {last : String} {c : Char}
    (h : ∀ text ∈ texts, IsLine text) (hlast : texts.getLast? = some last)
    (hend : last.toList.getLast? = some c) (hsolid : Text.isBlank c = false) :
    ∃ item, section? (unlines texts) = some item ∧ item.lines = texts := by
  have hlines := writtenLines_trimEnd h hlast hend hsolid
  refine ⟨raw (Text.trimEnd (unlines texts)), ?_, hlines⟩
  -- An empty text would be one empty line, but the last line is not empty.
  refine if_neg fun hempty => ?_
  rw [String.isEmpty_iff.1 hempty] at hlines
  have hnil : texts = [""] := hlines.symm
  rw [hnil] at hlast
  cases hlast
  cases hend

/-- The lines of several items, with an empty line between any two. -/
def allLines (items : List Item) : List String := List.intercalate [""] (items.map lines)

/-- The text of a file is its lines with feeds between them. -/
theorem fileText_eq (items : List Item) : fileText items = "\n".intercalate (allLines items) := rfl

/-- Behind the first items there is an empty line. -/
theorem allLines_cons_cons (item next : Item) (rest : List Item) :
    allLines (item :: next :: rest) = item.lines ++ [""] ++ allLines (next :: rest) := by
  simp [allLines, List.intercalate_cons_cons]

/-- Between the items in front and those behind there is an empty line. -/
theorem allLines_append {front back : List Item} (hfront : front ≠ []) (hback : back ≠ []) :
    allLines (front ++ back) = allLines front ++ [""] ++ allLines back := by
  induction front with
  | nil => exact absurd rfl hfront
  | cons item rest ih =>
      obtain ⟨next, more, rfl⟩ := List.exists_cons_of_ne_nil hback
      cases rest with
      | nil => simp [allLines, List.intercalate_cons_cons]
      | cons second rest =>
          rw [List.cons_append, List.cons_append, allLines_cons_cons, ← List.cons_append,
            ih (by simp), allLines_cons_cons]
          simp

/-- The lines of an item inside a file stand there one after the other. -/
theorem fileText_around {front back : List Item} {item : Item} (hfront : front ≠ [])
    (hback : back ≠ []) :
    ∃ before after, fileText (front ++ [item] ++ back) =
      before ++ "\n" ++ unlines item.lines ++ after := by
  have hlines : allLines (front ++ [item] ++ back) =
      (allLines front ++ [""]) ++ (item.lines ++ ([""] ++ allLines back)) := by
    rw [allLines_append (by simp) hback, allLines_append hfront (by simp)]
    simp [allLines]
  refine ⟨"\n".intercalate (allLines front ++ [""]), "\n".intercalate ([""] ++ allLines back), ?_⟩
  rw [fileText_eq, hlines, String.intercalate_append_of_ne_nil (by simp) (by simp),
    Text.intercalate_lines_append item.lines (by simp), ← String.append_assoc]

end Item

end ServiceContract
