import Mathlib.Data.List.TakeWhile
import ServiceContract.Proofs.FileLines
import ServiceContract.Proofs.OneLineNames

/-!
# Writers are plain printers

A writer is driven by calls that may be nested in each other.  They share its level of indentation
and the mark that it stands at the start of a line, and change both on their way.  A body may give
up in the middle of a block, and whoever opened the block may go on writing.  A `Script` is any
finite nesting of such calls.

A plain printer has no state.  `Script.print` is told a depth and gives whole lines, and whether it
came to the end.

* `Writer.closed_keepsLevel`: the level after a call is the level before it, whatever fails.
* `Writer.closed_sameWithin`: a sink with enough room is as good as one without a limit.
* `Script.prints_run`: at the start of a line, a writer writes what the plain printer gives.
* `Script.print_add`: printing deeper puts blanks before the lines that are not blank.

The main statement, `Script.plainly_printed`, puts them together.
-/

namespace ServiceContract

/-! ## Scripts -/

/-- A call on a writer. -/
inductive Script
  | line (text : String)
  | blank
  /-- Documentation of what follows. -/
  | doc (text : String)
  | attr (text : String)
  | block (header : String) (body : List Script) (close : String)
  /-- Give up, as a body does that meets an error of its own. -/
  | fail
  /-- Make some calls, and then other ones, which depend on whether the first succeeded. -/
  | branch (calls success failure : List Script)
  deriving Repr

namespace Writer

/-- The action that only fails. -/
def failed : Action := fun w => (w, false)

/-- One action, and then another one, which depends on whether the first succeeded. -/
def branch (first success failure : Action) : Action := fun w =>
  match first w with
  | (w', true) => success w'
  | (w', false) => failure w'

end Writer

namespace Script

mutual

/-- Make a call. -/
def run : Script → Writer.Action
  | line text => Writer.writeLine text
  | blank => Writer.endLine
  | doc text => Writer.writeLines (Code.docLines text)
  | attr text => Writer.writeLine (Code.attributeLine text)
  | block header body close => Writer.block header close (runAll body)
  | fail => Writer.failed
  | branch calls success failure =>
    Writer.branch (runAll calls) (runAll success) (runAll failure)

/-- Make calls until one fails. -/
def runAll : List Script → Writer.Action
  | [] => Writer.done
  | call :: rest => Writer.andThen (run call) (runAll rest)

end

/-- The text of calls that start at a level of indentation, unless they fail. -/
def sectionText? (depth : Nat) (calls : List Script) : Option String :=
  match runAll calls { depth := depth } with
  | (w, true) => some w.text
  | (_, false) => none

mutual

/-- The texts that are handed to a call, other than documentation. -/
def texts : Script → List String
  | line text => [text]
  | blank => []
  | doc _ => []
  | attr text => [text]
  | block header body close => header :: textsAll body ++ [close]
  | fail => []
  | branch calls success failure => textsAll calls ++ textsAll success ++ textsAll failure

/-- The texts that are handed to calls, other than documentation. -/
def textsAll : List Script → List String
  | [] => []
  | call :: rest => texts call ++ textsAll rest

end

end Script

namespace Code

mutual

/-- Code as a call, which fails only if the sink is full. -/
def script : Code → Script
  | line text => .line text
  | blank => .blank
  | doc text => .doc text
  | attr text => .attr text
  | block header body close => .block header (scriptAll body) close

/-- Pieces of code as calls. -/
def scriptAll : List Code → List Script
  | [] => []
  | code :: rest => script code :: scriptAll rest

end

mutual

/-- Making the call that code stands for is writing the code. -/
theorem run_script (code : Code) : code.script.run = code.write := by
  match code with
  | line text => rfl
  | blank => rfl
  | doc text => rfl
  | attr text => rfl
  | block header body close =>
      rw [script, Script.run, write, runAll_scriptAll body]

theorem runAll_scriptAll (code : List Code) : Script.runAll (scriptAll code) = writeAll code := by
  match code with
  | [] => rfl
  | piece :: rest =>
      rw [scriptAll, Script.runAll, writeAll, run_script piece, runAll_scriptAll rest]

end

end Code

/-! ## The plain printer -/

/-- So many blanks. -/
def Text.spaces (width : Nat) : String := String.ofList (List.replicate width ' ')

/-- A line behind so many blanks, unless it is blank itself. -/
def Text.shiftLine (width : Nat) (line : String) : String :=
  if allBlank line then line else spaces width ++ line

/-- A text with each line that is not blank behind so many blanks. -/
def Text.shift (width : Nat) (text : String) : String :=
  "\n".intercalate ((feedLines text).map (shiftLine width))

/-- Lines on paper, and whether printing came to its end. -/
structure Printout where
  lines : List String
  complete : Bool
  deriving DecidableEq, Repr

namespace Printout

/-- The text of a printout. -/
def text (printout : Printout) : String := Text.unlines printout.lines

/-- One printout, and another one behind it, which depends on whether the first is complete. -/
def branch (first success failure : Printout) : Printout :=
  let next := if first.complete then success else failure
  ⟨first.lines ++ next.lines, next.complete⟩

/-- One printout, and if it is complete another one behind it. -/
def andThen (first next : Printout) : Printout := first.branch next ⟨[], false⟩

/-- A printout with each line changed. -/
def mapLines (f : String → String) (printout : Printout) : Printout :=
  ⟨printout.lines.map f, printout.complete⟩

end Printout

namespace Script

/-- A line at a depth, four blanks for each level. -/
def plainLine (depth : Nat) (line : String) : String := Text.shiftLine (4 * depth) line

/-- A line of documentation, without the blanks at its end. -/
def plainDoc (line : String) : String := "///" ++ Text.trimEnd (" " ++ line)

mutual

/-- Print a call at a depth. -/
def print (depth : Nat) : Script → Printout
  | line text => ⟨[plainLine depth text], true⟩
  | blank => ⟨[""], true⟩
  | doc text => ⟨(Text.lines text).map fun line => plainLine depth (plainDoc line), true⟩
  | attr text => ⟨[plainLine depth ("#[" ++ text ++ "]")], true⟩
  | block header body close =>
    Printout.andThen ⟨[plainLine depth (Code.opening header)], true⟩
      ((printAll (depth + 1) body).andThen ⟨[plainLine depth close], true⟩)
  | fail => ⟨[], false⟩
  | branch calls success failure =>
    (printAll depth calls).branch (printAll depth success) (printAll depth failure)

/-- Print calls at a depth until one fails. -/
def printAll (depth : Nat) : List Script → Printout
  | [] => ⟨[], true⟩
  | call :: rest => (print depth call).andThen (printAll depth rest)

end

end Script

/-! ## Levels -/

namespace Writer

/-- Which action comes second depends on the result of the first one, and it goes on from where that
one left the writer. -/
theorem branch_eq_ite (first success failure : Action) (w : Writer) :
    branch first success failure w =
      (if (first w).2 = true then success else failure) (first w).1 := by
  rw [branch]
  cases first w with
  | mk w' ok => cases ok <;> rfl

/-- To stop at the first failure is to have nothing to do after one. -/
theorem andThen_eq_branch (first next : Action) :
    andThen first next = branch first next failed := by
  funext w
  rw [andThen, branch]
  cases first w with
  | mk w' ok => cases ok <;> rfl

/-- What holds of all actions that scripts are made of. -/
structure Closed (P : Action → Prop) : Prop where
  done : P done
  failed : P failed
  put : ∀ piece, P (put piece)
  setLineStart : ∀ atLineStart, P (setLineStart atLineStart)
  write : ∀ text, P (write text)
  branch : ∀ first success failure, P first → P success → P failure →
    P (branch first success failure)
  deeper : ∀ body, P body → P (deeper body)

namespace Closed

variable {P : Action → Prop} (h : Closed P)
include h

/-- Two actions in a row stop after the first one if it fails. -/
theorem andThen {first next : Action} (hfirst : P first) (hnext : P next) :
    P (andThen first next) := by
  rw [andThen_eq_branch]
  exact h.branch _ _ _ hfirst hnext h.failed

theorem endLine : P endLine := h.andThen (h.put "\n") (h.setLineStart true)

theorem writeLine (text : String) : P (writeLine text) := h.andThen (h.write text) h.endLine

/-- The induction over the lines of a documentation. -/
theorem writeLines (lines : List String) : P (writeLines lines) := by
  induction lines with
  | nil => exact h.done
  | cons line rest ih => exact h.andThen (h.writeLine line) ih

/-- A block is a line, a body one level deeper, and another line. -/
theorem block (header close : String) {body : Action} (hbody : P body) :
    P (block header close body) :=
  h.andThen (h.writeLine _) (h.andThen (h.deeper body hbody) (h.writeLine close))

mutual

/-- **What all actions share, all calls share.**  The induction over the nesting of calls, one case
for each kind of call. -/
theorem run (call : Script) : P call.run := by
  match call with
  | .line text => exact h.writeLine text
  | .blank => exact h.endLine
  | .doc text => exact h.writeLines _
  | .attr text => exact h.writeLine _
  | .block header body close => exact h.block header close (runAll body)
  | .fail => exact h.failed
  | .branch calls success failure =>
      exact h.branch _ _ _ (runAll calls) (runAll success) (runAll failure)

theorem runAll (calls : List Script) : P (Script.runAll calls) := by
  match calls with
  | [] => exact h.done
  | call :: rest => exact h.andThen (run call) (runAll rest)

end

end Closed

/-- The level after an action is the level before it. -/
def KeepsLevel (action : Action) : Prop := ∀ w : Writer, (action w).1.depth = w.depth

/-- The level is no part of the sink, so it is kept also when the sink is full. -/
theorem keepsLevel_put (piece : String) : KeepsLevel (put piece) := by
  intro w
  unfold put
  split
  · rfl
  · split <;> rfl

/-- Whichever way is taken, the level is that of the start. -/
theorem KeepsLevel.branch {first success failure : Action} (hfirst : KeepsLevel first)
    (hsuccess : KeepsLevel success) (hfailure : KeepsLevel failure) :
    KeepsLevel (branch first success failure) := by
  intro w
  rw [branch_eq_ite]
  split
  · rw [hsuccess, hfirst]
  · rw [hfailure, hfirst]

theorem KeepsLevel.andThen {first next : Action} (hfirst : KeepsLevel first)
    (hnext : KeepsLevel next) : KeepsLevel (andThen first next) := by
  rw [andThen_eq_branch]
  exact hfirst.branch hnext fun _ => rfl

theorem keepsLevel_putIndent (levels : Nat) : KeepsLevel (putIndent levels) := by
  induction levels with
  | zero => exact fun _ => rfl
  | succ levels ih => exact (keepsLevel_put _).andThen ih

/-- A text may be written behind blanks or as it is; neither changes the level. -/
theorem keepsLevel_write (text : String) : KeepsLevel (write text) := by
  intro w
  have hindented : KeepsLevel (Writer.andThen (putIndent w.depth)
      (Writer.andThen (setLineStart false) (put text))) :=
    (keepsLevel_putIndent _).andThen
      (KeepsLevel.andThen (fun _ => rfl) (keepsLevel_put text))
  unfold write
  split
  · rfl
  · split
    · exact hindented w
    · exact keepsLevel_put text w

/-- The level that a body is written at is given up also when the body fails. -/
theorem KeepsLevel.deeper {body : Action} (h : KeepsLevel body) : KeepsLevel (deeper body) := by
  intro w
  have hlevel : (body w.indent).1.depth = w.depth + 1 := h w.indent
  change (body w.indent).1.depth - 1 = w.depth
  omega

/-- Every call gives back the level it was made at, whatever fails in it. -/
theorem closed_keepsLevel : Closed KeepsLevel where
  done := fun _ => rfl
  failed := fun _ => rfl
  put := keepsLevel_put
  setLineStart := fun _ _ => rfl
  write := keepsLevel_write
  branch := fun _ _ _ hfirst hsuccess hfailure => hfirst.branch hsuccess hfailure
  deeper := fun _ hbody => hbody.deeper

/-! ## Room -/

/-- The sink has room for a text. -/
def Takes (w : Writer) (text : String) : Prop := ∀ room ∈ w.room, text.utf8ByteSize ≤ room

/-- The writer after its sink has taken a text. -/
def took (w : Writer) (text : String) : Writer :=
  { w with text := w.text ++ text, room := w.room.map (· - text.utf8ByteSize) }

/-- The writer with a sink that takes so many bytes. -/
def within (room : Nat) (w : Writer) : Writer := { w with room := some room }

/-- A sink with room for what an action writes into one without a limit makes no difference, but
for the room that is used up. -/
def SameWithin (action : Action) : Prop :=
  ∀ w : Writer, w.room = none → ∃ text,
    (action w).1.text = w.text ++ text ∧ (action w).1.room = none ∧
    ∀ room, text.utf8ByteSize ≤ room →
      action (w.within room) =
        ((action w).1.within (room - text.utf8ByteSize), (action w).2)

/-- An action that writes nothing and takes no notice of the sink. -/
theorem sameWithin_of_silent {action : Action} (htext : ∀ w, (action w).1.text = w.text)
    (hroom : ∀ w, (action w).1.room = w.room)
    (hsame : ∀ w room, action (within room w) = ((action w).1.within room, (action w).2)) :
    SameWithin action := by
  intro w hnone
  refine ⟨"", ?_, ?_, ?_⟩
  · rw [htext, String.append_empty]
  · rw [hroom, hnone]
  · intro room _
    exact hsame w room

/-- A piece that fits is taken by a sink with a limit as by one without. -/
theorem sameWithin_put (piece : String) : SameWithin (put piece) := by
  intro w hnone
  rw [put_eq hnone]
  refine ⟨piece, rfl, hnone, ?_⟩
  intro room hfits
  change (if piece.utf8ByteSize ≤ room then _ else _) = _
  rw [if_pos hfits]
  rfl

/-- The text of two actions is the text of the one and then that of the other, and so is the room
they need. -/
theorem SameWithin.branch {first success failure : Action} (hfirst : SameWithin first)
    (hsuccess : SameWithin success) (hfailure : SameWithin failure) :
    SameWithin (branch first success failure) := by
  intro w hnone
  obtain ⟨text, htext, hroom, hsame⟩ := hfirst w hnone
  have hnext : SameWithin (if (first w).2 = true then success else failure) := by
    split
    · exact hsuccess
    · exact hfailure
  obtain ⟨more, hmore, hroom', hsame'⟩ := hnext (first w).1 hroom
  rw [branch_eq_ite]
  refine ⟨text ++ more, ?_, hroom', ?_⟩
  · rw [hmore, htext, String.append_assoc]
  · intro room hfits
    rw [String.utf8ByteSize_append] at hfits
    rw [branch_eq_ite, hsame room (by omega), hsame' _ (by omega), String.utf8ByteSize_append,
      Nat.sub_sub]

theorem sameWithin_failed : SameWithin failed :=
  sameWithin_of_silent (fun _ => rfl) (fun _ => rfl) fun _ _ => rfl

theorem SameWithin.andThen {first next : Action} (hfirst : SameWithin first)
    (hnext : SameWithin next) : SameWithin (andThen first next) := by
  rw [andThen_eq_branch]
  exact hfirst.branch hnext sameWithin_failed

theorem sameWithin_done : SameWithin done :=
  sameWithin_of_silent (fun _ => rfl) (fun _ => rfl) fun _ _ => rfl

theorem sameWithin_setLineStart (atLineStart : Bool) : SameWithin (setLineStart atLineStart) :=
  sameWithin_of_silent (fun _ => rfl) (fun _ => rfl) fun _ _ => rfl

theorem sameWithin_putIndent (levels : Nat) : SameWithin (putIndent levels) := by
  induction levels with
  | zero => exact sameWithin_done
  | succ levels ih => exact (sameWithin_put _).andThen ih

/-- A text is written the same way into either sink. -/
theorem sameWithin_write (text : String) : SameWithin (write text) := by
  intro w hnone
  -- Which way the text is written depends on neither the sink nor what was written before.
  have hways : (∃ action, SameWithin action ∧ write text w = action w ∧
      ∀ room, write text (w.within room) = action (w.within room)) := by
    by_cases hempty : text.isEmpty = true
    · exact ⟨done, sameWithin_done, if_pos hempty, fun _ => if_pos hempty⟩
    · by_cases hindent : (w.atLineStart && !Text.allBlank text) = true
      · refine ⟨_, (sameWithin_putIndent w.depth).andThen
          ((sameWithin_setLineStart false).andThen (sameWithin_put text)), ?_, fun room => ?_⟩
        · exact (if_neg hempty).trans (if_pos hindent)
        · exact (if_neg hempty).trans (if_pos hindent)
      · refine ⟨_, sameWithin_put text, ?_, fun room => ?_⟩
        · exact (if_neg hempty).trans (if_neg hindent)
        · exact (if_neg hempty).trans (if_neg hindent)
  obtain ⟨action, hsame, hw, hwithin⟩ := hways
  simpa only [hw, hwithin] using hsame w hnone

/-- The room for a body does not depend on its level. -/
theorem SameWithin.deeper {body : Action} (h : SameWithin body) : SameWithin (deeper body) := by
  intro w hnone
  obtain ⟨text, htext, hroom, hsame⟩ := h w.indent hnone
  refine ⟨text, htext, hroom, ?_⟩
  intro room hfits
  have hbody : body (w.within room).indent = _ := hsame room hfits
  rw [Writer.deeper, hbody]
  rfl

/-- No call takes notice of the limit of a sink that has enough room. -/
theorem closed_sameWithin : Closed SameWithin where
  done := sameWithin_done
  failed := sameWithin_failed
  put := sameWithin_put
  setLineStart := sameWithin_setLineStart
  write := sameWithin_write
  branch := fun _ _ _ hfirst hsuccess hfailure => hfirst.branch hsuccess hfailure
  deeper := fun _ hbody => hbody.deeper

end Writer

/-! ## Lines -/

namespace Text

/-- Blanks stand behind blanks. -/
theorem spaces_add (m n : Nat) : spaces (m + n) = spaces m ++ spaces n := by
  rw [spaces, List.replicate_add, String.ofList_append, spaces, spaces]

theorem eq_space_of_mem_spaces {width : Nat} {c : Char} (h : c ∈ (spaces width).toList) :
    c = ' ' := by
  rw [spaces, String.toList_ofList] at h
  exact List.eq_of_mem_replicate h

theorem allBlank_spaces (width : Nat) : allBlank (spaces width) = true := by
  refine List.all_eq_true.2 fun c hc => ?_
  rw [eq_space_of_mem_spaces hc]
  rfl

/-- Shifting twice is shifting once by the sum; blank lines stay where they are both times. -/
theorem shiftLine_shiftLine (m n : Nat) (line : String) :
    shiftLine m (shiftLine n line) = shiftLine (m + n) line := by
  by_cases hblank : allBlank line = true
  · simp [shiftLine, hblank]
  · simp [shiftLine, hblank, allBlank_append, allBlank_spaces, spaces_add, String.append_assoc]

/-- Blanks before a line do not break it. -/
theorem oneLine_shiftLine {line : String} (h : OneLine line) (width : Nat) :
    OneLine (shiftLine width line) := by
  have hspaces : OneLine (spaces width) := by
    intro c hc
    rw [eq_space_of_mem_spaces hc]
    decide
  unfold shiftLine
  split
  · exact h
  · exact hspaces.append h

/-- The blank before a line is kept only if the line is not blank. -/
theorem trimEnd_space_append (line : String) :
    trimEnd (" " ++ line) = if allBlank line then "" else " " ++ trimEnd line := by
  have hnil : (line.toList.reverse.dropWhile isBlank).isEmpty = allBlank line := by
    rw [Bool.eq_iff_iff, List.isEmpty_iff, List.dropWhile_eq_nil_iff, allBlank, List.all_eq_true]
    simp
  have hchars : (" " ++ line).toList.reverse = line.toList.reverse ++ [' '] := by simp
  rw [trimEnd, hchars, List.dropWhile_append, hnil]
  split
  · rfl
  · rw [List.reverse_append, String.ofList_append]
    rfl

/-- A line feed behind each line is a line feed between lines of which the last one is empty. -/
theorem unlines_eq_intercalate (lines : List String) :
    unlines lines = "\n".intercalate (lines ++ [""]) := by
  rw [intercalate_lines_append lines (by simp)]
  simp

/-- A text that is made of lines is cut into them, and nothing is left behind the last one. -/
theorem feedLines_unlines {lines : List String} (h : ∀ line ∈ lines, OneLine line) :
    feedLines (unlines lines) = lines ++ [""] := by
  rw [unlines_eq_intercalate]
  refine feedLines_intercalate (by simp) fun line hline => ?_
  rcases List.mem_append.1 hline with hline | hline
  · exact h line hline
  · rw [List.mem_singleton.1 hline]
    exact madeOf_empty

/-- A text that is made of lines is shifted line by line. -/
theorem shift_unlines {lines : List String} (h : ∀ line ∈ lines, OneLine line) (width : Nat) :
    shift width (unlines lines) = unlines (lines.map (shiftLine width)) := by
  rw [shift, feedLines_unlines h, List.map_append, unlines_eq_intercalate]
  rfl

end Text

namespace Code

/-- Four blanks for each level. -/
theorem indentation_eq_spaces (depth : Nat) : indentation depth = Text.spaces (4 * depth) := by
  induction depth with
  | zero => rfl
  | succ depth ih =>
      rw [indentation_succ, ih, show 4 * (depth + 1) = 4 + 4 * depth by omega, Text.spaces_add]
      rfl

/-- The line that a writer writes is the line of the plain printer. -/
theorem writtenLine_eq_plainLine (depth : Nat) (text : String) :
    writtenLine depth text = Script.plainLine depth text := by
  rw [writtenLine, Script.plainLine, Text.shiftLine, indentation_eq_spaces]

/-- Each line of a documentation becomes one line.  An empty one gets no blank behind its slashes,
which is what trimming the end gives. -/
theorem docLines_eq_map (text : String) :
    docLines text = (Text.lines text).map Script.plainDoc := by
  refine List.map_congr_left fun line _ => ?_
  rw [Script.plainDoc, Text.trimEnd_space_append]
  split
  · rfl
  · rw [← String.append_assoc]
    rfl

end Code

/-! ## Printing -/

namespace Writer

/-- At the start of a line and with room without limit, an action writes what is printed, and
succeeds if the printout is complete.  Both depend on the level only. -/
def Prints (action : Action) (printout : Nat → Printout) : Prop :=
  ∀ w : Writer, w.room = none → w.atLineStart = true →
    action w = (w.wrote (printout w.depth).text, (printout w.depth).complete)

/-- An action that never fails prints complete lines. -/
theorem Writes.prints {action : Action} {texts : Nat → List String} (h : Writes action texts) :
    Prints action fun depth => ⟨texts depth, true⟩ := h

/-- Giving up prints nothing. -/
theorem prints_failed : Prints failed fun _ => ⟨[], false⟩ := by
  intro w _ _
  exact congrArg (·, false) w.wrote_empty.symm

/-- The second printout stands behind the first one, complete or not. -/
theorem Prints.branch {first success failure : Action} {p q r : Nat → Printout}
    (hfirst : Prints first p) (hsuccess : Prints success q) (hfailure : Prints failure r) :
    Prints (branch first success failure) fun depth => (p depth).branch (q depth) (r depth) := by
  intro w hroom hstart
  have htext : ∀ next : Printout, (w.wrote (p w.depth).text).wrote next.text =
      w.wrote (Printout.text ⟨(p w.depth).lines ++ next.lines, next.complete⟩) := by
    intro next
    rw [wrote_wrote, Printout.text, Printout.text, ← Text.unlines_append]
    rfl
  rw [branch_eq_ite, hfirst w hroom hstart]
  cases hcomplete : (p w.depth).complete with
  | true =>
      rw [if_pos rfl, hsuccess (w.wrote _) hroom hstart, htext]
      simp only [Printout.branch, hcomplete, if_true]
      rfl
  | false =>
      rw [if_neg Bool.false_ne_true, hfailure (w.wrote _) hroom hstart, htext]
      simp only [Printout.branch, hcomplete, Bool.false_eq_true, if_false]
      rfl

/-- Nothing is printed behind a printout that is not complete. -/
theorem Prints.andThen {first next : Action} {p q : Nat → Printout} (hfirst : Prints first p)
    (hnext : Prints next q) :
    Prints (andThen first next) fun depth => (p depth).andThen (q depth) := by
  rw [andThen_eq_branch]
  exact hfirst.branch hnext prints_failed

/-- A body is printed one level deeper. -/
theorem Prints.deeper {body : Action} {p : Nat → Printout} (h : Prints body p) :
    Prints (deeper body) fun depth => p (depth + 1) := by
  intro w hroom hstart
  rw [Writer.deeper, h w.indent hroom hstart]
  rfl

/-- A line is printed at the level of the writer. -/
theorem prints_writeLine (text : String) :
    Prints (writeLine text) fun depth => ⟨[Script.plainLine depth text], true⟩ := by
  have hline := (writes_writeLine text).prints
  simpa only [Code.writtenLine_eq_plainLine] using hline

/-- Documentation is printed line by line. -/
theorem prints_doc (text : String) : Prints (writeLines (Code.docLines text)) fun depth =>
    ⟨(Text.lines text).map fun line => Script.plainLine depth (Script.plainDoc line), true⟩ := by
  have hlines := (writes_writeLines (Code.docLines text)).prints
  simpa only [Code.docLines_eq_map, List.map_map, Function.comp_def,
    Code.writtenLine_eq_plainLine] using hlines

end Writer

namespace Script

mutual

/-- **Printing.**  At the start of a line, a writer writes what the plain printer gives. -/
theorem prints_run (call : Script) : Writer.Prints call.run fun depth => print depth call := by
  match call with
  | line text => exact Writer.prints_writeLine text
  | blank => exact Writer.writes_endLine.prints
  | doc text => exact Writer.prints_doc text
  | attr text => exact Writer.prints_writeLine _
  | block header body close =>
      exact (Writer.prints_writeLine _).andThen
        ((prints_runAll body).deeper.andThen (Writer.prints_writeLine close))
  | fail => exact Writer.prints_failed
  | branch calls success failure =>
      exact (prints_runAll calls).branch (prints_runAll success) (prints_runAll failure)

theorem prints_runAll (calls : List Script) :
    Writer.Prints (runAll calls) fun depth => printAll depth calls := by
  match calls with
  | [] => exact Writer.writes_done.prints
  | call :: rest => exact (prints_run call).andThen (prints_runAll rest)

end

/-- Writing into a sink that has room for the printout. -/
theorem runAll_eq (calls : List Script) {w : Writer} (hstart : w.atLineStart = true)
    (hfits : w.Takes (printAll w.depth calls).text) :
    runAll calls w =
      (w.took (printAll w.depth calls).text, (printAll w.depth calls).complete) := by
  cases hroom : w.room with
  | none =>
      rw [prints_runAll calls w hroom hstart, Writer.took, hroom, Writer.wrote, hroom]
      rfl
  | some room =>
      obtain ⟨free, hfree, rfl⟩ : ∃ free : Writer, free.room = none ∧ w = free.within room :=
        ⟨{ w with room := none }, rfl, by rw [Writer.within, ← hroom]⟩
      obtain ⟨text, htext, -, hsame⟩ := Writer.closed_sameWithin.runAll calls free hfree
      rw [prints_runAll calls free hfree hstart] at htext hsame
      obtain rfl : (printAll free.depth calls).text = text :=
        (String.append_right_inj free.text).1 htext
      exact hsame room (hfits room rfl)

end Script

/-! ## Sections -/

namespace Printout

/-- Changing the lines of two printouts changes neither which one comes second nor whether it is
complete. -/
theorem mapLines_branch (f : String → String) (first success failure : Printout) :
    (first.branch success failure).mapLines f =
      (first.mapLines f).branch (success.mapLines f) (failure.mapLines f) := by
  cases hcomplete : first.complete <;> simp [branch, mapLines, hcomplete]

/-- What holds of all lines of the parts holds of all lines. -/
theorem forall_mem_branch {P : String → Prop} {first success failure : Printout}
    (hfirst : ∀ line ∈ first.lines, P line) (hsuccess : ∀ line ∈ success.lines, P line)
    (hfailure : ∀ line ∈ failure.lines, P line) :
    ∀ line ∈ (first.branch success failure).lines, P line := by
  intro line hline
  rcases List.mem_append.1 hline with hline | hline
  · exact hfirst line hline
  · split at hline
    · exact hsuccess line hline
    · exact hfailure line hline

theorem forall_mem_andThen {P : String → Prop} {first next : Printout}
    (hfirst : ∀ line ∈ first.lines, P line) (hnext : ∀ line ∈ next.lines, P line) :
    ∀ line ∈ (first.andThen next).lines, P line :=
  forall_mem_branch hfirst hnext fun line hline => by cases hline

end Printout

namespace Script

open Text (OneLine)

/-- Levels add up. -/
theorem plainLine_add (k depth : Nat) (line : String) :
    plainLine (k + depth) line = plainLine k (plainLine depth line) := by
  rw [plainLine, plainLine, plainLine, Text.shiftLine_shiftLine, Nat.mul_add]

mutual

/-- Printing deeper puts blanks before the lines that are not blank. -/
theorem print_add (k depth : Nat) (call : Script) :
    print (k + depth) call = (print depth call).mapLines (plainLine k) := by
  match call with
  | line text => simp [print, Printout.mapLines, plainLine_add]
  | blank => rfl
  | doc text => simp [print, Printout.mapLines, plainLine_add]
  | attr text => simp [print, Printout.mapLines, plainLine_add]
  | block header body close =>
      have hbody : printAll (k + depth + 1) body =
          (printAll (depth + 1) body).mapLines (plainLine k) := printAll_add k (depth + 1) body
      simp only [print, Printout.andThen, hbody, Printout.mapLines_branch]
      simp [Printout.mapLines, plainLine_add]
  | fail => rfl
  | branch calls success failure =>
      simp only [print, printAll_add k depth, Printout.mapLines_branch]

theorem printAll_add (k depth : Nat) (calls : List Script) :
    printAll (k + depth) calls = (printAll depth calls).mapLines (plainLine k) := by
  match calls with
  | [] => rfl
  | call :: rest =>
      simp only [printAll, Printout.andThen, print_add k depth call, printAll_add k depth rest,
        Printout.mapLines_branch]
      rfl

end

theorem oneLine_plainLine {line : String} (h : OneLine line) (depth : Nat) :
    OneLine (plainLine depth line) :=
  Text.oneLine_shiftLine h _

/-- A line of a documentation stays one line behind its slashes. -/
theorem oneLine_plainDoc {line : String} (h : OneLine line) : OneLine (plainDoc line) :=
  (Text.oneLine_ofList (by decide)).append
    (oneLine_trimEnd ((Text.oneLine_ofList (by decide)).append h))

/-- A header stays one line with its brace. -/
theorem oneLine_opening {header : String} (h : OneLine header) : OneLine (Code.opening header) := by
  unfold Code.opening
  split
  · exact Text.oneLine_ofList (by decide)
  · exact h.append (Text.oneLine_ofList (by decide))

mutual

/-- Every line that is printed is one line, if every text is. -/
theorem oneLine_print {call : Script} (h : ∀ text ∈ call.texts, OneLine text) (depth : Nat) :
    ∀ line ∈ (print depth call).lines, OneLine line := by
  match call with
  | line text =>
      intro line hline
      rw [List.mem_singleton.1 hline]
      exact oneLine_plainLine (h text List.mem_cons_self) depth
  | blank =>
      intro line hline
      rw [List.mem_singleton.1 hline]
      exact Text.madeOf_empty
  | doc text =>
      intro line hline
      obtain ⟨source, hsource, rfl⟩ := List.mem_map.1 hline
      exact oneLine_plainLine (oneLine_plainDoc (oneLine_of_mem_lines hsource)) depth
  | attr text =>
      intro line hline
      rw [List.mem_singleton.1 hline]
      exact oneLine_plainLine (((Text.oneLine_ofList (by decide)).append
        (h text List.mem_cons_self)).append (Text.oneLine_ofList (by decide))) depth
  | block header body close =>
      have hbody : ∀ text ∈ textsAll body, OneLine text := fun text htext =>
        h text (List.mem_cons_of_mem _ (List.mem_append_left _ htext))
      refine Printout.forall_mem_andThen ?_ (Printout.forall_mem_andThen
        (oneLine_printAll hbody (depth + 1)) ?_)
      · intro line hline
        rw [List.mem_singleton.1 hline]
        exact oneLine_plainLine (oneLine_opening (h header List.mem_cons_self)) depth
      · intro line hline
        rw [List.mem_singleton.1 hline]
        exact oneLine_plainLine (h close (by simp [texts])) depth
  | fail => exact fun line hline => by cases hline
  | branch calls success failure =>
      have hcalls : ∀ text ∈ textsAll calls, OneLine text := fun text htext =>
        h text (List.mem_append_left _ (List.mem_append_left _ htext))
      have hsuccess : ∀ text ∈ textsAll success, OneLine text := fun text htext =>
        h text (List.mem_append_left _ (List.mem_append_right _ htext))
      have hfailure : ∀ text ∈ textsAll failure, OneLine text := fun text htext =>
        h text (List.mem_append_right _ htext)
      exact Printout.forall_mem_branch (oneLine_printAll hcalls depth)
        (oneLine_printAll hsuccess depth) (oneLine_printAll hfailure depth)

theorem oneLine_printAll {calls : List Script} (h : ∀ text ∈ textsAll calls, OneLine text)
    (depth : Nat) : ∀ line ∈ (printAll depth calls).lines, OneLine line := by
  match calls with
  | [] => exact fun line hline => by cases hline
  | call :: rest =>
      exact Printout.forall_mem_andThen
        (oneLine_print (fun text htext => h text (List.mem_append_left _ htext)) depth)
        (oneLine_printAll (fun text htext => h text (List.mem_append_right _ htext)) depth)

end

/-- A section is the text of a printout, if that is complete. -/
theorem sectionText?_eq (depth : Nat) (calls : List Script) :
    sectionText? depth calls =
      if (printAll depth calls).complete then some (printAll depth calls).text else none := by
  rw [sectionText?, prints_runAll calls _ rfl rfl]
  cases (printAll depth calls).complete with
  | true => exact congrArg some String.empty_append
  | false => rfl

/-- A section that starts deeper is the same section with its lines behind blanks. -/
theorem sectionText?_shift {calls : List Script} (h : ∀ text ∈ textsAll calls, OneLine text)
    (depth : Nat) :
    sectionText? depth calls = (sectionText? 0 calls).map (Text.shift (4 * depth)) := by
  have hadd : printAll depth calls = (printAll 0 calls).mapLines (plainLine depth) :=
    printAll_add depth 0 calls
  have hshift : Text.shift (4 * depth) (printAll 0 calls).text = (printAll depth calls).text := by
    rw [Printout.text, Text.shift_unlines (oneLine_printAll h 0), hadd]
    rfl
  have hcomplete : (printAll depth calls).complete = (printAll 0 calls).complete := by
    rw [hadd]
    rfl
  rw [sectionText?_eq, sectionText?_eq, hcomplete, ← hshift]
  split <;> rfl

/-- A section of code, as a section of calls. -/
theorem sectionText?_scriptAll (depth : Nat) (code : List Code) :
    sectionText? depth (Code.scriptAll code) = some (Code.sectionText depth code) := by
  rw [sectionText?, Code.sectionText, Code.runAll_scriptAll, Code.writes_writeAll code _ rfl rfl]

/-- What a writer does with calls is what the plain printer says. -/
structure Plain (calls : List Script) : Prop where
  /-- At the start of a line, and with a sink that has room for it, the writer writes the printout.
  It succeeds if the printout is complete, and nothing but the text and the room changes. -/
  written : ∀ w : Writer, w.atLineStart = true → w.Takes (printAll w.depth calls).text →
    runAll calls w = (w.took (printAll w.depth calls).text, (printAll w.depth calls).complete)
  /-- The text of the printout has its lines, each with a line feed behind it, and no others. -/
  lines : ∀ depth, feedLines (printAll depth calls).text = (printAll depth calls).lines ++ [""]
  /-- In any state and with any sink, whether they fail or not, the level comes back. -/
  level : ∀ w : Writer, (runAll calls w).1.depth = w.depth
  /-- A section that starts deeper has blanks before each line that is not blank. -/
  shifted : ∀ depth, sectionText? depth calls = (sectionText? 0 calls).map (Text.shift (4 * depth))
  /-- Calls that code stands for are made when it is written, and its sections are theirs. -/
  code : ∀ code, Code.scriptAll code = calls → Code.writeAll code = runAll calls ∧
    ∀ depth, sectionText? depth calls = some (Code.sectionText depth code)

/-- **Writers are plain printers.**  This holds of every finite nesting of calls whose texts, other
than documentation, are single lines. -/
theorem plainly_printed (calls : List Script) (h : ∀ text ∈ textsAll calls, OneLine text) :
    Plain calls where
  written := fun _ hstart hfits => runAll_eq calls hstart hfits
  lines := fun depth => Text.feedLines_unlines (oneLine_printAll h depth)
  level := Writer.closed_keepsLevel.runAll calls
  shifted := sectionText?_shift h
  code := by
    rintro code rfl
    exact ⟨(Code.runAll_scriptAll code).symm, fun depth => sectionText?_scriptAll depth code⟩

/-- Documentation of two paragraphs, and a block with a blank text and an empty line in it.  Between
them an inner block is opened whose body fails; the outer body writes a line instead. -/
def lateGreeting : List Script :=
  [.doc "Greets.\n\nTwice. ",
    .block "fn greet()"
      [.line " ",
        .branch [.block "if late" [.line "wait();", .fail] "\x7d"] [] [.line "go();"],
        .blank]
      "\x7d;"]

/-- The sample, one level deep, in a sink with little room. -/
theorem lateGreeting_plainly_printed :
    let w : Writer := { depth := 1, room := some 120 }
    let lines := ["    /// Greets.", "    ///", "    /// Twice.", "    fn greet() \x7b", " ",
      "        if late \x7b", "            wait();", "        go();", "", "    \x7d;"]
    runAll lateGreeting w = (w.took (Text.unlines lines), true) ∧
      sectionText? 1 lateGreeting = (sectionText? 0 lateGreeting).map (Text.shift 4) := by
  intro w lines
  have htexts : ∀ text ∈ textsAll lateGreeting, '\n' ∉ text.toList := by decide
  have hplain := plainly_printed lateGreeting fun text htext c hc heq =>
    htexts text htext (heq ▸ hc)
  have hprinted : printAll w.depth lateGreeting = ⟨lines, true⟩ := by decide
  have hfits : (Text.unlines lines).utf8ByteSize ≤ 120 := by decide
  refine ⟨?_, hplain.shifted 1⟩
  have hwritten := hplain.written w rfl
  rw [hprinted] at hwritten
  refine hwritten fun room hroom => ?_
  rw [← Option.some.inj hroom]
  exact hfits

end Script

end ServiceContract
