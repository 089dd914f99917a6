import ServiceContract.Code

/-!
# Writing code

A writer holds the text it has written, the level of indentation, and whether it stands at the start
of a line.  The sink behind it may have limited room: a piece that does not fit is refused as a
whole, and the action that wanted to write it stops there and fails.

A line is written in pieces: its indentation, level by level, then its text, then the line feed.
Blank text is never indented, and does not end the start of a line.  What a failed action has
changed stays: if the indentation was written and the text was refused, the writer no longer stands
at the start of a line.  Only the level always comes back, because a block restores it also when its
body fails.
-/

namespace ServiceContract

/-- A sink for code and the state of writing to it. -/
structure Writer where
  /-- What has been written. -/
  text : String := ""
  /-- How many more bytes the sink takes; without a limit if absent. -/
  room : Option Nat := none
  /-- The level of indentation. -/
  depth : Nat := 0
  atLineStart : Bool := true
  /-- The levels that were opened by hand, in order, and whether each is still open. -/
  guards : List Bool := []
  deriving DecidableEq, Repr

namespace Writer

/-- An action leaves a writer, and tells whether it succeeded. -/
abbrev Action := Writer → Writer × Bool

/-- The action that does nothing. -/
def done : Action := fun w => (w, true)

/-- One action, and if it succeeds another one. -/
def andThen (first next : Action) : Action := fun w =>
  match first w with
  | (w', true) => next w'
  | (w', false) => (w', false)

/-- Hand one piece of text to the sink. -/
def put (piece : String) : Action := fun w =>
  match w.room with
  | none => ({ w with text := w.text ++ piece }, true)
  | some room =>
    if piece.utf8ByteSize ≤ room then
      ({ w with text := w.text ++ piece, room := some (room - piece.utf8ByteSize) }, true)
    else (w, false)

/-- Write some levels of indentation. -/
def putIndent : Nat → Action
  | 0 => done
  | levels + 1 => andThen (put Code.indentUnit) (putIndent levels)

/-- Record whether the next text starts a line. -/
def setLineStart (atLineStart : Bool) : Action := fun w =>
  ({ w with atLineStart := atLineStart }, true)

/-- Write text, indented if it starts a line. -/
def write (text : String) : Action := fun w =>
  if text.isEmpty then (w, true)
  else if w.atLineStart && !Text.allBlank text then
    andThen (putIndent w.depth) (andThen (setLineStart false) (put text)) w
  else put text w

/-- End the line. -/
def endLine : Action := andThen (put "\n") (setLineStart true)

/-- Write a line. -/
def writeLine (text : String) : Action := andThen (write text) endLine

/-- Write lines until one fails. -/
def writeLines : List String → Action
  | [] => done
  | line :: rest => andThen (writeLine line) (writeLines rest)

/-- Open a level of indentation. -/
def indent (w : Writer) : Writer := { w with depth := w.depth + 1 }

/-- Close a level of indentation. -/
def dedent (w : Writer) : Writer := { w with depth := w.depth - 1 }

/-- Do something one level deeper. -/
def deeper (action : Action) : Action := fun w =>
  match action w.indent with
  | (w', ok) => (w'.dedent, ok)

/-- Write a block around what an action writes. -/
def block (header close : String) (body : Action) : Action :=
  andThen (writeLine (Code.opening header)) (andThen (deeper body) (writeLine close))

end Writer

namespace Code

/-- The lines of documentation, without blanks at their ends. -/
def docLines (text : String) : List String :=
  (Text.lines text).map fun line =>
    if Text.allBlank line then "///" else "/// " ++ Text.trimEnd line

mutual

/-- Write code. -/
def write : Code → Writer.Action
  | line text => Writer.writeLine text
  | blank => Writer.endLine
  | doc text => Writer.writeLines (docLines text)
  | attr text => Writer.writeLine (attributeLine text)
  | block header body close => Writer.block header close (writeAll body)

/-- Write pieces of code until one fails. -/
def writeAll : List Code → Writer.Action
  | [] => Writer.done
  | code :: rest => Writer.andThen (write code) (writeAll rest)

end

/-- The text of code that starts at a level of indentation. -/
def sectionText (depth : Nat) (code : List Code) : String :=
  (writeAll code { depth := depth }).1.text

end Code

end ServiceContract
