import ServiceContract.Text.Blank
import ServiceContract.Text.Lines

/-!
# Code

Generated code before it is text: lines, documentation, attributes and blocks.  A block indents its
body by one level.  There are two ways to turn code into text.  A `Writer` writes it piece by piece
into a sink, which may run out of room; `Code.layout` gives its lines at a fixed level.  They differ
in what they do to line ends inside a line and to blanks at the end of documentation.
-/

namespace ServiceContract

/-- A piece of generated code. -/
inductive Code
  | line (text : String)
  | blank
  /-- Documentation of what follows. -/
  | doc (text : String)
  | attr (text : String)
  | block (header : String) (body : List Code) (close : String := "\x7d")
  deriving Repr

namespace Code

/-- One level of indentation. -/
def indentUnit : String := "    "

/-- The line that opens a block. -/
def opening (header : String) : String :=
  if header.isEmpty then "\x7b" else header ++ " \x7b"

/-- An attribute as a line. -/
def attributeLine (text : String) : String := "#[" ++ text ++ "]"

/-- Several pieces of code with an empty line between any two. -/
def separated (pieces : List (List Code)) : List Code := List.intercalate [blank] pieces

/-- Each piece of code after an empty line. -/
def spaced (pieces : List (List Code)) : List Code := pieces.flatMap (blank :: ·)

end Code

end ServiceContract
