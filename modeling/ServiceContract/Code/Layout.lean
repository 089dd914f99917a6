import ServiceContract.Code

/-!
# Laying out code

The lines of code at a level of indentation, and whole files made of items.  A text with line ends
inside is laid out line by line.  Every line that is not empty is indented, also a blank one, and
documentation keeps its blanks.
-/

namespace ServiceContract

/-- The lines that a text and a line feed after it make. -/
def writtenLines (text : String) : List String :=
  match text.toList.getLast? with
  | none => [""]
  | some last => if last = '\n' then Text.lines text ++ [""] else Text.lines text

namespace Code

/-- A line at a level of indentation. -/
def indentLine (level : Nat) (line : String) : String :=
  if line.isEmpty then line else String.join (List.replicate level indentUnit) ++ line

/-- The lines of a text at a level of indentation. -/
def indentText (level : Nat) (text : String) : List String :=
  (writtenLines text).map (indentLine level)

/-- The lines of documentation, as they are. -/
def verbatimDocLines (text : String) : List String :=
  (Text.lines text).map fun line => if line.isEmpty then "///" else "/// " ++ line

mutual

/-- The lines of code at a level of indentation. -/
def layout (level : Nat) : Code → List String
  | line text => indentText level text
  | blank => [""]
  | doc text => (verbatimDocLines text).map (indentLine level)
  | attr text => indentText level (attributeLine text)
  | block header body close =>
    indentText level (opening header) ++ layoutAll (level + 1) body ++ indentText level close

/-- The lines of pieces of code at a level of indentation. -/
def layoutAll (level : Nat) : List Code → List String
  | [] => []
  | code :: rest => layout level code ++ layoutAll level rest

end

end Code

/-- An item of a file. -/
inductive Item
  /-- Finished text. -/
  | raw (text : String)
  /-- Code that is laid out at the outermost level. -/
  | code (code : List Code)
  deriving Repr

namespace Item

/-- The lines of an item. -/
def lines : Item → List String
  | raw text => writtenLines text
  | code pieces => Code.layoutAll 0 pieces

/-- A section of a file, unless there is nothing in it. -/
def section? (text : String) : Option Item :=
  let trimmed := Text.trimEnd text
  if trimmed.isEmpty then none else some (raw trimmed)

/-- The text of a file: its items with an empty line between any two. -/
def fileText (items : List Item) : String :=
  "\n".intercalate (List.intercalate [""] (items.map lines))

end Item

end ServiceContract
