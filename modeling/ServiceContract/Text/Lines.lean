/-!
# The lines of a text

A line ends at a line feed, or at the end of the text if something stands after the last line
feed.  One carriage return directly before a line feed belongs to the line end; a carriage return
anywhere else, also at the very end of the text, belongs to its line.  So a text that ends with a
line feed has no empty line after it, and the empty text has no lines.
-/

namespace ServiceContract.Text

/-- A line, given backwards, without the carriage return that belongs to its line feed. -/
def withoutReturn : List Char → List Char
  | '\r' :: rest => rest
  | line => line

/-- The lines of the characters that remain, after the characters `line` (given backwards) of the
line that has begun. -/
def linesFrom (line : List Char) : List Char → List (List Char)
  | [] => if line.isEmpty then [] else [line.reverse]
  | c :: rest =>
    if c = '\n' then (withoutReturn line).reverse :: linesFrom [] rest
    else linesFrom (c :: line) rest

/-- The lines of a text. -/
def lines (s : String) : List String :=
  (linesFrom [] s.toList).map String.ofList

end ServiceContract.Text
