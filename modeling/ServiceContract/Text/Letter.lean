import ServiceContract.Text.LetterTable
import ServiceContract.Text.CaseTable

/-!
# Letters and their case

Which characters may stand in a word, which of them are upper or lower case, and what their other
case is.  Case mappings are full: the upper case of `ß` is `SS`.  Up to character 127 the answer is
plain arithmetic; beyond it the tables of the Unicode standard decide.
-/

namespace ServiceContract.Text

/-- The run `(first, last, step)` holds the code point `n`. -/
def inRun (n : Nat) (run : Nat × Nat × Nat) : Bool :=
  run.1 ≤ n && n ≤ run.2.1 && (n - run.1) % run.2.2 == 0

/-- Alphabetic or numeric characters: those a word is made of. -/
def isAlphanumeric (c : Char) : Bool :=
  if c.toNat < 128 then c.isAlphanum
  else alphanumericRanges.any fun range => range.1 ≤ c.toNat && c.toNat ≤ range.2

/-- Lower case characters. -/
def isLower (c : Char) : Bool :=
  if c.toNat < 128 then c.isLower else lowerRuns.any (inRun c.toNat)

/-- Upper case characters. -/
def isUpper (c : Char) : Bool :=
  if c.toNat < 128 then c.isUpper else upperRuns.any (inRun c.toNat)

/-- The image of a code point under the first run `(first, last, step, image)` that holds it, and
the code point itself if none does. -/
def mapByRuns (runs : List (Nat × Nat × Nat × Nat)) (n : Nat) : Nat :=
  match runs.find? fun run => inRun n (run.1, run.2.1, run.2.2.1) with
  | some run => run.2.2.2 + (n - run.1)
  | none => n

/-- The image of a character above 127: a sequence if the character has one, otherwise the
character its run sends it to. -/
def mapByTables (sequences : List (Nat × List Nat)) (runs : List (Nat × Nat × Nat × Nat))
    (c : Char) : List Char :=
  match sequences.lookup c.toNat with
  | some codes => codes.map Char.ofNat
  | none => [Char.ofNat (mapByRuns runs c.toNat)]

/-- Lower case of one character, without regard to its neighbours. -/
def toLower (c : Char) : List Char :=
  if c.toNat < 128 then [c.toLower] else mapByTables lowerMapSequences lowerMapRuns c

/-- Upper case of one character. -/
def toUpper (c : Char) : List Char :=
  if c.toNat < 128 then [c.toUpper] else mapByTables upperMapSequences upperMapRuns c

/-- A text with the letters `A` to `Z` lowered and everything else kept. -/
def lowerAscii (s : String) : String :=
  String.ofList (s.toList.map Char.toLower)

end ServiceContract.Text
