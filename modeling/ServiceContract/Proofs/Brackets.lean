import Mathlib.Data.List.Basic
import ServiceContract.Code.Layout
import ServiceContract.Code.Writer

/-!
# Brackets of generated text

A reader of generated text keeps a stack of open brackets: a bracket that closes the innermost open
one removes it, and any other bracket is put on top.  `scan` is that reader.  What it has left at
the end is `unmatched`, and a text is `Balanced` if reading it changes no stack.

Brackets that are properly nested (`Nested`) leave every stack alone (`Nested.scan`), and those that
leave nothing open are properly nested.  So `Nested` and `unmatched` agree (`nested_iff_unmatched`).

Code is laid out in two ways, by a writer and line by line, and neither adds or drops a bracket:
`brackets_sectionText` and `brackets_fileText` read the brackets off the code itself.
-/

namespace ServiceContract

/-- Parentheses, square brackets and braces. -/
def isBracket (c : Char) : Bool :=
  c == '(' || c == ')' || c == '[' || c == ']' || c == '\x7b' || c == '\x7d'

/-- Brackets that open something. -/
def isOpener (c : Char) : Bool := c == '(' || c == '[' || c == '\x7b'

/-- Does the second bracket close the first? -/
def closes (opener closer : Char) : Bool :=
  (opener == '(' && closer == ')') || (opener == '[' && closer == ']') ||
    (opener == '\x7b' && closer == '\x7d')

/-- The brackets of a text, in order. -/
def brackets (text : String) : List Char := text.toList.filter isBracket

/-- Read one bracket, given the open ones from the innermost outwards. -/
def readBracket (stack : List Char) (c : Char) : List Char :=
  if isOpener c then c :: stack
  else
    match stack with
    | top :: rest => if closes top c then rest else c :: top :: rest
    | [] => [c]

/-- Read brackets one after the other. -/
def scan (stack : List Char) (bs : List Char) : List Char := bs.foldl readBracket stack

/-- Read the brackets of a text. -/
def scanText (stack : List Char) (text : String) : List Char := scan stack (brackets text)

/-- The brackets of a text that find no partner, in order. -/
def unmatched (text : String) : List Char := (scanText [] text).reverse

/-- Properly nested brackets. -/
inductive Nested : List Char → Prop
  | nil : Nested []
  | pair {opener closer : Char} {inner rest : List Char} (h : closes opener closer = true) :
      Nested inner → Nested rest → Nested (opener :: (inner ++ closer :: rest))

/-- Reading can stop at any place and go on from the brackets that are open there. -/
theorem scan_append (stack as bs : List Char) :
    scan stack (as ++ bs) = scan (scan stack as) bs :=
  List.foldl_append

/-- Of two brackets one of which closes the other, only the first opens something. -/
theorem isOpener_of_closes {opener closer : Char} (h : closes opener closer = true) :
    isOpener opener = true ∧ isOpener closer = false := by
  simp only [closes, Bool.or_eq_true, Bool.and_eq_true, beq_iff_eq] at h
  rcases h with (⟨rfl, rfl⟩ | ⟨rfl, rfl⟩) | ⟨rfl, rfl⟩ <;> decide

/-- Properly nested brackets leave every stack as it was. -/
theorem Nested.scan {bs : List Char} (h : Nested bs) (stack : List Char) :
    scan stack bs = stack := by
  induction h generalizing stack with
  | nil => rfl
  | @pair opener closer inner rest hcloses _ _ ihinner ihrest =>
      obtain ⟨hopener, hcloser⟩ := isOpener_of_closes hcloses
      have hopen : readBracket stack opener = opener :: stack := by simp [readBracket, hopener]
      have hclose : readBracket (opener :: stack) closer = stack := by
        simp [readBracket, hcloser, hcloses]
      change ServiceContract.scan (readBracket stack opener) (inner ++ closer :: rest) = stack
      rw [hopen, scan_append, ihinner]
      change ServiceContract.scan (readBracket (opener :: stack) closer) rest = stack
      rw [hclose, ihrest]

/-- Brackets that close all of a stack, innermost first, with properly nested ones in between. -/
def ClosesAll : List Char → List Char → Prop
  | [], bs => Nested bs
  | opener :: stack, bs => ∃ inner closer rest, bs = inner ++ closer :: rest ∧ Nested inner ∧
      closes opener closer = true ∧ ClosesAll stack rest

/-- A properly nested pair in front does not matter to what is left to close. -/
theorem Nested.append_closesAll {stack front bs : List Char} {opener closer : Char}
    (hcloses : closes opener closer = true) (hfront : Nested front) (h : ClosesAll stack bs) :
    ClosesAll stack (opener :: (front ++ closer :: bs)) := by
  cases stack with
  | nil => exact .pair hcloses hfront h
  | cons top stack =>
      obtain ⟨inner, last, rest, rfl, hinner, hlast, hrest⟩ := h
      exact ⟨opener :: (front ++ closer :: inner), last, rest, by simp,
        .pair hcloses hfront hinner, hlast, hrest⟩

/-- What is read until nothing is open closes all that was open before. -/
theorem closesAll_of_scan {stack bs : List Char} (h : scan stack bs = []) :
    ClosesAll stack bs := by
  induction bs generalizing stack with
  | nil =>
      obtain rfl : stack = [] := h
      exact .nil
  | cons c bs ih =>
      have hrest : ClosesAll (readBracket stack c) bs := ih h
      by_cases hopener : isOpener c = true
      · have hread : readBracket stack c = c :: stack := by simp [readBracket, hopener]
        rw [hread] at hrest
        obtain ⟨inner, closer, rest, rfl, hinner, hcloses, hrest⟩ := hrest
        exact hinner.append_closesAll hcloses hrest
      · -- a bracket that closes nothing is never removed again
        have hstuck : ¬ClosesAll (c :: stack) bs := by
          rintro ⟨_, _, _, -, -, hcloses, -⟩
          exact hopener (isOpener_of_closes hcloses).1
        cases stack with
        | nil =>
            have hread : readBracket [] c = [c] := by simp [readBracket, hopener]
            exact absurd (hread ▸ hrest) hstuck
        | cons top stack =>
            by_cases hcloses : closes top c = true
            · have hread : readBracket (top :: stack) c = stack := by
                simp [readBracket, hopener, hcloses]
              exact ⟨[], c, bs, rfl, .nil, hcloses, hread ▸ hrest⟩
            · have hread : readBracket (top :: stack) c = c :: top :: stack := by
                simp [readBracket, hopener, hcloses]
              exact absurd (hread ▸ hrest) hstuck

/-- **Nesting.**  Brackets are properly nested exactly if reading them leaves none open. -/
theorem nested_iff_scan {bs : List Char} : Nested bs ↔ scan [] bs = [] :=
  ⟨fun h => h.scan [], fun h => closesAll_of_scan h⟩

/-- **Nesting.**  The brackets of a text are properly nested if and only if all are matched. -/
theorem nested_iff_unmatched {text : String} : Nested (brackets text) ↔ unmatched text = [] := by
  rw [nested_iff_scan, unmatched, List.reverse_eq_nil_iff]
  rfl

/-! ## Texts -/

/-- The brackets of two texts are those of the one and then those of the other. -/
@[simp]
theorem brackets_append (a b : String) : brackets (a ++ b) = brackets a ++ brackets b := by
  simp [brackets]

/-- The brackets of a text that is given by its characters. -/
theorem brackets_ofList (cs : List Char) : brackets (String.ofList cs) = cs.filter isBracket := by
  simp [brackets]

@[simp]
theorem brackets_empty : brackets "" = [] := by simp [brackets]

/-- A text is read from left to right. -/
theorem scanText_append (stack : List Char) (a b : String) :
    scanText stack (a ++ b) = scanText (scanText stack a) b := by
  simp [scanText, scan_append]

/-- Reading a text that is given by its characters.  Every literal is such a text. -/
theorem scanText_ofList (stack cs : List Char) :
    scanText stack (String.ofList cs) = scan stack (cs.filter isBracket) := by
  rw [scanText, brackets_ofList]

/-- A text without brackets. -/
def Clean (text : String) : Prop := brackets text = []

instance (text : String) : Decidable (Clean text) :=
  inferInstanceAs (Decidable (brackets text = []))

/-- A text that leaves every stack as it was. -/
def Balanced (text : String) : Prop := ∀ stack, scanText stack text = stack

theorem scanText_balanced {text : String} (h : Balanced text) (stack : List Char) :
    scanText stack text = stack := h stack

/-- Where there is no bracket, none is left open. -/
theorem Clean.balanced {text : String} (h : Clean text) : Balanced text := by
  intro stack
  rw [scanText, h]
  rfl

theorem Clean.append {a b : String} (ha : Clean a) (hb : Clean b) : Clean (a ++ b) := by
  rw [Clean, brackets_append, ha, hb, List.append_nil]

/-- Two balanced texts in a row. -/
theorem Balanced.append {a b : String} (ha : Balanced a) (hb : Balanced b) :
    Balanced (a ++ b) := by
  intro stack
  rw [scanText_append, ha, hb]

/-- A balanced text between two literals that match each other. -/
theorem Balanced.between {first last : List Char} {text : String} (h : Balanced text)
    (hpair : ∀ stack,
      scan (scan stack (first.filter isBracket)) (last.filter isBracket) = stack) :
    Balanced (String.ofList first ++ text ++ String.ofList last) := by
  intro stack
  rw [scanText_append, scanText_append, scanText_ofList, h, scanText_ofList]
  exact hpair stack

theorem clean_empty : Clean "" := brackets_empty

/-- A text is clean if none of its characters is a bracket. -/
theorem clean_iff {text : String} : Clean text ↔ ∀ c ∈ text.toList, isBracket c = false := by
  simp [Clean, brackets, List.filter_eq_nil_iff]

/-- A literal is checked character by character. -/
theorem clean_ofList {cs : List Char} (h : cs.filter isBracket = []) :
    Clean (String.ofList cs) := by
  rw [Clean, brackets_ofList, h]

/-- A clean separator adds no bracket. -/
theorem brackets_intercalate {sep : String} (hsep : Clean sep) (texts : List String) :
    brackets (sep.intercalate texts) = texts.flatMap brackets := by
  have hlist : ∀ ls : List (List Char),
      (sep.toList.intercalate ls).filter isBracket = ls.flatMap (List.filter isBracket) := by
    intro ls
    induction ls with
    | nil => rfl
    | cons l ls ih =>
        cases ls with
        | nil => simp
        | cons l' ls =>
            rw [List.intercalate_cons_cons, List.filter_append, List.filter_append, ih,
              show sep.toList.filter isBracket = [] from hsep]
            simp
  rw [brackets, String.toList_intercalate, hlist, List.flatMap_map]
  rfl

/-- Reading one after the other what leaves every stack alone leaves it alone. -/
theorem scan_flatMap {α : Type} {f : α → List Char} {xs : List α}
    (h : ∀ x ∈ xs, ∀ stack, scan stack (f x) = stack) (stack : List Char) :
    scan stack (xs.flatMap f) = stack := by
  induction xs with
  | nil => rfl
  | cons x xs ih =>
      rw [List.flatMap_cons, scan_append, h x (by simp)]
      exact ih fun y hy => h y (by simp [hy])

/-- Balanced texts with clean ones between them. -/
theorem balanced_intercalate {sep : String} (hsep : Clean sep) {texts : List String}
    (h : ∀ text ∈ texts, Balanced text) : Balanced (sep.intercalate texts) := by
  intro stack
  rw [scanText, brackets_intercalate hsep]
  exact scan_flatMap h stack

/-- Clean texts with clean ones between them. -/
theorem clean_intercalate {sep : String} (hsep : Clean sep) {texts : List String}
    (h : ∀ text ∈ texts, Clean text) : Clean (sep.intercalate texts) := by
  rw [Clean, brackets_intercalate hsep, List.flatMap_eq_nil_iff]
  exact h

/-! ## Lines -/

/-- Lines have the brackets of their text. -/
theorem flatMap_linesFrom (line cs : List Char) :
    (Text.linesFrom line cs).flatMap (List.filter isBracket) =
      (line.reverse ++ cs).filter isBracket := by
  have hreturn : ∀ line : List Char,
      (Text.withoutReturn line).filter isBracket = line.filter isBracket := by
    intro line
    unfold Text.withoutReturn
    split
    · rfl
    · rfl
  induction cs generalizing line with
  | nil =>
      cases line with
      | nil => rfl
      | cons c line => simp [Text.linesFrom]
  | cons c cs ih =>
      rw [Text.linesFrom]
      split
      · next hc =>
          subst hc
          have hfeed : isBracket '\n' = false := rfl
          rw [List.flatMap_cons, ih, List.filter_reverse, hreturn]
          simp [List.filter_reverse, hfeed]
      · rw [ih]
        simp

/-- Cutting a text into lines loses no bracket, since a feed is none. -/
theorem flatMap_lines (text : String) : (Text.lines text).flatMap brackets = brackets text := by
  have hlines := flatMap_linesFrom [] text.toList
  rw [List.reverse_nil, List.nil_append] at hlines
  rw [Text.lines, List.flatMap_map, brackets, ← hlines]
  exact List.flatMap_congr fun line _ => brackets_ofList line

/-- No bracket is a blank. -/
theorem isBracket_of_isBlank {c : Char} (h : Text.isBlank c = true) : isBracket c = false := by
  rw [Bool.eq_false_iff]
  intro hbracket
  simp only [isBracket, Bool.or_eq_true, beq_iff_eq] at hbracket
  rcases hbracket with ((((rfl | rfl) | rfl) | rfl) | rfl) | rfl <;> exact absurd h (by decide)

/-- Dropping blanks drops no bracket. -/
theorem filter_dropWhile_isBlank (cs : List Char) :
    (cs.dropWhile Text.isBlank).filter isBracket = cs.filter isBracket := by
  induction cs with
  | nil => rfl
  | cons c cs ih =>
      rw [List.dropWhile_cons]
      split
      · next hblank => rw [ih, List.filter_cons, isBracket_of_isBlank hblank]; rfl
      · rfl

@[simp]
theorem brackets_trimEnd (text : String) : brackets (Text.trimEnd text) = brackets text := by
  rw [Text.trimEnd, brackets_ofList, List.filter_reverse, filter_dropWhile_isBlank,
    List.filter_reverse, List.reverse_reverse, brackets]

/-- A blank text is clean. -/
theorem clean_of_allBlank {text : String} (h : Text.allBlank text = true) : Clean text := by
  rw [clean_iff]
  intro c hc
  exact isBracket_of_isBlank (List.all_eq_true.1 h c hc)

/-- A text has the same brackets however it is broken into lines. -/
theorem flatMap_writtenLines (text : String) :
    (writtenLines text).flatMap brackets = brackets text := by
  unfold writtenLines
  split
  · next hnone =>
      have hnil := List.getLast?_eq_none_iff.1 hnone
      simp [brackets, hnil]
  · split
    · simp [flatMap_lines]
    · exact flatMap_lines text

namespace Code

mutual

/-- The brackets of code. -/
def brackets : Code → List Char
  | line text => ServiceContract.brackets text
  | blank => []
  | doc text => ServiceContract.brackets text
  | attr text => ServiceContract.brackets (attributeLine text)
  | block header body close =>
    ServiceContract.brackets (opening header) ++ bracketsAll body ++
      ServiceContract.brackets close

/-- The brackets of pieces of code. -/
def bracketsAll : List Code → List Char
  | [] => []
  | code :: rest => brackets code ++ bracketsAll rest

end

/-- The brackets of code, piece by piece. -/
theorem bracketsAll_eq_flatMap (code : List Code) : bracketsAll code = code.flatMap brackets := by
  induction code with
  | nil => rfl
  | cons piece rest ih => rw [bracketsAll, ih, List.flatMap_cons]

theorem bracketsAll_append (front back : List Code) :
    bracketsAll (front ++ back) = bracketsAll front ++ bracketsAll back := by
  simp [bracketsAll_eq_flatMap]

/-! ### Layout -/

theorem clean_indentUnit : Clean indentUnit := clean_ofList rfl

/-- Indentation has no brackets. -/
@[simp]
theorem brackets_indentLine (level : Nat) (line : String) :
    ServiceContract.brackets (indentLine level line) = ServiceContract.brackets line := by
  have hindent : Clean (String.join (List.replicate level indentUnit)) := by
    induction level with
    | zero => exact clean_empty
    | succ level ih =>
        rw [List.replicate_succ, String.join_cons]
        exact clean_indentUnit.append ih
  unfold indentLine
  split
  · rfl
  · rw [brackets_append, hindent, List.nil_append]

/-- A text that is indented line by line keeps its brackets. -/
theorem flatMap_indentText (level : Nat) (text : String) :
    (indentText level text).flatMap ServiceContract.brackets = ServiceContract.brackets text := by
  simp [indentText, List.flatMap_map, flatMap_writtenLines]

/-- The slashes before documentation have no brackets. -/
theorem flatMap_verbatimDocLines (text : String) :
    (verbatimDocLines text).flatMap ServiceContract.brackets = ServiceContract.brackets text := by
  rw [verbatimDocLines, List.flatMap_map, ← flatMap_lines]
  refine List.flatMap_congr fun line _ => ?_
  split
  · next hempty =>
      rw [String.isEmpty_iff.1 hempty, brackets_ofList]
      rfl
  · rw [brackets_append, brackets_ofList]
    rfl

mutual

/-- Laying out code keeps its brackets. -/
theorem flatMap_layout (level : Nat) (code : Code) :
    (layout level code).flatMap ServiceContract.brackets = code.brackets := by
  match code with
  | line text => exact flatMap_indentText level text
  | blank => simp [layout, brackets]
  | doc text =>
      simp [layout, brackets, List.flatMap_map, flatMap_verbatimDocLines]
  | attr text => exact flatMap_indentText level _
  | block header body close =>
      simp only [layout, brackets, List.flatMap_append, flatMap_indentText,
        flatMap_layoutAll (level + 1) body]

theorem flatMap_layoutAll (level : Nat) (code : List Code) :
    (layoutAll level code).flatMap ServiceContract.brackets = bracketsAll code := by
  match code with
  | [] => rfl
  | piece :: rest =>
      rw [layoutAll, bracketsAll, List.flatMap_append, flatMap_layout level piece,
        flatMap_layoutAll level rest]

end

end Code

/-- The brackets of an item. -/
def Item.brackets : Item → List Char
  | raw text => ServiceContract.brackets text
  | code pieces => Code.bracketsAll pieces

/-- The lines of an item have the brackets of its code. -/
theorem Item.flatMap_lines (item : Item) :
    item.lines.flatMap ServiceContract.brackets = item.brackets := by
  cases item with
  | raw text => exact flatMap_writtenLines text
  | code pieces => exact Code.flatMap_layoutAll 0 pieces

/-- **Files.**  The brackets of a file are those of its items. -/
theorem Item.brackets_fileText (items : List Item) :
    ServiceContract.brackets (fileText items) = items.flatMap Item.brackets := by
  have hfeed : Clean "\n" := clean_ofList rfl
  have hjoin : ∀ parts : List (List String),
      (List.intercalate [""] parts).flatMap ServiceContract.brackets =
        parts.flatMap fun part => part.flatMap ServiceContract.brackets := by
    intro parts
    induction parts with
    | nil => rfl
    | cons part parts ih =>
        cases parts with
        | nil => simp
        | cons part' parts =>
            rw [List.intercalate_cons_cons, List.flatMap_append, List.flatMap_append, ih]
            simp
  rw [fileText, brackets_intercalate hfeed, hjoin, List.flatMap_map]
  exact List.flatMap_congr fun item _ => item.flatMap_lines

/-! ## The writer -/

namespace Writer

/-- The action adds some brackets to the text of a writer with unlimited room, and succeeds. -/
def Adds (action : Action) (bs : List Char) : Prop :=
  ∀ w : Writer, w.room = none → (action w).2 = true ∧ (action w).1.room = none ∧
    brackets (action w).1.text = brackets w.text ++ bs

theorem adds_done : Adds done [] := by
  intro w hroom
  exact ⟨rfl, hroom, by simp [done]⟩

/-- Two actions in a row add the brackets of the one and then those of the other. -/
theorem Adds.andThen {first next : Action} {as bs : List Char} (hfirst : Adds first as)
    (hnext : Adds next bs) : Adds (andThen first next) (as ++ bs) := by
  intro w hroom
  obtain ⟨hok, hroom', htext⟩ := hfirst w hroom
  have hstep : Writer.andThen first next w = next (first w).1 := by
    rw [Writer.andThen]
    split
    · next w' heq => rw [heq]
    · next w' heq => simp [heq] at hok
  obtain ⟨hok', hroom'', htext'⟩ := hnext (first w).1 hroom'
  rw [hstep]
  exact ⟨hok', hroom'', by rw [htext', htext, List.append_assoc]⟩

/-- A piece of text adds its own brackets. -/
theorem adds_put (piece : String) : Adds (put piece) (brackets piece) := by
  intro w hroom
  simp [put, hroom]

theorem adds_setLineStart (atLineStart : Bool) : Adds (setLineStart atLineStart) [] := by
  intro w hroom
  exact ⟨rfl, hroom, by simp [setLineStart]⟩

/-- Indentation has no brackets. -/
theorem adds_putIndent (levels : Nat) : Adds (putIndent levels) [] := by
  induction levels with
  | zero => exact adds_done
  | succ levels ih =>
      have hunit := adds_put Code.indentUnit
      rw [show brackets Code.indentUnit = [] from Code.clean_indentUnit] at hunit
      exact hunit.andThen ih

/-- Whether a text is indented or not, it adds its own brackets. -/
theorem adds_write (text : String) : Adds (write text) (brackets text) := by
  intro w hroom
  unfold write
  split
  · next hempty => simp [String.isEmpty_iff.1 hempty, hroom]
  · split
    · exact (adds_putIndent w.depth).andThen ((adds_setLineStart false).andThen (adds_put text)) w
        hroom
    · exact adds_put text w hroom

theorem adds_endLine : Adds endLine [] := by
  have hfeed := adds_put "\n"
  rw [show brackets "\n" = [] from clean_ofList rfl] at hfeed
  exact hfeed.andThen (adds_setLineStart true)

/-- A line feed is no bracket. -/
theorem adds_writeLine (text : String) : Adds (writeLine text) (brackets text) := by
  have hline := (adds_write text).andThen adds_endLine
  rwa [List.append_nil] at hline

/-- Lines are written one by one. -/
theorem adds_writeLines (lines : List String) :
    Adds (writeLines lines) (lines.flatMap brackets) := by
  induction lines with
  | nil => exact adds_done
  | cons line rest ih => exact (adds_writeLine line).andThen ih

/-- The level makes no difference to the brackets. -/
theorem Adds.deeper {action : Action} {bs : List Char} (h : Adds action bs) :
    Adds (deeper action) bs := by
  intro w hroom
  exact h w.indent hroom

end Writer

namespace Code

/-- Documentation is trimmed line by line, which loses no bracket. -/
theorem flatMap_docLines (text : String) :
    (docLines text).flatMap ServiceContract.brackets = ServiceContract.brackets text := by
  rw [docLines, List.flatMap_map, ← flatMap_lines]
  refine List.flatMap_congr fun line _ => ?_
  split
  · next hblank =>
      rw [show ServiceContract.brackets line = [] from clean_of_allBlank hblank, brackets_ofList]
      rfl
  · rw [brackets_append, brackets_trimEnd, brackets_ofList]
    rfl

mutual

/-- Writing code adds its brackets. -/
theorem adds_write (code : Code) : Writer.Adds code.write code.brackets := by
  match code with
  | line text => exact Writer.adds_writeLine text
  | blank => exact Writer.adds_endLine
  | doc text =>
      have hlines := Writer.adds_writeLines (docLines text)
      rwa [flatMap_docLines] at hlines
  | attr text => exact Writer.adds_writeLine _
  | block header body close =>
      rw [brackets, List.append_assoc]
      exact (Writer.adds_writeLine _).andThen
        ((adds_writeAll body).deeper.andThen (Writer.adds_writeLine close))

theorem adds_writeAll (code : List Code) : Writer.Adds (writeAll code) (bracketsAll code) := by
  match code with
  | [] => exact Writer.adds_done
  | piece :: rest => exact (adds_write piece).andThen (adds_writeAll rest)

end

/-- **Sections.**  The brackets of a written section are those of its code. -/
theorem brackets_sectionText (depth : Nat) (code : List Code) :
    ServiceContract.brackets (sectionText depth code) = bracketsAll code := by
  have hwrite := (adds_writeAll code { depth := depth } rfl).2.2
  simpa [sectionText] using hwrite

end Code

end ServiceContract
