import ServiceContract.Proofs.CaseImages
import ServiceContract.Proofs.Declarations
import ServiceContract.Proofs.FileLines
import ServiceContract.Proofs.KeyConstants

/-!
# The key table can be read back

The table of keys is printed twice: as a text of its own, and one level deeper inside the module.
`readConstant?` reads the line of a constant, whatever its name and however many digits its key has.

Keys are printed in hexadecimal, most significant digit first, and filled up with zeros; reading
them digit by digit gives the key back (`readHex_hexDigits`).  The name of a constant has no colon,
so it ends where the type of the constant begins.  The main statement is
`Compiled.keyTable_reads_back`.
-/

namespace ServiceContract

/-! ## Hexadecimal digits -/

/-- A hexadecimal digit. -/
def isHexDigit (c : Char) : Bool := c.isDigit || ('a' ≤ c && c ≤ 'f')

/-- The value of a hexadecimal digit. -/
def hexValue (c : Char) : Nat :=
  if c.isDigit then c.toNat - '0'.toNat else c.toNat - 'a'.toNat + 10

/-- The number that hexadecimal digits spell. -/
def readHex (digits : List Char) : Nat := digits.foldl (fun n c => 16 * n + hexValue c) 0

/-- The digits of a printed key. -/
def hexDigits (key : MessageKey) : List Char :=
  List.replicate (4 - (Nat.toDigits 16 key).length) '0' ++ Nat.toDigits 16 key

/-- The digits of base sixteen, read back one by one. -/
theorem digitChar_hex : ∀ d < 16, isHexDigit d.digitChar = true ∧ hexValue d.digitChar = d := by
  decide

/-- The digits of a number are hexadecimal and spell it, whatever stands before them. -/
theorem toDigits_hex (n : Nat) :
    (∀ c ∈ Nat.toDigits 16 n, isHexDigit c = true) ∧ readHex (Nat.toDigits 16 n) = n := by
  induction n using Nat.strongRecOn with
  | ind n ih =>
      by_cases hsmall : n < 16
      · rw [Nat.toDigits_of_lt_base hsmall]
        simpa [readHex] using digitChar_hex n hsmall
      · -- the last digit is the remainder, and the digits before it are those of the quotient
        obtain ⟨hall, hvalue⟩ := ih (n / 16) (by omega)
        obtain ⟨hdigit, hlast⟩ := digitChar_hex (n % 16) (by omega)
        rw [Nat.toDigits_of_base_le (by decide) (by omega)]
        constructor
        · intro c hc
          rcases List.mem_append.1 hc with hc | hc
          · exact hall c hc
          · rw [List.mem_singleton.1 hc]
            exact hdigit
        · rw [readHex, List.foldl_append, ← readHex, hvalue]
          simp only [List.foldl_cons, List.foldl_nil, hlast]
          omega

/-- All digits of a key are hexadecimal. -/
theorem isHexDigit_of_mem_hexDigits {key : MessageKey} {c : Char} (h : c ∈ hexDigits key) :
    isHexDigit c = true := by
  rcases List.mem_append.1 h with h | h
  · rw [List.eq_of_mem_replicate h]
    rfl
  · exact (toDigits_hex key).1 c h

/-- A printed key spells the key. -/
theorem readHex_hexDigits (key : MessageKey) : readHex (hexDigits key) = key := by
  have hzeros : ∀ k, readHex (List.replicate k '0') = 0 := by
    intro k
    induction k with
    | zero => rfl
    | succ k ih => exact ih
  rw [hexDigits, readHex, List.foldl_append, ← readHex, hzeros]
  exact (toDigits_hex key).2

/-- A key has at least four digits. -/
theorem four_le_length_hexDigits (key : MessageKey) : 4 ≤ (hexDigits key).length := by
  rw [hexDigits, List.length_append, List.length_replicate]
  omega

/-- A key is written with its prefix and its digits. -/
theorem hexKey_eq (key : MessageKey) : hexKey key = "0x" ++ String.ofList (hexDigits key) := rfl

/-! ## Constants -/

/-- The line of a constant. -/
def keyLine (name : String) (key : MessageKey) : String :=
  "    pub const " ++ name ++ ": u32 = " ++ hexKey key ++ ";"

/-- The line of a constant, as it is written. -/
theorem keyLine_eq (name : String) (key : MessageKey) :
    keyLine name key = "    pub const " ++ name ++ ": u32 = " ++ hexKey key ++ ";" := rfl

/-- The name and the key that the line of a constant declares: the name goes up to the colon, and
the key has at least four hexadecimal digits. -/
def readConstant? (line : String) : Option (String × MessageKey) :=
  ("    pub const ".toList.isPrefixOf? line.toList).bind fun rest =>
    (": u32 = 0x".toList.isPrefixOf? (rest.dropWhile (· != ':'))).bind fun value =>
      let digits := value.takeWhile isHexDigit
      if 4 ≤ digits.length ∧ value.dropWhile isHexDigit = [';'] then
        some (String.ofList (rest.takeWhile (· != ':')), readHex digits)
      else none

/-- A run of characters ends at the first other one. -/
theorem span_run {p : Char → Bool} {run : List Char} {stop : Char}
    (hrun : ∀ c ∈ run, p c = true) (hstop : p stop = false) (rest : List Char) :
    (run ++ stop :: rest).takeWhile p = run ∧ (run ++ stop :: rest).dropWhile p = stop :: rest := by
  have hneg : ¬ p stop = true := by simp [hstop]
  rw [List.takeWhile_append_of_pos hrun, List.dropWhile_append_of_pos hrun,
    List.takeWhile_cons_of_neg hneg, List.dropWhile_cons_of_neg hneg, List.append_nil]
  exact ⟨rfl, rfl⟩

theorem isPrefixOf?_append (front rest : List Char) :
    front.isPrefixOf? (front ++ rest) = some rest :=
  List.isPrefixOf?_eq_some_iff_append_eq.2 rfl

/-- The line of a constant as characters, in the parts that the reader takes off. -/
theorem toList_keyLine (name : String) (key : MessageKey) :
    (keyLine name key).toList = "    pub const ".toList ++
      (name.toList ++ (": u32 = 0x".toList ++ (hexDigits key ++ [';']))) := by
  have htype : ": u32 = 0x" = ": u32 = " ++ "0x" := rfl
  have hend : ";".toList = [';'] := by rw [String.toList_ofList]
  rw [keyLine_eq, hexKey_eq, htype]
  simp only [String.toList_append, List.append_assoc, String.toList_ofList, hend]

/-- **Reading a constant back.** -/
theorem readConstant?_keyLine {name : String} (hname : ':' ∉ name.toList) (key : MessageKey) :
    readConstant? (keyLine name key) = some (name, key) := by
  have hcolon : ": u32 = 0x".toList ++ (hexDigits key ++ [';']) =
      ':' :: (" u32 = 0x".toList ++ (hexDigits key ++ [';'])) := by
    rw [String.toList_ofList, String.toList_ofList]
    rfl
  have hname : ∀ c ∈ name.toList, (c != ':') = true := by
    intro c hc
    rw [bne_iff_ne]
    rintro rfl
    exact hname hc
  obtain ⟨htake, hdrop⟩ :=
    span_run hname (by decide : (':' != ':') = false) (" u32 = 0x".toList ++ (hexDigits key ++ [';']))
  have hdigits : ∀ c ∈ hexDigits key, isHexDigit c = true := fun _ =>
    isHexDigit_of_mem_hexDigits
  obtain ⟨htake', hdrop'⟩ := span_run hdigits (rfl : isHexDigit ';' = false) []
  rw [← hcolon] at htake hdrop
  rw [readConstant?, toList_keyLine, isPrefixOf?_append, Option.bind_some,
    htake, hdrop, isPrefixOf?_append, Option.bind_some, htake', hdrop']
  dsimp only
  rw [if_pos ⟨four_le_length_hexDigits key, rfl⟩, readHex_hexDigits, String.ofList_toList]

/-- The constants that the lines of a text declare. -/
def readConstants (text : String) : List (String × MessageKey) :=
  (Text.lines text).filterMap readConstant?

/-! ## The table -/

/-- The lines of the table around those of its constants. -/
def keyTable (constants : List String) : List String :=
  ["/// Wire keys of every message in this contract.", "pub mod message_key \x7b"] ++ constants ++
    ["\x7d"]

/-- A character of a converted name is not a mark. -/
theorem ne_of_plainIfAscii {c d : Char} (hc : Text.PlainIfAscii c) (hascii : d.toNat < 128)
    (hplain : d.isAlphanum = false) : c ≠ d := by
  rintro rfl
  rw [(hc hascii).2] at hplain
  cases hplain

/-- The name of a constant has neither a colon nor a line feed. -/
theorem not_mem_constantName (name : String) :
    ':' ∉ (constantName name).toList ∧ '\n' ∉ (constantName name).toList := by
  constructor
  · exact fun hmem => Text.madeOf_shouty (P := (· ≠ ':'))
      (fun c hc => ne_of_plainIfAscii hc (by decide) (by decide)) (by decide) name _ hmem rfl
  · exact fun hmem => Text.madeOf_shouty (P := (· ≠ '\n'))
      (fun c hc => ne_of_plainIfAscii hc (by decide) (by decide)) (by decide) name _ hmem rfl

theorem isLine_ofList {cs : List Char} (hfeed : '\n' ∉ cs) (hreturn : cs.getLast? ≠ some '\r') :
    Text.IsLine (String.ofList cs) :=
  ⟨by rwa [String.toList_ofList], by rwa [String.toList_ofList]⟩

/-- The line of a constant is one line. -/
theorem isLine_keyLine {name : String} (hname : '\n' ∉ name.toList) (key : MessageKey) :
    Text.IsLine (keyLine name key) := by
  have hdigits : '\n' ∉ hexDigits key := fun hmem =>
    absurd (isHexDigit_of_mem_hexDigits hmem) (by decide)
  have hlead : '\n' ∉ "    pub const ".toList := by
    rw [String.toList_ofList]
    decide
  have htype : '\n' ∉ ": u32 = 0x".toList := by
    rw [String.toList_ofList]
    decide
  constructor
  · simp only [toList_keyLine, List.mem_append, List.mem_singleton, not_or]
    exact ⟨hlead, hname, htype, hdigits, by decide⟩
  · simp only [toList_keyLine, ← List.append_assoc, List.getLast?_concat]
    decide

theorem isLine_of_mem_keyTable {constants : List String}
    (h : ∀ text ∈ constants, Text.IsLine text) {text : String} (hmem : text ∈ keyTable constants) :
    Text.IsLine text := by
  rw [keyTable, List.mem_append, List.mem_append, List.mem_singleton, List.mem_pair] at hmem
  rcases hmem with ((rfl | rfl) | hmem) | rfl
  · exact isLine_ofList (by decide) (by decide)
  · exact isLine_ofList (by decide) (by decide)
  · exact h text hmem
  · exact isLine_ofList (by decide) (by decide)

namespace Source

/-- The constants of the table, as their names and keys. -/
def constants (s : Source) : List (String × MessageKey) :=
  s.catalog.keyEntries.map fun entry => (constantName entry.1, entry.2)

/-- The lines of these constants. -/
def constantLines (s : Source) : List String :=
  s.constants.map fun entry => keyLine entry.1 entry.2

/-- Lines that are made one by one stand at the same depth. -/
theorem outlineAll_map_line {α : Type} (depth : Nat) (items : List α) (f : α → String) :
    Code.outlineAll depth (items.map fun item => .line (f item)) =
      items.map fun item => (depth, f item) := by
  induction items with
  | nil => rfl
  | cons item rest ih => exact congrArg _ ih

/-- A text with a character that is not blank is indented. -/
theorem writtenLine_append {front : String} (h : Text.allBlank front = false) (depth : Nat)
    (text : String) :
    Code.writtenLine depth (front ++ text) = Code.indentation depth ++ (front ++ text) := by
  rw [Code.writtenLine, if_neg (by simp [Text.allBlank_append, h])]

/-- The declaration of a constant. -/
def constantText (entry : String × MessageKey) : String :=
  "pub const " ++ entry.1 ++ ": u32 = " ++ hexKey entry.2 ++ ";"

/-- The table as code: a module with a constant for each message. -/
theorem messageKeys_eq (s : Source) :
    s.messageKeys = [.doc "Wire keys of every message in this contract.",
      .block "pub mod message_key" (s.constants.map fun entry => .line (constantText entry))] := by
  rw [constants, List.map_map]
  rfl

/-- The declaration of a constant, as it is written inside the block. -/
theorem writtenLine_constantText (entry : String × MessageKey) :
    Code.writtenLine 1 (constantText entry) = keyLine entry.1 entry.2 := by
  have hlead : Code.indentation 1 ++ "pub const " = "    pub const " := by decide
  have htext : constantText entry =
      "pub const " ++ (entry.1 ++ (": u32 = " ++ (hexKey entry.2 ++ ";"))) := by
    simp only [← String.append_assoc]
    rfl
  rw [htext, writtenLine_append (by decide), ← String.append_assoc, hlead, keyLine_eq]
  simp only [String.append_assoc]

/-- The lines of the table. -/
theorem printed_messageKeys (s : Source) :
    Code.printed (Code.outlineAll 0 s.messageKeys) = keyTable s.constantLines := by
  have hdoc : Code.printed (Code.outline 0 (.doc "Wire keys of every message in this contract.")) =
      ["/// Wire keys of every message in this contract."] := by
    decide
  have hopen : Code.writtenLine 0 (Code.opening "pub mod message_key") =
      "pub mod message_key \x7b" := by
    decide
  have hclose : Code.writtenLine 0 "\x7d" = "\x7d" := by decide
  have hlines : Code.printed
      (Code.outlineAll 1 (s.constants.map fun entry => .line (constantText entry))) =
      s.constantLines := by
    rw [outlineAll_map_line, Code.printed, constantLines, List.map_map]
    simp only [Function.comp_def, writtenLine_constantText]
  calc Code.printed (Code.outlineAll 0 s.messageKeys)
      = Code.printed (Code.outline 0 (.doc "Wire keys of every message in this contract.")) ++
          (Code.writtenLine 0 (Code.opening "pub mod message_key") ::
            (Code.printed
                (Code.outlineAll 1 (s.constants.map fun entry => .line (constantText entry))) ++
              [Code.writtenLine 0 "\x7d"])) := by
        rw [messageKeys_eq]
        simp only [Code.outlineAll, Code.outline, Code.printed, List.map_append, List.map_cons,
          List.map_nil, List.append_nil, List.cons_append]
    _ = keyTable s.constantLines := by
        rw [hdoc, hopen, hclose, hlines]
        rfl

/-- The names in the table have neither a colon nor a line feed. -/
theorem name_of_mem_constants {s : Source} {entry : String × MessageKey}
    (h : entry ∈ s.constants) : ':' ∉ entry.1.toList ∧ '\n' ∉ entry.1.toList := by
  obtain ⟨⟨name, key⟩, -, rfl⟩ := List.mem_map.1 h
  exact not_mem_constantName name

/-- Every constant of the table stands on a line of its own. -/
theorem isLine_of_mem_constantLines {s : Source} {text : String} (h : text ∈ s.constantLines) :
    Text.IsLine text := by
  obtain ⟨entry, hentry, rfl⟩ := List.mem_map.1 h
  exact isLine_keyLine (name_of_mem_constants hentry).2 entry.2

/-- The text of the table. -/
theorem messageKeyText_eq (s : Source) :
    s.messageKeyText = Text.unlines (keyTable s.constantLines) := by
  rw [messageKeyText, Code.sectionText_eq, printed_messageKeys]

/-- What is read off the table are its constants, and nothing off its other lines. -/
theorem readConstants_messageKeyText (s : Source) :
    readConstants s.messageKeyText = s.constants := by
  have hfront : ["/// Wire keys of every message in this contract.",
      "pub mod message_key \x7b"].filterMap readConstant? = [] := by
    decide
  have hclose : ["\x7d"].filterMap readConstant? = [] := by decide
  have hconstants : s.constantLines.filterMap readConstant? = s.constants := by
    rw [constantLines, List.filterMap_map]
    refine (List.filterMap_congr fun entry hentry => ?_).trans List.filterMap_some
    rw [Function.comp_apply]
    exact readConstant?_keyLine (name_of_mem_constants hentry).1 entry.2
  rw [readConstants, messageKeyText_eq, Text.lines_unlines fun text htext =>
      isLine_of_mem_keyTable (fun _ => isLine_of_mem_constantLines) htext,
    keyTable, List.filterMap_append, List.filterMap_append, hfront, hclose, hconstants,
    List.nil_append, List.append_nil]

/-! ## The table in the module -/

/-- A text with a character that is not blank is moved by one level. -/
theorem deeperLine_append {front : String} (h : Text.allBlank front = false) (text : String) :
    Code.deeperLine (front ++ text) = "    " ++ (front ++ text) := by
  rw [Code.deeperLine, if_neg (by simp [Text.allBlank_append, h])]
  rfl

/-- No line of the table is blank. -/
theorem map_deeperLine_keyTable (s : Source) :
    (keyTable s.constantLines).map Code.deeperLine =
      (keyTable s.constantLines).map ("    " ++ ·) := by
  refine List.map_congr_left fun text htext => ?_
  rw [keyTable, List.mem_append, List.mem_append, List.mem_singleton, List.mem_pair] at htext
  rcases htext with ((rfl | rfl) | htext) | rfl
  · decide
  · decide
  · obtain ⟨entry, -, rfl⟩ := List.mem_map.1 htext
    rw [keyLine_eq, String.append_assoc, String.append_assoc, String.append_assoc,
      deeperLine_append (by decide)]
  · decide

/-- The table is an item of the module, with the same lines one level deeper. -/
theorem exists_keyTable_item (s : Source) :
    ∃ item, moduleSection s.messageKeys = [item] ∧
      item.lines = (keyTable s.constantLines).map ("    " ++ ·) := by
  have hsection : Code.sectionText 1 s.messageKeys =
      Text.unlines ((keyTable s.constantLines).map ("    " ++ ·)) := by
    rw [Code.sectionText_eq, Code.printed_outlineAll_succ, printed_messageKeys,
      map_deeperLine_keyTable]
  have hlines : ∀ text ∈ (keyTable s.constantLines).map ("    " ++ ·), Text.IsLine text := by
    refine List.forall_mem_map.2 fun text htext => ?_
    exact (isLine_of_mem_keyTable (fun _ => isLine_of_mem_constantLines) htext).indented
  have hlast : ((keyTable s.constantLines).map ("    " ++ ·)).getLast? = some ("    " ++ "\x7d") := by
    rw [keyTable, List.map_append]
    exact List.getLast?_concat
  have hend : ("    " ++ "\x7d").toList.getLast? = some '\x7d' := by decide
  obtain ⟨item, hitem, hitemLines⟩ := Item.section?_unlines hlines hlast hend (by decide)
  refine ⟨item, ?_, hitemLines⟩
  rw [moduleSection, hsection, hitem]
  rfl

/-- In the module, the lines of the table stand one after the other, one level deeper. -/
theorem exists_keyTable_moduleText (s : Source) :
    ∃ before after, s.moduleText = before ++ "\n" ++
      Text.unlines ((keyTable s.constantLines).map ("    " ++ ·)) ++ after := by
  obtain ⟨item, hitem, hlines⟩ := s.exists_keyTable_item
  have hitems : s.moduleItems = s.moduleLead ++ [item] ++
      (s.parts.tail.flatMap Part.items ++ [.raw "\x7d"]) := by
    rw [moduleItems_eq, ← hitem]
    simp only [parts, List.cons_append, List.nil_append, List.flatMap_cons, List.tail_cons,
      List.append_assoc]
    rfl
  rw [moduleText, hitems, ← hlines]
  exact Item.fileText_around (by simp [moduleLead]) (by simp)

end Source

namespace Compiled

variable {c : Contract} {options : Options} {compiled : Compiled}

/-- The constants of the module are those of the messages, in the order of the catalog. -/
theorem constants_of_messages (h : c.compile options = .ok compiled) {s : Source}
    (hs : s.compiled = compiled) :
    s.constants = compiled.catalog.messages.filterMap fun node =>
      node.key.map fun key => (constantName node.name, key) := by
  have hcatalog : s.catalog = compiled.catalog := by rw [Source.catalog, hs]
  rw [Source.constants, hcatalog, keyEntries_eq h, List.map_filterMap, Catalog.messages,
    List.filterMap_filter]
  congr 1
  funext node
  cases node.key <;> rfl

/-- **The key table can be read back.**  Its text is the documentation, the block and one line for
each message.  Reading the lines gives back the constants and the keys of the messages, by ascending
key.  Whatever the options of the module, it holds the same lines, one after the other and one level
deeper. -/
theorem keyTable_reads_back (h : c.compile options = .ok compiled) :
    let entries := compiled.catalog.messages.filterMap fun node =>
      node.key.map fun key => (constantName node.name, key)
    let table := keyTable (entries.map fun entry => keyLine entry.1 entry.2)
    (entries.map Prod.snd).Pairwise (· < ·) ∧
      ∀ s : Source, s.compiled = compiled →
        s.messageKeyText = Text.unlines table ∧ readConstants s.messageKeyText = entries ∧
        ∃ before after, s.moduleText =
          before ++ "\n" ++ Text.unlines (table.map ("    " ++ ·)) ++ after := by
  intro entries table
  constructor
  · have hkeys : entries.map Prod.snd = compiled.catalog.messages.filterMap Node.key := by
      simp only [entries, List.map_filterMap, Option.map_map, Function.comp_def, Option.map_id']
    rw [hkeys]
    exact messages_keys_pairwise h
  · intro s hs
    have hconstants : s.constants = entries := constants_of_messages h hs
    have htable : keyTable s.constantLines = table := by
      rw [Source.constantLines, hconstants]
    rw [← htable, ← hconstants]
    exact ⟨s.messageKeyText_eq, s.readConstants_messageKeyText, s.exists_keyTable_moduleText⟩

/-- The sample contract with keys of four and of five digits. -/
theorem chat_keyTable_reads_back :
    ∃ compiled, Contract.chat.compile { firstOperationKey := 65534, keySpaceLimit := 70000 } =
        .ok compiled ∧
      (compiled.catalog.messages.any fun node => node.key = some 65536) = true ∧
      ∀ s : Source, s.compiled = compiled → readConstants s.messageKeyText =
        compiled.catalog.messages.filterMap fun node =>
          node.key.map fun key => (constantName node.name, key) := by
  obtain ⟨compiled, h, hcheck⟩ := Contract.exists_compile Contract.chat
    { firstOperationKey := 65534, keySpaceLimit := 70000 }
    (fun compiled => compiled.catalog.messages.any fun node => node.key = some 65536)
    (by decide +kernel)
  exact ⟨compiled, h, hcheck, fun s hs => ((keyTable_reads_back h).2 s hs).2.1⟩

end Compiled

end ServiceContract
