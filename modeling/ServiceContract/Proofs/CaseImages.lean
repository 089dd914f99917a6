import ServiceContract.Proofs.Words

/-!
# The plain part of a converted name

A name may hold letters of any script, and the other case of a letter beyond ASCII may be a plain
letter (the Kelvin sign becomes `k`), or several characters.  It is never another ASCII character.
So whatever name it is given, a conversion to snake, shouty or camel case has no ASCII characters
but letters and digits, and the underscores between words: it is made of characters with any
property that these have, and that nothing beyond ASCII lacks (`madeOf_snake`, `madeOf_shouty`,
`madeOf_camel`).
-/

namespace ServiceContract.Text

/-- A character that is plain if it is ASCII. -/
def PlainIfAscii (c : Char) : Prop := c.toNat < 128 → IsPlain c

instance (c : Char) : Decidable (PlainIfAscii c) :=
  inferInstanceAs (Decidable (c.toNat < 128 → IsPlain c))

/-- Of the first 128 characters, the alphanumeric ones are the letters and the digits. -/
theorem plainIfAscii_of_isAlphanumeric {c : Char} (h : isAlphanumeric c = true) :
    PlainIfAscii c := by
  intro hascii
  rw [isAlphanumeric, if_pos hascii] at h
  exact ⟨hascii, h⟩

/-- Tables of case mappings whose images are plain if they are ASCII. -/
structure PlainImages (sequences : List (Nat × List Nat))
    (runs : List (Nat × Nat × Nat × Nat)) : Prop where
  sequences : ∀ entry ∈ sequences, ∀ code ∈ entry.2, PlainIfAscii (Char.ofNat code)
  runs : ∀ run ∈ runs, ∀ offset < run.2.1 - run.1 + 1,
    PlainIfAscii (Char.ofNat (run.2.2.2 + offset))

/-- The table of lower case letters, checked entry by entry. -/
theorem plainImages_lower : PlainImages lowerMapSequences lowerMapRuns :=
  ⟨by decide +kernel, by decide +kernel⟩

/-- The table of upper case letters, checked entry by entry. -/
theorem plainImages_upper : PlainImages upperMapSequences upperMapRuns :=
  ⟨by decide +kernel, by decide +kernel⟩

/-- What a checked table gives for a character beyond the first 128 is a letter or a digit whenever
it is one of them. -/
theorem PlainImages.of_mem_mapByTables {sequences : List (Nat × List Nat)}
    {runs : List (Nat × Nat × Nat × Nat)} (h : PlainImages sequences runs) {c d : Char}
    (hc : ¬ c.toNat < 128) (hd : d ∈ mapByTables sequences runs c) : PlainIfAscii d := by
  unfold mapByTables at hd
  split at hd
  · next codes hcodes =>
      obtain ⟨code, hcode, rfl⟩ := List.mem_map.1 hd
      obtain ⟨before, after, hsplit, -⟩ := List.lookup_eq_some_iff.1 hcodes
      exact h.sequences (c.toNat, codes) (by simp [hsplit]) code hcode
  · rw [List.mem_singleton] at hd
    subst hd
    unfold mapByRuns
    split
    · next run hrun =>
        have hin := List.find?_some hrun
        simp only [inRun, Bool.and_eq_true, decide_eq_true_eq] at hin
        exact h.runs run (List.mem_of_find?_eq_some hrun) _ (by omega)
    · rw [Char.ofNat_toNat]
      exact fun hascii => absurd hascii hc

/-- Lower case never brings in a new character of the first 128 but a letter or a digit. -/
theorem plainIfAscii_of_mem_toLower {c d : Char} (hc : isAlphanumeric c = true)
    (hd : d ∈ toLower c) : PlainIfAscii d := by
  unfold toLower at hd
  split at hd
  · next hascii =>
      rw [List.mem_singleton] at hd
      subst hd
      exact fun _ => isPlain_toLower (plainIfAscii_of_isAlphanumeric hc hascii)
  · next hascii => exact plainImages_lower.of_mem_mapByTables hascii hd

theorem plainIfAscii_of_mem_toUpper {c d : Char} (hc : isAlphanumeric c = true)
    (hd : d ∈ toUpper c) : PlainIfAscii d := by
  unfold toUpper at hd
  split at hd
  · next hascii =>
      rw [List.mem_singleton] at hd
      subst hd
      exact fun _ => isPlain_toUpper (plainIfAscii_of_isAlphanumeric hc hascii)
  · next hascii => exact plainImages_upper.of_mem_mapByTables hascii hd

section Word

variable {word : List Char} (hword : ∀ c ∈ word, isAlphanumeric c = true)

include hword

/-- A word in lower case, character by character. -/
theorem plainIfAscii_of_mem_lowerWord {d : Char} (hd : d ∈ lowerWord word) : PlainIfAscii d := by
  fun_induction lowerWord word with
  | case1 => cases hd
  | case2 =>
      rw [List.mem_singleton] at hd
      subst hd
      decide
  | case3 c _ => exact plainIfAscii_of_mem_toLower (hword c (by simp)) hd
  | case4 c d rest ih =>
      rcases List.mem_append.1 hd with hd | hd
      · exact plainIfAscii_of_mem_toLower (hword c (by simp)) hd
      · exact ih (fun x hx => hword x (by simp [hx])) hd

/-- A word in upper case, character by character. -/
theorem plainIfAscii_of_mem_upperWord {d : Char} (hd : d ∈ upperWord word) : PlainIfAscii d := by
  obtain ⟨c, hc, hd⟩ := List.mem_flatMap.1 hd
  exact plainIfAscii_of_mem_toUpper (hword c hc) hd

/-- A capitalised word is its first character in upper case and the others in lower case. -/
theorem plainIfAscii_of_mem_capitalWord {d : Char} (hd : d ∈ capitalWord word) :
    PlainIfAscii d := by
  cases word with
  | nil => cases hd
  | cons c rest =>
      rcases List.mem_append.1 hd with hd | hd
      · exact plainIfAscii_of_mem_toUpper (hword c (by simp)) hd
      · exact plainIfAscii_of_mem_lowerWord (fun x hx => hword x (by simp [hx])) hd

end Word

/-- A character of lists that are joined by a separator. -/
theorem mem_intercalate {sep : List Char} {parts : List (List Char)} {c : Char}
    (h : c ∈ sep.intercalate parts) : c ∈ sep ∨ ∃ part ∈ parts, c ∈ part := by
  induction parts with
  | nil => cases h
  | cons part parts ih =>
      cases parts with
      | nil => exact .inr ⟨part, by simp, by simpa using h⟩
      | cons next parts =>
          rw [List.intercalate_cons_cons, List.mem_append, List.mem_append] at h
          rcases h with (hpart | hsep) | hrest
          · exact .inr ⟨part, by simp, hpart⟩
          · exact .inl hsep
          · rcases ih hrest with hsep | ⟨other, hother, hc⟩
            · exact .inl hsep
            · exact .inr ⟨other, by simp [hother], hc⟩

/-! ## Texts made of some characters -/

/-- All characters of a text have a property. -/
def MadeOf (P : Char → Prop) (text : String) : Prop := ∀ c ∈ text.toList, P c

section MadeOf

variable {P : Char → Prop}

theorem madeOf_empty : MadeOf P "" := fun _ hc => by cases hc

/-- A literal is made of its characters. -/
theorem madeOf_ofList {cs : List Char} (h : ∀ c ∈ cs, P c) : MadeOf P (String.ofList cs) := by
  intro c hc
  rw [String.toList_ofList] at hc
  exact h c hc

theorem MadeOf.append {a b : String} (ha : MadeOf P a) (hb : MadeOf P b) : MadeOf P (a ++ b) := by
  intro c hc
  rw [String.toList_append, List.mem_append] at hc
  exact hc.elim (ha c) (hb c)

/-- A joined text is made of its parts and of what stands between them. -/
theorem madeOf_intercalate {sep : String} (hsep : MadeOf P sep) {texts : List String}
    (h : ∀ text ∈ texts, MadeOf P text) : MadeOf P (sep.intercalate texts) := by
  intro c hc
  rw [String.toList_intercalate] at hc
  rcases mem_intercalate hc with hc | ⟨part, hpart, hc⟩
  · exact hsep c hc
  · obtain ⟨text, htext, rfl⟩ := List.mem_map.1 hpart
    exact h text htext c hc

section Plain

variable (hplain : ∀ c, PlainIfAscii c → P c)

include hplain

/-- A literal of letters and digits. -/
theorem madeOf_plain {cs : List Char} (h : (cs.all fun c => decide (IsPlain c)) = true) :
    MadeOf P (String.ofList cs) :=
  madeOf_ofList fun c hc => hplain c fun _ => isPlain_of_all h c hc

/-- A number is made of digits. -/
theorem madeOf_toString (n : Nat) : MadeOf P (toString n) := by
  rw [Nat.toString_eq_ofList_toDigits]
  refine madeOf_ofList fun c hc => hplain c fun hascii => ⟨hascii, ?_⟩
  have hdigit := Nat.isDigit_of_mem_toDigits (by decide : 0 < 10) (Nat.le_refl _) hc
  simp [Char.isAlphanum, hdigit]

/-- **Camel case** is made of plain characters and of such beyond the first 128. -/
theorem madeOf_camel (name : String) : MadeOf P (camel name) := by
  refine madeOf_ofList fun c hc => hplain c ?_
  obtain ⟨w, hw, hc⟩ := List.mem_flatMap.1 hc
  exact plainIfAscii_of_mem_capitalWord (fun d hd => ((mem_words hw).2 d hd).2) hc

/-- Words joined by underscores. -/
theorem madeOf_joined (hunderscore : P '_') {name : List Char} {f : List Char → List Char}
    (hf : ∀ word, (∀ c ∈ word, isAlphanumeric c = true) → ∀ d ∈ f word, PlainIfAscii d) :
    MadeOf P (String.ofList (['_'].intercalate ((words name).map f))) := by
  refine madeOf_ofList fun c hc => ?_
  rcases mem_intercalate hc with hc | ⟨word, hword, hc⟩
  · exact List.mem_singleton.1 hc ▸ hunderscore
  · obtain ⟨w, hw, rfl⟩ := List.mem_map.1 hword
    exact hplain c (hf w (fun d hd => ((mem_words hw).2 d hd).2) c hc)

/-- Snake case has underscores besides. -/
theorem madeOf_snake (hunderscore : P '_') (name : String) : MadeOf P (snake name) :=
  madeOf_joined hplain hunderscore fun _ hword _ hd => plainIfAscii_of_mem_lowerWord hword hd

/-- So has upper case with underscores. -/
theorem madeOf_shouty (hunderscore : P '_') (name : String) : MadeOf P (shouty name) :=
  madeOf_joined hplain hunderscore fun _ hword _ hd => plainIfAscii_of_mem_upperWord hword hd

end Plain

end MadeOf

end ServiceContract.Text
