import ServiceContract.Identifier

/-!
# Words of plain names

Facts about cutting a name into words that hold for *plain* names, which have only letters and
digits among the first 128 characters.

* `flatten_runWords`: the words of a run, joined again, are the run.
* `runWords_append`: a capitalised suffix starts a new word behind upper or lower case letters.
* `isPlain_of_mem_camelChars`, `camelChars_eq_cons`: an identifier in camel case is a plain name
  that starts with an upper case letter.
* `shoutyChars_append`: so a type name made of an identifier and a capitalised suffix is spelled as
  a constant part by part.
-/

namespace ServiceContract.Text

/-- What holds of the first 128 characters one by one holds of all of them. -/
theorem forall_ascii {P : Char → Prop} (h : ∀ n < 128, P (Char.ofNat n)) {c : Char}
    (hc : c.toNat < 128) : P c := by
  have hP := h c.toNat hc
  rwa [Char.ofNat_toNat] at hP

/-- A letter or digit among the first 128 characters. -/
def IsPlain (c : Char) : Prop := c.toNat < 128 ∧ c.isAlphanum = true

instance (c : Char) : Decidable (IsPlain c) :=
  inferInstanceAs (Decidable (c.toNat < 128 ∧ c.isAlphanum = true))

/-- A literal is checked for plain characters. -/
theorem isPlain_of_all {cs : List Char} (h : (cs.all fun c => decide (IsPlain c)) = true) :
    ∀ c ∈ cs, IsPlain c := by
  simpa using h

/-- A character of a word that is upper or lower case. -/
def IsCased (c : Char) : Prop := isLower c = true ∨ isUpper c = true

/-- A plain character is a letter or a digit. -/
theorem isAlphanumeric_of_isPlain {c : Char} (h : IsPlain c) : isAlphanumeric c = true := by
  simp [isAlphanumeric, h.1, h.2]

/-- Letters and digits stay so in upper case. -/
theorem isPlain_toUpper {c : Char} (h : IsPlain c) : IsPlain c.toUpper :=
  forall_ascii (P := fun c => c.isAlphanum = true → c.toUpper.toNat < 128 ∧
    c.toUpper.isAlphanum = true) (by decide) h.1 h.2

/-- Letters and digits stay so in lower case. -/
theorem isPlain_toLower {c : Char} (h : IsPlain c) : IsPlain c.toLower :=
  forall_ascii (P := fun c => c.isAlphanum = true → c.toLower.toNat < 128 ∧
    c.toLower.isAlphanum = true) (by decide) h.1 h.2

/-- A letter becomes an upper case one. -/
theorem isUpper_toUpper {c : Char} (hascii : c.toNat < 128) (halpha : c.isAlpha = true) :
    isUpper c.toUpper = true :=
  forall_ascii (P := fun c => c.isAlpha = true → isUpper c.toUpper = true) (by decide) hascii halpha

/-- A plain word in lower case, character by character. -/
theorem lowerWord_of_plain {word : List Char} (h : ∀ c ∈ word, IsPlain c) :
    lowerWord word = word.map Char.toLower := by
  induction word with
  | nil => rfl
  | cons c rest ih =>
      have hc := (h c (by simp)).1
      have hsigma : c ≠ 'Σ' := by
        rintro rfl
        exact absurd hc (by decide)
      cases rest with
      | nil => simp [lowerWord, hsigma, toLower, hc]
      | cons d rest =>
          rw [lowerWord, ih fun x hx => h x (by simp [hx])]
          simp [toLower, hc]

/-- A plain word with its first character in upper case. -/
theorem capitalWord_of_plain {c : Char} {rest : List Char} (hc : IsPlain c)
    (hrest : ∀ d ∈ rest, IsPlain d) :
    capitalWord (c :: rest) = c.toUpper :: rest.map Char.toLower := by
  simp [capitalWord, toUpper, hc.1, lowerWord_of_plain hrest]

/-- The words of a run, joined again, are the run. -/
theorem flatten_runWords (stretch : Stretch) (word run : List Char) (h : run ≠ []) :
    (runWords stretch word run).flatten = word.reverse ++ run := by
  fun_induction runWords stretch word run with
  | case1 => exact absurd rfl h
  | case2 => simp
  | case3 stretch word c next rest _ ih => simp [ih (by simp)]
  | case4 stretch word c next rest _ _ ih => simp [ih (by simp)]
  | case5 stretch word c next rest _ _ ih => simp [ih (by simp)]

/-- Characters that are left make at least one word. -/
theorem runWords_ne_nil (stretch : Stretch) (word run : List Char) (h : run ≠ []) :
    runWords stretch word run ≠ [] := by
  intro hnil
  have hflat := flatten_runWords stretch word run h
  rw [hnil, List.flatten_nil] at hflat
  exact h (List.append_eq_nil_iff.1 hflat.symm).2

/-- After a lower case character it does not matter whether the stretch before it was upper case. -/
theorem runWords_fresh_eq_upper {lower : Char} (hlower : isLower lower = true)
    (hupper : isUpper lower = false) (word rest : List Char) :
    runWords .fresh word (lower :: rest) = runWords .upper word (lower :: rest) := by
  cases rest with
  | nil => rfl
  | cons next rest => simp [runWords, Stretch.extend, hlower, hupper]

/-- A stretch goes on, and a character with case starts one. -/
theorem Stretch.extend_ne_fresh {stretch : Stretch} {c : Char}
    (h : stretch ≠ .fresh ∨ IsCased c) : stretch.extend c ≠ .fresh := by
  unfold Stretch.extend
  split
  · simp
  · split
    · simp
    · rcases h with hne | hlower | hupper
      · exact hne
      · contradiction
      · contradiction

section Suffix

variable {upper lower : Char} (hupper : isUpper upper = true) (hupper' : isLower upper = false)
  (hlower : isLower lower = true) (hlower' : isUpper lower = false)

include hupper hupper' hlower hlower'

/-- An upper case character that a lower case one follows starts a word wherever it stands behind a
stretch. -/
theorem runWords_append {stretch : Stretch} {word : List Char} {c : Char} {run : List Char}
    (hstretch : stretch ≠ .fresh ∨ IsCased c) (rest : List Char) :
    runWords stretch word (c :: run ++ upper :: lower :: rest) =
      runWords stretch word (c :: run) ++ runWords .fresh [] (upper :: lower :: rest) := by
  have hnext := Stretch.extend_ne_fresh hstretch
  induction run generalizing stretch word c with
  | nil =>
      by_cases hend : stretch.extend c = .lower
      · simp [runWords, hend, hupper]
      · have hextend : stretch.extend c = .upper := by
          cases hc : stretch.extend c with
          | fresh => exact absurd hc hnext
          | lower => exact absurd hc hend
          | upper => rfl
        -- The suffix ends the upper case stretch that `c` belongs to.
        have hstep : runWords stretch word (c :: upper :: lower :: rest) =
            runWords .upper (c :: word) (upper :: lower :: rest) := by
          rw [runWords, if_neg (by simp [hend]), if_neg (by simp [hupper']), hextend]
        have hcut : runWords .upper (c :: word) (upper :: lower :: rest) =
            (c :: word).reverse :: runWords .fresh [upper] (lower :: rest) := by
          rw [runWords, if_neg (by simp [Stretch.extend, hupper, hupper']),
            if_pos ⟨rfl, hupper, hlower⟩]
        have hsuffix : runWords .fresh [] (upper :: lower :: rest) =
            runWords .fresh [upper] (lower :: rest) := by
          rw [runWords_fresh_eq_upper hlower hlower']
          simp [runWords, Stretch.extend, hupper, hupper']
        rw [hsuffix]
        exact hstep.trans hcut
  | cons next run ih =>
      simp only [List.cons_append] at ih ⊢
      rw [runWords, runWords]
      split
      · next hcut =>
          have hcased : IsCased next := .inr hcut.2
          rw [ih (.inr hcased) (Stretch.extend_ne_fresh (.inr hcased)), List.cons_append]
      · split
        · next hcut =>
            have hcased : IsCased next := .inl hcut.2.2
            rw [ih (.inr hcased) (Stretch.extend_ne_fresh (.inr hcased)), List.cons_append]
        · exact ih (.inl hnext) (Stretch.extend_ne_fresh (.inl hnext))

end Suffix

/-- No word of a run is empty. -/
theorem ne_nil_of_mem_runWords {stretch : Stretch} {word run : List Char}
    (hfresh : word = [] → stretch = .fresh) {w : List Char} (hw : w ∈ runWords stretch word run) :
    w ≠ [] := by
  fun_induction runWords stretch word run with
  | case1 => cases hw
  | case2 stretch word c =>
      rw [List.mem_singleton] at hw
      simp [hw]
  | case3 stretch word c next rest _ ih =>
      rcases List.mem_cons.1 hw with rfl | hw
      · simp
      · exact ih (fun _ => rfl) hw
  | case4 stretch word c next rest _ hcut ih =>
      rcases List.mem_cons.1 hw with rfl | hw
      · intro hnil
        have hstretch := hfresh (List.reverse_eq_nil_iff.1 hnil)
        exact absurd (hstretch.symm.trans hcut.1) (by decide)
      · exact ih (by simp) hw
  | case5 stretch word c next rest _ _ ih => exact ih (by simp) hw

/-- The runs of a name hold its alphanumeric characters. -/
theorem mem_runsFrom {run name : List Char} {r : List Char} (hr : r ∈ runsFrom run name) {c : Char}
    (hc : c ∈ r) : c ∈ run ∨ c ∈ name ∧ isAlphanumeric c = true := by
  induction name generalizing run with
  | nil =>
      rw [runsFrom, List.mem_singleton] at hr
      subst hr
      exact .inl (List.mem_reverse.1 hc)
  | cons d rest ih =>
      rw [runsFrom] at hr
      split at hr
      · next hd =>
          rcases ih hr with hrun | ⟨hrest, halpha⟩
          · rcases List.mem_cons.1 hrun with rfl | hrun
            · exact .inr ⟨by simp, hd⟩
            · exact .inl hrun
          · exact .inr ⟨by simp [hrest], halpha⟩
      · rcases List.mem_cons.1 hr with rfl | hr
        · exact .inl (List.mem_reverse.1 hc)
        · rcases ih hr with hnil | ⟨hrest, halpha⟩
          · cases hnil
          · exact .inr ⟨by simp [hrest], halpha⟩

/-- A word of a name is not empty, and made of alphanumeric characters of the name. -/
theorem mem_words {name w : List Char} (hw : w ∈ words name) :
    w ≠ [] ∧ ∀ c ∈ w, c ∈ name ∧ isAlphanumeric c = true := by
  obtain ⟨run, hrun, hw⟩ := List.mem_flatMap.1 hw
  refine ⟨ne_nil_of_mem_runWords (fun _ => rfl) hw, fun c hc => ?_⟩
  have hne : run ≠ [] := by
    rintro rfl
    cases hw
  have hmem : c ∈ run := by
    have hflat := flatten_runWords .fresh [] run hne
    rw [List.reverse_nil, List.nil_append] at hflat
    rw [← hflat]
    exact List.mem_flatten.2 ⟨w, hw, hc⟩
  rcases mem_runsFrom hrun hmem with hnil | hname
  · cases hnil
  · exact hname

/-- The first run starts with the characters collected so far. -/
theorem runsFrom_eq_cons (run name : List Char) :
    ∃ first rest, runsFrom run name = (run.reverse ++ first) :: rest := by
  induction name generalizing run with
  | nil => exact ⟨[], [], by simp [runsFrom]⟩
  | cons c name ih =>
      rw [runsFrom]
      split
      · obtain ⟨first, rest, hruns⟩ := ih (c :: run)
        exact ⟨c :: first, rest, by simp [hruns]⟩
      · exact ⟨[], runsFrom [] name, by simp⟩

/-- The first word of a name that starts with an alphanumeric character starts with it. -/
theorem words_eq_cons {c : Char} (hc : isAlphanumeric c = true) (name : List Char) :
    ∃ word rest, words (c :: name) = (c :: word) :: rest := by
  obtain ⟨run, runs, hruns⟩ := runsFrom_eq_cons [c] name
  have hwords : words (c :: name) =
      runWords .fresh [] (c :: run) ++ runs.flatMap (runWords .fresh []) := by
    simp [words, runsFrom, hc, hruns]
  have hflat := flatten_runWords .fresh [] (c :: run) (by simp)
  cases hrun : runWords .fresh [] (c :: run) with
  | nil => exact absurd hrun (runWords_ne_nil _ _ _ (by simp))
  | cons w rest =>
      have hne : w ≠ [] := ne_nil_of_mem_runWords (fun _ => rfl) (hrun ▸ List.mem_cons_self)
      cases w with
      | nil => exact absurd rfl hne
      | cons d word =>
          rw [hrun] at hflat hwords
          simp only [List.flatten_cons, List.cons_append, List.reverse_nil, List.nil_append,
            List.cons.injEq] at hflat
          rw [hflat.1] at hwords
          exact ⟨word, _, hwords⟩

/-- A plain name is one run. -/
theorem runsFrom_of_plain {name : List Char} (h : ∀ c ∈ name, IsPlain c) (run : List Char) :
    runsFrom run name = [run.reverse ++ name] := by
  induction name generalizing run with
  | nil => simp [runsFrom]
  | cons c rest ih =>
      rw [runsFrom, if_pos (isAlphanumeric_of_isPlain (h c (by simp))),
        ih fun d hd => h d (by simp [hd])]
      simp

/-- A plain name is a single run of words. -/
theorem words_of_plain {name : List Char} (h : ∀ c ∈ name, IsPlain c) :
    words name = runWords .fresh [] name := by
  simp [words, runsFrom_of_plain h]

section Plain

variable {name : List Char} (hascii : ∀ c ∈ name, c.toNat < 128)

include hascii

/-- The words of a plain name are plain. -/
theorem isPlain_of_mem_words {w : List Char} (hw : w ∈ words name) {c : Char} (hc : c ∈ w) :
    IsPlain c := by
  obtain ⟨hmem, halpha⟩ := (mem_words hw).2 c hc
  have hlt := hascii c hmem
  rw [isAlphanumeric, if_pos hlt] at halpha
  exact ⟨hlt, halpha⟩

/-- An ASCII name in camel case is plain. -/
theorem isPlain_of_mem_camelChars {c : Char} (hc : c ∈ camelChars name) : IsPlain c := by
  obtain ⟨w, hw, hc⟩ := List.mem_flatMap.1 hc
  have hplain : ∀ d ∈ w, IsPlain d := fun d hd => isPlain_of_mem_words hascii hw hd
  cases w with
  | nil => cases hc
  | cons first rest =>
      rw [capitalWord_of_plain (hplain first (by simp)) fun d hd => hplain d (by simp [hd])] at hc
      rcases List.mem_cons.1 hc with rfl | hc
      · exact isPlain_toUpper (hplain first (by simp))
      · obtain ⟨d, hd, rfl⟩ := List.mem_map.1 hc
        exact isPlain_toLower (hplain d (by simp [hd]))

end Plain

/-- In camel case, an ASCII name that starts with a letter starts with an upper case one. -/
theorem camelChars_eq_cons {first : Char} {rest : List Char}
    (hascii : ∀ c ∈ first :: rest, c.toNat < 128) (halpha : first.isAlpha = true) :
    ∃ tail, camelChars (first :: rest) = first.toUpper :: tail := by
  have hfirst : first.toNat < 128 := hascii first (by simp)
  have hplain : IsPlain first := ⟨hfirst, by simp [Char.isAlphanum, halpha]⟩
  obtain ⟨word, words', hwords⟩ := words_eq_cons (isAlphanumeric_of_isPlain hplain) rest
  exact ⟨lowerWord word ++ words'.flatMap capitalWord, by
    simp [camelChars, hwords, capitalWord, toUpper, hfirst]⟩

/-- Lists joined by a separator, in two parts. -/
theorem intercalate_append {sep : List Char} {xs ys : List (List Char)} (hxs : xs ≠ [])
    (hys : ys ≠ []) :
    sep.intercalate (xs ++ ys) = sep.intercalate xs ++ (sep ++ sep.intercalate ys) := by
  induction xs with
  | nil => exact absurd rfl hxs
  | cons x xs ih =>
      cases xs with
      | nil => simp [List.intercalate_cons_of_ne_nil hys]
      | cons y xs =>
          have hrest := ih (by simp)
          rw [List.cons_append] at hrest
          rw [List.cons_append, List.cons_append, List.intercalate_cons_cons, hrest,
            List.intercalate_cons_cons]
          simp

/-- Behind a plain name that starts with an upper case letter, a capitalised suffix keeps its own
words. -/
theorem shoutyChars_append {upper lower first : Char} {name rest : List Char}
    (hname : ∀ c ∈ first :: name, IsPlain c) (hfirst : isUpper first = true)
    (hsuffix : ∀ c ∈ upper :: lower :: rest, IsPlain c)
    (hupper : upper.isUpper = true) (hlower : lower.isLower = true) :
    shoutyChars (first :: name ++ upper :: lower :: rest) =
      shoutyChars (first :: name) ++ '_' :: shoutyChars (upper :: lower :: rest) := by
  have hall : ∀ c ∈ first :: name ++ upper :: lower :: rest, IsPlain c := by
    intro c hc
    rcases List.mem_append.1 hc with hc | hc
    · exact hname c hc
    · exact hsuffix c hc
  have hu : upper.toNat < 128 := (hsuffix upper (by simp)).1
  have hl : lower.toNat < 128 := (hsuffix lower (by simp)).1
  have hu' : upper.isLower = false :=
    forall_ascii (P := fun c => c.isUpper = true → c.isLower = false) (by decide) hu hupper
  have hl' : lower.isUpper = false :=
    forall_ascii (P := fun c => c.isLower = true → c.isUpper = false) (by decide) hl hlower
  have hwords : words (first :: name ++ upper :: lower :: rest) =
      words (first :: name) ++ words (upper :: lower :: rest) := by
    rw [words_of_plain hall, words_of_plain hname, words_of_plain hsuffix]
    exact runWords_append (by simp [isUpper, hu, hupper]) (by simp [isLower, hu, hu'])
      (by simp [isLower, hl, hlower]) (by simp [isUpper, hl, hl']) (.inr (.inr hfirst)) rest
  have hleft : words (first :: name) ≠ [] := by
    rw [words_of_plain hname]
    exact runWords_ne_nil _ _ _ (by simp)
  have hright : words (upper :: lower :: rest) ≠ [] := by
    rw [words_of_plain hsuffix]
    exact runWords_ne_nil _ _ _ (by simp)
  rw [shoutyChars, hwords, List.map_append, intercalate_append (by simpa using hleft)
    (by simpa using hright)]
  simp [shoutyChars]

end ServiceContract.Text

namespace ServiceContract

/-- Only characters of ASCII count as letters and digits here. -/
theorem toNat_lt_of_isAlphanum {c : Char} (h : c.isAlphanum = true) : c.toNat < 128 := by
  change (decide ('A'.val ≤ c.val ∧ c.val ≤ 'Z'.val) ||
    decide ('a'.val ≤ c.val) && decide (c.val ≤ 'z'.val) ||
    decide ('0'.val ≤ c.val) && decide (c.val ≤ '9'.val)) = true at h
  simp only [Bool.or_eq_true, Bool.and_eq_true, decide_eq_true_eq, UInt32.le_iff_toNat_le] at h
  change ((65 ≤ c.toNat ∧ c.toNat ≤ 90) ∨ (97 ≤ c.toNat ∧ c.toNat ≤ 122)) ∨
    (48 ≤ c.toNat ∧ c.toNat ≤ 57) at h
  omega

/-- An identifier is a letter and then letters, digits and underscores. -/
theorem isIdentifier_eq_true {name : String} (h : isIdentifier name = true) :
    ∃ first rest, name.toList = first :: rest ∧ first.isAlpha = true ∧
      ∀ c ∈ rest, c.isAlphanum = true ∨ c = '_' := by
  unfold isIdentifier at h
  split at h
  · cases h
  · next first rest hname =>
      rw [Bool.and_eq_true, List.all_eq_true] at h
      refine ⟨first, rest, hname, h.1, fun c hc => ?_⟩
      simpa using h.2 c hc

/-- The characters of an identifier are ASCII. -/
theorem toNat_lt_of_isIdentifier {name : String} (h : isIdentifier name = true) {c : Char}
    (hc : c ∈ name.toList) : c.toNat < 128 := by
  obtain ⟨first, rest, hname, hfirst, hrest⟩ := isIdentifier_eq_true h
  rw [hname] at hc
  rcases List.mem_cons.1 hc with rfl | hc
  · exact toNat_lt_of_isAlphanum (by simp [Char.isAlphanum, hfirst])
  · rcases hrest c hc with halnum | rfl
    · exact toNat_lt_of_isAlphanum halnum
    · decide

end ServiceContract
