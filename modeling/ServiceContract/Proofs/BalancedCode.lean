import ServiceContract.Proofs.TidySource
import ServiceContract.Source.Literal

/-!
# Balanced code

Code is balanced if reading its brackets changes no stack.  A block is balanced if its header and
its body are, so whole functions of generated code are balanced piece by piece (`balanced_block`,
`allBalanced_separated`), down to lines of text.  The recurring parts of lines are treated here:
lists with commas, quotes, literals and parameters.
-/

namespace ServiceContract

/-- A text without brackets leaves the open ones as they are. -/
theorem scanText_clean {text : String} (h : Clean text) (stack : List Char) :
    scanText stack text = stack := h.balanced stack

/-- A literal whose brackets match each other. -/
theorem balanced_ofList {cs : List Char} (h : ∀ stack, scan stack (cs.filter isBracket) = stack) :
    Balanced (String.ofList cs) := by
  intro stack
  rw [scanText_ofList]
  exact h stack

namespace Code

/-- A piece of code that leaves every stack as it was. -/
def Balanced (code : Code) : Prop := ∀ stack, scan stack code.brackets = stack

/-- Pieces of code that each leave every stack as it was. -/
def AllBalanced (code : List Code) : Prop := ∀ piece ∈ code, piece.Balanced

/-- Reading balanced code leaves the open brackets as they are. -/
theorem AllBalanced.scan {code : List Code} (h : AllBalanced code) (stack : List Char) :
    scan stack (bracketsAll code) = stack := by
  rw [bracketsAll_eq_flatMap]
  exact scan_flatMap h stack

@[simp]
theorem allBalanced_nil : AllBalanced [] := by simp [AllBalanced]

/-- Code is balanced piece by piece. -/
@[simp]
theorem allBalanced_cons {piece : Code} {rest : List Code} :
    AllBalanced (piece :: rest) ↔ piece.Balanced ∧ AllBalanced rest := by
  simp [AllBalanced]

theorem allBalanced_singleton {piece : Code} : AllBalanced [piece] ↔ piece.Balanced := by simp

/-- Code behind code is balanced if both are. -/
@[simp]
theorem allBalanced_append {front back : List Code} :
    AllBalanced (front ++ back) ↔ AllBalanced front ∧ AllBalanced back := by
  simp [AllBalanced, or_imp, forall_and]

/-- Code is read piece by piece. -/
theorem scan_bracketsAll_cons (stack : List Char) (piece : Code) (rest : List Code) :
    scan stack (bracketsAll (piece :: rest)) =
      scan (scan stack piece.brackets) (bracketsAll rest) := by
  rw [bracketsAll, scan_append]

/-- A balanced piece of code may be skipped. -/
theorem scan_skip {piece : Code} {rest : List Code} {stack result : List Char}
    (hpiece : piece.Balanced) (hrest : scan stack (bracketsAll rest) = result) :
    scan stack (bracketsAll (piece :: rest)) = result := by
  rw [scan_bracketsAll_cons, hpiece, hrest]

/-- Pieces that are made one by one. -/
theorem allBalanced_map {α : Type} {f : α → Code} {xs : List α} (h : ∀ x ∈ xs, (f x).Balanced) :
    AllBalanced (xs.map f) := by
  intro piece hpiece
  obtain ⟨x, hx, rfl⟩ := List.mem_map.1 hpiece
  exact h x hx

/-- Pieces that are made in groups. -/
theorem allBalanced_flatMap {α : Type} {f : α → List Code} {xs : List α}
    (h : ∀ x ∈ xs, AllBalanced (f x)) : AllBalanced (xs.flatMap f) := by
  intro piece hpiece
  obtain ⟨x, hx, hpiece⟩ := List.mem_flatMap.1 hpiece
  exact h x hx piece hpiece

theorem balanced_blank : Code.blank.Balanced := fun _ => rfl

/-- A line is as balanced as its text. -/
theorem balanced_line {text : String} (h : ServiceContract.Balanced text) :
    (line text).Balanced := h

/-- So is documentation, whose slashes are no brackets. -/
theorem balanced_doc {text : String} (h : ServiceContract.Balanced text) :
    (doc text).Balanced := h

/-- So is an attribute, whose own brackets match. -/
theorem balanced_attr {text : String} (h : ServiceContract.Balanced text) :
    (attr text).Balanced :=
  ServiceContract.Balanced.between h fun _ => rfl

/-- A block opens a brace behind its header. -/
theorem scanText_opening (stack : List Char) (header : String) :
    scanText stack (opening header) = '\x7b' :: scanText stack header := by
  unfold opening
  split
  · next hempty =>
      rw [String.isEmpty_iff.1 hempty, scanText_clean clean_empty, scanText_ofList]
      rfl
  · rw [scanText_append, scanText_ofList]
    rfl

/-- A block opens a brace behind its header, and its last text has to close it. -/
theorem scan_block (stack : List Char) (header : String) (body : List Code) (close : String) :
    ServiceContract.scan stack (block header body close).brackets =
      scanText (ServiceContract.scan ('\x7b' :: scanText stack header) (bracketsAll body))
        close := by
  rw [brackets, scan_append, scan_append, ← scanText_opening]
  rfl

/-- A block with a balanced header and a balanced body, whose last line closes its brace. -/
theorem balanced_blockClosed {header close : String} {body : List Code}
    (hheader : ServiceContract.Balanced header) (hbody : AllBalanced body)
    (hclose : ∀ stack, scanText ('\x7b' :: stack) close = stack) :
    (block header body close).Balanced := by
  intro stack
  rw [scan_block, hheader, hbody.scan, hclose]

/-- A block that ends with a brace is balanced if its header and its body are. -/
theorem balanced_block {header : String} {body : List Code}
    (hheader : ServiceContract.Balanced header) (hbody : AllBalanced body) :
    (block header body).Balanced := by
  refine balanced_blockClosed hheader hbody fun stack => ?_
  rw [scanText_ofList]
  rfl

/-- Empty lines between pieces have no brackets. -/
theorem allBalanced_separated {pieces : List (List Code)}
    (h : ∀ piece ∈ pieces, AllBalanced piece) : AllBalanced (separated pieces) := by
  unfold separated
  induction pieces with
  | nil => exact allBalanced_nil
  | cons piece rest ih =>
      have hpiece := h piece (by simp)
      have hrest := ih fun p hp => h p (by simp [hp])
      cases rest with
      | nil => simpa using hpiece
      | cons next rest =>
          rw [List.intercalate_cons_cons]
          simpa using ⟨hpiece, balanced_blank, hrest⟩

theorem allBalanced_spaced {pieces : List (List Code)} (h : ∀ piece ∈ pieces, AllBalanced piece) :
    AllBalanced (spaced pieces) :=
  allBalanced_flatMap fun piece hpiece => allBalanced_cons.2 ⟨balanced_blank, h piece hpiece⟩

/-- Documentation that may be missing. -/
theorem allBalanced_docOf {text : Option String}
    (h : ∀ t ∈ text, ServiceContract.Balanced t) : AllBalanced (docOf text) := by
  cases text with
  | none => exact allBalanced_nil
  | some text => exact allBalanced_cons.2 ⟨balanced_doc (h text rfl), allBalanced_nil⟩

end Code

/-! ## Parts of lines -/

/-- Texts with commas between them. -/
theorem balanced_commaList {texts : List String} (h : ∀ text ∈ texts, Balanced text) :
    Balanced (commaList texts) :=
  balanced_intercalate (clean_ofList rfl) h

/-- Quotation marks are no brackets. -/
theorem balanced_quoted {text : String} (h : Balanced text) : Balanced (quoted text) :=
  h.between fun _ => rfl

/-- Braces around a balanced text match each other. -/
theorem balanced_braced {text : String} (h : Balanced text) : Balanced (braced text) :=
  h.between fun _ => rfl

/-- A literal is balanced if its members are; its own braces match. -/
theorem Literal.balanced_text {literal : Literal} (htype : Clean literal.type)
    (hinits : ∀ init ∈ literal.inits, Balanced init.text) : Balanced literal.text := by
  have hlist : Balanced (commaList (literal.inits.map FieldInit.text)) := by
    refine balanced_commaList fun text htext => ?_
    obtain ⟨init, hinit, rfl⟩ := List.mem_map.1 htext
    exact hinits init hinit
  intro stack
  rw [text, scanText_append, scanText_append, scanText_clean htype, balanced_braced hlist,
    scanText_ofList]
  rfl

/-- Setting a member to a balanced value. -/
theorem FieldInit.balanced_set {field value : String} (hfield : Clean field)
    (hvalue : Balanced value) : Balanced (FieldInit.set field value).text := by
  intro stack
  change scanText stack (field ++ ": " ++ value) = stack
  rw [scanText_append, scanText_append, scanText_clean hfield, hvalue, scanText_ofList]
  rfl

/-- A parameter with its type. -/
theorem Binder.balanced_text {binder : Binder} (hname : Clean binder.name)
    (htype : Balanced binder.type) : Balanced binder.text :=
  FieldInit.balanced_set hname htype

/-- How an argument is set, by its own name or from a variable. -/
theorem Param.balanced_init (param : Param) : Balanced param.init.text := by
  unfold init
  split
  · exact param.clean_fieldName.balanced
  · exact FieldInit.balanced_set param.clean_fieldName param.clean_ident.balanced

/-- An argument with its type. -/
theorem Param.balanced_binder {param : Param} (h : param.type.Tidy) :
    Balanced param.binder.text :=
  Binder.balanced_text param.clean_ident h.balanced_spelling

/-- The parameters of a method with a receiver. -/
theorem balanced_methodParams {binders : List Binder}
    (h : ∀ binder ∈ binders, Balanced binder.text) : Balanced (methodParams binders) := by
  refine balanced_commaList fun text htext => ?_
  rcases List.mem_cons.1 htext with rfl | htext
  · exact (clean_ofList rfl).balanced
  · obtain ⟨binder, hbinder, rfl⟩ := List.mem_map.1 htext
    exact h binder hbinder

/-- Variables handed on. -/
theorem clean_forwarded {binders : List Binder} (h : ∀ binder ∈ binders, Clean binder.name) :
    Clean (forwarded binders) := by
  refine clean_intercalate (clean_ofList rfl) fun text htext => ?_
  obtain ⟨binder, hbinder, rfl⟩ := List.mem_map.1 htext
  exact h binder hbinder

namespace Source

/-- The member that holds a result has a converted name. -/
theorem clean_resultField {s : Source} {operation : Nat} {field : String}
    (h : s.resultField? operation = some field) : Clean field := by
  obtain ⟨param, -, rfl⟩ := Option.map_eq_some_iff.1 h
  exact param.clean_fieldName

variable {s : Source} (hs : s.Tidy)

include hs

theorem Tidy.nodeName (id : NodeId) : Clean (s.nodeName id) := s.catalog.clean_name hs.nodes id

theorem Tidy.base : Clean s.base := hs.nodeName messageBase

/-- A name of the library, whose own brackets remain. -/
theorem Tidy.scan_inRuntime (name : String) (stack : List Char) :
    scanText stack (s.inRuntime name) = scanText stack name := by
  rw [inRuntime, scanText_append, scanText_append, scanText_clean hs.runtime, scanText_ofList]
  rfl

/-- The type of a member is spelled with balanced brackets, whether it is declared or built in. -/
theorem Tidy.fieldType {field : Field} (h : field.Tidy) : Balanced (s.fieldType field.type) := by
  cases htype : field.type with
  | declared type => exact (h.type type htype).balanced_spelling
  | faultData marker =>
      exact (hs.nodeName marker).balanced.between fun _ => rfl
  | _ => exact (clean_ofList rfl).balanced

/-- A member with its type. -/
theorem Tidy.fieldBinder {field : Field} (h : field.Tidy) :
    Balanced (s.fieldBinder field).text :=
  Binder.balanced_text (Text.clean_snake _) (hs.fieldType h)

end Source

/-- What every request sets besides its arguments. -/
theorem balanced_requestInits : ∀ init ∈ Source.requestInits, Balanced init.text := by
  intro init hinit
  simp only [Source.requestInits, List.mem_cons, List.not_mem_nil, or_false] at hinit
  rcases hinit with rfl | rfl
  · exact (clean_ofList rfl).balanced
  · exact FieldInit.balanced_set (clean_ofList rfl) (balanced_ofList fun _ => rfl)

end ServiceContract
