import ServiceContract.Proofs.CallerBrackets
import ServiceContract.Proofs.HandlerBrackets
import ServiceContract.Source.Module

/-!
# Brackets of the generated module

Every section of the module is balanced but one.  A table of constants is a block whose header ends
with a square bracket and whose last line closes only that bracket, so the brace of the block stays
open (`scan_constantTable`).  An adapter has two such tables, and the brace that should close the
adapter meets the square bracket of the second one.

A module has an adapter for each serializer in use, of which there is always one.  Hence no module
is properly nested, and the brackets that are left over are known from the number of serializers
(`unmatched_moduleText`).
-/

namespace ServiceContract

open Code

namespace Source

/-- The brackets that a table of constants leaves unmatched. -/
def tableRest : List Char := ['[', '\x7b', ']']

/-- The brackets that an adapter leaves unmatched. -/
def adapterRest : List Char := '\x7b' :: (tableRest ++ tableRest ++ ['\x7d'])

/-! ## Tables -/

/-- The entry of a member is a pair of its tag and its name. -/
theorem balanced_memberEntry {member : UnionMember} (h : Clean member.name) :
    Balanced member.entry := by
  intro stack
  simp only [UnionMember.entry, scanText_append, scanText_clean (clean_toString member.tag),
    scanText_balanced (balanced_quoted h.balanced)]
  repeat rw [scanText_ofList]
  rfl

/-- The entries of a union. -/
theorem balanced_memberEntries {union : Union} (h : union.Tidy) :
    ∀ text ∈ union.members.map UnionMember.entry, Balanced text := by
  intro text htext
  obtain ⟨member, hmember, rfl⟩ := List.mem_map.1 htext
  exact balanced_memberEntry (h.members member hmember)

/-- The entry of a union as a whole. -/
theorem balanced_unionEntry {union : Union} (h : union.Tidy) : Balanced union.entry := by
  have hmembers := balanced_commaList (balanced_memberEntries h)
  intro stack
  simp only [Union.entry, scanText_append, scanText_balanced hmembers,
    scanText_balanced (balanced_quoted h.name.balanced)]
  repeat rw [scanText_ofList]
  rfl

/-- A table of constants never closes its brace. -/
theorem scan_constantTable {header : String} {entries : List String}
    (hheader : ∀ stack, scanText stack header = '[' :: stack)
    (hentries : ∀ entry ∈ entries, Balanced entry) (stack : List Char) :
    scan stack (constantTable header entries).brackets = tableRest.reverse ++ stack := by
  have hlines : AllBalanced (entries.map fun entry => Code.line (entry ++ ",")) :=
    allBalanced_map fun entry hentry =>
      balanced_line ((hentries entry hentry).append (clean_ofList rfl).balanced)
  rw [constantTable, scan_block, hheader, hlines.scan, scanText_ofList]
  rfl

section Tidy

variable {s : Source} (hs : s.Tidy)

include hs

/-- What an adapter leaves unmatched. -/
theorem Tidy.scan_adapter {adapter : Adapter} (h : adapter.Tidy) (stack : List Char) :
    scan stack (bracketsAll (s.adapter adapter)) = adapterRest.reverse ++ stack := by
  have hidentity := adapter.serializer.clean_identity
  have hspelling : Clean adapter.serializer.spelling :=
    Clean.append (clean_ofList rfl) adapter.serializer.clean_typeName
  have hbase := h.messageUnion.name
  have hmessages := balanced_memberEntries h.messageUnion
  have hfaults : ∀ entry ∈ adapter.faultUnions.map Union.entry, Balanced entry := by
    intro entry hentry
    obtain ⟨union, hunion, rfl⟩ := List.mem_map.1 hentry
    exact balanced_unionEntry (h.faultUnions union hunion)
  have himpl : Balanced ("impl " ++ s.inRuntime "SerializerAdapter for " ++ adapter.name) := by
    intro stack
    simp only [scanText_append, hs.scan_inRuntime, scanText_clean h.name]
    repeat rw [scanText_ofList]
    rfl
  -- the last brace finds the square bracket of the second table on top
  have hclose : scanText (tableRest.reverse ++ (tableRest.reverse ++ '\x7b' :: stack)) "\x7d" =
      adapterRest.reverse ++ stack := by
    rw [scanText_ofList]
    rfl
  unfold Source.adapter
  dsimp only
  refine scan_skip (balanced_doc fun stack => ?_) (scan_skip
    (balanced_line (h.name.balanced.between fun _ => rfl)) (scan_skip balanced_blank ?_))
  · simp only [scanText_append, scanText_clean hidentity, scanText_clean hs.contractName]
    repeat rw [scanText_ofList]
    rfl
  rw [scan_bracketsAll_cons, allBalanced_nil.scan, scan_block, himpl, ← hclose]
  refine congrArg (scanText · "\x7d") ?_
  refine scan_skip (balanced_line (hbase.balanced.between fun _ => rfl)) (scan_skip
    (balanced_line (hspelling.balanced.between fun _ => rfl)) (scan_skip balanced_blank
    (scan_skip (balanced_doc (balanced_ofList fun _ => rfl)) ?_)))
  rw [scan_bracketsAll_cons, scan_constantTable (fun stack => ?_) hmessages]
  · refine scan_skip balanced_blank (scan_skip (balanced_doc (balanced_ofList fun _ => rfl)) ?_)
    rw [scan_bracketsAll_cons, scan_constantTable (fun stack => ?_) hfaults]
    · refine scan_skip balanced_blank (scan_skip (balanced_block (fun stack => ?_)
        (allBalanced_singleton.2 (balanced_line fun stack => ?_))) (scan_skip balanced_blank
        (scan_skip (balanced_block (fun stack => ?_)
          (allBalanced_singleton.2 (balanced_line fun stack => ?_))) rfl)))
      all_goals
        simp only [scanText_append, hs.scan_inRuntime, scanText_clean hbase,
          scanText_clean hidentity]
        repeat rw [scanText_ofList]
        rfl
    · rw [scanText_ofList]
      rfl
  · rw [scanText_ofList]
    rfl

/-- The error that names a serializer and the contract it is not configured for. -/
theorem Tidy.notConfigured {requested : String} (h : Clean requested) :
    Balanced (s.notConfigured requested) := by
  have hfields : Balanced (braced ("requested: " ++ requested ++ ", contract: " ++
      quoted s.contractName)) :=
    balanced_braced (Balanced.append (h.balanced.between fun _ => rfl)
      (balanced_quoted hs.contractName.balanced))
  intro stack
  simp only [Source.notConfigured, scanText_append, hs.scan_inRuntime, scanText_balanced hfields]
  repeat rw [scanText_ofList]
  rfl

/-- The chooser is balanced. -/
theorem Tidy.chooserType : AllBalanced (s.chooser s.compiled.binding) := by
  have hname := hs.chooser
  have hspelling : ∀ serializer : Serializer, Clean serializer.spelling := fun serializer =>
    Clean.append (clean_ofList rfl) serializer.clean_typeName
  have hconfigured : Clean
      (commaList (s.compiled.binding.chooser.configured.map Serializer.spelling)) := by
    refine clean_intercalate (clean_ofList rfl) fun text htext => ?_
    obtain ⟨serializer, -, rfl⟩ := List.mem_map.1 htext
    exact hspelling serializer
  simp only [Source.chooser, allBalanced_cons, allBalanced_nil, and_true]
  refine ⟨balanced_doc (hs.contractName.balanced.between fun _ => rfl),
    balanced_line (hname.balanced.between fun _ => rfl), balanced_blank,
    balanced_block (Clean.append (clean_ofList rfl) hname).balanced ?_⟩
  simp only [allBalanced_cons, allBalanced_nil, and_true]
  refine ⟨balanced_line (hconfigured.balanced.between fun _ => rfl),
    balanced_line ((hspelling _).balanced.between fun _ => rfl), balanced_blank,
    balanced_doc (balanced_ofList fun _ => rfl), balanced_block (fun stack => ?_) ?_,
    balanced_blank, balanced_block (fun stack => ?_) (allBalanced_singleton.2
      (balanced_matchBlock (balanced_ofList fun _ => rfl) fun arm harm => ?_))⟩
  · simp only [scanText_append, hs.scan_inRuntime]
    repeat rw [scanText_ofList]
    rfl
  · simp only [allBalanced_cons, allBalanced_nil, and_true]
    exact ⟨balanced_line (balanced_ofList fun _ => rfl),
      balanced_block (balanced_ofList fun _ => rfl) (allBalanced_singleton.2
        (balanced_line ((hs.notConfigured (clean_ofList rfl)).between fun _ => rfl))),
      balanced_line (balanced_ofList fun _ => rfl)⟩
  · simp only [scanText_append, hs.scan_inRuntime, scanText_clean hs.base]
    repeat rw [scanText_ofList]
    rfl
  · rcases List.mem_append.1 harm with harm | harm
    · obtain ⟨adapter, hadapter, rfl⟩ := List.mem_map.1 harm
      intro stack
      simp only [scanText_append, scanText_clean (hspelling adapter.serializer),
        scanText_clean (hs.adapters adapter hadapter).name]
      repeat rw [scanText_ofList]
      rfl
    · obtain rfl := List.mem_singleton.1 harm
      exact (hs.notConfigured (clean_ofList rfl)).between fun _ => rfl

/-- The serializers leave unmatched what their adapters do. -/
theorem Tidy.scan_serializers (stack : List Char) :
    scan stack (bracketsAll s.serializers) =
      (s.compiled.binding.adapters.flatMap fun _ => adapterRest).reverse ++ stack := by
  have hadapters : ∀ adapters : List Adapter, (∀ adapter ∈ adapters, adapter.Tidy) → ∀ stack,
      scan stack (bracketsAll (adapters.flatMap fun adapter => s.adapter adapter ++ [.blank])) =
        (adapters.flatMap fun _ => adapterRest).reverse ++ stack := by
    intro adapters h
    induction adapters with
    | nil => exact fun _ => rfl
    | cons adapter adapters ih =>
        intro stack
        have hrest := ih fun other hother => h other (by simp [hother])
        rw [List.flatMap_cons, bracketsAll_append, bracketsAll_append, scan_append, scan_append,
          hs.scan_adapter (h adapter (by simp)), (allBalanced_singleton.2 balanced_blank).scan,
          hrest]
        simp
  rw [serializers, bracketsAll_append, scan_append, hadapters _ hs.adapters, hs.chooserType.scan]

end Tidy

/-! ## The module -/

/-- A section has the brackets of its code, also if it is left out. -/
theorem flatMap_moduleSection (code : List Code) :
    (moduleSection code).flatMap Item.brackets = bracketsAll code := by
  rw [moduleSection, Item.section?, ← brackets_sectionText 1, ← brackets_trimEnd]
  split
  · next hempty =>
      rw [String.isEmpty_iff.1 hempty, brackets_empty]
      rfl
  · simp [Item.brackets]

/-- A section of balanced code leaves no bracket open. -/
theorem scan_moduleSection {code : List Code} (h : AllBalanced code) (stack : List Char) :
    scan stack ((moduleSection code).flatMap Item.brackets) = stack := by
  rw [flatMap_moduleSection, h.scan]

/-- The slashes before documentation of a module have no brackets. -/
theorem clean_innerDocLine {line : String} (h : Clean line) : Clean (innerDocLine line) := by
  have htrimmed : Clean (Text.trimEnd line) := by rw [Clean, brackets_trimEnd, h]
  unfold innerDocLine
  dsimp only
  split
  · exact Clean.append (clean_ofList rfl) clean_empty
  · exact Clean.append (clean_ofList rfl) (Clean.append (clean_ofList rfl) htrimmed)

/-- A line of a clean text is clean. -/
theorem clean_of_mem_lines {text line : String} (h : Clean text) (hline : line ∈ Text.lines text) :
    Clean line := by
  have hlines : (Text.lines text).flatMap brackets = [] := by rw [flatMap_lines, h]
  exact List.flatMap_eq_nil_iff.1 hlines line hline

/-- Clean texts in a row are clean. -/
theorem clean_join {texts : List String} (h : ∀ text ∈ texts, Clean text) :
    Clean (String.join texts) := by
  induction texts with
  | nil => exact clean_empty
  | cons text texts ih =>
      rw [String.join_cons]
      exact (h text (by simp)).append (ih fun other hother => h other (by simp [hother]))

section Tidy

variable {s : Source} (hs : s.Tidy)

include hs

/-- The header of the module opens its brace. -/
theorem Tidy.scan_moduleHeader (stack : List Char) :
    scanText stack s.moduleHeader = '\x7b' :: stack := by
  have hdoc : Clean (s.compiled.contract.doc.getD "") := by
    cases hdoc : s.compiled.contract.doc with
    | none => exact clean_empty
    | some doc => exact hs.contractDoc doc hdoc
  have hlines : Clean (String.join
      ((Text.lines (s.compiled.contract.doc.getD "")).map innerDocLine)) := by
    refine clean_join fun text htext => ?_
    obtain ⟨line, hline, rfl⟩ := List.mem_map.1 htext
    exact clean_innerDocLine (clean_of_mem_lines hdoc hline)
  unfold Source.moduleHeader
  dsimp only
  rw [scanText_append, scanText_clean hlines, scanText_append, scanText_append,
    scanText_clean (Text.clean_snake _), scanText_ofList, scanText_ofList]
  rfl

/-- The imports leave no bracket open. -/
theorem Tidy.scan_imports (stack : List Char) :
    scan stack (s.imports.flatMap Item.brackets) = stack := by
  refine scan_flatMap (fun item hitem stack => ?_) stack
  simp only [Source.imports, List.mem_cons, List.not_mem_nil, or_false] at hitem
  rcases hitem with rfl | rfl
  · change scanText stack _ = stack
    simp only [scanText_append, hs.scan_inRuntime]
    repeat rw [scanText_ofList]
    rfl
  · change scanText stack _ = stack
    simp only [scanText_append, hs.scan_inRuntime]
    repeat rw [scanText_ofList]
    rfl

theorem Tidy.scan_dispatchItems {plan : DispatchPlan} (h : plan.Tidy s) (stack : List Char) :
    scan stack ((s.dispatchItems plan).flatMap Item.brackets) = stack := by
  have hcode : ∀ {code : List Code}, AllBalanced code → ∀ stack,
      scan stack ([Item.code code].flatMap Item.brackets) = stack := by
    intro code hcode stack
    rw [List.flatMap_singleton]
    exact hcode.scan stack
  simp only [Source.dispatchItems, List.flatMap_append, scan_append,
    scan_moduleSection (hs.inboundType h), hcode (hs.handlerTrait h),
    scan_moduleSection (allBalanced_dispatcherType h), hcode (hs.dispatcherImpl h)]

/-- What stands before the serializers leaves the brace of the module open. -/
theorem Tidy.scan_moduleFront :
    ∃ front, s.moduleItems = front ++ moduleSection s.serializers ++ [.raw "\x7d"] ∧
      ∀ stack, scan stack (front.flatMap Item.brackets) = '\x7b' :: stack := by
  have htitle : ∀ stack, scan stack
      (List.flatMap Item.brackets [.raw "// @generated by pact-codegen",
        .raw "// DO NOT EDIT - regenerate with build.rs\n", .raw s.moduleHeader]) =
      '\x7b' :: stack := by
    intro stack
    have hfirst : Clean "// @generated by pact-codegen" := clean_ofList rfl
    have hsecond : Clean "// DO NOT EDIT - regenerate with build.rs\n" := clean_ofList rfl
    simp only [List.flatMap_cons, List.flatMap_nil, List.append_nil, Item.brackets, scan_append]
    change scanText (scanText (scanText stack _) _) _ = _
    rw [scanText_clean hfirst, scanText_clean hsecond, hs.scan_moduleHeader]
  have hcallbacks : ∀ stack, scan stack ((if s.compiled.callbackDispatch.isEmpty then []
      else s.dispatchItems s.compiled.callbackDispatch).flatMap Item.brackets) = stack := by
    intro stack
    split
    · rfl
    · exact hs.scan_dispatchItems (hs.plans .client) stack
  have hproxy : ∀ stack, scan stack ((if s.compiled.callbackProxy.isEmpty then []
      else moduleSection (s.surface s.compiled.callbackProxy)).flatMap Item.brackets) = stack := by
    intro stack
    split
    · rfl
    · exact scan_moduleSection (hs.surface (hs.surfaces .server)) stack
  have hserver : s.compiled.serverDispatch.Tidy s := hs.plans .server
  have hclient : s.compiled.client.Tidy s := hs.surfaces .client
  refine ⟨_, rfl, fun stack => ?_⟩
  simp only [List.flatMap_append, scan_append, htitle, hs.scan_imports,
    scan_moduleSection s.allBalanced_messageKeys, scan_moduleSection hs.messageTypes,
    scan_moduleSection hs.faultUnions, scan_moduleSection hs.messageBaseUnion,
    hs.scan_dispatchItems hserver, hcallbacks, scan_moduleSection (hs.surface hclient), hproxy,
    scan_moduleSection hs.prebuildFunctions]

end Tidy

end Source

/-! ## Nesting -/

namespace Source

/-- A closing brace after some adapters finds a closing brace on top. -/
theorem scan_brace_adapters {adapters : List Adapter} (h : adapters ≠ []) (stack : List Char) :
    scan ((adapters.flatMap fun _ => adapterRest).reverse ++ stack) ['\x7d'] =
      '\x7d' :: ((adapters.flatMap fun _ => adapterRest).reverse ++ stack) := by
  obtain ⟨front, last, rfl⟩ := (List.eq_nil_or_concat' adapters).resolve_left h
  simp only [List.flatMap_append, List.flatMap_singleton, List.reverse_append]
  rfl

/-- The last item closes the module. -/
theorem flatMap_lastItem : List.flatMap Item.brackets [.raw "\x7d"] = ['\x7d'] := by
  rw [List.flatMap_singleton]
  exact brackets_ofList _

/-- The unmatched brackets of a module with adapters. -/
theorem Tidy.unmatched_eq {s : Source} (hs : s.Tidy) (h : s.compiled.binding.adapters ≠ []) :
    unmatched s.moduleText =
      '\x7b' :: (s.compiled.binding.adapters.flatMap fun _ => adapterRest) ++ ['\x7d'] := by
  obtain ⟨front, hitems, hfront⟩ := hs.scan_moduleFront
  rw [unmatched, scanText, moduleText, Item.brackets_fileText, hitems, List.flatMap_append,
    List.flatMap_append, scan_append, scan_append, hfront, flatMap_moduleSection,
    hs.scan_serializers, flatMap_lastItem, scan_brace_adapters h]
  simp

/-- **Brackets of the module.**  Without the section of the serializers the module is properly
nested.  With it the module never is: each serializer in use leaves open the braces of two tables,
and so the braces of its adapter and of the module are not matched either. -/
theorem unmatched_moduleText {c : Contract} {options : Options} {s : Source}
    (h : c.compile options = .ok s.compiled) (hfree : c.BracketFree) (hruntime : Clean s.runtime) :
    (∃ front, s.moduleItems = front ++ moduleSection s.serializers ++ [.raw "\x7d"] ∧
      Nested (brackets (Item.fileText (front ++ [.raw "\x7d"])))) ∧
    unmatched s.moduleText =
      '\x7b' :: (c.serializersInUse.flatMap fun _ => adapterRest) ++ ['\x7d'] ∧
    ¬Nested (brackets s.moduleText) := by
  have hs := Compiled.tidy h hfree hruntime
  have hadapters := Contract.compile_adapters h
  have hunmatched : unmatched s.moduleText =
      '\x7b' :: (c.serializersInUse.flatMap fun _ => adapterRest) ++ ['\x7d'] := by
    have hne : s.compiled.binding.adapters ≠ [] := by
      rw [hadapters, Ne, List.map_eq_nil_iff]
      exact c.serializersInUse_ne_nil
    rw [hs.unmatched_eq hne, hadapters, List.flatMap_map]
  obtain ⟨front, hitems, hfront⟩ := hs.scan_moduleFront
  refine ⟨⟨front, hitems, ?_⟩, hunmatched, ?_⟩
  · rw [Item.brackets_fileText, nested_iff_scan, List.flatMap_append, scan_append, hfront,
      flatMap_lastItem]
    rfl
  · rw [nested_iff_unmatched, hunmatched]
    exact List.cons_ne_nil _ _

/-- The module of the sample contract, with two serializers and with tracing. -/
theorem chat_unmatched_moduleText :
    ∃ s : Source, Contract.chat.compile {} = .ok s.compiled ∧ Contract.chat.BracketFree ∧
      s.tracing = true ∧ Clean s.runtime ∧
      unmatched s.moduleText = '\x7b' :: (adapterRest ++ adapterRest) ++ ['\x7d'] ∧
      ¬Nested (brackets s.moduleText) := by
  obtain ⟨compiled, h, -⟩ := Contract.exists_compile Contract.chat {} (fun _ => true)
    (by decide +kernel)
  have hfree : Contract.chat.BracketFree :=
    ⟨by decide +kernel, by decide +kernel, by decide +kernel, by decide +kernel,
      by decide +kernel⟩
  have hruntime : Clean (Source.mk compiled true "::pact_runtime").runtime := clean_ofList rfl
  obtain ⟨-, hunmatched, hnested⟩ := unmatched_moduleText h hfree hruntime
  exact ⟨⟨compiled, true, "::pact_runtime"⟩, h, hfree, rfl, hruntime, hunmatched, hnested⟩

/-- Not even the module of a service without operations is properly nested. -/
theorem idle_module_not_nested :
    ∃ s : Source, (Contract.sample "Idle" []).compile {} = .ok s.compiled ∧
      s.compiled.diagnostics = [] ∧ ¬Nested (brackets s.moduleText) := by
  obtain ⟨compiled, h, hcheck⟩ := Contract.exists_compile (.sample "Idle" []) {}
    (fun compiled => compiled.diagnostics = [] ∧ compiled.binding.adapters ≠ [])
    (by decide +kernel)
  obtain ⟨hdiagnostics, hadapters⟩ := of_decide_eq_true hcheck
  have hfree : (Contract.sample "Idle" []).BracketFree :=
    ⟨by decide +kernel, by decide +kernel, by decide +kernel, by decide +kernel,
      by decide +kernel⟩
  have hs : (Source.mk compiled false "::pact_runtime").Tidy :=
    Compiled.tidy h hfree (clean_ofList rfl)
  refine ⟨⟨compiled, false, "::pact_runtime"⟩, h, hdiagnostics, ?_⟩
  rw [nested_iff_unmatched, hs.unmatched_eq hadapters]
  exact List.cons_ne_nil _ _

end Source

end ServiceContract
