import ServiceContract.Proofs.SilentHandlers

/-!
# Recording calls adds nothing else

Two sources that differ only in whether calls are recorded are compared line by line.  `Records count
traced plain` says that among the lines `traced` there are `count` that record a call, and that the
others are `plain`, in this order.  It holds of two equal pieces of silent code with `count = 0`, of
one arm with `count = 1`, and it goes through appending, blocks and files.  So it holds of whole
modules, with as many records as their plans have arms (`Source.Lined.recordsIn_moduleItems`).

The text of a module is cut at its line feeds to read its lines.  This gives back the lines it was
made of, because none of them has a line feed inside.
-/

namespace ServiceContract

open Text Code

/-! ## Lines with records -/

/-- Some of the lines record calls, and the others are `plain`. -/
structure Records (count : Nat) (traced plain : List String) : Prop where
  oneLine : ∀ line ∈ traced, OneLine line
  counted : traced.countP isTraceLine = count
  kept : (traced.filter fun line => !isTraceLine line) = plain

/-- Lines without records are the same in both sources. -/
theorem records_of_untraced {texts : List String} (h : ∀ line ∈ texts, Untraced line) :
    Records 0 texts texts where
  oneLine := fun line hline => (h line hline).oneLine
  counted := List.countP_eq_zero.2 fun line hline => by simp [(h line hline).no_trace]
  kept := List.filter_eq_self.2 fun line hline => by simp [(h line hline).no_trace]

/-- A line that is a record stands on one side only. -/
theorem records_line {line : String} (hline : OneLine line) (h : isTraceLine line = true) :
    Records 1 [line] [] where
  oneLine := fun other hother => by rwa [List.mem_singleton.1 hother]
  counted := by simp [h]
  kept := by simp [h]

namespace Records

variable {count : Nat} {traced plain front back : List String}

/-- Records add up. -/
theorem append (h : Records count traced plain) {more : Nat} {traced' plain' : List String}
    (h' : Records more traced' plain') :
    Records (count + more) (traced ++ traced') (plain ++ plain') where
  oneLine := fun line hline => (List.mem_append.1 hline).elim (h.oneLine line) (h'.oneLine line)
  counted := by rw [List.countP_append, h.counted, h'.counted]
  kept := by rw [List.filter_append, h.kept, h'.kept]

/-- The same lines in front, which are no records. -/
theorem behind (h : Records count traced plain) (hfront : ∀ line ∈ front, Untraced line) :
    Records count (front ++ traced) (front ++ plain) := by
  have hboth := (records_of_untraced hfront).append h
  rwa [Nat.zero_add] at hboth

theorem before (h : Records count traced plain) (hback : ∀ line ∈ back, Untraced line) :
    Records count (traced ++ back) (plain ++ back) :=
  h.append (records_of_untraced hback)

theorem behindBlank (h : Records count traced plain) :
    Records count ("" :: traced) ("" :: plain) :=
  h.behind fun _ hline => List.mem_singleton.1 hline ▸ untraced_empty

/-- An empty line in front can be taken away again. -/
theorem of_behindBlank (h : Records count ("" :: traced) ("" :: plain)) :
    Records count traced plain where
  oneLine := fun line hline => h.oneLine line (List.mem_cons_of_mem _ hline)
  counted := by
    have hcounted := h.counted
    rwa [List.countP_cons_of_neg (by simp [untraced_empty.no_trace])] at hcounted
  kept := by
    have hkept := h.kept
    rw [List.filter_cons_of_pos (by simp [untraced_empty.no_trace])] at hkept
    exact (List.cons.inj hkept).2

/-- The lines that are kept record nothing. -/
theorem plain_untraced (h : Records count traced plain) : ∀ line ∈ plain, Untraced line := by
  intro line hline
  rw [← h.kept, List.mem_filter] at hline
  exact ⟨h.oneLine line hline.1, by simpa using hline.2⟩

end Records

/-- Pieces that each record one call. -/
theorem records_flatMap {α : Type} {xs : List α} {f g : α → List String}
    (h : ∀ x ∈ xs, Records 1 (f x) (g x)) : Records xs.length (xs.flatMap f) (xs.flatMap g) := by
  induction xs with
  | nil => exact records_of_untraced fun line hline => by cases hline
  | cons x rest ih =>
      have hrest := ih fun other hother => h other (List.mem_cons_of_mem _ hother)
      have hboth := (h x List.mem_cons_self).append hrest
      rwa [Nat.add_comm] at hboth

/-! ## Code with records -/

/-- Pieces with something between them are the first one, and then each other one behind it. -/
theorem intercalate_cons_eq {α : Type} (x : α) (first : List α) (rest : List (List α)) :
    List.intercalate [x] (first :: rest) = first ++ rest.flatMap (x :: ·) := by
  induction rest generalizing first with
  | nil => simp
  | cons next rest ih => simp [List.intercalate_cons_cons, ih]

namespace Code

/-- Code is laid out piece by piece. -/
theorem layoutAll_append (level : Nat) (front back : List Code) :
    layoutAll level (front ++ back) = layoutAll level front ++ layoutAll level back := by
  induction front with
  | nil => rfl
  | cons piece rest ih => rw [List.cons_append, layoutAll, layoutAll, ih, List.append_assoc]

/-- The outline of code, piece by piece. -/
theorem outlineAll_append (depth : Nat) (front back : List Code) :
    outlineAll depth (front ++ back) = outlineAll depth front ++ outlineAll depth back := by
  induction front with
  | nil => rfl
  | cons piece rest ih => rw [List.cons_append, outlineAll, outlineAll, ih, List.append_assoc]

/-- Separated pieces behind others have an empty line before each of them. -/
theorem separated_append {front : List (List Code)} (hfront : front ≠ [])
    (back : List (List Code)) : separated (front ++ back) = separated front ++ spaced back := by
  obtain ⟨first, rest, rfl⟩ := List.exists_cons_of_ne_nil hfront
  rw [separated, separated, List.cons_append, intercalate_cons_eq, intercalate_cons_eq,
    List.flatMap_append, List.append_assoc]
  rfl

/-- Code whose lines record calls at every level, and are other code besides. -/
def RecordsIn (count : Nat) (traced plain : List Code) : Prop :=
  ∀ level, Records count (layoutAll level traced) (layoutAll level plain)

namespace RecordsIn

variable {count : Nat} {traced plain : List Code}

/-- The same code in front, which is silent. -/
theorem behind (h : RecordsIn count traced plain) {front : List Code} (hfront : AllSilent front) :
    RecordsIn count (front ++ traced) (front ++ plain) := by
  intro level
  rw [layoutAll_append, layoutAll_append]
  exact (h level).behind (untraced_layoutAll hfront.untraced level)

theorem before (h : RecordsIn count traced plain) {back : List Code} (hback : AllSilent back) :
    RecordsIn count (traced ++ back) (plain ++ back) := by
  intro level
  rw [layoutAll_append, layoutAll_append]
  exact (h level).before (untraced_layoutAll hback.untraced level)

/-- Records inside a block are records of the block. -/
theorem block (h : RecordsIn count traced plain) {header : String}
    (hopening : Untraced (opening header)) :
    RecordsIn count [.block header traced] [.block header plain] := by
  intro level
  have hclosing : Untraced "\x7d" := (muted_ofList (by decide)).untraced
  simp only [layoutAll, layout, List.append_nil]
  exact ((h (level + 1)).behind (untraced_indentText hopening level)).before
    (untraced_indentText hclosing level)

end RecordsIn

/-- Pieces of code that each record one call. -/
theorem recordsIn_spaced {α : Type} {xs : List α} {f g : α → List Code}
    (h : ∀ x ∈ xs, RecordsIn 1 (f x) (g x)) :
    RecordsIn xs.length (spaced (xs.map f)) (spaced (xs.map g)) := by
  have hlayout : ∀ (level : Nat) (f : α → List Code), layoutAll level (spaced (xs.map f)) =
      xs.flatMap fun x => "" :: layoutAll level (f x) := by
    intro level f
    clear h
    induction xs with
    | nil => rfl
    | cons x rest ih =>
        rw [List.map_cons, spaced, List.flatMap_cons, layoutAll_append, List.flatMap_cons, ← ih]
        rfl
  intro level
  rw [hlayout, hlayout]
  exact records_flatMap fun x hx => (h x hx level).behindBlank

end Code

/-! ## Code that is written out -/

namespace Text

/-- Lines as a text, with a feed behind each. -/
theorem unlines_cons (text : String) (rest : List String) :
    unlines (text :: rest) = text ++ "\n" ++ unlines rest := by
  simp [unlines]

/-- Cutting a text at a feed gives the lines before it and the lines behind it. -/
theorem linesFrom_feed (line cs rest : List Char) :
    linesFrom line (cs ++ '\n' :: rest) = linesFrom line (cs ++ ['\n']) ++ linesFrom [] rest := by
  induction cs generalizing line with
  | nil => simp [linesFrom]
  | cons c cs ih =>
      rw [List.cons_append, List.cons_append, linesFrom, linesFrom]
      split
      · rw [ih, List.cons_append]
      · rw [ih]

/-- Texts that end with line feeds have their lines one after the other. -/
theorem lines_append_unlines (texts : List String) (rest : String) :
    lines (unlines texts ++ rest) = lines (unlines texts) ++ lines rest := by
  rcases List.eq_nil_or_concat texts with rfl | ⟨front, last, rfl⟩
  · rw [unlines_nil, String.empty_append]
    rfl
  · have hchars : (unlines (front ++ [last])).toList = (unlines front ++ last).toList ++ ['\n'] := by
      rw [unlines_append, unlines_singleton]
      simp
    rw [lines, lines, lines, String.toList_append, List.concat_eq_append, hchars, List.append_assoc,
      List.singleton_append, linesFrom_feed, List.map_append]

end Text

namespace Source

/-- Code is written out piece by piece. -/
theorem writtenOut_append (front back : List Code) :
    writtenOut (front ++ back) = writtenOut front ++ writtenOut back := by
  have hprinted : printed (outlineAll 0 (front ++ back)) =
      printed (outlineAll 0 front) ++ printed (outlineAll 0 back) := by
    rw [outlineAll_append, printed, List.map_append]
    rfl
  rw [writtenOut, writtenOut, writtenOut, sectionText_eq, sectionText_eq, sectionText_eq, hprinted,
    unlines_append, lines_append_unlines, List.map_append]

/-- A text that is a line is written out as that line. -/
theorem writtenOut_line {text : String} (h : IsLine text) : writtenOut [.line text] = [.line text] := by
  have hlines : lines (sectionText 0 [.line text]) = printed (outlineAll 0 [.line text]) :=
    lines_sectionText fun entry hentry => by
      rw [List.mem_singleton.1 hentry]
      exact h
  have hwritten : writtenLine 0 text = text := by
    unfold writtenLine
    split
    · rfl
    · exact String.empty_append
  rw [writtenOut, hlines]
  exact congrArg (fun line => [Code.line line]) hwritten

/-- A line that records a call, in the middle of silent code. -/
theorem recordsIn_writtenOut {front back : List Code} (h : AllSilent (front ++ back)) {text : String}
    (hline : IsLine text) (htrace : isTraceLine text = true) :
    RecordsIn 1 (writtenOut (front ++ [.line text] ++ back)) (writtenOut (front ++ back)) := by
  obtain ⟨hfront, hback⟩ := allSilent_append.1 h
  have hone : OneLine text := fun c hc heq => hline.no_feed (heq ▸ hc)
  have htext : RecordsIn 1 [.line text] [] := by
    intro level
    have hlayout : layoutAll level [.line text] = [indentLine level text] := by
      rw [layoutAll, layout, indentText_of_oneLine hone]
      rfl
    rw [hlayout]
    exact records_line (oneLine_indentLine hone level)
      ((isTraceLine_indentLine level text).trans htrace)
  have hboth := (htext.behind (allSilent_writtenOut hfront)).before (allSilent_writtenOut hback)
  rw [List.append_nil] at hboth
  rwa [writtenOut_append, writtenOut_append, writtenOut_append, writtenOut_line hline]

/-! ## Arms -/

/-- The same source, with calls recorded. -/
def traced (s : Source) : Source := { s with tracing := true }

/-- The record of a message stands before the lines that handle it. -/
theorem oneWayBody_traced {s : Source} (hplain : s.tracing = false) (operation : Nat)
    (handler : String) (message : NodeId) :
    s.traced.oneWayBody operation handler message =
      s.traced.traceLines operation message ++ s.oneWayBody operation handler message := by
  rw [oneWayBody, oneWayBody, traceLines_of_plain hplain]
  rfl

/-- The record of a request follows the line that reads its number. -/
theorem requestBody_traced {s : Source} (hplain : s.tracing = false) (arm : RequestArm) :
    ∃ front back, s.requestBody arm = front ++ back ∧
      s.traced.requestBody arm =
        front ++ s.traced.traceLines arm.operation arm.request ++ back := by
  refine ⟨[.line "let call_id = request.call_id;"], (s.requestBody arm).tail, ?_, ?_⟩
  · rw [requestBody, traceLines_of_plain hplain]
    rfl
  · rw [requestBody, requestBody, traceLines_of_plain hplain]
    rfl

section Lined

variable {s : Source} (hs : s.Lined)
include hs

/-- Calls are recorded by one line each. -/
theorem Lined.exists_traceText {operation : Nat} (hname : OneLine (s.operationName operation))
    (message : NodeId) :
    ∃ text, s.traced.traceLines operation message = [.line text] ∧ IsLine text ∧
      isTraceLine text = true := by
  have hlead : isTraceLine "::tracing::debug!(contract = " = true := by decide
  have hstart : ∀ rest, isTraceLine ("::tracing::debug!(contract = " ++ rest) = true := by
    intro rest
    refine isTraceLine_of_start ?_ hlead
    rw [String.toList_append]
    exact List.prefix_append ..
  have hend : Ends (s.nodeName message ++ ("::KEY, " ++ (quoted "dispatch" ++ ");"))) :=
    (((ends_ofList (by decide)).behind (oneLine_quoted (oneLine_ofList (by decide)))).behind
      (oneLine_ofList (by decide))).behind (hs.nodeName message)
  have hrest : Ends (quoted s.contractName ++ (", operation = " ++
      (quoted (s.operationName operation) ++ (", key = " ++
        (s.nodeName message ++ ("::KEY, " ++ (quoted "dispatch" ++ ");"))))))) :=
    (((hend.behind (oneLine_ofList (by decide))).behind (oneLine_quoted hname)).behind
      (oneLine_ofList (by decide))).behind (oneLine_quoted hs.contractName)
  refine ⟨_, rfl, ?_⟩
  simp only [String.append_assoc]
  have htext := hrest.behind (oneLine_ofList (by decide) : OneLine "::tracing::debug!(contract = ")
  exact ⟨⟨fun hmem => htext.oneLine _ hmem rfl,
    fun hlast => absurd (htext.last _ hlast) (by decide)⟩, hstart _⟩

/-- The record of a call, in the middle of silent code. -/
theorem Lined.recordsIn_traceLines {front back : List Code} (h : AllSilent (front ++ back))
    {operation : Nat} (hname : OneLine (s.operationName operation)) (message : NodeId) :
    RecordsIn 1 (writtenOut (front ++ s.traced.traceLines operation message ++ back))
      (writtenOut (front ++ back)) := by
  obtain ⟨text, htrace, hline, hrecords⟩ := hs.exists_traceText hname message
  rw [htrace]
  exact recordsIn_writtenOut h hline hrecords

/-- The method of an arm differs by one record. -/
theorem Lined.recordsIn_armMethod (hplain : s.tracing = false) {arm : Arm} (h : arm.Lined s) :
    RecordsIn 1 (s.traced.armMethod arm) (s.armMethod arm) := by
  have houtput := hs.dispatchOutput
  match arm with
  | .oneWay variant key operation handler message =>
      have hsilent := allSilent_oneWayBody hplain operation h.handler message
      have hbody : RecordsIn 1 (writtenOut (s.traced.oneWayBody operation handler message))
          (writtenOut (s.oneWayBody operation handler message)) := by
        rw [oneWayBody_traced hplain]
        exact hs.recordsIn_traceLines (allSilent_append.2 ⟨allSilent_nil, hsilent⟩) h.operation
          message
      have hparams : OneLine (methodParams [⟨"message", s.nodeName message⟩]) := by
        refine oneLine_methodParams fun binder hbinder => ?_
        rw [List.mem_singleton.1 hbinder]
        exact Binder.oneLine_text (oneLine_ofList (by decide)) (hs.nodeName message)
      have hheader : Muted ("async fn dispatch_" ++ handler ++ "(" ++
          methodParams [⟨"message", s.nodeName message⟩] ++ ") -> " ++ s.dispatchOutput) :=
        (((muted_ofList (by decide)).extend h.handler (by decide)).extend hparams
          (by decide)).append houtput
      exact hbody.block (untraced_opening hheader)
  | .request request =>
      obtain ⟨front, back, hplainBody, htracedBody⟩ := requestBody_traced hplain request
      have hsilent := hs.requestBody hplain h
      have hbody : RecordsIn 1 (writtenOut (s.traced.requestBody request))
          (writtenOut (s.requestBody request)) := by
        rw [hplainBody] at hsilent ⊢
        rw [htracedBody]
        exact hs.recordsIn_traceLines hsilent h.operation request.request
      have hlead : AllSilent [.line ("async fn dispatch_" ++ request.handler ++ "<R>(" ++
          methodParams [⟨"request", s.nodeName request.request⟩, ⟨"replies", "&R"⟩] ++ ") -> " ++
          s.dispatchOutput), s.repliesBound] := by
        simp only [allSilent_cons, allSilent_nil, and_true]
        exact ⟨silent_line ((((muted_ofList (by decide)).extend h.handler (by decide)).extend
          (oneLine_replyingParams (oneLine_ofList (by decide)) (hs.nodeName _)) (by decide)).append
            houtput), hs.repliesBound⟩
      exact (hbody.block untraced_brace).behind hlead

/-- The methods of a dispatcher differ by one record for each arm. -/
theorem Lined.recordsIn_dispatcherImpl (hplain : s.tracing = false) {plan : DispatchPlan}
    (h : plan.Lined s) :
    RecordsIn plan.arms.length (s.traced.dispatcherImpl plan) (s.dispatcherImpl plan) := by
  have hmethods : RecordsIn plan.arms.length
      (separated (s.dispatcherMethods plan ++ plan.arms.map s.traced.armMethod))
      (separated (s.dispatcherMethods plan ++ plan.arms.map s.armMethod)) := by
    -- The common methods come first, so every arm stands behind an empty line.
    have hcommon : s.dispatcherMethods plan ≠ [] := List.cons_ne_nil _ _
    rw [separated_append hcommon, separated_append hcommon]
    exact (recordsIn_spaced fun arm harm => hs.recordsIn_armMethod hplain (h.arms arm harm)).behind
      (allSilent_separated (hs.dispatcherMethods h))
  have hlead : AllSilent [.line ("impl<H> " ++ plan.dispatcher ++ "<H>"),
      .line ("where H: " ++ plan.handlerTrait ++ " + 'static,")] := by
    simp only [allSilent_cons, allSilent_nil, and_true]
    exact ⟨silent_line ((muted_ofList (by decide)).extend h.dispatcher (by decide)),
      silent_line ((muted_ofList (by decide)).extend h.handlerTrait (by decide))⟩
  exact (hmethods.block untraced_brace).behind hlead

end Lined

end Source

/-! ## Items with records -/

namespace Item

/-- The lines of items, each of them behind an empty line. -/
def spacedLines (items : List Item) : List String := items.flatMap fun item => "" :: item.lines

/-- With an empty line before the first item, each item of a file has one in front. -/
theorem cons_allLines {items : List Item} (h : allLines items ≠ []) :
    "" :: allLines items = spacedLines items := by
  have hitems : items ≠ [] := by
    rintro rfl
    exact h rfl
  obtain ⟨first, rest, rfl⟩ := List.exists_cons_of_ne_nil hitems
  rw [allLines, List.map_cons, intercalate_cons_eq, List.flatMap_map]
  rfl

/-- Items that record no call. -/
def AllUntraced (items : List Item) : Prop := ∀ item ∈ items, ∀ line ∈ item.lines, Untraced line

/-- Items behind items record nothing exactly if none of either does. -/
theorem allUntraced_append {front back : List Item} :
    AllUntraced (front ++ back) ↔ AllUntraced front ∧ AllUntraced back := by
  simp [AllUntraced, or_imp, forall_and]

/-- Items record nothing if none of them does. -/
theorem allUntraced_cons {item : Item} {rest : List Item} :
    AllUntraced (item :: rest) ↔ (∀ line ∈ item.lines, Untraced line) ∧ AllUntraced rest := by
  simp [AllUntraced]

/-- Empty lines before items are no records. -/
theorem AllUntraced.spacedLines {items : List Item} (h : AllUntraced items) :
    ∀ line ∈ spacedLines items, Untraced line := by
  intro line hline
  obtain ⟨item, hitem, hline⟩ := List.mem_flatMap.1 hline
  rcases List.mem_cons.1 hline with rfl | hline
  · exact untraced_empty
  · exact h item hitem line hline

/-- Items whose lines record calls, and are those of other items besides. -/
def RecordsIn (count : Nat) (traced plain : List Item) : Prop :=
  Records count (spacedLines traced) (spacedLines plain)

/-- Records in code are records in the item it makes. -/
theorem recordsIn_code {count : Nat} {traced plain : List Code}
    (h : Code.RecordsIn count traced plain) : RecordsIn count [code traced] [code plain] := by
  have hlines := (h 0).behindBlank
  simpa [RecordsIn, Item.spacedLines, lines] using hlines

namespace RecordsIn

variable {count : Nat} {traced plain : List Item} (h : RecordsIn count traced plain)
include h

/-- Records add up. -/
theorem append {more : Nat} {traced' plain' : List Item} (h' : RecordsIn more traced' plain') :
    RecordsIn (count + more) (traced ++ traced') (plain ++ plain') := by
  rw [RecordsIn, Item.spacedLines, Item.spacedLines, List.flatMap_append, List.flatMap_append]
  exact Records.append h h'

/-- The same items in front, which record nothing. -/
theorem behind {front : List Item} (hfront : AllUntraced front) :
    RecordsIn count (front ++ traced) (front ++ plain) := by
  rw [RecordsIn, Item.spacedLines, Item.spacedLines, List.flatMap_append, List.flatMap_append]
  exact Records.behind h hfront.spacedLines

theorem before {back : List Item} (hback : AllUntraced back) :
    RecordsIn count (traced ++ back) (plain ++ back) :=
  h.append (records_of_untraced hback.spacedLines)

end RecordsIn

/-- A finished text that only lacks its last line feed. -/
theorem untraced_rawLines {texts : List String} (h : ∀ text ∈ texts, Untraced text) {text : String}
    (htext : text ++ "\n" = unlines texts) : ∀ line ∈ (raw text).lines, Untraced line := by
  refine untraced_raw h ?_
  rw [← htext, String.toList_append]
  exact List.prefix_append ..

/-- A raw text on one line. -/
theorem untraced_rawLine {text : String} (h : Muted text) :
    ∀ line ∈ (raw text).lines, Untraced line :=
  untraced_rawLines (fun _ hother => List.mem_singleton.1 hother ▸ h.untraced)
    (unlines_singleton text).symm

end Item

/-! ## Modules -/

namespace Source

/-- A line of documentation inside the module, without the line feed before it. -/
def innerDocText (line : String) : String :=
  "    //!" ++ if (trimEnd line).isEmpty then "" else " " ++ trimEnd line

/-- Each line of the documentation of a module stands behind a feed. -/
theorem innerDocLine_eq (line : String) : innerDocLine line = "\n" ++ innerDocText line := by
  simp [innerDocLine, innerDocText, ← String.append_assoc]

/-- Documentation of a module starts with slashes, so it is no record. -/
theorem untraced_innerDocText {line : String} (h : OneLine line) : Untraced (innerDocText line) := by
  refine ((muted_ofList (by decide)).append ?_).untraced
  split
  · exact madeOf_empty
  · exact (oneLine_ofList (by decide)).append (oneLine_trimEnd h)

/-- Feeds in front of lines are feeds behind the lines before them. -/
theorem join_innerDocLines (docs : List String) :
    String.join (docs.map innerDocLine) ++ "\n" = "\n" ++ unlines (docs.map innerDocText) := by
  induction docs with
  | nil => rfl
  | cons line rest ih =>
      rw [List.map_cons, String.join_cons, String.append_assoc, ih, innerDocLine_eq]
      simp [unlines, String.append_assoc]

/-- The header of a module is two lines and those of its documentation. -/
theorem moduleHeader_eq (s : Source) :
    s.moduleHeader ++ "\n" = unlines (["#[allow(clippy::all, unused)]",
      "pub mod " ++ snake s.compiled.contract.name ++ " \x7b"] ++
        (lines (s.compiled.contract.doc.getD "")).map innerDocText) := by
  have hheader : s.moduleHeader = "#[allow(clippy::all, unused)]\npub mod " ++
      snake s.compiled.contract.name ++ " \x7b" ++
        String.join ((lines (s.compiled.contract.doc.getD "")).map innerDocLine) := rfl
  have hfirst : "#[allow(clippy::all, unused)]\npub mod " =
      "#[allow(clippy::all, unused)]" ++ ("\n" ++ "pub mod ") := rfl
  rw [hheader, hfirst]
  simp only [List.cons_append, List.nil_append, unlines_cons, String.append_assoc,
    join_innerDocLines, -String.reduceAppend]

/-- The header of a module records nothing: documentation, and the line that opens the module. -/
theorem untraced_moduleHeader (s : Source) :
    ∀ line ∈ (Item.raw s.moduleHeader).lines, Untraced line := by
  have htexts : ∀ text ∈ ["#[allow(clippy::all, unused)]",
      "pub mod " ++ snake s.compiled.contract.name ++ " \x7b"] ++
        (lines (s.compiled.contract.doc.getD "")).map innerDocText, Untraced text := by
    intro text htext
    rw [List.mem_append, List.mem_cons, List.mem_singleton] at htext
    rcases htext with (rfl | rfl) | htext
    · exact (muted_ofList (by decide)).untraced
    · exact ((muted_ofList (by decide)).extend (oneLine_snake _) (by decide)).untraced
    · obtain ⟨line, hline, rfl⟩ := List.mem_map.1 htext
      exact untraced_innerDocText (oneLine_of_mem_lines hline)
  exact Item.untraced_rawLines htexts s.moduleHeader_eq

section Lined

variable {s : Source} (hs : s.Lined)
include hs

/-- The imports record nothing. -/
theorem Lined.imports : Item.AllUntraced s.imports := by
  have huse : ∀ text ∈ ["    #[allow(unused_imports)]",
      "    use " ++ s.inRuntime "__private::facet;"], Untraced text := by
    intro text htext
    rw [List.mem_cons, List.mem_singleton] at htext
    rcases htext with rfl | rfl
    · exact (muted_ofList (by decide)).untraced
    · exact ((muted_ofList (by decide)).append (hs.inRuntime (by decide))).untraced
  have hfeed : "    #[allow(unused_imports)]\n    use " =
      "    #[allow(unused_imports)]" ++ ("\n" ++ "    use ") := rfl
  have hlines : "    #[allow(unused_imports)]\n    use " ++ s.inRuntime "__private::facet;" ++ "\n" =
      unlines ["    #[allow(unused_imports)]", "    use " ++ s.inRuntime "__private::facet;"] := by
    rw [hfeed]
    simp only [unlines_cons, unlines_nil, String.append_assoc, String.append_empty,
      -String.reduceAppend]
  simp only [Source.imports, Item.allUntraced_cons]
  exact ⟨Item.untraced_rawLine (((muted_ofList (by decide)).append (hs.inRuntime (by decide))).append
    (oneLine_ofList (by decide))), Item.untraced_rawLines huse hlines,
    fun item hitem => by cases hitem⟩

/-- What stands before the parts of a module records nothing. -/
theorem Lined.moduleLead : Item.AllUntraced s.moduleLead := by
  have hnotice : ∀ text ∈ ["// DO NOT EDIT - regenerate with build.rs"], Untraced text :=
    fun text htext => List.mem_singleton.1 htext ▸ (muted_ofList (by decide)).untraced
  simp only [Source.moduleLead, Item.allUntraced_append, Item.allUntraced_cons]
  exact ⟨⟨Item.untraced_rawLine (muted_ofList (by decide)),
    untraced_raw hnotice (by decide), untraced_moduleHeader s,
    fun item hitem => by cases hitem⟩, hs.imports⟩

/-- What handles the calls of a plan differs by one record for each arm. -/
theorem Lined.recordsIn_dispatchItems (hplain : s.tracing = false) {plan : DispatchPlan}
    (h : plan.Lined s) :
    Item.RecordsIn plan.arms.length (s.traced.dispatchItems plan) (s.dispatchItems plan) := by
  have hfront : Item.AllUntraced (moduleSection (s.inboundType plan) ++
      [.code (s.handlerTrait plan)] ++ moduleSection (dispatcherType plan)) := by
    simp only [Item.allUntraced_append, Item.allUntraced_cons]
    exact ⟨⟨untraced_moduleSection (hs.inboundType h), untraced_codeItem (hs.handlerTrait h),
      fun item hitem => by cases hitem⟩, untraced_moduleSection (allSilent_dispatcherType h)⟩
  exact (Item.recordsIn_code (hs.recordsIn_dispatcherImpl hplain h)).behind hfront

/-- Modules differ by one record for each arm of their plans. -/
theorem Lined.recordsIn_moduleItems (hplain : s.tracing = false) :
    Item.RecordsIn (s.compiled.serverDispatch.arms.length + s.compiled.callbackDispatch.arms.length)
      s.traced.moduleItems s.moduleItems := by
  have hserver := hs.recordsIn_dispatchItems hplain (hs.plans .server)
  have hcallback : Item.RecordsIn s.compiled.callbackDispatch.arms.length
      (if s.compiled.callbackDispatch.isEmpty then []
        else s.traced.dispatchItems s.compiled.callbackDispatch)
      (if s.compiled.callbackDispatch.isEmpty then []
        else s.dispatchItems s.compiled.callbackDispatch) := by
    split
    · next hempty =>
        rw [List.isEmpty_iff.1 hempty]
        exact records_of_untraced fun line hline => by cases hline
    · exact hs.recordsIn_dispatchItems hplain (hs.plans .client)
  have hproxy : Item.AllUntraced (if s.compiled.callbackProxy.isEmpty then []
      else moduleSection (s.surface s.compiled.callbackProxy)) := by
    split
    · exact fun item hitem => by cases hitem
    · exact untraced_moduleSection (hs.surface (hs.surfaces .server))
  have hfront : Item.AllUntraced (s.moduleLead ++ moduleSection s.messageKeys ++
      moduleSection s.messageTypes ++ moduleSection s.faultUnions ++
      moduleSection s.messageBaseUnion) := by
    simp only [Item.allUntraced_append]
    exact ⟨⟨⟨⟨hs.moduleLead, untraced_moduleSection (allSilent_messageKeys s)⟩,
      untraced_moduleSection hs.messageTypes⟩, untraced_moduleSection hs.faultUnions⟩,
      untraced_moduleSection hs.messageBaseUnion⟩
  have hclosing : Item.AllUntraced [.raw "\x7d"] :=
    Item.allUntraced_cons.2 ⟨Item.untraced_rawLine (muted_ofList (by decide)),
      fun item hitem => by cases hitem⟩
  exact ((((((hserver.behind hfront).append hcallback).before
    (untraced_moduleSection (hs.surface (hs.surfaces .client)))).before hproxy).before
      (untraced_moduleSection hs.prebuildFunctions)).before
        (untraced_moduleSection hs.serializers)).before hclosing

end Lined

end Source

/-! ## Texts -/

/-- A text without the lines that record calls. -/
def withoutTraces (text : String) : String :=
  "\n".intercalate ((feedLines text).filter fun line => !isTraceLine line)

/-- Files whose items differ by records differ by lines that record calls. -/
theorem Item.RecordsIn.fileText {count : Nat} {traced plain : List Item}
    (h : RecordsIn count traced plain) (htraced : allLines traced ≠ [])
    (hplain : allLines plain ≠ []) :
    withoutTraces (fileText traced) = fileText plain ∧
      (feedLines (fileText traced)).countP isTraceLine = count ∧
      ∀ line ∈ feedLines (fileText plain), isTraceLine line = false := by
  have hrecords : Records count (allLines traced) (allLines plain) := by
    apply Records.of_behindBlank
    rw [cons_allLines htraced, cons_allLines hplain]
    exact h
  have huntraced := hrecords.plain_untraced
  rw [fileText_eq, fileText_eq, feedLines_intercalate hplain fun line hline =>
    (huntraced line hline).oneLine, withoutTraces, feedLines_intercalate htraced hrecords.oneLine]
  exact ⟨congrArg _ hrecords.kept, hrecords.counted, fun line hline => (huntraced line hline).no_trace⟩

/-- A module is never empty. -/
theorem Source.allLines_moduleItems_ne_nil (s : Source) : Item.allLines s.moduleItems ≠ [] := by
  -- There are two items at least, and so an empty line between them.
  obtain ⟨item, next, rest, hitems⟩ :
      ∃ item next rest, s.moduleItems = item :: next :: rest := ⟨_, _, _, rfl⟩
  rw [hitems, Item.allLines_cons_cons]
  simp

namespace Compiled

variable {c : Contract} {options : Options} {compiled : Compiled}

/-- Recording calls only adds lines that record them, one for each arm of the two plans. -/
theorem recording_adds_one_line_per_arm (h : c.compile options = .ok compiled)
    (hc : c.OneLineTexts) {runtime : String} (hruntime : Bare runtime) :
    let traced := Source.moduleText { compiled, tracing := true, runtime }
    let plain := Source.moduleText { compiled, tracing := false, runtime }
    withoutTraces traced = plain ∧
      (feedLines traced).countP isTraceLine =
        compiled.serverDispatch.arms.length + compiled.callbackDispatch.arms.length ∧
      ∀ line ∈ feedLines plain, isTraceLine line = false := by
  have hs : Source.Lined { compiled, tracing := false, runtime } := Compiled.lined h hc hruntime
  exact (hs.recordsIn_moduleItems rfl).fileText (Source.allLines_moduleItems_ne_nil _)
    (Source.allLines_moduleItems_ne_nil _)

/-- The sample contract has two arms for the server and one for the client. -/
theorem chat_recording_adds_three_lines :
    ∃ compiled, Contract.chat.compile {} = .ok compiled ∧
      let traced := Source.moduleText { compiled, tracing := true, runtime := "crate::runtime" }
      let plain := Source.moduleText { compiled, tracing := false, runtime := "crate::runtime" }
      withoutTraces traced = plain ∧ (feedLines traced).countP isTraceLine = 3 ∧
        ∀ line ∈ feedLines plain, isTraceLine line = false := by
  obtain ⟨compiled, h, hcheck⟩ := Contract.exists_compile Contract.chat {}
    (fun compiled =>
      compiled.serverDispatch.arms.length + compiled.callbackDispatch.arms.length = 3)
    (by decide)
  have hpaths : ∀ op ∈ Contract.chat.operations, ∀ type ∈ op.types, ∀ path ∈ type.paths,
      '\n' ∉ path.toList := by
    decide
  have htexts : Contract.chat.OneLineTexts := by
    refine ⟨oneLine_ofList (by decide), oneLine_ofList (by decide), ?_⟩
    rintro op hop type htype path hpath _ hc rfl
    exact hpaths op hop type htype path hpath hc
  obtain ⟨hsame, hcount, hnone⟩ := recording_adds_one_line_per_arm h htexts
    (bare_ofList (by decide) : Bare "crate::runtime")
  exact ⟨compiled, h, hsame, hcount.trans (of_decide_eq_true hcheck), hnone⟩

end Compiled

end ServiceContract
