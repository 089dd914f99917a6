import ServiceContract.Proofs.Omission

/-!
# Skipped operations and their diagnostics

A compilation keeps two records of what it leaves out: a flag for each operation, and a log of
diagnostics.  They are written in different places.  The checks fill the log and decide which
operations are candidates; the assembly skips more of them, and writes about those only.

Diagnostics name their operation, but several operations may have one name.  So each entry of the
log is attributed to the position of the operation it was written for (`Contract.attributed`).  An
error is attributed to an operation that is skipped (`Compiled.about_of_attributed`), and every
skipped operation has an error attributed to it (`Compiled.Skips.exists_attributed`), from the check
of the operation if it was rejected there, and otherwise from the step that left it out.

The main statement is `Compiled.skips_reported`.
-/

namespace ServiceContract

namespace Diagnostic

/-- The diagnostic names the operation and the place where it is declared. -/
structure About (diagnostic : Diagnostic) (op : Operation) : Prop where
  operation : diagnostic.operation = some op.name
  location : diagnostic.location = op.location

theorem about_skip (op : Operation) (message : String) : (skip op message).About op := ⟨rfl, rfl⟩

theorem about_caution (op : Operation) (message : String) : (caution op message).About op :=
  ⟨rfl, rfl⟩

end Diagnostic

namespace Operation

open Diagnostic

variable {op : Operation} {diagnostic : Diagnostic}

/-- What is wrong with an exchange is reported about its operation. -/
theorem about_of_mem_exchangeProblems (h : diagnostic ∈ op.exchangeProblems) :
    diagnostic.About op := by
  unfold exchangeProblems at h
  split at h
  · simp only [List.mem_append, List.mem_map, List.mem_ite_nil_right, List.mem_ite_nil_left,
      List.mem_singleton] at h
    rcases h with (⟨type, -, rfl⟩ | ⟨-, rfl⟩) | ⟨-, rfl⟩ <;> exact about_skip ..
  · split at h
    · rw [List.mem_singleton.1 h]
      exact about_caution ..
    · cases h

/-- Whatever is found wrong with an operation is about it. -/
theorem about_of_mem_verdict {used : List String}
    (h : diagnostic ∈ op.problems ++ op.repeatProblems used) : diagnostic.About op := by
  simp only [problems, List.mem_append] at h
  rcases h with ((((h | h) | h) | h) | h) | h
  · rw [nameProblems, List.mem_ite_nil_left, List.mem_singleton] at h
    exact h.2 ▸ about_skip ..
  · exact about_of_mem_exchangeProblems h
  · obtain ⟨fault, -, rfl⟩ := List.mem_map.1 h
    exact about_skip ..
  · obtain ⟨param, -, rfl⟩ := List.mem_map.1 h
    exact about_skip ..
  · obtain ⟨entry, -, hentry⟩ := List.mem_filterMap.1 h
    obtain ⟨unsupported, -, rfl⟩ := Option.map_eq_some_iff.1 hentry
    exact about_skip ..
  · rw [repeatProblems, List.mem_ite_nil_right, List.mem_singleton] at h
    exact h.2 ▸ about_skip ..

end Operation

namespace Assembly

variable {c : Contract} {a : Assembly}

/-- What is written about a candidate in one step: why an accepted one is left out. -/
def report (a : Assembly) (candidate : Candidate) : List Diagnostic :=
  if candidate.accepted then (a.clash? candidate.operation).toList else []

/-- What a run writes about each candidate. -/
def reports (c : Contract) (a : Assembly) : List Candidate → List (List Diagnostic)
  | [] => []
  | candidate :: rest => a.report candidate :: reports c (a.step c candidate) rest

/-- A step writes an error about its candidate, or nothing. -/
theorem of_mem_report {candidate : Candidate} {diagnostic : Diagnostic}
    (h : diagnostic ∈ a.report candidate) :
    diagnostic.isError = true ∧ diagnostic.About candidate.operation := by
  rw [report, List.mem_ite_nil_right, Option.mem_toList, clash?] at h
  obtain ⟨-, h⟩ := h
  split at h
  · cases h
    exact ⟨rfl, Diagnostic.about_skip ..⟩
  · obtain ⟨claim, -, rfl⟩ := Option.map_eq_some_iff.1 h
    exact ⟨rfl, Diagnostic.about_skip ..⟩

/-- A step leaves out what was rejected before and what it writes about. -/
theorem place?_eq_none_iff {candidate : Candidate} :
    a.place? candidate = none ↔ candidate.accepted = false ∨ a.report candidate ≠ [] := by
  cases haccepted : candidate.accepted <;> cases hclash : a.clash? candidate.operation <;>
    simp [place?, report, haccepted, hclash]

/-- One candidate adds its report to the diagnostics. -/
theorem step_diagnostics (c : Contract) (a : Assembly) (candidate : Candidate) :
    (a.step c candidate).diagnostics = a.diagnostics ++ a.report candidate := by
  cases haccepted : candidate.accepted <;> cases hclash : a.clash? candidate.operation <;>
    simp [step, report, haccepted, hclash, leaveOut, takeIn]

/-- The log after a run. -/
theorem diagnostics_foldl_step (c : Contract) (a : Assembly) (candidates : List Candidate) :
    (candidates.foldl (step c) a).diagnostics =
      a.diagnostics ++ (a.reports c candidates).flatten := by
  induction candidates generalizing a with
  | nil => simp [reports]
  | cons candidate rest ih =>
      rw [List.foldl_cons, ih, step_diagnostics, reports, List.flatten_cons, List.append_assoc]

/-- The outcome of a candidate and what is written about it come from the same step. -/
theorem getElem?_run {candidates : List Candidate} {i : Nat} {candidate : Candidate}
    (h : candidates[i]? = some candidate) :
    ∃ before : Assembly, (a.outcomes c candidates)[i]? = some (before.place? candidate) ∧
      (a.reports c candidates)[i]? = some (before.report candidate) := by
  induction candidates generalizing a i with
  | nil => cases h
  | cons first rest ih =>
      cases i with
      | zero =>
          cases h
          exact ⟨a, rfl, rfl⟩
      | succ i => exact ih (a := a.step c first) h

/-- There is one report for each candidate. -/
theorem length_reports (c : Contract) (a : Assembly) (candidates : List Candidate) :
    (a.reports c candidates).length = candidates.length := by
  induction candidates generalizing a with
  | nil => rfl
  | cons candidate rest ih => rw [reports, List.length_cons, ih, List.length_cons]

end Assembly

section Attribution

/-- The diagnostics of some operations, each attributed to the position of its operation. -/
def byPosition (blocks : List (List Diagnostic)) : List (Option Nat × Diagnostic) :=
  blocks.zipIdx.flatMap fun block => block.1.map fun diagnostic => (some block.2, diagnostic)

/-- Without their positions the diagnostics stand in a row. -/
theorem map_snd_byPosition (blocks : List (List Diagnostic)) :
    (byPosition blocks).map Prod.snd = blocks.flatten := by
  rw [byPosition, List.map_flatMap]
  simp only [List.map_map, Function.comp_def, List.map_id']
  rw [List.flatMap_def, List.zipIdx_map_fst]

/-- A diagnostic is attributed to the position of the operation it was reported for. -/
theorem mem_byPosition {blocks : List (List Diagnostic)} {whose : Option Nat}
    {diagnostic : Diagnostic} :
    (whose, diagnostic) ∈ byPosition blocks ↔
      ∃ i block, whose = some i ∧ blocks[i]? = some block ∧ diagnostic ∈ block := by
  simp only [byPosition, List.mem_flatMap, List.mem_map, Prod.mk.injEq,
    List.mk_mem_zipIdx_iff_getElem?, Prod.exists]
  constructor
  · rintro ⟨block, i, hblock, found, hfound, rfl, rfl⟩
    exact ⟨i, block, rfl, hblock, hfound⟩
  · rintro ⟨i, block, rfl, hblock, hfound⟩
    exact ⟨block, i, hblock, diagnostic, hfound, rfl, rfl⟩

end Attribution

/-- The log of a compilation with the given keys, each entry with the position of the operation it
was written for.  What is written about the serializers is about no operation. -/
def Contract.attributed (c : Contract) (options : Options) (keys : KeyTable) :
    List (Option Nat × Diagnostic) :=
  byPosition c.verdicts ++
    ((c.chooseSerializers options).warnings.map fun diagnostic => (none, diagnostic)) ++
    byPosition ((Assembly.start c).reports c (c.candidates (c.verdicts.map isAccepted) keys))

namespace Compiled

/-- The contract declares the operation at this position, and it is not generated. -/
structure Skips (compiled : Compiled) (i : Nat) (op : Operation) : Prop where
  declared : compiled.contract.operations[i]? = some op
  not_generated : compiled.isGenerated i = false

variable {c : Contract} {options : Options} {compiled : Compiled}

/-- The attributed diagnostics are all diagnostics, in their order. -/
theorem map_snd_attributed (h : c.compile options = .ok compiled) :
    (c.attributed options compiled.keys).map Prod.snd = compiled.diagnostics := by
  rw [Contract.compile_diagnostics h, Contract.attributed, List.map_append, List.map_append,
    map_snd_byPosition, map_snd_byPosition, List.map_map]
  congr 1
  · simp [Function.comp_def]
  · exact (Assembly.diagnostics_foldl_step c (Assembly.start c) _).symm

/-- The operation at a position was considered in one step: the step after which it is there or not,
and which wrote what the assembly says about it. -/
theorem exists_step (h : c.compile options = .ok compiled) {i : Nat} {op : Operation}
    (hop : c.operations[i]? = some op) :
    ∃ (before : Assembly) (candidate : Candidate), candidate.operation = op ∧
      (c.verdicts.map isAccepted)[i]? = some candidate.accepted ∧
      compiled.isGenerated i = (before.place? candidate).isSome ∧
      ((Assembly.start c).reports c (c.candidates (c.verdicts.map isAccepted) compiled.keys))[i]? =
        some (before.report candidate) := by
  have hi : i < (c.candidates (c.verdicts.map isAccepted) compiled.keys).length := by
    rw [Contract.length_candidates (Contract.compile_keys h)]
    exact (List.getElem?_eq_some_iff.1 hop).1
  have hcandidate := List.getElem?_eq_getElem hi
  obtain ⟨-, hop', hverdict, -⟩ := Contract.getElem?_candidates hcandidate
  obtain ⟨before, hplace, hreport⟩ :=
    Assembly.getElem?_run (c := c) (a := Assembly.start c) hcandidate
  refine ⟨before, _, Option.some.inj (hop'.symm.trans hop), hverdict, ?_, hreport⟩
  rw [isGenerated_eq h, Catalog.operation?, catalog_operations h, List.getElem?_map,
    Contract.outcomes, hplace]
  cases before.place? _ <;> rfl

/-- An attributed entry is about the operation it is attributed to, and if it is an error that
operation is skipped. -/
theorem about_of_attributed (h : c.compile options = .ok compiled) {i : Nat}
    {diagnostic : Diagnostic} (hmem : (some i, diagnostic) ∈ c.attributed options compiled.keys) :
    ∃ op, c.operations[i]? = some op ∧ diagnostic.About op ∧
      (diagnostic.isError = true → compiled.isGenerated i = false) := by
  rw [Contract.attributed, List.mem_append, List.mem_append, mem_byPosition, mem_byPosition] at hmem
  rcases hmem with (⟨j, verdict, hj, hverdict, hd⟩ | hwarning) | ⟨j, report, hj, hreport, hd⟩
  · -- written by the check of the operation
    cases hj
    have hat := hverdict
    rw [Contract.verdicts, getElem?_verdictsFrom] at hat
    obtain ⟨op, hop, rfl⟩ := Option.map_eq_some_iff.1 hat
    refine ⟨op, hop, Operation.about_of_mem_verdict hd, fun herror => ?_⟩
    obtain ⟨before, candidate, -, haccepted, hgenerated, -⟩ := exists_step h hop
    rw [List.getElem?_map, hverdict, Option.map_some, Option.some_inj] at haccepted
    have hrejected : candidate.accepted = false := by
      rw [← haccepted, isAccepted, Bool.not_eq_false', List.any_eq_true]
      exact ⟨diagnostic, hd, herror⟩
    rw [hgenerated, Assembly.place?_eq_none_iff.2 (.inl hrejected), Option.isSome_none]
  · obtain ⟨_, -, hnone⟩ := List.mem_map.1 hwarning
    cases hnone
  · -- written by the step that left it out
    cases hj
    have hi := (List.getElem?_eq_some_iff.1 hreport).1
    rw [Assembly.length_reports, Contract.length_candidates (Contract.compile_keys h)] at hi
    have hop := List.getElem?_eq_getElem hi
    obtain ⟨before, candidate, hcandidate, -, hgenerated, hreport'⟩ := exists_step h hop
    rw [hreport, Option.some_inj] at hreport'
    subst hreport'
    refine ⟨_, hop, hcandidate ▸ (Assembly.of_mem_report hd).2, fun _ => ?_⟩
    have hwritten : before.report candidate ≠ [] := List.ne_nil_of_mem hd
    rw [hgenerated, Assembly.place?_eq_none_iff.2 (.inr hwritten), Option.isSome_none]

/-- A skipped operation has an error attributed to it. -/
theorem Skips.exists_attributed (h : c.compile options = .ok compiled) {i : Nat} {op : Operation}
    (hskips : compiled.Skips i op) :
    ∃ diagnostic, (some i, diagnostic) ∈ c.attributed options compiled.keys ∧
      diagnostic.isError = true := by
  obtain ⟨hop, hskipped⟩ := hskips
  rw [Contract.compile_contract h] at hop
  obtain ⟨before, candidate, -, haccepted, hgenerated, hreport⟩ := exists_step h hop
  rw [hskipped, Eq.comm, Option.isSome_eq_false_iff, Option.isNone_iff_eq_none,
    Assembly.place?_eq_none_iff] at hgenerated
  simp only [Contract.attributed, List.mem_append, mem_byPosition]
  rcases hgenerated with hrejected | hwritten
  · rw [List.getElem?_map, hrejected] at haccepted
    obtain ⟨verdict, hverdict, hfalse⟩ := Option.map_eq_some_iff.1 haccepted
    rw [isAccepted, Bool.not_eq_false', List.any_eq_true] at hfalse
    obtain ⟨diagnostic, hd, herror⟩ := hfalse
    exact ⟨diagnostic, .inl (.inl ⟨i, verdict, rfl, hverdict, hd⟩), herror⟩
  · obtain ⟨diagnostic, hd⟩ := List.exists_mem_of_ne_nil _ hwritten
    exact ⟨diagnostic, .inr ⟨i, _, rfl, hreport, hd⟩, (Assembly.of_mem_report hd).1⟩

/-- An error of the log is about an operation that is skipped. -/
theorem exists_skips_of_error (h : c.compile options = .ok compiled) {diagnostic : Diagnostic}
    (hmem : diagnostic ∈ compiled.diagnostics) (herror : diagnostic.isError = true) :
    ∃ i op, compiled.Skips i op ∧ diagnostic.About op := by
  rw [← map_snd_attributed h] at hmem
  obtain ⟨⟨whose, found⟩, hfound, rfl⟩ := List.mem_map.1 hmem
  cases whose with
  | some i =>
      obtain ⟨op, hop, habout, hskipped⟩ := about_of_attributed h hfound
      exact ⟨i, op, ⟨Contract.compile_contract h ▸ hop, hskipped herror⟩, habout⟩
  | none =>
      -- only what is written about the serializers is attributed to no operation
      simp only [Contract.attributed, List.mem_append, mem_byPosition, reduceCtorEq, false_and,
        exists_false, false_or, or_false, List.mem_map, Prod.mk.injEq, true_and,
        exists_eq_right] at hfound
      rw [Contract.warnings_chooseSerializers hfound] at herror
      cases herror

/-- An operation is generated exactly if it is listed among the generated ones. -/
theorem isGenerated_iff_listed (h : c.compile options = .ok compiled) (i : Nat) :
    compiled.isGenerated i = true ↔ i ∈ compiled.generatedOperations.map Prod.fst := by
  rw [generatedOperations, Contract.compile_contract h]
  constructor
  · intro hgenerated
    have hi : i < c.operations.length := by
      rw [isGenerated_eq h, Catalog.operation?, catalog_operations h, List.getElem?_map]
        at hgenerated
      rw [← Contract.length_outcomes (Contract.compile_keys h)]
      by_contra hout
      rw [List.getElem?_eq_none (Nat.le_of_not_lt hout)] at hgenerated
      cases hgenerated
    refine List.mem_map.2 ⟨(i, c.operations[i]), List.mem_filter.2 ⟨?_, hgenerated⟩, rfl⟩
    refine List.mem_map.2 ⟨(c.operations[i], i), ?_, rfl⟩
    exact List.mk_mem_zipIdx_iff_getElem?.2 (List.getElem?_eq_getElem hi)
  · intro hmem
    obtain ⟨entry, hentry, rfl⟩ := List.mem_map.1 hmem
    exact (List.mem_filter.1 hentry).2

/-- The place in the log of the first error that is attributed to the operation at a position. -/
def errorPlace (compiled : Compiled) (options : Options) (i : Nat) : Nat :=
  (compiled.contract.attributed options compiled.keys).findIdx fun entry =>
    entry.1 = some i && entry.2.isError

/-- At that place stands an error about the skipped operation. -/
theorem Skips.getElem?_errorPlace (h : c.compile options = .ok compiled) {i : Nat} {op : Operation}
    (hskips : compiled.Skips i op) :
    ∃ diagnostic, (c.attributed options compiled.keys)[compiled.errorPlace options i]? =
      some (some i, diagnostic) ∧ diagnostic.isError = true := by
  obtain ⟨found, hfound, herror⟩ := hskips.exists_attributed h
  have hlt := List.findIdx_lt_length_of_exists (p := fun entry : Option Nat × Diagnostic =>
    decide (entry.1 = some i) && entry.2.isError) ⟨_, hfound, by simp [herror]⟩
  have hat := List.findIdx_getElem (w := hlt)
  rw [Bool.and_eq_true, decide_eq_true_eq] at hat
  refine ⟨_, ?_, hat.2⟩
  rw [errorPlace, Contract.compile_contract h, List.getElem?_eq_getElem hlt]
  exact congrArg some (Prod.ext hat.1 rfl)

/-- At the place of a skipped operation the log has an error about it. -/
theorem Skips.error_at_place (h : c.compile options = .ok compiled) {i : Nat} {op : Operation}
    (hskips : compiled.Skips i op) :
    ∃ diagnostic, compiled.diagnostics[compiled.errorPlace options i]? = some diagnostic ∧
      diagnostic.isError = true ∧ diagnostic.About op := by
  obtain ⟨diagnostic, hat, herror⟩ := hskips.getElem?_errorPlace h
  obtain ⟨op', hop', habout, -⟩ := about_of_attributed h (List.mem_of_getElem? hat)
  rw [← Contract.compile_contract h, hskips.declared, Option.some_inj] at hop'
  subst hop'
  refine ⟨diagnostic, ?_, herror, habout⟩
  rw [← map_snd_attributed h, List.getElem?_map, hat, Option.map_some]

/-- Different operations have their errors at different places. -/
theorem Skips.errorPlace_inj (h : c.compile options = .ok compiled) {i j : Nat} {op op' : Operation}
    (hi : compiled.Skips i op) (hj : compiled.Skips j op')
    (hsame : compiled.errorPlace options i = compiled.errorPlace options j) : i = j := by
  obtain ⟨_, hati, -⟩ := hi.getElem?_errorPlace h
  obtain ⟨_, hatj, -⟩ := hj.getElem?_errorPlace h
  rw [hsame, hatj, Option.some_inj, Prod.mk.injEq, Option.some_inj] at hati
  exact hati.1.symm

/-- What a compilation leaves out and what it reports fit together. -/
structure SkipsReported (compiled : Compiled) : Prop where
  /-- An operation is generated exactly if it has types. -/
  generated_iff_types : ∀ i,
    compiled.isGenerated i = true ↔ (compiled.catalog.operation? i).isSome = true
  /-- An operation is generated exactly if it is listed. -/
  generated_iff_listed : ∀ i,
    compiled.isGenerated i = true ↔ i ∈ compiled.generatedOperations.map Prod.fst
  /-- Each skipped operation has an error of its own in the log, which names it. -/
  own_error : ∃ place : Nat → Nat,
    (∀ i op, compiled.Skips i op → ∃ diagnostic,
      compiled.diagnostics[place i]? = some diagnostic ∧ diagnostic.isError = true ∧
        diagnostic.About op) ∧
    ∀ i op j op', compiled.Skips i op → compiled.Skips j op' → place i = place j → i = j
  /-- Every error names a skipped operation. -/
  error_skips : ∀ diagnostic ∈ compiled.diagnostics, diagnostic.isError = true →
    ∃ i op, compiled.Skips i op ∧ diagnostic.About op
  /-- There are errors exactly if an operation is skipped. -/
  errors_iff_skips :
    compiled.diagnostics.any Diagnostic.isError = true ↔ ∃ i op, compiled.Skips i op
  /-- An operation about which there are only warnings is generated. -/
  generated_of_warnings : ∀ i op, compiled.contract.operations[i]? = some op →
    (∀ diagnostic ∈ compiled.diagnostics, diagnostic.About op → diagnostic.isError = false) →
    compiled.isGenerated i = true

/-- **Skips and diagnostics match**, in every compilation. -/
theorem skips_reported (h : c.compile options = .ok compiled) : compiled.SkipsReported where
  generated_iff_types i := by rw [isGenerated_eq h]
  generated_iff_listed := isGenerated_iff_listed h
  own_error := ⟨compiled.errorPlace options, fun _ _ hskips => hskips.error_at_place h,
    fun _ _ _ _ hi hj => hi.errorPlace_inj h hj⟩
  error_skips _ hmem herror := exists_skips_of_error h hmem herror
  errors_iff_skips := by
    rw [List.any_eq_true]
    constructor
    · rintro ⟨diagnostic, hmem, herror⟩
      obtain ⟨i, op, hskips, -⟩ := exists_skips_of_error h hmem herror
      exact ⟨i, op, hskips⟩
    · rintro ⟨i, op, hskips⟩
      obtain ⟨diagnostic, hat, herror, -⟩ := hskips.error_at_place h
      exact ⟨diagnostic, List.mem_of_getElem? hat, herror⟩
  generated_of_warnings i op hop hwarnings := by
    by_contra hskipped
    have hskips : compiled.Skips i op := ⟨hop, Bool.eq_false_iff.2 hskipped⟩
    obtain ⟨diagnostic, hat, herror, habout⟩ := hskips.error_at_place h
    rw [hwarnings diagnostic (List.mem_of_getElem? hat) habout] at herror
    cases herror

end Compiled

/-- Two operations that are generated, the first of them with a warning, and one operation for each
way to be skipped: a name that cannot be used, a repeated name (twice, so that two errors are
equal), a type and a method that are taken.  No serializer is configured, which is a warning too. -/
def Contract.troubled : Contract :=
  { Contract.sample "Troubled"
      [{ name := "Echo", kind := ⟨.requestResponse, .toServer⟩, prebuild := true },
       { name := "no name", kind := ⟨.oneWay, .toServer⟩ },
       { name := "Ping", kind := ⟨.oneWay, .toServer⟩ },
       { name := "ping", kind := ⟨.oneWay, .toServer⟩ },
       { name := "ping", kind := ⟨.oneWay, .toServer⟩ },
       { name := "Cancel", kind := ⟨.requestResponse, .toServer⟩ },
       { name := "Channel", kind := ⟨.oneWay, .toServer⟩ }] with
    serializers := []
    serializers_nodup := List.nodup_nil }

/-- `Contract.troubled` has five errors and two warnings, and skips five operations. -/
theorem Compiled.troubled_skips_reported :
    ∃ compiled, Contract.troubled.compile {} = .ok compiled ∧
      compiled.generatedOperations.map Prod.fst = [0, 2] ∧
      (errorsOf compiled.diagnostics).length = 5 ∧
      (warningsOf compiled.diagnostics).length = 2 ∧ compiled.SkipsReported := by
  obtain ⟨compiled, h, hcheck⟩ := Contract.exists_compile Contract.troubled {}
    (fun compiled => compiled.generatedOperations.map Prod.fst = [0, 2] ∧
      (errorsOf compiled.diagnostics).length = 5 ∧
      (warningsOf compiled.diagnostics).length = 2) (by decide +kernel)
  obtain ⟨hgenerated, herrors, hwarnings⟩ := of_decide_eq_true hcheck
  exact ⟨compiled, h, hgenerated, herrors, hwarnings, skips_reported h⟩

end ServiceContract
