import Mathlib.Data.List.Induction
import ServiceContract.Proofs.Skips
import ServiceContract.Proofs.TypeNames

/-!
# The choice of a serializer

A contract is built by declarations, one after the other.  Of the serializers declared on the way
every one is configured once, where it was first declared (`Contract.serializers_built`), and the
default of the contract is the one that was declared last (`Contract.defaultSerializer_built`).

`Compiled.SerializersFit` says what a compilation makes of them: which serializers it binds, which
one it uses when none is asked for, and what it reports.  A default that is requested by the options
hides the default of the contract, even if it is not configured itself.  The main statement is
`Compiled.serializersFit_built`.
-/

namespace ServiceContract

/-! ## Building a contract -/

/-- A step in building a contract. -/
inductive Declaration
  | operation (op : Operation)
  | serializer (kind : Serializer)
  | defaultSerializer (kind : Serializer)
  | faultKind (type : DataType) (base : Option DataType)
  | streamItem (type : DataType)
  | doc (text : String)

namespace Declaration

/-- The serializer that a step configures. -/
def serializer? : Declaration → Option Serializer
  | serializer kind => some kind
  | _ => none

/-- The serializer that a step makes the default. -/
def default? : Declaration → Option Serializer
  | defaultSerializer kind => some kind
  | _ => none

end Declaration

/-- The serializers that a history declares, in order and with repetitions. -/
def declaredSerializers (history : List Declaration) : List Serializer :=
  history.filterMap Declaration.serializer?

/-- The default that a history declares: the last one. -/
def declaredDefault? (history : List Declaration) : Option Serializer :=
  (history.filterMap Declaration.default?).getLast?

namespace Contract

/-- One more declaration. -/
def declare (c : Contract) : Declaration → Contract
  | .operation op => c.addOperation op
  | .serializer kind => c.addSerializer kind
  | .defaultSerializer kind => { c with defaultSerializer := some kind }
  | .faultKind type base => c.addFaultKind type base
  | .streamItem type => c.addStreamItem type
  | .doc text => { c with doc := some text }

/-- The contract that a history of declarations builds. -/
def built (space name : String) (history : List Declaration) : Contract :=
  history.foldl declare { space, name, serializers_nodup := List.nodup_nil }

/-! ### One step -/

/-- A serializer that is already there is not added again. -/
theorem serializers_addSerializer (c : Contract) (kind : Serializer) :
    (c.addSerializer kind).serializers =
      if kind ∈ c.serializers then c.serializers else c.serializers ++ [kind] := by
  unfold addSerializer
  split <;> rfl

/-- One declaration adds at most the serializer it names. -/
theorem serializers_declare (c : Contract) (step : Declaration) :
    (c.declare step).serializers =
      c.serializers ++ step.serializer?.toList.filter (· ∉ c.serializers) := by
  cases step with
  | serializer kind =>
      rw [declare, serializers_addSerializer]
      by_cases hmem : kind ∈ c.serializers <;> simp [Declaration.serializer?, hmem]
  | streamItem type =>
      rw [declare, addStreamItem]
      split <;> simp [Declaration.serializer?]
  | _ => simp [declare, Declaration.serializer?, addOperation, addFaultKind]

/-- A declared default takes the place of an earlier one. -/
theorem defaultSerializer_declare (c : Contract) (step : Declaration) :
    (c.declare step).defaultSerializer = step.default?.or c.defaultSerializer := by
  cases step with
  | serializer kind =>
      rw [declare, addSerializer]
      split <;> rfl
  | streamItem type =>
      rw [declare, addStreamItem]
      split <;> rfl
  | _ => rfl

/-! ### All steps -/

variable (space name : String) (history : List Declaration)

/-- The last declaration is made on what the ones before it have built. -/
theorem built_append_singleton (step : Declaration) :
    built space name (history ++ [step]) = (built space name history).declare step := by
  simp [built]

/-- Every declared serializer is configured once, in the order of first declarations. -/
theorem serializers_built :
    (built space name history).serializers = (declaredSerializers history).eraseDups := by
  induction history using List.reverseRecOn with
  | nil => rfl
  | append_singleton history step ih =>
      have hdeclared : declaredSerializers (history ++ [step]) =
          declaredSerializers history ++ step.serializer?.toList := by
        rw [declaredSerializers, List.filterMap_append, ← declaredSerializers]
        cases hstep : step.serializer? <;> simp [hstep]
      rw [built_append_singleton, serializers_declare, ih, hdeclared, List.eraseDups_append, List.removeAll]
      congr 1
      cases step.serializer? with
      | none => rfl
      | some kind =>
          by_cases hmem : kind ∈ declaredSerializers history <;>
            simp [hmem, List.mem_eraseDups, List.eraseDups_cons]

/-- The default that was declared last counts. -/
theorem defaultSerializer_built :
    (built space name history).defaultSerializer = declaredDefault? history := by
  induction history using List.reverseRecOn with
  | nil => rfl
  | append_singleton history step ih =>
      rw [built_append_singleton, defaultSerializer_declare, ih, declaredDefault?, declaredDefault?,
        List.filterMap_append]
      cases hstep : step.default? <;> simp [hstep]

end Contract

/-! ## Choosing among the serializers in use -/

/-- The report that no serializer is declared. -/
def fallbackNotice (contract : String) : Diagnostic :=
  .notice ("contract `" ++ contract ++ "` configures no serializer; falling back to `" ++
    Serializer.postcard.identity ++ "`")

/-- The report that a default was requested which is not configured. -/
def defaultNotice (contract : String) (requested used : Serializer) : Diagnostic :=
  .notice ("default serializer `" ++ requested.identity ++ "` is not configured for `" ++
    contract ++ "`; using `" ++ used.identity ++ "`")

namespace Contract

variable (c : Contract) (options : Options)

/-- The default that is asked for: that of the options, or else that of the contract. -/
def requested? : Option Serializer := options.defaultSerializer.or c.defaultSerializer

/-- The first serializer in use is the first that is declared, or the one to fall back on. -/
theorem head?_serializersInUse : c.serializersInUse.head? = some c.firstSerializer := by
  rw [serializersInUse, firstSerializer]
  cases c.serializers <;> rfl

theorem firstSerializer_mem : c.firstSerializer ∈ c.serializersInUse :=
  List.mem_of_mem_head? c.head?_serializersInUse

/-- The choice, by whether a default is requested and configured. -/
theorem chooseSerializers_cases :
    (∃ wanted, c.requested? options = some wanted ∧ wanted ∈ c.serializersInUse ∧
        c.chooseSerializers options = ⟨c.serializersInUse, wanted, c.fallbackWarnings⟩) ∨
      (∀ wanted ∈ c.requested? options, wanted ∉ c.serializersInUse) ∧
        c.chooseSerializers options = ⟨c.serializersInUse, c.firstSerializer, c.fallbackWarnings ++
          (c.requested? options).toList.map
            (defaultNotice c.qualifiedName · c.firstSerializer)⟩ := by
  rw [chooseSerializers, ← requested?]
  split
  · next hrequested => exact .inr ⟨by simp [hrequested], by simp [hrequested]⟩
  · next wanted hrequested =>
      split
      · next hmem => exact .inl ⟨wanted, hrequested, hmem, rfl⟩
      · next hmem =>
          refine .inr ⟨by simpa [hrequested] using hmem, ?_⟩
          rw [hrequested]
          rfl

/-- The default is always one of the serializers in use. -/
theorem default_mem : (c.chooseSerializers options).default ∈ c.serializersInUse := by
  rcases c.chooseSerializers_cases options with ⟨wanted, -, hmem, hchoice⟩ | ⟨-, hchoice⟩
  · rwa [hchoice]
  · rw [hchoice]
    exact c.firstSerializer_mem

/-- A default that is asked for and in use is taken. -/
theorem default_eq_requested {wanted : Serializer} (h : c.requested? options = some wanted)
    (hmem : wanted ∈ c.serializersInUse) : (c.chooseSerializers options).default = wanted := by
  rcases c.chooseSerializers_cases options with ⟨other, hother, -, hchoice⟩ | ⟨hnone, -⟩
  · rw [hchoice]
    exact Option.some.inj (hother.symm.trans h)
  · exact absurd hmem (hnone wanted h)

/-- Otherwise the first serializer in use is the default. -/
theorem default_eq_first (h : ∀ wanted ∈ c.requested? options, wanted ∉ c.serializersInUse) :
    c.serializersInUse.head? = some (c.chooseSerializers options).default := by
  rcases c.chooseSerializers_cases options with ⟨wanted, hwanted, hmem, -⟩ | ⟨-, hchoice⟩
  · exact absurd hmem (h wanted hwanted)
  · rw [hchoice, head?_serializersInUse]

/-- The warnings of a choice: one if no serializer is configured, and one more if the requested
default is not. -/
theorem warnings_eq :
    (c.chooseSerializers options).warnings =
      (if c.serializers = [] then [fallbackNotice c.qualifiedName] else []) ++
        ((c.requested? options).filter (· ∉ c.serializersInUse)).toList.map
          (defaultNotice c.qualifiedName · (c.chooseSerializers options).default) := by
  have hfallback : c.fallbackWarnings =
      if c.serializers = [] then [fallbackNotice c.qualifiedName] else [] := by
    simp [fallbackWarnings, fallbackNotice]
  rw [← hfallback]
  rcases c.chooseSerializers_cases options with ⟨wanted, hwanted, hmem, hchoice⟩ | ⟨hnone, hchoice⟩
  · simp [hchoice, hwanted, Option.filter, hmem]
  · have hfilter : (c.requested? options).filter (· ∉ c.serializersInUse) = c.requested? options := by
      cases hrequested : c.requested? options with
      | none => rfl
      | some wanted => simp [Option.filter, hnone wanted hrequested]
    rw [hfilter, hchoice]

end Contract

/-! ## What a compilation binds -/

namespace Compiled

/-- The serializers that a compilation binds, the default it uses and what it reports about them,
given the serializers that were declared and the default that is requested. -/
structure SerializersFit (compiled : Compiled) (declared : List Serializer)
    (requested : Option Serializer) : Prop where
  /-- Every declared serializer is configured once; if there is none, the fallback is. -/
  configured : compiled.binding.chooser.configured =
    if declared = [] then [.postcard] else declared.eraseDups
  nonempty : compiled.binding.chooser.configured ≠ []
  nodup : compiled.binding.chooser.configured.Nodup
  /-- There is one adapter for each configured serializer, in the same order. -/
  adapters : compiled.binding.adapters.map Adapter.serializer = compiled.binding.chooser.configured
  default_requested : ∀ kind ∈ requested, kind ∈ compiled.binding.chooser.configured →
    compiled.binding.chooser.default = kind
  default_first : (∀ kind ∈ requested, kind ∉ compiled.binding.chooser.configured) →
    compiled.binding.chooser.configured.head? = some compiled.binding.chooser.default
  resolve_none : compiled.binding.chooser.resolve none = .ok compiled.binding.chooser.default
  resolve_some : ∀ kind, compiled.binding.chooser.resolve (some kind) = .ok kind ↔
    (compiled.binding.adapter? kind).isSome = true
  resolve_other : ∀ kind, compiled.binding.adapter? kind = none →
    compiled.binding.chooser.resolve (some kind) = .error (.serializerNotConfigured kind
      compiled.contract.qualifiedName compiled.binding.chooser.configured)
  /-- Messages are built ahead of time for the default. -/
  prebuild : ∀ peer, ∀ helper ∈ (compiled.surface peer).prebuild,
    helper.serializer = compiled.binding.chooser.default
  /-- What is reported about no operation: that no serializer is declared, and that the requested
  default is not configured. -/
  notices : (compiled.diagnostics.filter fun diagnostic => diagnostic.operation = none) =
    (if declared = [] then [fallbackNotice compiled.contract.qualifiedName] else []) ++
      (requested.filter (· ∉ compiled.binding.chooser.configured)).toList.map
        (defaultNotice compiled.contract.qualifiedName · compiled.binding.chooser.default)

variable {c : Contract} {options : Options} {compiled : Compiled}

/-- The chooser offers the serializers in use. -/
theorem chooser_configured (h : c.compile options = .ok compiled) :
    compiled.binding.chooser.configured = c.serializersInUse := by
  rw [Contract.compile_binding h, Binding.build, Contract.configured_chooseSerializers]

/-- Its default is the chosen one. -/
theorem chooser_default (h : c.compile options = .ok compiled) :
    compiled.binding.chooser.default = (c.chooseSerializers options).default := by
  rw [Contract.compile_binding h, Binding.build]

/-- It names the contract it was made for. -/
theorem chooser_contract (h : c.compile options = .ok compiled) :
    compiled.binding.chooser.contract = compiled.contract.qualifiedName := by
  rw [Contract.compile_binding h, Contract.compile_contract h, Binding.build]

/-- There is one adapter for each configured serializer, in the same order. -/
theorem map_serializer_adapters (h : c.compile options = .ok compiled) :
    compiled.binding.adapters.map Adapter.serializer = compiled.binding.chooser.configured := by
  rw [chooser_configured h, Contract.compile_adapters h, List.map_map]
  exact List.map_id _

/-- There is an adapter for just the configured serializers. -/
theorem isSome_adapter?_iff (h : c.compile options = .ok compiled) (kind : Serializer) :
    (compiled.binding.adapter? kind).isSome = true ↔
      kind ∈ compiled.binding.chooser.configured := by
  rw [Binding.adapter?, List.find?_isSome, ← map_serializer_adapters h, List.mem_map]
  simp

/-- What is attributed to operations names an operation. -/
theorem filter_attributed (h : c.compile options = .ok compiled) {blocks : List (List Diagnostic)}
    (hblocks : ∀ entry ∈ byPosition blocks, entry ∈ c.attributed options compiled.keys) :
    (blocks.flatten.filter fun diagnostic => diagnostic.operation = none) = [] := by
  refine List.filter_eq_nil_iff.2 fun diagnostic hmem => ?_
  rw [← map_snd_byPosition] at hmem
  obtain ⟨⟨whose, diagnostic⟩, hentry, rfl⟩ := List.mem_map.1 hmem
  obtain ⟨i, block, rfl, -⟩ := mem_byPosition.1 hentry
  obtain ⟨op, -, habout, -⟩ := about_of_attributed h (hblocks _ hentry)
  simp [habout.operation]

/-- Only what is written about the serializers is about no operation. -/
theorem filter_notices (h : c.compile options = .ok compiled) :
    (compiled.diagnostics.filter fun diagnostic => diagnostic.operation = none) =
      (c.chooseSerializers options).warnings := by
  have hlog : (c.assembly compiled.keys).diagnostics = ((Assembly.start c).reports c
      (c.candidates (c.verdicts.map isAccepted) compiled.keys)).flatten :=
    Assembly.diagnostics_foldl_step c (Assembly.start c) _
  have hchecks : (c.verdicts.flatten.filter fun diagnostic => diagnostic.operation = none) = [] :=
    filter_attributed h fun entry hentry => by simp [Contract.attributed, hentry]
  have hsteps : ((c.assembly compiled.keys).diagnostics.filter fun diagnostic =>
      diagnostic.operation = none) = [] := by
    rw [hlog]
    exact filter_attributed h fun entry hentry => by simp [Contract.attributed, hentry]
  have hwarnings : ((c.chooseSerializers options).warnings.filter fun diagnostic =>
      diagnostic.operation = none) = (c.chooseSerializers options).warnings := by
    refine List.filter_eq_self.2 fun diagnostic hmem => ?_
    rw [Contract.warnings_eq, List.mem_append] at hmem
    rcases hmem with hmem | hmem
    · rw [List.mem_ite_nil_right, List.mem_singleton] at hmem
      rw [hmem.2]
      rfl
    · obtain ⟨wanted, -, rfl⟩ := List.mem_map.1 hmem
      rfl
  rw [Contract.compile_diagnostics h, List.filter_append, List.filter_append, hchecks, hwarnings,
    hsteps, List.nil_append, List.append_nil]

/-- Messages are built ahead of time for the default serializer. -/
theorem serializer_of_mem_prebuild (h : c.compile options = .ok compiled) {peer : Peer}
    {helper : PrebuildHelper} (hmem : helper ∈ (compiled.surface peer).prebuild) :
    helper.serializer = (c.chooseSerializers options).default := by
  rw [Contract.compile_surface h] at hmem
  obtain ⟨entry, -, hentry⟩ := List.mem_filterMap.1 hmem
  rw [Generated.prebuildHelper?] at hentry
  split at hentry
  · cases hentry
    rfl
  · cases hentry

/-- **Sound choice.**  Whatever was declared on the way and whatever the options ask for, a
compilation binds the declared serializers, each once, or the fallback; the default is the requested
one if that is configured and the first configured one otherwise; what is not configured is refused;
and each fallback is reported once. -/
theorem serializersFit_built {space name : String} {history : List Declaration}
    (h : (Contract.built space name history).compile options = .ok compiled) :
    compiled.SerializersFit (declaredSerializers history)
      (options.defaultSerializer.or (declaredDefault? history)) := by
  have hdeclared := Contract.serializers_built space name history
  have hrequested : options.defaultSerializer.or (declaredDefault? history) =
      (Contract.built space name history).requested? options := by
    rw [Contract.requested?, Contract.defaultSerializer_built]
  have hempty : (Contract.built space name history).serializers = [] ↔
      declaredSerializers history = [] := by
    rw [hdeclared]
    cases declaredSerializers history <;> simp [List.eraseDups_cons]
  have hcontract := Contract.compile_contract h
  have hconfigured := chooser_configured h
  have hdefault := chooser_default h
  rw [hrequested]
  constructor
  case configured =>
    rw [hconfigured, Contract.serializersInUse, hdeclared]
    cases declaredSerializers history <;> simp [List.eraseDups_cons]
  case nonempty =>
    rw [hconfigured]
    exact Contract.serializersInUse_ne_nil _
  case nodup =>
    rw [hconfigured]
    exact Contract.serializersInUse_nodup _
  case adapters => exact map_serializer_adapters h
  case default_requested =>
    intro kind hkind hmem
    rw [hdefault]
    exact Contract.default_eq_requested _ _ hkind (hconfigured ▸ hmem)
  case default_first =>
    intro hkinds
    rw [hconfigured, hdefault]
    exact Contract.default_eq_first _ _ (hconfigured ▸ hkinds)
  case resolve_none =>
    rw [Chooser.resolve, Option.getD_none, if_pos]
    rw [hconfigured, hdefault]
    exact Contract.default_mem _ _
  case resolve_some =>
    intro kind
    rw [isSome_adapter?_iff h, Chooser.resolve, Option.getD_some]
    by_cases hmem : kind ∈ compiled.binding.chooser.configured <;> simp [hmem]
  case resolve_other =>
    intro kind hkind
    have hmem : kind ∉ compiled.binding.chooser.configured := by
      simp [← isSome_adapter?_iff h, hkind]
    rw [Chooser.resolve, Option.getD_some, if_neg hmem, chooser_contract h]
  case prebuild =>
    intro peer helper hmem
    rw [hdefault, serializer_of_mem_prebuild h hmem]
  case notices =>
    rw [filter_notices h, Contract.warnings_eq, hcontract, hconfigured, hdefault]
    simp only [hempty]

end Compiled

/-- A history that declares one serializer twice, a default and a message that can be built ahead of
time. -/
def pingHistory : List Declaration :=
  [.serializer .json, .defaultSerializer .bincode, .serializer .bincode, .serializer .json,
    .operation { name := "Ping", kind := ⟨.oneWay, .toServer⟩, prebuild := true }]

/-- The options ask for a serializer that is not configured: the first one is used, not the default
of the contract. -/
theorem Compiled.pingHistory_serializersFit :
    ∃ compiled, (Contract.built "acme" "Pinger" pingHistory).compile
        { defaultSerializer := some .postcard } = .ok compiled ∧
      (compiled.binding.chooser.configured = [.json, .bincode] ∧
        compiled.binding.chooser.default = .json ∧
        (compiled.surface .client).prebuild.length = 1) ∧
      compiled.SerializersFit [.json, .bincode, .json] (some .postcard) := by
  obtain ⟨compiled, h, hcheck⟩ := Contract.exists_compile
    (Contract.built "acme" "Pinger" pingHistory) { defaultSerializer := some .postcard }
    (fun compiled => compiled.binding.chooser.configured = [.json, .bincode] ∧
      compiled.binding.chooser.default = .json ∧ (compiled.surface .client).prebuild.length = 1)
    (by decide +kernel)
  exact ⟨compiled, h, of_decide_eq_true hcheck, serializersFit_built h⟩

end ServiceContract
