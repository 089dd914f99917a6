import Mathlib.Data.List.Perm.Basic
import ServiceContract.Proofs.FreshNames
import ServiceContract.Proofs.Routing

/-!
# Method names

An operation claims its methods before it is generated.  The methods are declared elsewhere: on the
surface that calls the operation, in the interface and the dispatcher that handle it, and in the
module.  Both sides fit: what is declared in a scope are the names that were claimed for it and
those the scope has of its own, in some order (the lemmas that end in `_perm`).

Claims are never made twice, since a step claims only what does not clash with earlier claims
(`Assembly.nodup_step_methods`).  A name may be claimed in several scopes, so the claims of a scope
are read with `MethodClaim.namesIn`, and within a scope no name is repeated.

The main statement is `Compiled.method_names_distinct`.
-/

namespace ServiceContract

namespace MethodClaim

/-- The names that some claims put into a scope. -/
def namesIn (scope : MethodScope) (claims : List MethodClaim) : List String :=
  claims.filterMap fun claim => if claim.scope = scope then some claim.name else none

/-- The names that are claimed in a scope, claim by claim. -/
theorem namesIn_append (scope : MethodScope) (xs ys : List MethodClaim) :
    namesIn scope (xs ++ ys) = namesIn scope xs ++ namesIn scope ys :=
  List.filterMap_append

/-- Names that are claimed in one scope are not claimed in another. -/
theorem namesIn_map (scope claimed : MethodScope) (names : List String) :
    namesIn scope (names.map (⟨claimed, ·⟩)) = if claimed = scope then names else [] := by
  by_cases h : claimed = scope <;> simp [namesIn, List.filterMap_map, h]

/-- Claims that differ put different names into one scope. -/
theorem nodup_namesIn {claims : List MethodClaim} (h : claims.Nodup) (scope : MethodScope) :
    (namesIn scope claims).Nodup := by
  refine h.filterMap ?_
  rintro ⟨s, name⟩ ⟨s', name'⟩ found hfound hfound'
  simp only [Option.mem_def, Option.ite_none_right_eq_some, Option.some_inj] at hfound hfound'
  rw [hfound.1, hfound.2, hfound'.1, hfound'.2]

/-- The names that the scopes have of their own. -/
theorem namesIn_reservedClaims (direction : Direction) :
    namesIn (.caller direction) reservedClaims = callerMethods ∧
    namesIn (.handler direction) reservedClaims = [] ∧
    namesIn (.dispatcher direction) reservedClaims = dispatcherMethods ∧
    namesIn .module reservedClaims = [] := by
  cases direction <;> exact ⟨rfl, rfl, rfl, rfl⟩

end MethodClaim

open MethodClaim

/-- The claims of an operation, scope by scope. -/
theorem Operation.namesIn_claims (op : Operation) (direction : Direction) :
    namesIn (.caller direction) op.claims =
      (if op.kind.direction = direction then op.callerNames else []) ∧
    namesIn (.handler direction) op.claims =
      (if op.kind.direction = direction then op.methodBase :: op.sentHook?.toList else []) ∧
    namesIn (.dispatcher direction) op.claims =
      (if op.kind.direction = direction then ["dispatch_" ++ op.methodBase] else []) ∧
    namesIn .module op.claims = op.moduleNames := by
  have hdispatch : [(⟨.dispatcher op.kind.direction, "dispatch_" ++ op.methodBase⟩ : MethodClaim)] =
      ["dispatch_" ++ op.methodBase].map (⟨.dispatcher op.kind.direction, ·⟩) := rfl
  simp only [claims, hdispatch, namesIn_append, namesIn_map]
  simp

namespace Assembly

variable {c : Contract} {a : Assembly}

/-- **One step** claims nothing twice. -/
theorem nodup_step_methods (h : a.methods.Nodup) (candidate : Candidate) :
    (a.step c candidate).methods.Nodup := by
  obtain ⟨-, hclash, -, hstep⟩ | ⟨-, problems, hstep⟩ := step_cases c a candidate
  · rw [hstep]
    exact nodup_append_of_firstClash h (clash?_eq_none_iff.1 hclash).2
  · rw [hstep]
    exact h

/-- **A whole run** claims nothing twice. -/
theorem nodup_foldl_step_methods (h : a.methods.Nodup) (candidates : List Candidate) :
    (candidates.foldl (step c) a).methods.Nodup := by
  induction candidates generalizing a with
  | nil => exact h
  | cons candidate rest ih => exact ih (nodup_step_methods h candidate)

/-- The claims after a run are those of the placed operations. -/
theorem foldl_step_methods (c : Contract) (a : Assembly) (candidates : List Candidate) :
    (candidates.foldl (step c) a).methods =
      a.methods ++ (a.placed c candidates).flatMap fun p => p.candidate.operation.claims := by
  induction candidates generalizing a with
  | nil => simp [placed, outcomes]
  | cons candidate rest ih =>
      rw [List.foldl_cons, ih]
      obtain ⟨-, -, hplace, hstep⟩ | ⟨hplace, problems, hstep⟩ := step_cases c a candidate
      · simp [placed, outcomes, hplace, hstep, takeIn]
      · simp [placed, outcomes, hplace, hstep, leaveOut]

end Assembly

/-- The names of the stubs under one plain name, style by style. -/
theorem Generated.map_name_stubsNamed (entry : Generated) (base : String) (prebuilt : Bool) :
    (entry.stubsNamed base prebuilt).map Stub.name =
      CallStyle.all.map fun style => style.methodName base := by
  rw [stubsNamed, List.map_map]
  rfl

namespace Placement

variable (p : Placement)

theorem operation_generated : p.generated.operation = p.candidate.operation := rfl

/-- A placed operation is opened exactly if its claims say so. -/
theorem isSome_opener? : p.generated.opener?.isSome = p.candidate.operation.opensStream := by
  cases hexchange : p.candidate.operation.kind.exchange <;>
    cases hstreaming : p.candidate.operation.isStreaming <;>
    simp [generated, Generated.opener?, messages, Operation.messagesFrom, Operation.opensStream,
      CallKind.isOneWay, CallKind.isRequestResponse, hexchange, hstreaming]

/-- The method that opens a stream has a prefix of its own. -/
theorem name_opener? {opener : StreamOpener} (h : p.generated.opener? = some opener) :
    opener.name = "open_" ++ p.candidate.operation.methodBase := by
  unfold Generated.opener? at h
  split at h
  · cases h
  · split at h
    · cases h
      rfl
    · cases h

/-- The calls of a placed operation have the claimed names. -/
theorem map_name_calls :
    p.generated.stubs.map Stub.name ++ p.generated.opener?.toList.map StreamOpener.name =
      p.candidate.operation.callerNames := by
  have hopens := p.isSome_opener?
  cases hopener : p.generated.opener? with
  | some opener =>
      rw [hopener] at hopens
      simp [Generated.stubs, hopener, Operation.callerNames, ← hopens, p.name_opener? hopener]
  | none =>
      rw [hopener] at hopens
      cases hprebuilt : p.candidate.operation.offersPrebuilt <;>
        simp [Generated.stubs, hopener, Operation.callerNames, ← hopens, operation_generated,
          hprebuilt, Generated.map_name_stubsNamed]

/-- So has the function that builds its message ahead of time. -/
theorem map_name_prebuild (serializer : Serializer) :
    (p.generated.prebuildHelper? serializer).toList.map PrebuildHelper.name =
      p.candidate.operation.moduleNames := by
  have hnone : p.generated.opener?.isNone = !p.candidate.operation.opensStream := by
    rw [← p.isSome_opener?, Option.not_isSome]
  rw [Generated.prebuildHelper?, hnone, operation_generated, Operation.moduleNames]
  split <;> rfl

/-- An arm calls the handler of its operation. -/
theorem handler_arm (catalog : Catalog) (key : MessageKey) :
    (p.generated.arm catalog key).handler = p.candidate.operation.methodBase := by
  unfold Generated.arm
  split <;> rfl

end Placement

namespace Compiled

variable {c : Contract} {options : Options} {compiled : Compiled}

/-- Every claim of a compiled contract: those of the scopes and those of the placed operations. -/
def claims (compiled : Compiled) : List MethodClaim :=
  reservedClaims ++ compiled.placements.flatMap fun p => p.candidate.operation.claims

/-- No method is claimed twice. -/
theorem nodup_claims (h : c.compile options = .ok compiled) : compiled.claims.Nodup := by
  have hrun := Assembly.nodup_foldl_step_methods (c := c) (a := Assembly.start c)
    (by decide : reservedClaims.Nodup) (c.candidates (c.verdicts.map isAccepted) compiled.keys)
  rw [Assembly.foldl_step_methods] at hrun
  rw [claims, placements, Contract.compile_contract h]
  exact hrun

/-- The names claimed for a scope. -/
theorem namesIn_claims (compiled : Compiled) (scope : MethodScope) :
    namesIn scope compiled.claims = namesIn scope reservedClaims ++
      compiled.placements.flatMap fun p => namesIn scope p.candidate.operation.claims := by
  rw [claims, namesIn_append]
  congr 1
  exact List.filterMap_flatMap ..

/-- What is gathered from the operations of a direction. -/
theorem flatMap_directed {α : Type} (compiled : Compiled) (direction : Direction)
    (f : Placement → List α) :
    (compiled.placements.flatMap fun p =>
        if p.candidate.operation.kind.direction = direction then f p else []) =
      (compiled.directed direction).flatMap f := by
  rw [directed]
  induction compiled.placements with
  | nil => rfl
  | cons p rest ih =>
      by_cases hp : p.candidate.operation.kind.direction = direction <;> simp [hp, ih]

/-- Every operation has one of the two directions. -/
theorem directed_perm (compiled : Compiled) :
    (compiled.directed .toServer ++ compiled.directed .toClient).Perm compiled.placements := by
  have hother : compiled.directed .toClient = compiled.placements.filter fun p =>
      !decide (p.candidate.operation.kind.direction = .toServer) := by
    refine List.filter_congr fun p _ => ?_
    cases p.candidate.operation.kind.direction <;> rfl
  rw [hother]
  exact List.filter_append_perm _ _

/-- **Calls.**  A surface declares the names claimed for it. -/
theorem callerNames_perm (h : c.compile options = .ok compiled) (peer : Peer) :
    (callerMethods ++ (compiled.surface peer).methods.map Stub.name ++
        (compiled.surface peer).streams.map StreamOpener.name).Perm
      (namesIn (.caller peer.calls) compiled.claims) := by
  have hclaimed : namesIn (.caller peer.calls) compiled.claims =
      callerMethods ++ (compiled.directed peer.calls).flatMap fun p =>
        p.generated.stubs.map Stub.name ++ p.generated.opener?.toList.map StreamOpener.name := by
    rw [namesIn_claims, (namesIn_reservedClaims peer.calls).1, ← flatMap_directed]
    simp only [Operation.namesIn_claims _ peer.calls, Placement.map_name_calls]
  rw [hclaimed, methods_eq h, streams_eq h, List.append_assoc, List.map_flatMap,
    List.filterMap_eq_flatMap_toList, List.map_flatMap]
  exact (List.flatMap_append_perm ..).append_left _

/-- **Handlers.**  The interface of a peer declares the names claimed for it. -/
theorem handlerNames_perm (h : c.compile options = .ok compiled) (peer : Peer) :
    ((compiled.dispatch peer).handlers.map Handler.name ++
        (compiled.dispatch peer).handlers.filterMap Handler.sentHook).Perm
      (namesIn (.handler peer.handles) compiled.claims) := by
  have hclaimed : namesIn (.handler peer.handles) compiled.claims =
      (compiled.directed peer.handles).flatMap fun p =>
        p.generated.handler.name :: p.generated.handler.sentHook.toList := by
    rw [namesIn_claims, (namesIn_reservedClaims peer.handles).2.1, ← flatMap_directed]
    simp only [Operation.namesIn_claims _ peer.handles, List.nil_append]
    rfl
  rw [hclaimed, handlers_eq h, List.filterMap_eq_flatMap_toList, List.map_map, List.flatMap_map]
  exact List.map_append_flatMap_perm ..

/-- **Arms.**  The dispatcher of a peer declares the names claimed for it. -/
theorem dispatcherNames_eq (h : c.compile options = .ok compiled) (peer : Peer) :
    (dispatcherMethods ++ (compiled.dispatch peer).arms.map fun arm =>
        "dispatch_" ++ arm.handler) =
      namesIn (.dispatcher peer.handles) compiled.claims := by
  rw [namesIn_claims, (namesIn_reservedClaims peer.handles).2.2.1, arms_eq h, List.map_map]
  simp only [Operation.namesIn_claims _ peer.handles, flatMap_directed, Function.comp_def,
    Placement.handler_arm, List.map_eq_flatMap]

/-- The prebuild helpers of a peer, by the operations it calls. -/
theorem map_name_prebuild (h : c.compile options = .ok compiled) (peer : Peer) :
    (compiled.surface peer).prebuild.map PrebuildHelper.name =
      (compiled.directed peer.calls).flatMap fun p => p.candidate.operation.moduleNames := by
  rw [prebuild_eq h, List.filterMap_eq_flatMap_toList, List.map_flatMap]
  simp only [Placement.map_name_prebuild]

/-- **Free functions.**  The two surfaces together put the claimed names into the module. -/
theorem moduleNames_perm (h : c.compile options = .ok compiled) :
    ((compiled.surface .client).prebuild.map PrebuildHelper.name ++
        (compiled.surface .server).prebuild.map PrebuildHelper.name).Perm
      (namesIn .module compiled.claims) := by
  rw [namesIn_claims, (namesIn_reservedClaims .toServer).2.2.2, List.nil_append,
    map_name_prebuild h, map_name_prebuild h, Peer.calls, Peer.calls, ← List.flatMap_append]
  simp only [Operation.namesIn_claims _ .toServer]
  exact compiled.directed_perm.flatMap_right _

/-- **Method names.**  On each side the calls and the accessors of a surface, the handlers and their
hooks, and the methods of a dispatcher have names of their own; and so have the functions that build
messages ahead of time, of both sides together. -/
theorem method_names_distinct (h : c.compile options = .ok compiled) :
    (∀ peer,
      (callerMethods ++ (compiled.surface peer).methods.map Stub.name ++
        (compiled.surface peer).streams.map StreamOpener.name).Nodup ∧
      ((compiled.dispatch peer).handlers.map Handler.name ++
        (compiled.dispatch peer).handlers.filterMap Handler.sentHook).Nodup ∧
      (dispatcherMethods ++ (compiled.dispatch peer).arms.map fun arm =>
        "dispatch_" ++ arm.handler).Nodup) ∧
    ((compiled.surface .client).prebuild.map PrebuildHelper.name ++
      (compiled.surface .server).prebuild.map PrebuildHelper.name).Nodup := by
  have hclaims := nodup_claims h
  refine ⟨fun peer => ⟨?_, ?_, ?_⟩, ?_⟩
  · exact (callerNames_perm h peer).nodup_iff.2 (nodup_namesIn hclaims _)
  · exact (handlerNames_perm h peer).nodup_iff.2 (nodup_namesIn hclaims _)
  · rw [dispatcherNames_eq h peer]
    exact nodup_namesIn hclaims _
  · exact (moduleNames_perm h).nodup_iff.2 (nodup_namesIn hclaims _)

end Compiled

/-- Operations whose methods would meet those of others: an awaited call, a hook, an opener, a
prebuilt send, an accessor and a method of the dispatcher. -/
def Contract.lookalikes : Contract :=
  { Contract.sample "Lookalikes"
      [{ name := "Echo", kind := ⟨.requestResponse, .toServer⟩
         result := some (.primitive .string) },
       { name := "EchoAsync", kind := ⟨.oneWay, .toServer⟩ },
       { name := "OnEchoSent", kind := ⟨.oneWay, .toServer⟩ },
       { name := "Watch", kind := ⟨.requestResponse, .toServer⟩
         outputStream := some (.primitive .u32) },
       { name := "OpenWatch", kind := ⟨.oneWay, .toServer⟩ },
       { name := "Ping", kind := ⟨.oneWay, .toServer⟩, prebuild := true },
       { name := "PingPrebuilt", kind := ⟨.oneWay, .toServer⟩ },
       { name := "Channel", kind := ⟨.oneWay, .toServer⟩ },
       { name := "Message", kind := ⟨.oneWay, .toServer⟩ },
       { name := "EchoAsyncBack", kind := ⟨.oneWay, .toClient⟩, prebuild := true }] with
    streamItems := [.primitive .u32] }

/-- Of `Contract.lookalikes` only the operations whose methods are new are generated. -/
theorem Compiled.lookalikes_method_names_distinct :
    ∃ compiled, Contract.lookalikes.compile {} = .ok compiled ∧
      compiled.generatedOperations.map Prod.fst = [0, 3, 5, 9] ∧
      (∀ peer,
        (callerMethods ++ (compiled.surface peer).methods.map Stub.name ++
          (compiled.surface peer).streams.map StreamOpener.name).Nodup ∧
        ((compiled.dispatch peer).handlers.map Handler.name ++
          (compiled.dispatch peer).handlers.filterMap Handler.sentHook).Nodup ∧
        (dispatcherMethods ++ (compiled.dispatch peer).arms.map fun arm =>
          "dispatch_" ++ arm.handler).Nodup) ∧
      ((compiled.surface .client).prebuild.map PrebuildHelper.name ++
        (compiled.surface .server).prebuild.map PrebuildHelper.name).Nodup := by
  obtain ⟨compiled, h, hcheck⟩ := Contract.exists_compile Contract.lookalikes {}
    (fun compiled => compiled.generatedOperations.map Prod.fst = [0, 3, 5, 9])
    (by decide +kernel)
  exact ⟨compiled, h, of_decide_eq_true hcheck, method_names_distinct h⟩

end ServiceContract
