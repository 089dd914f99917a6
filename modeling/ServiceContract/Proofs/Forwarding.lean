import ServiceContract.Proofs.MethodNames
import ServiceContract.Source.Callers

/-!
# Forwarding reaches the intended stub

Of the stubs of a call only the asynchronous one sends anything.  The others forward to a stub of
another style, and so do the methods of a facade.  They name the stub they forward to, with affixes
around a plain name that comes from the contract, and a name leads to the first stub that has it.

It leads to the intended stub, because the stubs under one plain name are generated together in all
styles (`Generated.exists_restyled`), and because no two stubs of a surface share a name
(`Compiled.nodup_stub_names`).  A step from one stub to the next is `Compiled.exists_forward`, and
whole chains of steps are `Surface.Settles`.

The main statement is `Source.forwarding_reaches`.
-/

namespace ServiceContract

/-- What one of several groups contributes, if all its elements carry the key of the group and no
other group has that key. -/
theorem filter_flatMap_of_nodup_map {α β γ : Type} [DecidableEq γ] (groupKey : α → γ)
    {groups : List α} {members : α → List β} {key : β → γ}
    (hnodup : (groups.map groupKey).Nodup)
    (hkey : ∀ a ∈ groups, ∀ b ∈ members a, key b = groupKey a) {a : α} (ha : a ∈ groups) :
    ((groups.flatMap members).filter fun b => key b = groupKey a) = members a := by
  induction groups with
  | nil => cases ha
  | cons first rest ih =>
      rw [List.map_cons, List.nodup_cons] at hnodup
      have hrest : ∀ x ∈ rest, ∀ b ∈ members x, key b = groupKey x :=
        fun x hx => hkey x (List.mem_cons_of_mem _ hx)
      have hother : ∀ x ∈ rest, groupKey x ≠ groupKey first :=
        fun x hx hsame => hnodup.1 (List.mem_map.2 ⟨x, hx, hsame⟩)
      rw [List.flatMap_cons, List.filter_append]
      rcases List.mem_cons.1 ha with rfl | ha
      · have hown : (members a).filter (fun b => key b = groupKey a) = members a :=
          List.filter_eq_self.2 fun b hb => decide_eq_true (hkey a List.mem_cons_self b hb)
        have hnone : (rest.flatMap members).filter (fun b => key b = groupKey a) = [] := by
          refine List.filter_eq_nil_iff.2 fun b hb => ?_
          obtain ⟨x, hx, hb⟩ := List.mem_flatMap.1 hb
          simpa [hrest x hx b hb] using hother x hx
        rw [hown, hnone, List.append_nil]
      · have hnone : (members first).filter (fun b => key b = groupKey a) = [] := by
          refine List.filter_eq_nil_iff.2 fun b hb => ?_
          simpa [hkey first List.mem_cons_self b hb] using (hother a ha).symm
        rw [hnone, List.nil_append, ih hnodup.2 hrest ha]

/-- No style is missing from the list. -/
theorem CallStyle.mem_all (style : CallStyle) : style ∈ CallStyle.all := by
  cases style <;> decide

/-- The style whose stub a stub of this style forwards to. -/
def CallStyle.wrapped? : CallStyle → Option CallStyle
  | .blocking => some .async
  | .async => none
  | .try => some .blocking
  | .tryAsync => some .async

/-- A stub forwards to the call it wraps, under the same plain name. -/
theorem Stub.forwardsTo?_eq (stub : Stub) :
    stub.forwardsTo? = stub.style.wrapped?.map fun style => style.methodName stub.baseName := by
  unfold forwardsTo?
  cases stub.style <;> rfl

/-- Two stubs make the same call, perhaps in different styles. -/
structure Stub.SameCall (stub other : Stub) : Prop where
  baseName : stub.baseName = other.baseName
  operation : stub.operation = other.operation
  prebuilt : stub.prebuilt = other.prebuilt
  params : stub.params = other.params
  message : stub.message = other.message

theorem Stub.SameCall.refl (stub : Stub) : stub.SameCall stub := ⟨rfl, rfl, rfl, rfl, rfl⟩

/-- Stubs that make the same call as a third make the same call. -/
theorem Stub.SameCall.trans {a b d : Stub} (hab : a.SameCall b) (hbd : b.SameCall d) :
    a.SameCall d :=
  ⟨hab.baseName.trans hbd.baseName, hab.operation.trans hbd.operation,
    hab.prebuilt.trans hbd.prebuilt, hab.params.trans hbd.params, hab.message.trans hbd.message⟩

/-- Stubs that make the same call take the same parameters. -/
theorem Stub.SameCall.stubBinders {stub other : Stub} (h : stub.SameCall other) (s : Source) :
    s.stubBinders stub = s.stubBinders other := by
  rw [Source.stubBinders, Source.stubBinders, h.prebuilt, h.params, h.message]

/-- A chain of forwards on a surface: from the first stub to the one that forwards no further. -/
inductive Surface.Settles (surface : Surface) : Stub → Stub → Prop
  | sends {stub : Stub} (hsends : stub.forwardsTo? = none) : Settles surface stub stub
  | forwards {stub next last : Stub} {name : String} (hname : stub.forwardsTo? = some name)
      (hnext : surface.method? name = some next) (hrest : Settles surface next last) :
      Settles surface stub last

namespace Generated

variable {entry : Generated}

/-- A stub is called by its plain name, with the affixes of its style. -/
theorem name_of_mem_stubs {stub : Stub} (h : stub ∈ entry.stubs) :
    stub.name = stub.style.methodName stub.baseName := by
  obtain ⟨base, prebuilt, h⟩ := entry.mem_stubsNamed h
  obtain ⟨style, -, rfl⟩ := List.mem_map.1 h
  rfl

/-- **All styles.**  The call of a stub is offered in every style. -/
theorem exists_restyled {stub : Stub} (h : stub ∈ entry.stubs) (style : CallStyle) :
    ∃ other ∈ entry.stubs, other.style = style ∧
      other.name = style.methodName stub.baseName ∧ stub.SameCall other := by
  -- under one plain name stand the stubs of all styles
  have hnamed : ∀ base prebuilt, (∀ other ∈ entry.stubsNamed base prebuilt, other ∈ entry.stubs) →
      stub ∈ entry.stubsNamed base prebuilt → ∃ other ∈ entry.stubs, other.style = style ∧
        other.name = style.methodName stub.baseName ∧ stub.SameCall other := by
    intro base prebuilt hall hmem
    obtain ⟨own, -, rfl⟩ := List.mem_map.1 hmem
    exact ⟨_, hall _ (List.mem_map.2 ⟨style, style.mem_all, rfl⟩), rfl, rfl, rfl, rfl, rfl, rfl,
      rfl⟩
  have hcases := h
  unfold stubs at hcases
  split at hcases
  · cases hcases
  · next hopener =>
      rcases List.mem_append.1 hcases with hmem | hmem
      · refine hnamed _ _ (fun other hother => ?_) hmem
        rw [stubs, if_neg hopener]
        exact List.mem_append_left _ hother
      · split at hmem
        · next hprebuilt =>
            refine hnamed _ _ (fun other hother => ?_) hmem
            rw [stubs, if_neg hopener, if_pos hprebuilt]
            exact List.mem_append_right _ hother
        · cases hmem

/-- There are four styles under one plain name. -/
theorem length_stubsNamed (base : String) (prebuilt : Bool) :
    (entry.stubsNamed base prebuilt).length = 4 := by
  rw [stubsNamed, List.length_map]
  rfl

end Generated

namespace Compiled

variable {c : Contract} {options : Options} {compiled : Compiled}

/-- No two stubs of a surface share a name. -/
theorem nodup_stub_names (h : c.compile options = .ok compiled) (peer : Peer) :
    ((compiled.surface peer).methods.map Stub.name).Nodup := by
  have hnames := (callerNames_perm h peer).nodup_iff.2
    (MethodClaim.nodup_namesIn (nodup_claims h) _)
  exact hnames.sublist ((List.sublist_append_right ..).trans (List.sublist_append_left ..))

/-- A stub is found under its name. -/
theorem method?_of_mem (h : c.compile options = .ok compiled) {peer : Peer} {stub : Stub}
    (hstub : stub ∈ (compiled.surface peer).methods) :
    (compiled.surface peer).method? stub.name = some stub :=
  find?_of_nodup_map (nodup_stub_names h peer) hstub

/-- The stubs of a surface are called by their plain names, with the affixes of their styles. -/
theorem name_of_mem_methods (h : c.compile options = .ok compiled) {peer : Peer} {stub : Stub}
    (hstub : stub ∈ (compiled.surface peer).methods) :
    stub.name = stub.style.methodName stub.baseName := by
  rw [methods_eq h] at hstub
  obtain ⟨p, -, hstub⟩ := List.mem_flatMap.1 hstub
  exact Generated.name_of_mem_stubs hstub

/-- **One step.**  The name that a call has in a style leads to the stub of that call and style. -/
theorem exists_forward (h : c.compile options = .ok compiled) {peer : Peer} {stub : Stub}
    (hstub : stub ∈ (compiled.surface peer).methods) (style : CallStyle) :
    ∃ target ∈ (compiled.surface peer).methods,
      (compiled.surface peer).method? (style.methodName stub.baseName) = some target ∧
      target.style = style ∧ stub.SameCall target := by
  have hmethods := methods_eq h peer
  rw [hmethods] at hstub
  obtain ⟨p, hp, hstub⟩ := List.mem_flatMap.1 hstub
  obtain ⟨target, htarget, hstyle, hname, hsame⟩ := Generated.exists_restyled hstub style
  have hmem : target ∈ (compiled.surface peer).methods := by
    rw [hmethods]
    exact List.mem_flatMap.2 ⟨p, hp, htarget⟩
  exact ⟨target, hmem, hname ▸ method?_of_mem h hmem, hstyle, hsame⟩

/-- **Whole chains.**  Forwarding from any stub ends at the asynchronous stub of the same call. -/
theorem exists_settles (h : c.compile options = .ok compiled) {peer : Peer} {stub : Stub}
    (hstub : stub ∈ (compiled.surface peer).methods) :
    ∃ last ∈ (compiled.surface peer).methods, (compiled.surface peer).Settles stub last ∧
      last.style = .async ∧ stub.SameCall last := by
  have hends : ∀ other ∈ (compiled.surface peer).methods, other.style = .async →
      (compiled.surface peer).Settles other other := by
    intro other _ hstyle
    exact .sends (by rw [Stub.forwardsTo?_eq, hstyle]; rfl)
  -- a stub that wraps the asynchronous one is one step away from it
  have hstep : ∀ other ∈ (compiled.surface peer).methods, other.style.wrapped? = some .async →
      ∃ last ∈ (compiled.surface peer).methods, (compiled.surface peer).Settles other last ∧
        last.style = .async ∧ other.SameCall last := by
    intro other hother hwraps
    obtain ⟨last, hlast, hfound, hstyle, hsame⟩ := exists_forward h hother .async
    refine ⟨last, hlast, .forwards ?_ hfound (hends last hlast hstyle), hstyle, hsame⟩
    rw [Stub.forwardsTo?_eq, hwraps, Option.map_some]
  cases hstyle : stub.style with
  | blocking => exact hstep stub hstub (by rw [hstyle]; rfl)
  | async => exact ⟨stub, hstub, hends stub hstub hstyle, hstyle, .refl stub⟩
  | tryAsync => exact hstep stub hstub (by rw [hstyle]; rfl)
  | «try» =>
      obtain ⟨next, hnext, hfound, hblocking, hsame⟩ := exists_forward h hstub .blocking
      obtain ⟨last, hlast, hsettles, hasync, hsame'⟩ := hstep next hnext (by rw [hblocking]; rfl)
      refine ⟨last, hlast, .forwards ?_ hfound hsettles, hasync, hsame.trans hsame'⟩
      rw [Stub.forwardsTo?_eq, hstyle]
      rfl

/-! ## Facades -/

/-- The facades of a surface: one for each style but the blocking one, with the stubs of that style
under their plain names. -/
theorem facades_eq (h : c.compile options = .ok compiled) (peer : Peer) :
    (compiled.surface peer).facades = CallStyle.all.filterMap fun style =>
      style.facade? (compiled.surface peer).name (compiled.surface peer).methods := by
  rw [Contract.compile_surface h]
  rfl

/-- The methods of a facade are the stubs of its style, in order. -/
theorem facade_methods (h : c.compile options = .ok compiled) {peer : Peer} {facade : Facade}
    (hfacade : facade ∈ (compiled.surface peer).facades) :
    facade.methods = ((compiled.surface peer).methods.filter fun stub =>
      stub.style = facade.style).map fun stub => ⟨stub.baseName, stub.name⟩ := by
  rw [facades_eq h] at hfacade
  obtain ⟨style, -, hfacade⟩ := List.mem_filterMap.1 hfacade
  obtain ⟨suffix, -, rfl⟩ := Option.map_eq_some_iff.1 hfacade
  rfl

/-- Within a facade no plain name is repeated, since the names of the stubs are not. -/
theorem nodup_facade_names (h : c.compile options = .ok compiled) {peer : Peer} {facade : Facade}
    (hfacade : facade ∈ (compiled.surface peer).facades) :
    (facade.methods.map FacadeMethod.name).Nodup := by
  have hnames : ((((compiled.surface peer).methods.filter fun stub =>
      stub.style = facade.style).map Stub.baseName).map facade.style.methodName).Nodup := by
    have hsub : (((compiled.surface peer).methods.filter fun stub =>
        stub.style = facade.style).map Stub.name).Nodup :=
      (nodup_stub_names h peer).sublist (List.filter_sublist.map Stub.name)
    rw [List.map_map]
    rwa [List.map_congr_left (g := facade.style.methodName ∘ Stub.baseName)] at hsub
    intro stub hstub
    obtain ⟨hmem, hstyle⟩ := List.mem_filter.1 hstub
    rw [name_of_mem_methods h hmem, of_decide_eq_true hstyle]
    rfl
  rw [facade_methods h hfacade, List.map_map]
  exact hnames.of_map

/-! ## What an operation contributes -/

/-- No operation is placed twice in a direction. -/
theorem nodup_directed_index (h : c.compile options = .ok compiled) (direction : Direction) :
    ((compiled.directed direction).map fun p => p.candidate.index).Nodup := by
  have hall : (compiled.placements.map fun p => p.candidate.index).Nodup :=
    (placements_pairwise_index h).imp fun hlt => Nat.ne_of_lt hlt
  exact hall.sublist (List.filter_sublist.map _)

/-- What a placed operation contributes to something that is gathered from the operations of a
direction. -/
theorem filter_flatMap_directed {α : Type} (h : c.compile options = .ok compiled) {p : Placement}
    (hp : p ∈ compiled.placements) (direction : Direction) {f : Placement → List α}
    {operation : α → Nat} (hindex : ∀ q, ∀ a ∈ f q, operation a = q.candidate.index) :
    (((compiled.directed direction).flatMap f).filter fun a =>
        operation a = p.candidate.index) =
      if p.candidate.operation.kind.direction = direction then f p else [] := by
  split
  · next hdirection =>
      exact filter_flatMap_of_nodup_map (fun q : Placement => q.candidate.index)
        (nodup_directed_index h _) (fun q _ => hindex q) (mem_directed.2 ⟨hp, hdirection⟩)
  · next hdirection =>
      refine List.filter_eq_nil_iff.2 fun a ha hsame => ?_
      obtain ⟨q, hq, ha⟩ := List.mem_flatMap.1 ha
      obtain ⟨hplaced, hdirected⟩ := mem_directed.1 hq
      have hpq := eq_of_index_eq h hplaced hp ((hindex q a ha).symm.trans (of_decide_eq_true hsame))
      exact hdirection (hpq ▸ hdirected)

/-- The stubs of a placed operation on a surface. -/
theorem methodsFor_placed (h : c.compile options = .ok compiled) {p : Placement}
    (hp : p ∈ compiled.placements) (peer : Peer) :
    (compiled.surface peer).methodsFor p.candidate.index =
      if p.candidate.operation.kind.direction = peer.calls then p.generated.stubs else [] := by
  rw [Surface.methodsFor, methods_eq h]
  exact filter_flatMap_directed h hp _ fun q stub hstub => (Generated.mem_stubs _ hstub).1

/-- The openers of a placed operation on a surface. -/
theorem openers_placed (h : c.compile options = .ok compiled) {p : Placement}
    (hp : p ∈ compiled.placements) (peer : Peer) :
    ((compiled.surface peer).streams.filter fun opener => opener.operation = p.candidate.index) =
      if p.candidate.operation.kind.direction = peer.calls then p.generated.opener?.toList
      else [] := by
  rw [streams_eq h, List.filterMap_eq_flatMap_toList]
  refine filter_flatMap_directed h hp _ fun q opener hopener => ?_
  exact (Generated.opener?_eq_some _ (Option.mem_toList.1 hopener)).1

/-- A generated operation that streams is opened. -/
theorem opensStream_eq (h : c.compile options = .ok compiled) {p : Placement}
    (hp : p ∈ compiled.placements) :
    p.candidate.operation.opensStream = p.candidate.operation.isStreaming := by
  have hwell := wellFormed h hp
  rw [Operation.opensStream, CallKind.isRequestResponse]
  cases hexchange : p.candidate.operation.kind.exchange with
  | requestResponse => simp
  | oneWay =>
      have hone : p.candidate.operation.kind.isOneWay = true := by
        simp [CallKind.isOneWay, hexchange]
      simp [(hwell.one_way hone).2.1]

/-- The number of stubs of a placed operation. -/
theorem length_stubs (h : c.compile options = .ok compiled) {p : Placement}
    (hp : p ∈ compiled.placements) :
    p.generated.stubs.length =
      if p.candidate.operation.isStreaming then 0
      else if p.candidate.operation.kind.isOneWay && p.candidate.operation.prebuild then 8
      else 4 := by
  rw [Generated.stubs, p.isSome_opener?, opensStream_eq h hp]
  change (if _ then [] else _ ++ if p.candidate.operation.offersPrebuilt then _ else []).length = _
  rw [Operation.offersPrebuilt]
  split
  · rfl
  · split <;> simp [Generated.length_stubsNamed]

/-- The number of openers of a placed operation. -/
theorem length_opener (h : c.compile options = .ok compiled) {p : Placement}
    (hp : p ∈ compiled.placements) :
    p.generated.opener?.toList.length = if p.candidate.operation.isStreaming then 1 else 0 := by
  have hopens := p.isSome_opener?
  rw [opensStream_eq h hp] at hopens
  cases hopener : p.generated.opener? <;> simp [← hopens, hopener]

end Compiled

namespace Source

variable {c : Contract} {options : Options} {s : Source}

/-- A stub that forwards is written as one line, which calls the stub of that name with the
parameters of the stub. -/
theorem stubBody_of_forwardsTo {stub : Stub} {name : String} (h : stub.forwardsTo? = some name) :
    ∃ before after, s.stubBody stub =
      [.line (before ++ ("self." ++ name ++ "(" ++ forwarded (s.stubBinders stub) ++ ")") ++
        after)] := by
  cases hstyle : stub.style with
  | blocking =>
      refine ⟨s.inRuntime "block_on(", ")", ?_⟩
      simp [stubBody, hstyle, h, inRuntime, ← String.toList_inj]
  | async => simp [Stub.forwardsTo?_eq, hstyle, CallStyle.wrapped?] at h
  | «try» =>
      refine ⟨"Outcome::from(", ")", ?_⟩
      simp [stubBody, hstyle, h, ← String.toList_inj]
  | tryAsync =>
      refine ⟨"Outcome::from(", ".await)", ?_⟩
      simp [stubBody, hstyle, h, ← String.toList_inj]

/-- The stubs, the facades and the openers of a peer fit together. -/
structure Forwarding (s : Source) (peer : Peer) : Prop where
  /-- A blocking stub, and one that returns an outcome later, forward to the asynchronous stub. -/
  to_async : ∀ stub ∈ (s.compiled.surface peer).methods,
    stub.style = .blocking ∨ stub.style = .tryAsync →
      stub.forwardsTo? = some (CallStyle.async.methodName stub.baseName) ∧
      ∃ target, (s.compiled.surface peer).method? (CallStyle.async.methodName stub.baseName) =
        some target ∧ target.style = .async ∧ stub.SameCall target
  /-- One that returns an outcome forwards to the blocking stub. -/
  to_blocking : ∀ stub ∈ (s.compiled.surface peer).methods, stub.style = .try →
    stub.forwardsTo? = some (CallStyle.blocking.methodName stub.baseName) ∧
    ∃ target, (s.compiled.surface peer).method? (CallStyle.blocking.methodName stub.baseName) =
      some target ∧ target.style = .blocking ∧ stub.SameCall target
  /-- What a forwarding stub is written as: a call of the other stub, with its parameters. -/
  written : ∀ stub ∈ (s.compiled.surface peer).methods, ∀ name, stub.forwardsTo? = some name →
    ∃ target before after, (s.compiled.surface peer).method? name = some target ∧
      s.stubBody stub = [.line (before ++
        ("self." ++ name ++ "(" ++ forwarded (s.stubBinders target) ++ ")") ++ after)]
  /-- Every chain of forwards ends, at the asynchronous stub of the same call. -/
  settles : ∀ stub ∈ (s.compiled.surface peer).methods,
    ∃ last ∈ (s.compiled.surface peer).methods, (s.compiled.surface peer).Settles stub last ∧
      last.style = .async ∧ stub.SameCall last
  /-- Every style but the blocking one has its facade. -/
  facade_styles : (s.compiled.surface peer).facades.map Facade.style = [.async, .try, .tryAsync]
  /-- An entry of a facade leads to the stub of its style and plain name, so that it is written. -/
  entries : ∀ facade ∈ (s.compiled.surface peer).facades, ∀ entry ∈ facade.methods,
    (∃ target, (s.compiled.surface peer).method? entry.target = some target ∧
      target.style = facade.style ∧ target.baseName = entry.name) ∧
    (s.facadeMethod (s.compiled.surface peer) entry).isSome = true
  entries_nodup : ∀ facade ∈ (s.compiled.surface peer).facades,
    (facade.methods.map FacadeMethod.name).Nodup
  /-- A facade lists the stubs of its style, in order. -/
  entries_eq : ∀ facade ∈ (s.compiled.surface peer).facades, facade.methods =
    ((s.compiled.surface peer).methods.filter fun stub => stub.style = facade.style).map
      fun stub => ⟨stub.baseName, stub.name⟩
  /-- What a generated operation contributes. -/
  contributes : ∀ index op, (index, op) ∈ s.compiled.generatedOperations →
    op.kind.direction = peer.calls →
      ((s.compiled.surface peer).methodsFor index).length =
        (if op.isStreaming then 0 else if op.kind.isOneWay && op.prebuild then 8 else 4) ∧
      ((s.compiled.surface peer).streams.filter fun opener => opener.operation = index).length =
        if op.isStreaming then 1 else 0

/-- **Forwarding.**  On each surface of a compiled contract every forward, of a stub or of a facade,
leads to the stub that is meant, and every chain of forwards ends at a stub that sends. -/
theorem forwarding_reaches (h : c.compile options = .ok s.compiled) (peer : Peer) :
    s.Forwarding peer := by
  have htarget : ∀ stub ∈ (s.compiled.surface peer).methods, ∀ style,
      stub.style.wrapped? = some style →
        stub.forwardsTo? = some (style.methodName stub.baseName) ∧
        ∃ target, (s.compiled.surface peer).method? (style.methodName stub.baseName) =
          some target ∧ target.style = style ∧ stub.SameCall target := by
    intro stub hstub style hwraps
    obtain ⟨target, -, hfound, hstyle, hsame⟩ := Compiled.exists_forward h hstub style
    refine ⟨?_, target, hfound, hstyle, hsame⟩
    rw [Stub.forwardsTo?_eq, hwraps, Option.map_some]
  refine ⟨?_, ?_, ?_, fun stub hstub => Compiled.exists_settles h hstub, ?_, ?_,
    fun facade hfacade => Compiled.nodup_facade_names h hfacade,
    fun facade hfacade => Compiled.facade_methods h hfacade, ?_⟩
  · rintro stub hstub (hstyle | hstyle)
    · exact htarget stub hstub .async (by rw [hstyle]; rfl)
    · exact htarget stub hstub .async (by rw [hstyle]; rfl)
  · intro stub hstub hstyle
    exact htarget stub hstub .blocking (by rw [hstyle]; rfl)
  · intro stub hstub name hname
    have hwraps := hname
    rw [Stub.forwardsTo?_eq, Option.map_eq_some_iff] at hwraps
    obtain ⟨style, hwraps, rfl⟩ := hwraps
    obtain ⟨-, target, hfound, -, hsame⟩ := htarget stub hstub style hwraps
    obtain ⟨before, after, hbody⟩ := stubBody_of_forwardsTo (s := s) hname
    rw [hsame.stubBinders s] at hbody
    exact ⟨target, before, after, hfound, hbody⟩
  · rw [Compiled.facades_eq h]
    rfl
  · intro facade hfacade entry hentry
    rw [Compiled.facade_methods h hfacade] at hentry
    obtain ⟨stub, hstub, rfl⟩ := List.mem_map.1 hentry
    obtain ⟨hmem, hstyle⟩ := List.mem_filter.1 hstub
    have hfound := Compiled.method?_of_mem h hmem
    refine ⟨⟨stub, hfound, of_decide_eq_true hstyle, rfl⟩, ?_⟩
    rw [facadeMethod, hfound]
    rfl
  · intro index op hmem hdirection
    rw [Compiled.generatedOperations_eq h] at hmem
    obtain ⟨p, hp, hpair⟩ := List.mem_map.1 hmem
    obtain ⟨rfl, rfl⟩ := Prod.mk.inj hpair
    rw [Compiled.methodsFor_placed h hp, Compiled.openers_placed h hp, if_pos hdirection,
      if_pos hdirection]
    exact ⟨Compiled.length_stubs h hp, Compiled.length_opener h hp⟩

end Source

/-- Operations with plain names that are affixed forms of each other.  The third is skipped, because
its awaited try would be called like that of the second. -/
def Contract.affixes : Contract :=
  { Contract.sample "Affixes"
      [{ name := "Ping", kind := ⟨.oneWay, .toServer⟩, prebuild := true
         arguments := [⟨.primitive .u32, some "payload"⟩] },
       { name := "TryPing2", kind := ⟨.requestResponse, .toServer⟩ },
       { name := "Ping2Async", kind := ⟨.requestResponse, .toServer⟩ },
       { name := "PingPrebuilt2", kind := ⟨.oneWay, .toServer⟩, prebuild := true },
       { name := "Watch", kind := ⟨.requestResponse, .toServer⟩
         outputStream := some (.primitive .u32) },
       { name := "Pong", kind := ⟨.oneWay, .toClient⟩ }] with
    streamItems := [.primitive .u32] }

/-- On the client of `Contract.affixes` prebuilt sends stand beside a call and a stream. -/
theorem Source.affixes_forwarding_reaches :
    ∃ compiled, Contract.affixes.compile {} = .ok compiled ∧
      (compiled.generatedOperations.map Prod.fst = [0, 1, 3, 4, 5] ∧
        (compiled.surface .client).methods.length = 20 ∧
        ((compiled.surface .client).method? "try_ping_prebuilt").map Stub.style = some .try) ∧
      ∀ peer, Forwarding { compiled } peer := by
  obtain ⟨compiled, h, hcheck⟩ := Contract.exists_compile Contract.affixes {}
    (fun compiled => compiled.generatedOperations.map Prod.fst = [0, 1, 3, 4, 5] ∧
      (compiled.surface .client).methods.length = 20 ∧
      ((compiled.surface .client).method? "try_ping_prebuilt").map Stub.style = some .try)
    (by decide +kernel)
  exact ⟨compiled, h, of_decide_eq_true hcheck, forwarding_reaches (s := { compiled }) h⟩

end ServiceContract
