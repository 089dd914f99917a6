import ServiceContract.Proofs.TraceLines
import ServiceContract.Proofs.TypeNames

/-!
# Variants of fault unions

The variant that holds a carrier is read off two names: that of the carrier, and that of the marker
above it.  Both start with the name of the operation and end with a role, so what is left of the
first one is the piece that the payload contributed (`Compiled.faultVariant_carrier`).

A piece of a name never starts with two colons, since a named type contributes the last segment of its
path only (`DataType.startsAtRoot_fragment`).  So neither does the name of a type, nor a variant.
-/

namespace ServiceContract

open Text

/-- What two texts enclose is found between them. -/
theorem between?_append (first text last : String) :
    between? first last (first ++ text ++ last) = some text := by
  have hfirst : first.toList.isPrefixOf? (first ++ text ++ last).toList =
      some (text.toList ++ last.toList) := by
    rw [List.isPrefixOf?_eq_some_iff_append_eq]
    simp
  have hlast : last.toList.isSuffixOf? (text.toList ++ last.toList) = some text.toList := by
    rw [List.isSuffixOf?_eq_some_iff_append_eq]
  rw [between?, hfirst, Option.bind_some, hlast, Option.map_some, String.ofList_toList]

/-! ## Starts of names -/

/-- What stands before the first two colons has no two colons in a row. -/
theorem not_infix_untilDoubleColon (cs : List Char) :
    ¬ [':', ':'] <:+: untilDoubleColon cs := by
  fun_induction untilDoubleColon cs with
  | case1 => simp
  | case2 => simp
  | case3 c rest hcolons ih =>
      intro hinfix
      rcases List.infix_cons_iff.1 hinfix with hstart | hinfix
      · obtain ⟨rfl, hrest⟩ := List.cons_prefix_cons.1 hstart
        -- A kept colon was there before, so two colons in a row would have ended the text.
        cases rest with
        | nil => simp [untilDoubleColon] at hrest
        | cons d more =>
            refine hcolons more rfl ?_
            unfold untilDoubleColon at hrest
            split at hrest
            · simp at hrest
            · simp at hrest
            · next e others _ heq =>
                obtain ⟨rfl, rfl⟩ := List.cons.inj heq
                rw [← (List.cons_prefix_cons.1 hrest).1]
      · exact ih hinfix

/-- Without two colons in a row a text does not start with them. -/
theorem startsAtRoot_of_not_infix {text : String} (h : ¬ [':', ':'] <:+: text.toList) :
    startsAtRoot text = false :=
  startsAtRoot_eq_false_iff.2 fun hstart =>
    h (hstart.isInfix.trans (List.dropWhile_suffix isBlank).isInfix)

/-- The last segment of a path never starts at the root. -/
theorem startsAtRoot_lastSegment (path : String) : startsAtRoot (lastSegment path) = false := by
  refine startsAtRoot_of_not_infix fun hinfix => ?_
  rw [lastSegment, String.toList_ofList, ← List.reverse_infix, List.reverse_reverse] at hinfix
  exact not_infix_untilDoubleColon _ hinfix

/-- Text without colons in front makes no difference. -/
theorem startsAtRoot_behind {front text : String} (hfront : MadeOf (fun c => c ≠ ':') front)
    (h : startsAtRoot text = false) : startsAtRoot (front ++ text) = false := by
  rw [startsAtRoot_eq_false_iff] at h ⊢
  intro hstart
  rw [String.toList_append, List.dropWhile_append] at hstart
  split at hstart
  · exact h hstart
  · next hsome =>
      obtain ⟨c, cs, hcs⟩ := List.exists_cons_of_ne_nil (mt List.isEmpty_iff.2 hsome)
      have hc : c ∈ front.toList :=
        (List.dropWhile_suffix isBlank).subset (hcs ▸ List.mem_cons_self)
      rw [hcs, List.cons_append] at hstart
      exact hfront c hc (List.cons_prefix_cons.1 hstart).1.symm

theorem startsAtRoot_empty : startsAtRoot "" = false := rfl

/-- A text without colons does not start at the root. -/
theorem startsAtRoot_of_no_colon {text : String} (h : MadeOf (fun c => c ≠ ':') text) :
    startsAtRoot text = false := by
  have hbehind := startsAtRoot_behind h startsAtRoot_empty
  rwa [String.append_empty] at hbehind

/-- A colon is neither a letter nor a digit. -/
theorem ne_colon_of_plainIfAscii {c : Char} (h : PlainIfAscii c) : c ≠ ':' := by
  rintro rfl
  exact absurd (h (by decide)) (by decide)

/-- A literal that starts with neither a blank nor a colon, and any text behind it. -/
theorem startsAtRoot_lead {cs : List Char} (h : cs.head?.any (fun c => !isBlank c && c != ':') = true)
    (text : String) : startsAtRoot (String.ofList cs ++ text) = false := by
  cases cs with
  | nil => cases h
  | cons c cs =>
      have hc : isBlank c = false ∧ c ≠ ':' := by simpa using h
      rw [startsAtRoot_eq_false_iff, String.toList_append, String.toList_ofList]
      exact startsAtRoot_append startsAtRoot_empty hc (cs ++ text.toList)

/-- A literal of letters and digits. -/
theorem startsAtRoot_plain {cs : List Char} (h : (cs.all fun c => decide (IsPlain c)) = true) :
    startsAtRoot (String.ofList cs) = false :=
  startsAtRoot_of_no_colon (madeOf_plain (fun _ => ne_colon_of_plainIfAscii) h)

/-- The part of a name that stands for a type does not start at the root. -/
theorem DataType.startsAtRoot_fragment (type : DataType) : startsAtRoot type.fragment = false := by
  cases type with
  | primitive kind => cases kind <;> exact startsAtRoot_plain rfl
  | list element =>
      change startsAtRoot ("List" ++ element.fragment) = false
      exact startsAtRoot_lead (by decide) _
  | option inner =>
      change startsAtRoot ("Option" ++ inner.fragment) = false
      exact startsAtRoot_lead (by decide) _
  | set element =>
      change startsAtRoot ("Set" ++ element.fragment) = false
      exact startsAtRoot_lead (by decide) _
  | map key value =>
      change startsAtRoot ("Map" ++ key.fragment ++ value.fragment) = false
      rw [String.append_assoc]
      exact startsAtRoot_lead (by decide) _
  | array element length =>
      change startsAtRoot ("Array" ++ element.fragment ++ "x" ++ toString length) = false
      rw [String.append_assoc, String.append_assoc]
      exact startsAtRoot_lead (by decide) _
  | tuple elements =>
      change startsAtRoot ("Tuple" ++ fragments elements) = false
      exact startsAtRoot_lead (by decide) _
  | named path => exact startsAtRoot_lastSegment path
  | unsupported _ => exact startsAtRoot_plain rfl

/-- What a role adds to a name has no colon. -/
theorem Role.no_colon_suffix (role : Role) : MadeOf (fun c => c ≠ ':') role.suffix := by
  cases role <;> exact madeOf_plain (fun _ => ne_colon_of_plainIfAscii) rfl

/-- The name of a carrier, of whatever operation. -/
theorem Operation.startsAtRoot_carrierName (op : Operation) (payload : DataType) :
    startsAtRoot (op.carrierName payload) = false := by
  have hend := startsAtRoot_append payload.startsAtRoot_fragment
    (by decide : isBlank 'F' = false ∧ 'F' ≠ ':') "ault".toList
  have hrest : startsAtRoot (payload.fragment ++ Role.faultCarrier.suffix) = false := by
    rw [startsAtRoot_eq_false_iff, String.toList_append]
    exact hend
  rw [carrierName, String.append_assoc]
  exact startsAtRoot_behind (madeOf_camel (fun _ => ne_colon_of_plainIfAscii) _) hrest

/-- A converted name with a role behind it. -/
theorem startsAtRoot_role (name : String) (role : Role) :
    startsAtRoot (camel name ++ role.suffix) = false :=
  startsAtRoot_of_no_colon
    ((madeOf_camel (fun _ => ne_colon_of_plainIfAscii) name).append role.no_colon_suffix)

/-- No message of an operation has a name that starts at the root. -/
theorem Operation.startsAtRoot_drafts (op : Operation) (c : Contract) (index : Nat)
    (keys : OperationKeys) (first : NodeId) :
    ∀ draft ∈ op.drafts c index keys first, startsAtRoot draft.name = false := by
  apply forall_mem_drafts
  case carrier => exact fun _ _ fault _ => op.startsAtRoot_carrierName fault.payload
  all_goals intros; exact startsAtRoot_role _ _

namespace Compiled

variable {c : Contract} {options : Options} {compiled : Compiled}
  (h : c.compile options = .ok compiled)
include h

/-- No name of a catalog starts with two colons. -/
theorem startsAtRoot_name (id : NodeId) : startsAtRoot (compiled.catalog.name id) = false := by
  cases hget : compiled.catalog.get? id with
  | none =>
      rw [Catalog.name, hget]
      exact startsAtRoot_empty
  | some node =>
      rw [Catalog.name, hget, Option.map_some, Option.getD_some]
      have hnode : node ∈ compiled.catalog.nodes := List.mem_of_getElem? hget
      rw [catalog_nodes h, List.mem_append] at hnode
      rcases hnode with hnode | hnode
      · obtain ⟨draft, hdraft, id, rfl⟩ := Draft.mem_finalizeFrom hnode
        rcases List.mem_cons.1 hdraft with rfl | hdraft
        · exact startsAtRoot_role _ _
        · obtain ⟨message, -, rfl⟩ := List.mem_map.1 hdraft
          cases message <;> exact startsAtRoot_plain rfl
      · obtain ⟨p, -, hnode⟩ := List.mem_flatMap.1 hnode
        obtain ⟨draft, hdraft, id, rfl⟩ := Draft.mem_finalizeFrom hnode
        exact Operation.startsAtRoot_drafts _ c _ _ _ draft hdraft

/-! ## Variants -/

section Placed

variable {p : Placement} (hp : p ∈ compiled.placements)
include hp

/-- **Variants recover payloads.**  The variant of a carrier is what its payload contributed to its
name, or the whole name if that is nothing. -/
theorem faultVariant_carrier {entry : Fault × Nat}
    (hentry : entry ∈ p.candidate.operation.faults.zipIdx (p.first + 3)) :
    compiled.catalog.faultVariant entry.2 =
      if entry.1.payload.fragment.isEmpty then p.candidate.operation.carrierName entry.1.payload
      else entry.1.payload.fragment := by
  have hfaults := List.ne_nil_of_mem (List.fst_mem_of_mem_zipIdx hentry)
  have hget : compiled.catalog.get? entry.2 = some _ :=
    Catalog.node_eq_ok_iff.1 (node_carrier h hp hentry)
  have hname : compiled.catalog.name entry.2 =
      p.candidate.operation.carrierName entry.1.payload := by
    rw [Catalog.name, hget]
    rfl
  have hmarker : ((compiled.catalog.get? entry.2).bind Node.base).map compiled.catalog.name =
      some (p.candidate.operation.typeName ++ Role.faultData.suffix) := by
    rw [hget, ← name_marker h hp (isOneWay_of_faults h hp hfaults) hfaults]
    rfl
  have hoperation : between? "" Role.faultData.suffix
      (p.candidate.operation.typeName ++ Role.faultData.suffix) =
      some p.candidate.operation.typeName := by
    have hbetween := between?_append "" p.candidate.operation.typeName Role.faultData.suffix
    rwa [String.empty_append] at hbetween
  rw [Catalog.faultVariant, hmarker, Option.bind_some, hoperation, Option.getD_some, hname, Operation.carrierName,
    between?_append]

/-- So the variant of a carrier does not either. -/
theorem startsAtRoot_variant {carrier : FaultCarrier} (hcarrier : carrier ∈
      (p.candidate.operation.faultSet c p.candidate.index (p.first + 2)).carriers) :
    startsAtRoot (compiled.catalog.faultVariant carrier.node) = false := by
  obtain ⟨entry, hentry, rfl⟩ := Operation.exists_of_mem_carriers hcarrier
  change startsAtRoot (compiled.catalog.faultVariant entry.2) = false
  rw [faultVariant_carrier h hp hentry]
  split
  · exact p.candidate.operation.startsAtRoot_carrierName entry.1.payload
  · exact entry.1.payload.startsAtRoot_fragment

end Placed

end Compiled

end ServiceContract
