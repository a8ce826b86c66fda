import XmlBinding.Proofs.Except
import XmlBinding.Proofs.SoapArray.Resolve

/-!
This module contains what the resolving of arrays can do to any store, whether that is in order or not. The nodes
stay. A list of attributes stays as it is or has its annotation recorded, and an element that comes to a list of
elements is a wildcard with another type.
-/

namespace XmlBinding.SoapArray

open Report

/-- The type that the annotation among some attributes refers to. -/
def arrayItem? (find? : QName → Option TypeRef) (attributes : List Member) : Option TypeRef :=
  match record? attributes with
  | .ok (some (_, name)) => item? find? name
  | _ => none

/-- The store `s'` is what the resolving of some arrays can make of `s`. -/
structure Alters (find? : QName → Option TypeRef) (s s' : Store) : Prop where
  nodes : s'.nodes = s.nodes
  attributes : ∀ place,
    (s'.membersAt place).attributes = (s.membersAt place).attributes ∨
      ∃ name, record? (s.membersAt place).attributes = .ok (some ((s'.membersAt place).attributes, name))
  elements : ∀ place, ∀ m ∈ (s'.membersAt place).elements,
    m ∈ (s.membersAt place).elements ∨
      ∃ other w item, .element w ∈ (s.membersAt other).elements ∧
        arrayItem? find? (s.membersAt place).attributes = some item ∧ m = .element (typed item w)

variable {find? : QName → Option TypeRef} {s s' s'' : Store} {r item : TypeRef} {t : ComplexType}
  {ms : List Member}

theorem Alters.refl (find? : QName → Option TypeRef) (s : Store) : Alters find? s s where
  nodes := rfl
  attributes _ := .inl rfl
  elements _ _ hm := .inl hm

theorem arrayItem?_of_record?_eq {attributes recorded : List Member} {name : QName}
    (h : record? attributes = .ok (some (recorded, name))) (find? : QName → Option TypeRef)
    : arrayItem? find? attributes = item? find? name := by
  unfold arrayItem?
  rw [h]

/-- Recording an annotation does not change what it refers to. -/
theorem Alters.arrayItem?_eq (h : Alters find? s s') (place : Nat)
    : arrayItem? find? (s'.membersAt place).attributes = arrayItem? find? (s.membersAt place).attributes := by
  cases h.attributes place with
  | inl hsame => rw [hsame]
  | inr hrecorded =>
    obtain ⟨name, hname⟩ := hrecorded
    rw [arrayItem?_of_record?_eq hname]
    exact arrayItem?_of_record?_eq (record?_of_record?_eq hname) find?

theorem Alters.trans (h : Alters find? s s') (h' : Alters find? s' s'') : Alters find? s s'' where
  nodes := h'.nodes.trans h.nodes
  attributes := by
    intro place
    cases h'.attributes place with
    | inl hsame =>
      rw [hsame]
      exact h.attributes place
    | inr hrecorded =>
      right
      obtain ⟨name', hname'⟩ := hrecorded
      cases h.attributes place with
      | inl hsame =>
        rw [← hsame]
        exact ⟨name', hname'⟩
      | inr hrecorded =>
        obtain ⟨name, hname⟩ := hrecorded
        rw [record?_of_record?_eq hname] at hname'
        have hsame := congrArg Prod.fst (Option.some.inj (Except.ok.inj hname'))
        dsimp only at hsame
        rw [← hsame]
        exact ⟨name, hname⟩
  elements := by
    intro place m hm
    obtain hm | ⟨other, w, item, hw, hitem, rfl⟩ := h'.elements place m hm
    . exact h.elements place m hm
    . right
      rw [h.arrayItem?_eq] at hitem
      obtain hw | ⟨other', w', item', hw', -, heq⟩ := h.elements other (.element w) hw
      . exact ⟨other, w, item, hw, hitem, rfl⟩
      . cases heq
        exact ⟨other', w', item, hw', hitem, rfl⟩

/-! ### Writing -/

theorem alters_putMembers {place : Nat} {m : Members}
    (hattributes : m.attributes = (s.membersAt place).attributes ∨
      ∃ name, record? (s.membersAt place).attributes = .ok (some (m.attributes, name)))
    (helements : ∀ e ∈ m.elements, e ∈ (s.membersAt place).elements ∨
      ∃ other w item, .element w ∈ (s.membersAt other).elements ∧
        arrayItem? find? (s.membersAt place).attributes = some item ∧ e = .element (typed item w))
    : Alters find? s (s.putMembers place m) := by
  by_cases hlt : place < s.members.length
  . refine ⟨rfl, ?_, ?_⟩
    . intro other
      by_cases heq : place = other
      . rw [← heq]
        rw [Store.membersAt_putMembers_of_lt hlt]
        exact hattributes
      . rw [Store.membersAt_putMembers_of_ne heq]
        exact .inl rfl
    . intro other e he
      by_cases heq : place = other
      . rw [← heq] at he ⊢
        rw [Store.membersAt_putMembers_of_lt hlt] at he
        exact helements e he
      . rw [Store.membersAt_putMembers_of_ne heq] at he
        exact .inl he
  . rw [Store.putMembers_of_length_le (Nat.le_of_not_lt hlt)]
    exact .refl find? s

theorem alters_setAttributes {name : QName} {attributes : List Member}
    (h : record? (s.attributesOf t) = .ok (some (attributes, name)))
    : Alters find? s (s.setAttributes t attributes) := by
  rw [Store.setAttributes_eq_putMembers]
  exact alters_putMembers (.inr ⟨name, h⟩) fun e he => .inl he

theorem alters_setElements {elements : List Member} {w : Element}
    (hw : ∃ other, .element w ∈ (s.membersAt other).elements) (hitem : arrayItem? find? (s.attributesOf t) = some item)
    (h : ∀ e ∈ elements, e ∈ s.elementsOf t ∨ e = .element (typed item w))
    : Alters find? s (s.setElements t elements) := by
  rw [Store.setElements_eq_putMembers]
  refine alters_putMembers (.inl rfl) ?_
  intro e he
  obtain hold | rfl := h e he
  . exact .inl hold
  . obtain ⟨other, hother⟩ := hw
    exact .inr ⟨other, w, item, hother, hitem, rfl⟩

/-! ### The search -/

/-- A fault of the search for a wildcard or of what is done with it. -/
inductive IsWalkFault : Fault → Prop
  | noProperty (owner property : String) : IsWalkFault (.noProperty owner property)
  | endlessHierarchy : IsWalkFault .endlessHierarchy

theorem IsWalkFault.isRecoverable_eq {fault : Fault} (h : IsWalkFault fault) : fault.isRecoverable = false := by
  cases h with
  | noProperty owner property => rfl
  | endlessHierarchy => rfl

theorem isWalkFault_of_findWildcard {fault : Fault} (h : findWildcard s r = .error fault) : IsWalkFault fault := by
  obtain rfl | ⟨rfl, -⟩ := of_search_eq_error h
  . exact .endlessHierarchy
  . exact .noProperty _ _

theorem mem_replaceWildcards {e : Element} {m : Member} (h : m ∈ (replaceWildcards e ms).1)
    : m ∈ ms ∨ m = .element e := by
  induction ms with
  | nil => cases h
  | cons first ms ih =>
    cases first with
    | «attribute» a => exact .inl h
    | element old =>
      rw [replaceWildcards] at h
      dsimp only at h
      split at h
      . cases List.mem_cons.mp h with
        | inl heq => exact .inr heq
        | inr hmem => exact (ih hmem).imp_left (List.mem_cons_of_mem _)
      . cases List.mem_cons.mp h with
        | inl heq =>
          rw [heq]
          exact .inl List.mem_cons_self
        | inr hmem => exact (ih hmem).imp_left (List.mem_cons_of_mem _)

theorem isWalkFault_of_replaceWildcards {e : Element} {fault : Fault} (h : (replaceWildcards e ms).2 = .error fault)
    : IsWalkFault fault := by
  induction ms with
  | nil => cases h
  | cons first ms ih =>
    cases first with
    | «attribute» a =>
      rw [← Except.error.inj h]
      exact .noProperty _ _
    | element old =>
      rw [replaceWildcards] at h
      dsimp only at h
      split at h
      . cases hrest : (replaceWildcards e ms).2 with
        | error e =>
          dsimp only at h
          rw [hrest] at h
          cases h
          exact ih hrest
        | ok replaced =>
          dsimp only at h
          rw [hrest] at h
          cases h
      . exact ih h

theorem isWalkFault_of_record? {fault : Fault} (h : record? ms = .error fault) : IsWalkFault fault := by
  induction ms with
  | nil => cases h
  | cons m ms ih =>
    cases hm : m.name.localPart == annotation.localPart with
    | false =>
      rw [record?_cons_of_ne hm] at h
      cases hrest : record? ms with
      | error e =>
        rw [hrest] at h
        cases h
        exact ih hrest
      | ok found? =>
        rw [hrest] at h
        cases h
    | true =>
      cases m with
      | «attribute» a =>
        rw [record?_cons_of_eq hm] at h
        cases h
      | element e =>
        rw [record?] at h
        rw [if_pos hm] at h
        cases h
        exact .noProperty _ _

/-! ### Edits -/

/-- The edit of `s` only resolves arrays, and if it fails, nothing goes on. -/
structure Resolves {α : Type} (find? : QName → Option TypeRef) (s : Store) (edited : Store × Report α) : Prop where
  alters : Alters find? s edited.1
  fails : edited.2.FailsWith IsWalkFault

section

variable {α β : Type}

theorem Resolves.bind {e : Edit α} {f : α → Edit β} (he : Resolves find? s (e s))
    (hf : ∀ a s' notices, e s = (s', ⟨.ok a, notices⟩) → Resolves find? s' (f a s'))
    : Resolves find? s ((e >>= f) s) := by
  cases hs : e s with
  | mk s' report =>
    obtain ⟨result, notices⟩ := report
    rw [hs] at he
    cases result with
    | error fault =>
      rw [Edit.bind_of_error hs]
      refine ⟨he.alters, ?_⟩
      intro fault' h
      rw [← Except.error.inj h]
      exact he.fails fault rfl
    | ok a =>
      rw [Edit.bind_of_ok hs]
      obtain ⟨halters, hfails⟩ := hf a s' notices hs
      exact ⟨he.alters.trans halters, hfails⟩

theorem Resolves.after {edited : Store × Report α} (h : Alters find? s s') (hedited : Resolves find? s' edited)
    : Resolves find? s edited where
  alters := h.trans hedited.alters
  fails := hedited.fails

theorem resolves_of_ok {a : α} {notices : List Notice} (h : Alters find? s s')
    : Resolves find? s (s', (⟨.ok a, notices⟩ : Report α)) :=
  ⟨h, failsWith_of_ok rfl IsWalkFault⟩

theorem resolves_fail {fault : Fault} (h : IsWalkFault fault)
    : Resolves find? s ((Edit.fail fault : Edit α) s) :=
  ⟨.refl find? s, failsWith_fail h⟩

end

theorem resolves_overrideWildcard (hr : s.get r = .complex t) (hitem : arrayItem? find? (s.attributesOf t) = some item)
    : Resolves find? s (overrideWildcard r (some item) s) := by
  unfold overrideWildcard
  rw [Edit.store_bind]
  rw [arrayName_of_complex hr]
  cases hsearch : findWildcard s r with
  | error fault => exact resolves_fail (isWalkFault_of_findWildcard hsearch)
  | ok found =>
    cases found with
    | missing => exact resolves_of_ok (.refl find? s)
    | broken ancestor => exact resolves_of_ok (.refl find? s)
    | found owner w =>
      have hw := (finds_of_findWildcard hsearch).mem rfl
      have hreplaced : ∀ m ∈ (replaceWildcards (typed item w) (s.elementsOf t)).1,
          m ∈ s.elementsOf t ∨ m = .element (typed item w) := fun m hm => mem_replaceWildcards hm
      dsimp only
      rw [hr]
      dsimp only
      rw [show ({ w with type? := some item } : Element) = typed item w from rfl]
      apply (resolves_of_ok (.refl find? s)).bind
      intro _ s' notices hnoted
      obtain rfl : s = s' := congrArg Prod.fst hnoted
      cases hreplace : replaceWildcards (typed item w) (s.elementsOf t) with
      | mk elements replaced? =>
        rw [hreplace] at hreplaced
        have hwritten := alters_setElements hw hitem hreplaced
        cases replaced? with
        | error fault =>
          have hfault := isWalkFault_of_replaceWildcards (congrArg Prod.snd hreplace)
          apply (resolves_of_ok hwritten).bind
          intro _ s' _ _
          exact resolves_fail hfault
        | ok replaced =>
          cases replaced with
          | true => exact resolves_of_ok hwritten
          | false =>
            refine resolves_of_ok (alters_setElements hw hitem ?_)
            rw [List.forall_mem_append]
            exact ⟨hreplaced, by simp⟩

theorem arrayItem?_setAttributes {attributes : List Member} {name : QName}
    (h : record? (s.attributesOf t) = .ok (some (attributes, name))) (find? : QName → Option TypeRef)
    : arrayItem? find? ((s.setAttributes t attributes).attributesOf t) = item? find? name := by
  rw [attributesOf_setAttributes h]
  exact arrayItem?_of_record?_eq (record?_of_record?_eq h) find?

/-- Whatever a type and a store are, resolving only alters what an array may alter. -/
theorem resolves_resolveItems (find? : QName → Option TypeRef) (s : Store) (r : TypeRef)
    : Resolves find? s (resolveItems find? r s) := by
  by_cases hcomplex : ∃ t, s.get r = .complex t
  . obtain ⟨t, hr⟩ := hcomplex
    cases hrecord : record? (s.attributesOf t) with
    | error fault =>
      rw [resolveItems_of_record?_eq_error find? hr hrecord]
      exact resolves_fail (isWalkFault_of_record? hrecord)
    | ok found? =>
      cases found? with
      | none =>
        rw [resolveItems_of_record?_eq_none find? hr hrecord]
        exact resolves_of_ok (.refl find? s)
      | some found =>
        obtain ⟨attributes, name⟩ := found
        have halters : Alters find? s (s.setAttributes t attributes) := alters_setAttributes hrecord
        have hitem := arrayItem?_setAttributes hrecord find?
        unfold item? at hitem
        rw [resolveItems_of_record?_eq_some find? hr hrecord]
        apply Resolves.after halters
        split
        . exact resolves_of_ok (.refl find? _)
        . next hname =>
          rw [if_neg hname] at hitem
          cases hfind : find? (normalize name) with
          | none => exact resolves_of_ok (.refl find? _)
          | some item =>
            rw [hfind] at hitem
            exact resolves_overrideWildcard ((Store.get_congr halters.nodes r).trans hr) hitem
  . rw [resolveItems_of_not_complex find? (not_exists.mp hcomplex)]
    exact resolves_of_ok (.refl find? s)

end XmlBinding.SoapArray
