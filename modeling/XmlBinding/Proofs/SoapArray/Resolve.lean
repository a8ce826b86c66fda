import XmlBinding.Proofs.Report
import XmlBinding.Proofs.SoapArray.Wildcard

/-!
This module contains what the resolving of arrays does to a store. What an array is resolved to only depends on
the store as it was at first: it is the same after any other arrays, or the array itself, have been resolved.
-/

namespace XmlBinding

namespace SoapArray

/-! ### The attributes of an array -/

section

variable {ms ms' : List Member} {name : QName}

theorem record?_cons_of_ne {m : Member} (hm : (m.name.localPart == annotation.localPart) = false)
    : record? (m :: ms) = (record? ms).map fun found? => found?.map fun found => (m :: found.1, found.2) := by
  cases m with
  | «attribute» a => exact if_neg (by simp [hm])
  | element e => exact if_neg (by simp [hm])

theorem record?_cons_of_eq {a : Attribute} (ha : (a.name.localPart == annotation.localPart) = true)
    : record? (.attribute a :: ms) =
        .ok ((annotated? a).map fun value =>
          (.attribute { a with fixed := value } :: ms, resolve a.namespaces value)) := by
  rw [record?]
  refine (if_pos ha).trans ?_
  split
  . next hnone =>
    rw [hnone]
    rfl
  . next value hvalue =>
    rw [hvalue]
    rfl

theorem exists_record? (h : ∀ a ∈ ms, a.isAttribute = true) : ∃ found?, record? ms = .ok found? := by
  induction ms with
  | nil => exact ⟨none, rfl⟩
  | cons m ms ih =>
    rw [List.forall_mem_cons] at h
    cases hm : m.name.localPart == annotation.localPart with
    | false =>
      obtain ⟨found?, hfound⟩ := ih h.2
      rw [record?_cons_of_ne hm]
      rw [hfound]
      exact ⟨_, rfl⟩
    | true =>
      cases m with
      | element e => cases h.1
      | «attribute» a => exact ⟨_, record?_cons_of_eq hm⟩

theorem exists_of_record?_cons_of_ne {m : Member} (hm : (m.name.localPart == annotation.localPart) = false)
    (h : record? (m :: ms) = .ok (some (ms', name)))
    : ∃ rest, ms' = m :: rest ∧ record? ms = .ok (some (rest, name)) := by
  rw [record?_cons_of_ne hm] at h
  cases hrest : record? ms with
  | error e =>
    rw [hrest] at h
    cases h
  | ok found? =>
    rw [hrest] at h
    cases found? with
    | none => cases h
    | some found =>
      cases h
      exact ⟨found.1, rfl, rfl⟩

theorem exists_of_record?_cons_of_eq {m : Member} (hm : (m.name.localPart == annotation.localPart) = true)
    (h : record? (m :: ms) = .ok (some (ms', name)))
    : ∃ a value, m = .attribute a ∧ annotated? a = some value ∧
        ms' = .attribute { a with fixed := value } :: ms ∧ name = resolve a.namespaces value := by
  cases m with
  | element e =>
    rw [record?] at h
    rw [if_pos hm] at h
    cases h
  | «attribute» a =>
    rw [record?_cons_of_eq hm] at h
    obtain ⟨value, hvalue, heq⟩ := Option.map_eq_some_iff.mp (Except.ok.inj h)
    cases heq
    exact ⟨a, value, rfl, hvalue, rfl, rfl⟩

theorem record?_of_record?_eq (h : record? ms = .ok (some (ms', name))) : record? ms' = .ok (some (ms', name)) := by
  induction ms generalizing ms' with
  | nil => cases h
  | cons m ms ih =>
    cases hm : m.name.localPart == annotation.localPart with
    | false =>
      obtain ⟨rest, rfl, hrest⟩ := exists_of_record?_cons_of_ne hm h
      rw [record?_cons_of_ne hm]
      rw [ih hrest]
      rfl
    | true =>
      obtain ⟨a, value, rfl, hvalue, rfl, rfl⟩ := exists_of_record?_cons_of_eq hm h
      have hvalue' : annotated? { a with fixed := value } = some value := hvalue
      have ha' : (Member.attribute { a with fixed := value }).name.localPart == annotation.localPart := hm
      rw [record?_cons_of_eq ha']
      rw [hvalue']
      rfl

theorem isAttribute_of_record? (h : record? ms = .ok (some (ms', name))) (hms : ∀ a ∈ ms, a.isAttribute = true)
    : ∀ a ∈ ms', a.isAttribute = true := by
  induction ms generalizing ms' with
  | nil => cases h
  | cons m ms ih =>
    rw [List.forall_mem_cons] at hms
    cases hm : m.name.localPart == annotation.localPart with
    | false =>
      obtain ⟨rest, rfl, hrest⟩ := exists_of_record?_cons_of_ne hm h
      rw [List.forall_mem_cons]
      exact ⟨hms.1, ih hrest hms.2⟩
    | true =>
      obtain ⟨a, value, rfl, -, rfl, -⟩ := exists_of_record?_cons_of_eq hm h
      rw [List.forall_mem_cons]
      exact ⟨rfl, hms.2⟩

theorem ne_nil_of_record? (h : record? ms = .ok (some (ms', name))) : ms ≠ [] := by
  rintro rfl
  cases h

end

/-! ### One array -/

variable {find? : QName → Option TypeRef} {s s' : Store} {r : TypeRef} {t : ComplexType}

theorem attributesOf_setAttributes {attributes : List Member} {name : QName}
    (h : record? (s.attributesOf t) = .ok (some (attributes, name)))
    : (s.setAttributes t attributes).attributesOf t = attributes := by
  have hlt := Store.lt_length_of_attributesOf_ne_nil (ne_nil_of_record? h)
  rw [Store.setAttributes_eq_putMembers]
  unfold Store.attributesOf
  rw [Store.membersAt_putMembers_of_lt hlt]

def item? (find? : QName → Option TypeRef) (name : QName) : Option TypeRef :=
  if name.localPart.isEmpty then none else find? (normalize name)

def typed (item : TypeRef) (e : Element) : Element :=
  { e with type? := some item }

def untyped (e : Element) : Element :=
  { e with type? := none }

theorem isWildcard_typed {e : Element} (h : e.isWildcard = true) (item : TypeRef)
    : (typed item e).isWildcard = true :=
  h

theorem typed_eq_of_untyped_eq {e e' : Element} (h : untyped e' = untyped e) (item : TypeRef)
    : typed item e' = typed item e := by
  change typed item (untyped e') = typed item (untyped e)
  rw [h]

/-- The elements of an array with items of the type `item?`, if it is there. -/
def retypeNearest (s : Store) (r : TypeRef) (t : ComplexType) (item? : Option TypeRef) : List Member :=
  match item?, nearest? s r with
  | some item, some w => retype (typed item w) (s.elementsOf t)
  | _, _ => s.elementsOf t

/-- The attributes and elements of a type after its item type was resolved. -/
def resolved (find? : QName → Option TypeRef) (s : Store) (r : TypeRef) (t : ComplexType) : Members :=
  match record? (s.attributesOf t) with
  | .ok (some (attributes, name)) => ⟨attributes, retypeNearest s r t (item? find? name)⟩
  | _ => s.membersAt t.members

@[simp]
theorem retypeNearest_none (s : Store) (r : TypeRef) (t : ComplexType)
    : retypeNearest s r t none = s.elementsOf t :=
  rfl

theorem retypeNearest_of_nearest?_eq_none (h : nearest? s r = none) (t : ComplexType) (item? : Option TypeRef)
    : retypeNearest s r t item? = s.elementsOf t := by
  unfold retypeNearest
  rw [h]
  cases item? with
  | none => rfl
  | some item => rfl

theorem retypeNearest_of_nearest?_eq_some {w : Element} (h : nearest? s r = some w) (t : ComplexType)
    (item : TypeRef)
    : retypeNearest s r t (some item) = retype (typed item w) (s.elementsOf t) := by
  unfold retypeNearest
  rw [h]

theorem resolved_of_record?_eq_some {attributes : List Member} {name : QName}
    (h : record? (s.attributesOf t) = .ok (some (attributes, name)))
    : resolved find? s r t = ⟨attributes, retypeNearest s r t (item? find? name)⟩ := by
  unfold resolved
  rw [h]

theorem resolved_of_record?_eq_none (h : record? (s.attributesOf t) = .ok none)
    : resolved find? s r t = s.membersAt t.members := by
  unfold resolved
  rw [h]

theorem resolved_of_length_le (h : s.members.length ≤ t.members) (find? : QName → Option TypeRef) (r : TypeRef)
    : resolved find? s r t = ⟨[], []⟩ := by
  have hmembers := Store.membersAt_of_length_le h
  rw [resolved_of_record?_eq_none]
  . exact hmembers
  . unfold Store.attributesOf
    rw [hmembers]
    rfl

theorem elements_resolved (find? : QName → Option TypeRef) (s : Store) (r : TypeRef) (t : ComplexType)
    : ∃ item?, (resolved find? s r t).elements = retypeNearest s r t item? := by
  unfold resolved
  split
  . exact ⟨_, rfl⟩
  . exact ⟨none, rfl⟩

theorem isElement_retypeNearest (hs : s.IsRegular) (r : TypeRef) (t : ComplexType) (item? : Option TypeRef)
    : ∀ e ∈ retypeNearest s r t item?, e.isElement = true := by
  unfold retypeNearest
  split
  . exact isElement_retype _ (hs.isElement_of_mem t)
  . exact hs.isElement_of_mem t

theorem isWellKinded_resolved (hs : s.IsRegular) (find? : QName → Option TypeRef) (r : TypeRef) (t : ComplexType)
    : (resolved find? s r t).IsWellKinded := by
  unfold resolved
  split
  . next attributes name hrecord =>
    exact ⟨isAttribute_of_record? hrecord (hs.isAttribute_of_mem t), isElement_retypeNearest hs r t _⟩
  . exact hs.membersAt t.members

/-- What is noticed about an array with items of the type `item` once its wildcard was searched for. -/
def Search.notice (s : Store) (array : String) (item : TypeRef) : Search → Notice
  | .missing => .noWildcard array
  | .broken ancestor => .brokenHierarchy array (s.get ancestor).kindName (s.nameOf ancestor).localPart
  | .found _ w => .overriding array ((w.type?.map fun r => (s.nameOf r).localPart).getD "") (s.nameOf item).localPart

/-- What becomes of the elements of the array. -/
def Search.elements (item : TypeRef) (ms : List Member) : Search → List Member
  | .found _ w => retype (typed item w) ms
  | _ => ms

theorem Search.tier_notice_ne_error (s : Store) (array : String) (item : TypeRef) (x : Search)
    : (x.notice s array item).tier ≠ .error := by
  cases x with
  | missing => simp [Search.notice, Notice.tier]
  | broken ancestor => simp [Search.notice, Notice.tier]
  | found owner w => simp [Search.notice, Notice.tier]

theorem retypeNearest_of_findWildcard {x : Search} (h : findWildcard s r = .ok x) (t : ComplexType) (item : TypeRef)
    : retypeNearest s r t (some item) = x.elements item (s.elementsOf t) := by
  unfold retypeNearest
  rw [nearest?_eq h]
  cases x with
  | missing => rfl
  | broken ancestor => rfl
  | found owner w => rfl

theorem arrayName_of_complex (hr : s.get r = .complex t) : arrayName s r = .ok t.name.localPart := by
  unfold arrayName
  rw [hr]
  rfl

theorem overrideWildcard_of_findWildcard {x : Search} (hr : s.get r = .complex t) (hx : findWildcard s r = .ok x)
    (ht : ∀ m ∈ s.elementsOf t, m.isElement = true) (item : TypeRef)
    : overrideWildcard r (some item) s =
        (s.setElements t (x.elements item (s.elementsOf t)), ⟨.ok (), [x.notice s t.name.localPart item]⟩) := by
  have hsame : s.setElements t (s.elementsOf t) = s := by
    rw [Store.setElements_eq_putMembers]
    exact s.putMembers_membersAt t.members
  unfold overrideWildcard
  rw [Edit.store_bind]
  simp only [hx, arrayName_of_complex hr]
  cases x with
  | missing =>
    dsimp only [Search.elements]
    rw [hsame]
    rfl
  | broken ancestor =>
    dsimp only [Search.elements]
    rw [hsame]
    rfl
  | found owner w =>
    have hreplace := replaceWildcards_eq ht (typed item w)
    simp only [Edit.note_bind, hr]
    rw [show ({ w with type? := some item } : Element) = typed item w from rfl]
    dsimp only [Search.elements]
    unfold retype
    cases hany : (s.elementsOf t).any (·.isWildcard) with
    | true =>
      rw [hany] at hreplace
      rw [hreplace]
      rfl
    | false =>
      rw [hany] at hreplace
      rw [map_replaceWildcard_of_not_any hany] at hreplace
      rw [hreplace]
      rfl

theorem itemType?_of_record?_eq_error (hr : s.get r = .complex t) {fault : Fault}
    (h : record? (s.attributesOf t) = .error fault)
    : itemType? r s = (s, ⟨.error fault, []⟩) := by
  unfold itemType?
  rw [Edit.store_bind]
  simp only [hr, h]
  rfl

theorem itemType?_of_record?_eq_none (hr : s.get r = .complex t) (h : record? (s.attributesOf t) = .ok none)
    : itemType? r s = (s, ⟨.ok none, []⟩) := by
  unfold itemType?
  rw [Edit.store_bind]
  simp only [hr, h]
  rfl

theorem itemType?_of_record?_eq_some (hr : s.get r = .complex t) {attributes : List Member} {name : QName}
    (h : record? (s.attributesOf t) = .ok (some (attributes, name)))
    : itemType? r s = (s.setAttributes t attributes, ⟨.ok (some name), []⟩) := by
  unfold itemType?
  rw [Edit.store_bind]
  simp only [hr, h]
  rfl

/-- Writes the members to which a type is resolved in the store `s` into the store `s'`. -/
def settle (find? : QName → Option TypeRef) (s s' : Store) (r : TypeRef) : Store :=
  match s.get r with
  | .complex t => s'.putMembers t.members (resolved find? s r t)
  | _ => s'

theorem settle_of_complex (hr : s.get r = .complex t)
    : settle find? s s' r = s'.putMembers t.members (resolved find? s r t) := by
  unfold settle
  rw [hr]

theorem settle_of_not_complex (hr : ∀ t, s.get r ≠ .complex t) : settle find? s s' r = s' := by
  unfold settle
  split
  . next t ht => exact absurd ht (hr t)
  . rfl

/-! ### Arrays of which some were resolved -/

/-- Some types of the store `s` were resolved, each as if it were the only one. -/
structure IsPartlyResolved (find? : QName → Option TypeRef) (s s' : Store) : Prop where
  nodes : s'.nodes = s.nodes
  length : s'.members.length = s.members.length
  members : ∀ r t, s.get r = .complex t →
    s'.membersAt t.members = s.membersAt t.members ∨ s'.membersAt t.members = resolved find? s r t
  others : ∀ m ∈ s'.members, m ∈ s.members ∨ ∃ r t, m = resolved find? s r t

theorem IsPartlyResolved.refl (find? : QName → Option TypeRef) (s : Store) : IsPartlyResolved find? s s where
  nodes := rfl
  length := rfl
  members _ _ _ := .inl rfl
  others _ hm := .inl hm

theorem IsPartlyResolved.get_eq (h : IsPartlyResolved find? s s') (r : TypeRef) : s'.get r = s.get r :=
  Store.get_congr h.nodes r

theorem IsPartlyResolved.isRegular (h : IsPartlyResolved find? s s') (hs : s.IsRegular) : s'.IsRegular where
  nodes := by
    rw [h.nodes]
    exact hs.nodes
  members := by
    intro m hm
    cases h.others m hm with
    | inl hold => exact hs.members m hold
    | inr hresolved =>
      obtain ⟨r, t, rfl⟩ := hresolved
      exact isWellKinded_resolved hs find? r t
  unshared := by
    intro r r' t t' hr hr'
    rw [h.get_eq] at hr
    rw [h.get_eq] at hr'
    exact hs.unshared r r' t t' hr hr'
  acyclic := by
    have hbase : s'.HasBase = s.HasBase := by
      funext r base
      unfold Store.HasBase
      rw [h.get_eq]
    rw [hbase]
    exact hs.acyclic

theorem IsPartlyResolved.settle (h : IsPartlyResolved find? s s') (hs : s.IsRegular) (r : TypeRef)
    : IsPartlyResolved find? s (settle find? s s' r) := by
  by_cases hr : ∃ t, s.get r = .complex t
  . obtain ⟨t, hr⟩ := hr
    rw [settle_of_complex hr]
    refine ⟨h.nodes, (Store.length_putMembers _ _ _).trans h.length, ?_, ?_⟩
    . intro r' t' hr'
      -- Another type with the same place would be changed as well, which is why no place is shared.
      by_cases hplace : t.members = t'.members
      . obtain rfl := hs.unshared r' r t' t hr' hr hplace
        obtain rfl := Entity.complex.inj (hr.symm.trans hr')
        by_cases hlt : t.members < s'.members.length
        . exact .inr (Store.membersAt_putMembers_of_lt hlt _)
        . rw [Store.putMembers_of_length_le (Nat.le_of_not_lt hlt)]
          exact h.members r t hr
      . rw [Store.membersAt_putMembers_of_ne hplace]
        exact h.members r' t' hr'
    . intro m hm
      cases List.mem_or_eq_of_mem_set hm with
      | inl hold => exact h.others m hold
      | inr hnew => exact .inr ⟨r, t, hnew⟩
  . rw [settle_of_not_complex (not_exists.mp hr)]
    exact h

theorem IsPartlyResolved.membersAt_settle (h : IsPartlyResolved find? s s') (hr : s.get r = .complex t)
    : (SoapArray.settle find? s s' r).membersAt t.members = resolved find? s r t := by
  rw [settle_of_complex hr]
  by_cases hlt : t.members < s'.members.length
  . exact Store.membersAt_putMembers_of_lt hlt _
  . have hle := Nat.le_of_not_lt hlt
    rw [Store.putMembers_of_length_le hle]
    rw [Store.membersAt_of_length_le hle]
    rw [resolved_of_length_le (h.length ▸ hle)]

theorem IsPartlyResolved.elementsOf (h : IsPartlyResolved find? s s') (hr : s.get r = .complex t)
    : ∃ item?, s'.elementsOf t = retypeNearest s r t item? := by
  unfold Store.elementsOf
  cases h.members r t hr with
  | inl hsame =>
    rw [hsame]
    exact ⟨none, rfl⟩
  | inr hresolved =>
    rw [hresolved]
    exact elements_resolved find? s r t

theorem IsPartlyResolved.exists_finds (h : IsPartlyResolved find? s s') (hs : s.IsRegular) {r? : Option TypeRef}
    {x : Search} (hx : Finds s r? x)
    : ∃ y, Finds s' r? y ∧ y.wildcard?.map untyped = x.wildcard?.map untyped := by
  induction hx with
  | missing => exact ⟨_, .missing, rfl⟩
  | anyType => exact ⟨_, .anyType, rfl⟩
  | broken hr hany => exact ⟨_, .broken (by simpa only [h.get_eq] using hr) hany, rfl⟩
  -- If the array was resolved, its own wildcard is the nearest one with another type.
  | @own r t e hr he =>
    have hnearest : SoapArray.nearest? s r = some e := (Finds.own hr he).nearest? hs
    have hr' : s'.get r = .complex t := (h.get_eq r).trans hr
    obtain ⟨item?, helements⟩ := h.elementsOf hr
    cases item? with
    | none => exact ⟨_, .own hr' (by rw [helements]; exact he), rfl⟩
    | some item =>
      refine ⟨.found r (typed item e), .own hr' ?_, rfl⟩
      rw [helements]
      rw [retypeNearest_of_nearest?_eq_some hnearest]
      exact findSome?_retype (isWildcard_typed (isWildcard_of_nearest? hs hnearest) item) _
  -- If it was resolved, the inherited wildcard was added to its own elements, and the search ends earlier.
  | @inherited r t x hr hnone hbase ih =>
    have hnearest : SoapArray.nearest? s r = x.wildcard? := (Finds.inherited hr hnone hbase).nearest? hs
    have hr' : s'.get r = .complex t := (h.get_eq r).trans hr
    obtain ⟨y, hy, hyx⟩ := ih
    have hinherited (hsame : s'.elementsOf t = s.elementsOf t) : Finds s' (some r) y :=
      .inherited hr' (by rw [hsame]; exact hnone) hy
    obtain ⟨item?, helements⟩ := h.elementsOf hr
    cases item? with
    | none => exact ⟨y, hinherited helements, hyx⟩
    | some item =>
      cases hw : x.wildcard? with
      | none =>
        rw [hw] at hnearest
        rw [retypeNearest_of_nearest?_eq_none hnearest] at helements
        exact ⟨y, hinherited helements, by rw [hyx, hw]⟩
      | some w =>
        rw [hw] at hnearest
        refine ⟨.found r (typed item w), .own hr' ?_, rfl⟩
        rw [helements]
        rw [retypeNearest_of_nearest?_eq_some hnearest]
        exact findSome?_retype (isWildcard_typed (isWildcard_of_nearest? hs hnearest) item) _

theorem IsPartlyResolved.nearest? (h : IsPartlyResolved find? s s') (hs : s.IsRegular) (r : TypeRef)
    : (nearest? s' r).map untyped = (nearest? s r).map untyped := by
  obtain ⟨x, hx⟩ := exists_findWildcard hs r
  obtain ⟨y, hy, hyx⟩ := h.exists_finds hs (finds_of_findWildcard hx)
  rw [hy.nearest? (h.isRegular hs)]
  rw [nearest?_eq hx]
  exact hyx

/-- The elements of an array do not depend on the type that its wildcards had before. -/
theorem IsPartlyResolved.retypeNearest_eq (h : IsPartlyResolved find? s s') (hs : s.IsRegular)
    {item? : Option TypeRef}
    (hitem : s'.elementsOf t = s.elementsOf t ∨ s'.elementsOf t = retypeNearest s r t item?)
    : retypeNearest s' r t item? = retypeNearest s r t item? := by
  have hnearest := h.nearest? hs r
  cases item? with
  | none => exact or_self_iff.mp hitem
  | some item =>
    cases hw : SoapArray.nearest? s r with
    | none =>
      rw [hw] at hnearest
      rw [retypeNearest_of_nearest?_eq_none hw] at hitem ⊢
      rw [retypeNearest_of_nearest?_eq_none (Option.map_eq_none_iff.mp hnearest)]
      exact or_self_iff.mp hitem
    | some w =>
      rw [hw] at hnearest
      obtain ⟨w', hw', hww'⟩ := Option.map_eq_some_iff.mp hnearest
      rw [retypeNearest_of_nearest?_eq_some hw] at hitem ⊢
      rw [retypeNearest_of_nearest?_eq_some hw']
      rw [typed_eq_of_untyped_eq hww']
      cases hitem with
      | inl hsame => rw [hsame]
      | inr hretyped =>
        rw [hretyped]
        exact retype_retype (isWildcard_typed (isWildcard_of_nearest? hs hw) item) _ _

/-- What an array is resolved to does not depend on what was resolved before it. -/
theorem IsPartlyResolved.resolved_eq (h : IsPartlyResolved find? s s') (hs : s.IsRegular)
    (hr : s.get r = .complex t)
    : resolved find? s' r t = resolved find? s r t := by
  have hmembers := h.members r t hr
  obtain ⟨found?, hrecord⟩ := exists_record? (hs.isAttribute_of_mem t)
  cases found? with
  | none =>
    rw [resolved_of_record?_eq_none hrecord] at hmembers ⊢
    have hsame := or_self_iff.mp hmembers
    have hrecord' : record? (s'.attributesOf t) = .ok none := by
      unfold Store.attributesOf
      rw [hsame]
      exact hrecord
    rw [resolved_of_record?_eq_none hrecord']
    exact hsame
  | some found =>
    obtain ⟨attributes, name⟩ := found
    rw [resolved_of_record?_eq_some hrecord] at hmembers ⊢
    have hrecord' : record? (s'.attributesOf t) = .ok (some (attributes, name)) := by
      unfold Store.attributesOf
      cases hmembers with
      | inl hsame =>
        rw [hsame]
        exact hrecord
      | inr hresolved =>
        rw [hresolved]
        exact record?_of_record?_eq hrecord
    rw [resolved_of_record?_eq_some hrecord']
    rw [h.retypeNearest_eq hs (hmembers.imp (congrArg Members.elements) (congrArg Members.elements))]

/-! ### The step -/

theorem Search.notice_congr (hnodes : s'.nodes = s.nodes) (array : String) (item : TypeRef) (x : Search)
    : x.notice s' array item = x.notice s array item := by
  cases x with
  | missing => rfl
  | broken ancestor => simp only [Search.notice, Store.nameOf_congr hnodes, Store.get_congr hnodes]
  | found owner w => simp only [Search.notice, Store.nameOf_congr hnodes]

/-- It makes no difference to the search that the annotation was recorded. -/
theorem findWildcard_setAttributes (s : Store) (t : ComplexType) (attributes : List Member) (r : TypeRef)
    : findWildcard (s.setAttributes t attributes) r = findWildcard s r := by
  have hnodes : (s.setAttributes t attributes).nodes = s.nodes := rfl
  exact findWildcard_congr hnodes (fun t' => s.elementsOf_setAttributes t t' attributes) r

theorem overrideWildcard_setAttributes {x : Search} (hr : s.get r = .complex t) (hx : findWildcard s r = .ok x)
    (ht : ∀ m ∈ s.elementsOf t, m.isElement = true) {attributes : List Member} {name : QName}
    (hrecord : record? (s.attributesOf t) = .ok (some (attributes, name))) (item : TypeRef)
    : overrideWildcard r (some item) (s.setAttributes t attributes) =
        (s.putMembers t.members ⟨attributes, x.elements item (s.elementsOf t)⟩,
          ⟨.ok (), [x.notice s t.name.localPart item]⟩) := by
  have hnodes : (s.setAttributes t attributes).nodes = s.nodes := rfl
  rw [overrideWildcard_of_findWildcard (s := s.setAttributes t attributes) hr
    ((findWildcard_setAttributes s t attributes r).trans hx) (by simpa using ht)]
  rw [Search.notice_congr hnodes]
  rw [Store.setElements_eq_putMembers]
  rw [attributesOf_setAttributes hrecord]
  rw [Store.elementsOf_setAttributes]
  rw [Store.setAttributes_eq_putMembers]
  rw [Store.putMembers_putMembers]

theorem resolveItems_of_record?_eq_none (find? : QName → Option TypeRef) (hr : s.get r = .complex t)
    (h : record? (s.attributesOf t) = .ok none)
    : resolveItems find? r s = (s, ⟨.ok (), []⟩) := by
  unfold resolveItems
  rw [Edit.store_bind]
  rw [hr]
  dsimp only
  rw [Edit.bind_of_ok (itemType?_of_record?_eq_none hr h)]
  rfl

theorem resolveItems_of_record?_eq_error (find? : QName → Option TypeRef) (hr : s.get r = .complex t) {fault : Fault}
    (h : record? (s.attributesOf t) = .error fault)
    : resolveItems find? r s = (s, ⟨.error fault, []⟩) := by
  unfold resolveItems
  rw [Edit.store_bind]
  rw [hr]
  dsimp only
  rw [Edit.bind_of_error (itemType?_of_record?_eq_error hr h)]

theorem resolveItems_of_record?_eq_some (find? : QName → Option TypeRef) (hr : s.get r = .complex t)
    {attributes : List Member} {name : QName} (h : record? (s.attributesOf t) = .ok (some (attributes, name)))
    : resolveItems find? r s =
        (if name.localPart.isEmpty then
          pure ()
        else
          match find? (normalize name) with
          | none => Edit.note (.unknownItem (normalize name))
          | some item => overrideWildcard r (some item) : Edit Unit) (s.setAttributes t attributes) := by
  unfold resolveItems
  rw [Edit.store_bind]
  rw [hr]
  dsimp only
  rw [Edit.bind_of_ok (itemType?_of_record?_eq_some hr h)]
  rfl

theorem resolveItems_of_complex (find? : QName → Option TypeRef) (hs : s.IsRegular) (hr : s.get r = .complex t)
    : ∃ notices, Notice.errors notices = [] ∧
        resolveItems find? r s = (s.putMembers t.members (resolved find? s r t), ⟨.ok (), notices⟩) := by
  obtain ⟨found?, hrecord⟩ := exists_record? (hs.isAttribute_of_mem t)
  cases found? with
  | none =>
    rw [resolveItems_of_record?_eq_none find? hr hrecord]
    rw [resolved_of_record?_eq_none hrecord]
    rw [Store.putMembers_membersAt]
    exact ⟨[], rfl, rfl⟩
  | some found =>
    obtain ⟨attributes, name⟩ := found
    rw [resolveItems_of_record?_eq_some find? hr hrecord]
    rw [resolved_of_record?_eq_some hrecord]
    by_cases hempty : name.localPart.isEmpty = true
    . simp only [item?, hempty, if_true, retypeNearest_none]
      rw [Store.setAttributes_eq_putMembers]
      exact ⟨[], rfl, rfl⟩
    . cases hitem : find? (normalize name) with
      | none =>
        simp only [item?, hempty, Bool.false_eq_true, if_false, hitem, retypeNearest_none]
        rw [Store.setAttributes_eq_putMembers]
        exact ⟨[.unknownItem (normalize name)], rfl, rfl⟩
      | some item =>
        obtain ⟨x, hx⟩ := exists_findWildcard hs r
        simp only [item?, hempty, Bool.false_eq_true, if_false, hitem]
        rw [overrideWildcard_setAttributes hr hx (hs.isElement_of_mem t) hrecord]
        rw [retypeNearest_of_findWildcard hx]
        refine ⟨[x.notice s t.name.localPart item], ?_, rfl⟩
        have htier := x.tier_notice_ne_error s t.name.localPart item
        simpa [Notice.errors] using htier

theorem resolveItems_of_not_complex (find? : QName → Option TypeRef) (hr : ∀ t, s.get r ≠ .complex t)
    : resolveItems find? r s = (s, ⟨.ok (), []⟩) := by
  unfold resolveItems
  rw [Edit.store_bind]
  cases h : s.get r with
  | complex t => exact absurd h (hr t)
  | _ => rfl

/-- The step, on a store in which any types were resolved before. -/
theorem IsPartlyResolved.resolveItems (h : IsPartlyResolved find? s s') (hs : s.IsRegular) (r : TypeRef)
    : ∃ notices, Notice.errors notices = [] ∧
        resolveItems find? r s' = (SoapArray.settle find? s s' r, ⟨.ok (), notices⟩) := by
  by_cases hr : ∃ t, s.get r = .complex t
  . obtain ⟨t, hr⟩ := hr
    rw [settle_of_complex hr]
    rw [← h.resolved_eq hs hr]
    exact resolveItems_of_complex find? (h.isRegular hs) ((h.get_eq r).trans hr)
  . have hr := not_exists.mp hr
    rw [settle_of_not_complex hr]
    exact ⟨[], rfl, resolveItems_of_not_complex find? (by simpa only [h.get_eq] using hr)⟩

/-! ### Arrays that are resolved again -/

theorem settle_settle (find? : QName → Option TypeRef) (s s' : Store) (r : TypeRef)
    : settle find? s (settle find? s s' r) r = settle find? s s' r := by
  by_cases hr : ∃ t, s.get r = .complex t
  . obtain ⟨t, hr⟩ := hr
    simp only [settle_of_complex hr]
    exact Store.putMembers_putMembers _ _ _ _
  . simp only [settle_of_not_complex (not_exists.mp hr)]

end SoapArray

end XmlBinding
