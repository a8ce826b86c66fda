import XmlBinding.Proofs.Except
import XmlBinding.Proofs.SoapArray.Walk

/-!
This module contains which wildcard an array gets its items from, and that an array whose wildcards were given a type
can be given another one.
-/

namespace XmlBinding

namespace Member

def isWildcard : Member → Bool
  | .attribute _ => false
  | .element e => e.isWildcard

def wildcard? : Member → Option Element
  | .attribute _ => none
  | .element e => if e.isWildcard then some e else none

def replaceWildcard (e : Element) (m : Member) : Member :=
  if m.isWildcard then .element e else m

@[simp]
theorem isWildcard_element (e : Element) : (Member.element e).isWildcard = e.isWildcard :=
  rfl

theorem wildcard?_element {e : Element} (h : e.isWildcard = true) : (Member.element e).wildcard? = some e :=
  if_pos h

theorem wildcard?_of_not_isWildcard {m : Member} (h : m.isWildcard = false) : m.wildcard? = none := by
  cases m with
  | «attribute» a => rfl
  | element e => exact if_neg (by simpa [isWildcard] using h)

theorem eq_of_wildcard? {m : Member} {e : Element} (h : m.wildcard? = some e) : m = .element e := by
  cases m with
  | «attribute» a => cases h
  | element e' =>
    unfold wildcard? at h
    dsimp only at h
    split at h
    . rw [Option.some.inj h]
    . cases h

theorem isWildcard_of_wildcard? {m : Member} {e : Element} (h : m.wildcard? = some e) : e.isWildcard = true := by
  cases m with
  | «attribute» a => cases h
  | element e' =>
    cases he' : e'.isWildcard with
    | true =>
      rw [wildcard?_element he'] at h
      rw [← Option.some.inj h]
      exact he'
    | false =>
      rw [wildcard?_of_not_isWildcard (m := .element e') he'] at h
      cases h

theorem isWildcard_replaceWildcard {e : Element} (h : e.isWildcard = true) (m : Member)
    : (m.replaceWildcard e).isWildcard = m.isWildcard := by
  unfold replaceWildcard
  split
  . next hm =>
    rw [hm]
    exact h
  . rfl

theorem replaceWildcard_replaceWildcard {e : Element} (h : e.isWildcard = true) (e' : Element) (m : Member)
    : (m.replaceWildcard e).replaceWildcard e' = m.replaceWildcard e' := by
  cases hm : m.isWildcard with
  | true => simp [replaceWildcard, hm, h]
  | false => simp [replaceWildcard, hm]

end Member

namespace SoapArray

/-! ### The wildcards among elements -/

def retype (e : Element) (ms : List Member) : List Member :=
  if ms.any (·.isWildcard) then ms.map (·.replaceWildcard e) else ms ++ [.element e]

section

variable {ms : List Member}

theorem findSome?_of_firstWildcard? {e? : Option Element} (h : firstWildcard? ms = .ok e?)
    : ms.findSome? (·.wildcard?) = e? := by
  induction ms with
  | nil => exact Except.ok.inj h
  | cons m ms ih =>
    cases m with
    | «attribute» a => cases h
    | element e =>
      rw [firstWildcard?] at h
      rw [List.findSome?_cons]
      cases he : e.isWildcard with
      | true =>
        rw [he] at h
        rw [Member.wildcard?_element he]
        exact Except.ok.inj h
      | false =>
        rw [he] at h
        rw [Member.wildcard?_of_not_isWildcard (m := .element e) he]
        exact ih h

theorem replaceWildcards_eq (h : ∀ m ∈ ms, m.isElement = true) (e : Element)
    : replaceWildcards e ms = (ms.map (·.replaceWildcard e), .ok (ms.any (·.isWildcard))) := by
  induction ms with
  | nil => rfl
  | cons m ms ih =>
    have hms := ih fun m' hm' => h m' (List.mem_cons_of_mem m hm')
    cases m with
    | «attribute» a => cases h (.attribute a) List.mem_cons_self
    | element old =>
      rw [replaceWildcards]
      rw [hms]
      cases hold : old.isWildcard with
      | true => simp [Member.replaceWildcard, hold, Except.map]
      | false => simp [Member.replaceWildcard, hold]

theorem map_replaceWildcard_of_not_any (h : ms.any (·.isWildcard) = false) (e : Element)
    : ms.map (·.replaceWildcard e) = ms := by
  rw [List.map_congr_left (g := id)]
  . exact List.map_id ms
  . intro m hm
    exact if_neg (List.any_eq_false.mp h m hm)

theorem isElement_retype (e : Element) (h : ∀ m ∈ ms, m.isElement = true)
    : ∀ m ∈ retype e ms, m.isElement = true := by
  unfold retype
  split
  . intro m hm
    obtain ⟨old, hold, rfl⟩ := List.mem_map.mp hm
    unfold Member.replaceWildcard
    split
    . rfl
    . exact h old hold
  . intro m hm
    cases List.mem_append.mp hm with
    | inl hold => exact h m hold
    | inr hnew =>
      rw [List.mem_singleton.mp hnew]
      rfl

theorem findSome?_retype {e : Element} (he : e.isWildcard = true) (ms : List Member)
    : (retype e ms).findSome? (·.wildcard?) = some e := by
  induction ms with
  | nil => simp [retype, Member.wildcard?_element he]
  | cons m ms ih =>
    cases hm : m.isWildcard with
    | true => simp [retype, hm, Member.replaceWildcard, Member.wildcard?_element he]
    | false =>
      -- Whether the wildcards after `m` are replaced or one is added at the end, `m` stays where it is.
      have hretype : retype e (m :: ms) = m :: retype e ms := by
        cases hms : ms.any (·.isWildcard) with
        | true => simp [retype, hm, hms, Member.replaceWildcard]
        | false => simp [retype, hm, hms]
      rw [hretype]
      rw [List.findSome?_cons]
      rw [Member.wildcard?_of_not_isWildcard hm]
      exact ih

/-- Only the last type counts that the wildcards of an array were given. -/
theorem retype_retype {e : Element} (he : e.isWildcard = true) (e' : Element) (ms : List Member)
    : retype e' (retype e ms) = retype e' ms := by
  cases h : ms.any (·.isWildcard) with
  | true =>
    have hany : (ms.map (·.replaceWildcard e)).any (·.isWildcard) = true := by
      rw [List.any_map]
      rw [← h]
      congr 1
      funext m
      exact Member.isWildcard_replaceWildcard he m
    simp [retype, h, hany, Member.replaceWildcard_replaceWildcard he]
  | false =>
    rw [show retype e ms = ms ++ [.element e] by simp [retype, h]]
    rw [show retype e' ms = ms ++ [.element e'] by simp [retype, h]]
    rw [retype]
    rw [if_pos (by simp [he])]
    rw [List.map_append]
    rw [map_replaceWildcard_of_not_any h]
    simp [Member.replaceWildcard, he]

end

/-! ### The search -/

variable {s : Store} {r : TypeRef} {t : ComplexType} {fuel fuel' : Nat} {r? : Option TypeRef} {x : Search}

/-- What a search from a type comes to. -/
inductive Finds (s : Store) : Option TypeRef → Search → Prop
  | missing : Finds s none .missing
  | anyType : Finds s (some (.builtin .anyType)) .missing
  | broken {r : TypeRef} : (∀ t, s.get r ≠ .complex t) → r ≠ .builtin .anyType → Finds s (some r) (.broken r)
  | own {r : TypeRef} {t : ComplexType} {e : Element} : s.get r = .complex t →
      (s.elementsOf t).findSome? (·.wildcard?) = some e → Finds s (some r) (.found r e)
  | inherited {r : TypeRef} {t : ComplexType} {x : Search} : s.get r = .complex t →
      (s.elementsOf t).findSome? (·.wildcard?) = none → Finds s t.base? x → Finds s (some r) x

theorem finds_of_search (h : search s fuel r? = .ok x) : Finds s r? x := by
  induction fuel generalizing r? with
  | zero =>
    cases r? with
    | none =>
      obtain rfl : .missing = x := by simpa using h
      exact .missing
    | some r =>
      by_cases hr : r = .builtin .anyType
      . subst hr
        obtain rfl : .missing = x := by simpa using h
        exact .anyType
      . rw [search_zero hr] at h
        cases h
  | succ fuel ih =>
    cases r? with
    | none =>
      obtain rfl : .missing = x := by simpa using h
      exact .missing
    | some r =>
      cases hr : s.get r with
      | complex t =>
        rw [search_of_complex hr] at h
        obtain ⟨e?, hfirst, h⟩ := bind_eq_ok_iff.mp h
        have hown := findSome?_of_firstWildcard? hfirst
        cases e? with
        | some e =>
          obtain rfl := Except.ok.inj h
          exact .own hr hown
        | none => exact .inherited hr hown (ih h)
      | _ =>
        rw [search_of_not_complex (by simp [hr])] at h
        obtain rfl := Except.ok.inj h
        split
        . next hany =>
          rw [hany]
          exact .anyType
        . next hany => exact .broken (by simp [hr]) hany

theorem Finds.unique {y : Search} (h : Finds s r? x) (h' : Finds s r? y) : x = y := by
  induction h with
  | missing =>
    cases h'
    rfl
  | anyType =>
    cases h' with
    | anyType => rfl
    | broken _ hany => exact absurd rfl hany
    | own hr _ => cases hr
    | inherited hr _ _ => cases hr
  | broken hr hany =>
    cases h' with
    | anyType => exact absurd rfl hany
    | broken _ _ => rfl
    | own hr' _ => exact absurd hr' (hr _)
    | inherited hr' _ _ => exact absurd hr' (hr _)
  | own hr he =>
    cases h' with
    | anyType => cases hr
    | broken hr' _ => exact absurd hr (hr' _)
    | own hr' he' =>
      obtain rfl := Entity.complex.inj (hr.symm.trans hr')
      obtain rfl := Option.some.inj (he.symm.trans he')
      rfl
    | inherited hr' hnone _ =>
      obtain rfl := Entity.complex.inj (hr.symm.trans hr')
      rw [he] at hnone
      cases hnone
  | inherited hr hnone _ ih =>
    cases h' with
    | anyType => cases hr
    | broken hr' _ => exact absurd hr (hr' _)
    | own hr' he =>
      obtain rfl := Entity.complex.inj (hr.symm.trans hr')
      rw [he] at hnone
      cases hnone
    | inherited hr' _ hbase =>
      obtain rfl := Entity.complex.inj (hr.symm.trans hr')
      exact ih hbase

def Search.wildcard? : Search → Option Element
  | .found _ e => some e
  | _ => none

theorem Finds.isWildcard {e : Element} (h : Finds s r? x) (he : x.wildcard? = some e) : e.isWildcard = true := by
  induction h with
  | missing => cases he
  | anyType => cases he
  | broken _ _ => cases he
  | own _ hfirst =>
    obtain ⟨m, -, hm⟩ := List.exists_of_findSome?_eq_some hfirst
    rw [← Option.some.inj he]
    exact Member.isWildcard_of_wildcard? hm
  | inherited _ _ _ ih => exact ih he

/-- The wildcard that is found stands among the elements of some type. -/
theorem Finds.mem {e : Element} (h : Finds s r? x) (he : x.wildcard? = some e)
    : ∃ other, .element e ∈ (s.membersAt other).elements := by
  induction h with
  | missing => cases he
  | anyType => cases he
  | broken _ _ => cases he
  | @own r t first _ hfirst =>
    obtain ⟨m, hm, hwildcard⟩ := List.exists_of_findSome?_eq_some hfirst
    rw [← Option.some.inj he]
    rw [Member.eq_of_wildcard? hwildcard] at hm
    exact ⟨t.members, hm⟩
  | inherited _ _ _ ih => exact ih he

theorem finds_of_findWildcard (h : findWildcard s r = .ok x) : Finds s (some r) x :=
  finds_of_search h

/-! ### Stores that are in order -/

theorem not_isCircular (hs : s.IsRegular) (r : TypeRef) : ¬ IsCircular s r :=
  not_isCircular_of_acyclic fun ancestor _ => hs.acyclic ancestor

theorem not_hasStray (hs : s.IsRegular) (r : TypeRef) : ¬ HasStray s r := by
  rintro ⟨ancestor, t, -, -, hstray⟩
  exact hstray (hs.membersAt t.members)

theorem exists_findWildcard (hs : s.IsRegular) (r : TypeRef) : ∃ x, findWildcard s r = .ok x := by
  obtain hfound | ⟨-, hstray⟩ | ⟨-, hcircular⟩ := findWildcard_cases s r
  . exact hfound
  . exact absurd hstray (not_hasStray hs r)
  . exact absurd hcircular (not_isCircular hs r)

def nearest? (s : Store) (r : TypeRef) : Option Element :=
  (findWildcard s r).toOption.bind (·.wildcard?)

theorem nearest?_eq (h : findWildcard s r = .ok x) : nearest? s r = x.wildcard? := by
  unfold nearest?
  rw [h]
  rfl

theorem Finds.nearest? (hs : s.IsRegular) (h : Finds s (some r) x) : nearest? s r = x.wildcard? := by
  obtain ⟨y, hy⟩ := exists_findWildcard hs r
  rw [nearest?_eq hy]
  rw [(finds_of_findWildcard hy).unique h]

theorem isWildcard_of_nearest? (hs : s.IsRegular) {e : Element} (h : nearest? s r = some e)
    : e.isWildcard = true := by
  obtain ⟨x, hx⟩ := exists_findWildcard hs r
  rw [nearest?_eq hx] at h
  exact (finds_of_findWildcard hx).isWildcard h

end SoapArray

end XmlBinding
