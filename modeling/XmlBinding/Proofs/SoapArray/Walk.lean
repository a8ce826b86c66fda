import Mathlib.Data.List.Chain
import Mathlib.Logic.Function.Iterate
import XmlBinding.Proofs.Schema.Store
import XmlBinding.SoapArray

/-!
This module contains when the search for the wildcard of an array comes to an end. It goes from a type to its base
until there is a wildcard, a type that is not complex, or no base at all. In any store it either gets to one of these
after no more steps than there are types, or it never does, because it comes back to a type that it has passed.
-/

namespace XmlBinding

/-- The search goes past this entry of a list of elements. Attributes do not tell whether they are wildcards. -/
def Member.isPassed : Member → Bool
  | .attribute _ => false
  | .element e => !e.isWildcard

/-- One step of the walk from a type over its bases. -/
def Store.baseOf? (s : Store) : Option TypeRef → Option TypeRef
  | none => none
  | some r =>
    match (s.get r).base? with
    | .ok base? => base?
    | .error _ => none

namespace SoapArray

variable {s : Store} {r base : TypeRef} {t : ComplexType} {ms : List Member} {fuel : Nat} {r? : Option TypeRef}

/-! ### The elements of one type -/

theorem firstWildcard?_eq_none_iff : firstWildcard? ms = .ok none ↔ ∀ m ∈ ms, m.isPassed = true := by
  induction ms with
  | nil => simp [firstWildcard?]
  | cons m ms ih =>
    rw [List.forall_mem_cons]
    cases m with
    | «attribute» a => simp [firstWildcard?, Member.isPassed]
    | element e =>
      rw [firstWildcard?]
      cases he : e.isWildcard with
      | true => simp [Member.isPassed, he]
      | false => simp [Member.isPassed, he, ih]

theorem of_firstWildcard?_eq_error {fault : Fault} (h : firstWildcard? ms = .error fault)
    : fault = .noProperty "Attribute" "wildcard" ∧ ∃ a, .attribute a ∈ ms := by
  induction ms with
  | nil => cases h
  | cons m ms ih =>
    cases m with
    | «attribute» a => exact ⟨(Except.error.inj h).symm, a, List.mem_cons_self⟩
    | element e =>
      rw [firstWildcard?] at h
      split at h
      . cases h
      . obtain ⟨hfault, a, ha⟩ := ih h
        exact ⟨hfault, a, List.mem_cons_of_mem _ ha⟩

/-! ### One step -/

/-- The search ends here, with a result or a fault. The root of all types is not complex. -/
inductive IsEnd (s : Store) : Option TypeRef → Prop
  | nothing : IsEnd s none
  | notComplex {r : TypeRef} : (∀ t, s.get r ≠ .complex t) → IsEnd s (some r)
  | own {r : TypeRef} {t : ComplexType} {m : Member} : s.get r = .complex t → m ∈ s.elementsOf t → m.isPassed = false →
      IsEnd s (some r)

/-- The search goes on from `r` to its base. -/
def Passes (s : Store) (r base : TypeRef) : Prop :=
  ∃ t, s.get r = .complex t ∧ (∀ m ∈ s.elementsOf t, m.isPassed = true) ∧ t.base? = some base

/-- The search comes to a type that it leads back to. -/
def IsCircular (s : Store) (r : TypeRef) : Prop :=
  ∃ again, Relation.ReflTransGen (Passes s) r again ∧ Relation.TransGen (Passes s) again again

theorem Passes.hasBase (h : Passes s r base) : s.HasBase r base := by
  obtain ⟨t, hr, -, hbase⟩ := h
  unfold Store.HasBase
  rw [hr]
  exact congrArg Except.ok hbase

theorem Passes.baseOf? (h : Passes s r base) : s.baseOf? (some r) = some base := by
  have hbase := h.hasBase
  unfold Store.HasBase at hbase
  unfold Store.baseOf?
  dsimp only
  rw [hbase]

theorem Passes.not_isEnd (h : Passes s r base) : ¬ IsEnd s (some r) := by
  obtain ⟨t, hr, hpassed, -⟩ := h
  intro hend
  cases hend with
  | notComplex hnot => exact hnot t hr
  | own hr' hm hstop =>
    obtain rfl := Entity.complex.inj (hr.symm.trans hr')
    rw [hpassed _ hm] at hstop
    cases hstop

theorem exists_of_not_isEnd (h : ¬ IsEnd s r?)
    : ∃ r t, r? = some r ∧ s.get r = .complex t ∧ (∀ m ∈ s.elementsOf t, m.isPassed = true) ∧
        s.baseOf? r? = t.base? := by
  cases r? with
  | none => exact absurd .nothing h
  | some r =>
    by_cases hcomplex : ∃ t, s.get r = .complex t
    . obtain ⟨t, hr⟩ := hcomplex
      refine ⟨r, t, rfl, hr, ?_, ?_⟩
      . intro m hm
        by_contra hstop
        exact h (.own hr hm (Bool.eq_false_iff.mpr hstop))
      . unfold Store.baseOf?
        dsimp only
        rw [hr]
        rfl
    . exact absurd (.notComplex (not_exists.mp hcomplex)) h

/-! ### Many steps -/

theorem IsCircular.exists_passes (h : IsCircular s r) : ∃ base, Passes s r base ∧ IsCircular s base := by
  obtain ⟨again, hreach, hagain⟩ := h
  cases hreach.cases_head with
  | inl heq =>
    subst heq
    obtain ⟨base, hbase, hback⟩ := Relation.TransGen.head'_iff.mp hagain
    exact ⟨base, hbase, r, hback, hagain⟩
  | inr hstep =>
    obtain ⟨base, hbase, hreach⟩ := hstep
    exact ⟨base, hbase, again, hreach, hagain⟩

theorem IsCircular.exists_iterate (h : IsCircular s r) (n : Nat)
    : ∃ ancestor, (s.baseOf?)^[n] (some r) = some ancestor ∧ IsCircular s ancestor := by
  induction n generalizing r with
  | zero => exact ⟨r, rfl, h⟩
  | succ n ih =>
    obtain ⟨base, hbase, hcircular⟩ := h.exists_passes
    rw [Function.iterate_succ_apply]
    rw [hbase.baseOf?]
    exact ih hcircular

/-- A walk in a circle never ends. -/
theorem IsCircular.not_isEnd (h : IsCircular s r) (n : Nat) : ¬ IsEnd s ((s.baseOf?)^[n] (some r)) := by
  obtain ⟨ancestor, hancestor, hcircular⟩ := h.exists_iterate n
  obtain ⟨base, hbase, -⟩ := hcircular.exists_passes
  rw [hancestor]
  exact hbase.not_isEnd

/-- Types from which the search goes on are declared, and each is the base of the one before. -/
theorem exists_isChain_of_not_isEnd {k : Nat} (h : ∀ n < k, ¬ IsEnd s ((s.baseOf?)^[n] r?))
    : ∃ path : List TypeRef, path.length = k ∧ path.IsChain (Passes s) ∧ (∀ r ∈ path.head?, r? = some r) ∧
        ∀ r ∈ path, ∃ i < s.nodes.length, r = .declared i := by
  induction k generalizing r? with
  | zero => exact ⟨[], rfl, .nil, by simp, by simp⟩
  | succ k ih =>
    obtain ⟨r, t, rfl, hr, hpassed, hbase⟩ := exists_of_not_isEnd (h 0 (Nat.zero_lt_succ k))
    obtain ⟨path, hlength, hchain, hhead, hpath⟩ := ih (fun n hn => by
      rw [← Function.iterate_succ_apply]
      exact h (n + 1) (Nat.succ_lt_succ hn))
    obtain ⟨i, rfl, hi⟩ := Store.exists_of_get_eq_complex hr
    refine ⟨.declared i :: path, by simp [hlength], ?_, by simp, ?_⟩
    . rw [List.isChain_cons]
      refine ⟨?_, hchain⟩
      intro base hhead'
      exact ⟨t, hr, hpassed, hbase.symm.trans (hhead base hhead')⟩
    . rw [List.forall_mem_cons]
      exact ⟨⟨i, (List.getElem?_eq_some_iff.mp hi).1, rfl⟩, hpath⟩

/-- A search that goes on for more steps than there are types comes to a type again. -/
theorem isCircular_of_not_isEnd (h : ∀ n ≤ s.nodes.length, ¬ IsEnd s ((s.baseOf?)^[n] (some r)))
    : IsCircular s r := by
  obtain ⟨path, hlength, hchain, hhead, hpath⟩ :=
    exists_isChain_of_not_isEnd fun n (hn : n < s.nodes.length + 1) => h n (Nat.le_of_lt_succ hn)
  have hagain : ∃ again ∈ path, Relation.TransGen (Passes s) again again := by
    by_contra hacyclic
    have := Store.length_le_of_isChain hchain (fun again hmem hagain => hacyclic ⟨again, hmem, hagain⟩) hpath
    omega
  obtain ⟨again, hmem, hagain⟩ := hagain
  refine ⟨again, ?_, hagain⟩
  cases path with
  | nil => cases hmem
  | cons first path =>
    obtain rfl := Option.some.inj (hhead first rfl)
    have hpairwise := List.isChain_iff_pairwise.mp (hchain.imp fun _ _ => Relation.TransGen.single)
    cases List.mem_cons.mp hmem with
    | inl heq => rw [heq]
    | inr hrest => exact ((List.pairwise_cons.mp hpairwise).1 again hrest).to_reflTransGen

theorem exists_isEnd_iff : (∃ n ≤ s.nodes.length, IsEnd s ((s.baseOf?)^[n] (some r))) ↔ ¬ IsCircular s r := by
  constructor
  . rintro ⟨n, -, hend⟩ hcircular
    exact hcircular.not_isEnd n hend
  . intro hnot
    by_contra hends
    exact hnot (isCircular_of_not_isEnd fun n hn hend => hends ⟨n, hn, hend⟩)

theorem not_isCircular_of_acyclic
    (h : ∀ ancestor, Relation.ReflTransGen s.HasBase r ancestor → ¬ Relation.TransGen s.HasBase ancestor ancestor)
    : ¬ IsCircular s r := by
  rintro ⟨again, hreach, hagain⟩
  apply h again
  . exact hreach.lift id fun _ _ hbase => hbase.hasBase
  . exact hagain.lift id fun _ _ hbase => hbase.hasBase

/-! ### The search -/

@[simp]
theorem search_none (s : Store) (fuel : Nat) : search s fuel none = .ok .missing := by
  cases fuel with
  | zero => rfl
  | succ fuel => rfl

@[simp]
theorem search_anyType (s : Store) (fuel : Nat) : search s fuel (some (.builtin .anyType)) = .ok .missing := by
  cases fuel with
  | zero => rfl
  | succ fuel => rfl

theorem search_zero (hr : r ≠ .builtin .anyType) : search s 0 (some r) = .error .endlessHierarchy := by
  rw [search]
  simpa using hr

theorem search_of_not_complex (h : ∀ t, s.get r ≠ .complex t) (fuel : Nat)
    : search s (fuel + 1) (some r) = .ok (if r = .builtin .anyType then .missing else .broken r) := by
  split
  . next hr =>
    rw [hr]
    rfl
  . next hr =>
    rw [search]
    . split
      . next t ht => exact absurd ht (h t)
      . rfl
    . simpa using hr

theorem search_of_complex (h : s.get r = .complex t) (fuel : Nat)
    : search s (fuel + 1) (some r) =
        firstWildcard? (s.elementsOf t) >>= fun e? =>
          match e? with
          | some e => .ok (.found r e)
          | none => search s fuel t.base? := by
  obtain ⟨i, rfl, -⟩ := Store.exists_of_get_eq_complex h
  rw [search]
  . generalize s.get (.declared i) = entity at h ⊢
    subst h
    rfl
  . simp

theorem search_of_passes (h : Passes s r base) (fuel : Nat)
    : search s (fuel + 1) (some r) = search s fuel (some base) := by
  obtain ⟨t, hr, hpassed, hbase⟩ := h
  rw [search_of_complex hr]
  rw [firstWildcard?_eq_none_iff.mpr hpassed]
  rw [← hbase]
  rfl

/-- What the search does with one type: it comes to an end there, or goes on to the base. -/
theorem search_cases (s : Store) (r : TypeRef) (fuel : Nat)
    : (∃ x, search s (fuel + 1) (some r) = .ok x)
      ∨ (∃ t a, s.get r = .complex t ∧ .attribute a ∈ s.elementsOf t ∧
          search s (fuel + 1) (some r) = .error (.noProperty "Attribute" "wildcard"))
      ∨ ∃ base, Passes s r base ∧ search s (fuel + 1) (some r) = search s fuel (some base) := by
  by_cases hcomplex : ∃ t, s.get r = .complex t
  . obtain ⟨t, hr⟩ := hcomplex
    rw [search_of_complex hr]
    cases hfirst : firstWildcard? (s.elementsOf t) with
    | error fault =>
      obtain ⟨rfl, a, ha⟩ := of_firstWildcard?_eq_error hfirst
      exact .inr (.inl ⟨t, a, hr, ha, rfl⟩)
    | ok e? =>
      cases e? with
      | some e => exact .inl ⟨.found r e, rfl⟩
      | none =>
        cases hbase : t.base? with
        | none => exact .inl ⟨.missing, search_none s fuel⟩
        | some base =>
          exact .inr (.inr ⟨base, ⟨t, hr, firstWildcard?_eq_none_iff.mp hfirst, hbase⟩, rfl⟩)
  . exact .inl ⟨_, search_of_not_complex (not_exists.mp hcomplex) fuel⟩

/-- In a circle the search never has enough steps. -/
theorem IsCircular.search_eq (h : IsCircular s r) (fuel : Nat) : search s fuel (some r) = .error .endlessHierarchy := by
  induction fuel generalizing r with
  | zero =>
    obtain ⟨base, ⟨t, hr, -⟩, -⟩ := h.exists_passes
    apply search_zero
    rintro rfl
    cases hr
  | succ fuel ih =>
    obtain ⟨base, hbase, hcircular⟩ := h.exists_passes
    rw [search_of_passes hbase]
    exact ih hcircular

theorem not_isEnd_of_search (h : search s fuel (some r) = .error .endlessHierarchy) {n : Nat} (hn : n < fuel)
    : ¬ IsEnd s ((s.baseOf?)^[n] (some r)) := by
  induction fuel generalizing r n with
  | zero => exact absurd hn (Nat.not_lt_zero n)
  | succ fuel ih =>
    obtain ⟨x, hx⟩ | ⟨t, a, -, -, hstray⟩ | ⟨base, hbase, hsearch⟩ := search_cases s r fuel
    . rw [hx] at h
      cases h
    . rw [hstray] at h
      cases h
    . rw [hsearch] at h
      cases n with
      | zero => exact hbase.not_isEnd
      | succ n =>
        rw [Function.iterate_succ_apply]
        rw [hbase.baseOf?]
        exact ih h (Nat.lt_of_succ_lt_succ hn)

theorem findWildcard_eq_endless_iff : findWildcard s r = .error .endlessHierarchy ↔ IsCircular s r := by
  constructor
  . intro h
    apply isCircular_of_not_isEnd
    intro n hn
    apply not_isEnd_of_search h
    unfold Store.walkLimit
    omega
  . intro h
    exact h.search_eq s.walkLimit

/-! ### Stores with the same elements -/

/-- The search reads the types and their elements only. -/
theorem search_congr {s' : Store} (hnodes : s'.nodes = s.nodes) (helements : ∀ t, s'.elementsOf t = s.elementsOf t)
    (fuel : Nat) (r? : Option TypeRef)
    : search s' fuel r? = search s fuel r? := by
  induction fuel generalizing r? with
  | zero =>
    cases r? with
    | none => simp
    | some r =>
      by_cases hr : r = .builtin .anyType
      . rw [hr]
        simp
      . rw [search_zero hr]
        rw [search_zero hr]
  | succ fuel ih =>
    cases r? with
    | none => simp
    | some r =>
      have hget := Store.get_congr hnodes r
      by_cases hcomplex : ∃ t, s.get r = .complex t
      . obtain ⟨t, hr⟩ := hcomplex
        rw [search_of_complex hr]
        rw [search_of_complex (hget.trans hr)]
        rw [helements]
        rw [ih]
      . have hnot := not_exists.mp hcomplex
        rw [search_of_not_complex hnot]
        rw [search_of_not_complex (by simpa only [hget] using hnot)]

theorem findWildcard_congr {s' : Store} (hnodes : s'.nodes = s.nodes)
    (helements : ∀ t, s'.elementsOf t = s.elementsOf t) (r : TypeRef)
    : findWildcard s' r = findWildcard s r := by
  unfold findWildcard Store.walkLimit
  rw [hnodes]
  exact search_congr hnodes helements _ _

/-! ### Entries of the other kind -/

/-- The attributes or elements of a type, or of one of its bases, have an entry of the other kind. -/
def HasStray (s : Store) (r : TypeRef) : Prop :=
  ∃ ancestor t, Relation.ReflTransGen s.HasBase r ancestor ∧ s.get ancestor = .complex t ∧
    ¬ (s.membersAt t.members).IsWellKinded

theorem HasStray.of_hasBase (h : HasStray s base) (hbase : s.HasBase r base) : HasStray s r := by
  obtain ⟨ancestor, t, hreach, ht, hstray⟩ := h
  exact ⟨ancestor, t, .head hbase hreach, ht, hstray⟩

theorem hasStray_of_attribute_mem {a : Attribute} (hr : s.get r = .complex t) (ha : .attribute a ∈ s.elementsOf t)
    : HasStray s r := by
  refine ⟨r, t, .refl, hr, ?_⟩
  intro hkinds
  cases hkinds.elements _ ha

theorem hasStray_of_element_mem {e : Element} (hr : s.get r = .complex t) (he : .element e ∈ s.attributesOf t)
    : HasStray s r := by
  refine ⟨r, t, .refl, hr, ?_⟩
  intro hkinds
  cases hkinds.attributes _ he

theorem of_search_eq_error {fault : Fault} (h : search s fuel (some r) = .error fault)
    : fault = .endlessHierarchy ∨ fault = .noProperty "Attribute" "wildcard" ∧ HasStray s r := by
  induction fuel generalizing r with
  | zero =>
    by_cases hr : r = .builtin .anyType
    . rw [hr] at h
      simp at h
    . rw [search_zero hr] at h
      exact .inl (Except.error.inj h).symm
  | succ fuel ih =>
    obtain ⟨x, hx⟩ | ⟨t, a, hr, ha, hstray⟩ | ⟨base, hbase, hsearch⟩ := search_cases s r fuel
    . rw [hx] at h
      cases h
    . rw [hstray] at h
      exact .inr ⟨(Except.error.inj h).symm, hasStray_of_attribute_mem hr ha⟩
    . rw [hsearch] at h
      exact (ih h).imp_right fun hfault => ⟨hfault.1, hfault.2.of_hasBase hbase.hasBase⟩

theorem findWildcard_cases (s : Store) (r : TypeRef)
    : (∃ x, findWildcard s r = .ok x)
      ∨ (findWildcard s r = .error (.noProperty "Attribute" "wildcard") ∧ HasStray s r)
      ∨ (findWildcard s r = .error .endlessHierarchy ∧ IsCircular s r) := by
  cases h : findWildcard s r with
  | ok x => exact .inl ⟨x, rfl⟩
  | error fault =>
    right
    obtain rfl | ⟨rfl, hstray⟩ := of_search_eq_error h
    . exact .inr ⟨rfl, findWildcard_eq_endless_iff.mp h⟩
    . exact .inl ⟨rfl, hstray⟩

end SoapArray

end XmlBinding
