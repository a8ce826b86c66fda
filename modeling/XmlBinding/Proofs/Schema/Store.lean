import Mathlib.Data.List.Perm.Subperm
import Mathlib.Logic.Relation
import XmlBinding.Schema.Hierarchy

/-!
This module contains which stores are in order, and what is found in a store after the attributes and elements
of a type were written.
-/

namespace XmlBinding

namespace Member

def isAttribute : Member → Bool
  | .attribute _ => true
  | .element _ => false

def isElement : Member → Bool
  | .attribute _ => false
  | .element _ => true

end Member

structure Members.IsWellKinded (m : Members) : Prop where
  attributes : ∀ a ∈ m.attributes, a.isAttribute = true
  elements : ∀ e ∈ m.elements, e.isElement = true

namespace Store

def HasBase (s : Store) (r base : TypeRef) : Prop :=
  (s.get r).base? = .ok (some base)

/-- Every entity stands where its kind belongs, no two types share their attributes and elements, and no type
is among its own bases. -/
structure IsRegular (s : Store) : Prop where
  nodes : ∀ e ∈ s.nodes, e.isType = true
  members : ∀ m ∈ s.members, m.IsWellKinded
  unshared : ∀ r r' t t', s.get r = .complex t → s.get r' = .complex t' → t'.members = t.members → r' = r
  acyclic : ∀ r, ¬ Relation.TransGen s.HasBase r r

def putMembers (s : Store) (place : Nat) (m : Members) : Store :=
  { s with members := s.members.set place m }

variable {s s' : Store} {r : TypeRef} {t : ComplexType}

/-! ### Types -/

theorem get_declared (s : Store) (i : Nat) : s.get (.declared i) = s.nodes[i]?.getD nowhere := by
  unfold get
  exact List.getD_eq_getElem?_getD

theorem get_congr (h : s'.nodes = s.nodes) (r : TypeRef) : s'.get r = s.get r := by
  cases r with
  | builtin b => rfl
  | declared i =>
    rw [get_declared]
    rw [get_declared]
    rw [h]

theorem nameOf_congr (h : s'.nodes = s.nodes) (r : TypeRef) : s'.nameOf r = s.nameOf r := by
  unfold nameOf
  rw [get_congr h]

theorem exists_of_get_eq_complex (h : s.get r = .complex t)
    : ∃ i, r = .declared i ∧ s.nodes[i]? = some (.complex t) := by
  cases r with
  | builtin b => cases h
  | declared i =>
    refine ⟨i, rfl, ?_⟩
    rw [get_declared] at h
    cases hnode : s.nodes[i]? with
    | none =>
      rw [hnode] at h
      cases h
    | some e =>
      rw [hnode] at h
      rw [← h]
      rfl

theorem IsRegular.isType_get (hs : s.IsRegular) (r : TypeRef) : (s.get r).isType = true := by
  cases r with
  | builtin b => rfl
  | declared i =>
    rw [get_declared]
    cases hnode : s.nodes[i]? with
    | none => rfl
    | some e => exact hs.nodes e (List.mem_of_getElem? hnode)

/-! ### Attributes and elements -/

theorem IsRegular.membersAt (hs : s.IsRegular) (place : Nat) : (s.membersAt place).IsWellKinded := by
  unfold Store.membersAt
  rw [List.getD_eq_getElem?_getD]
  cases h : s.members[place]? with
  | none => exact ⟨by simp, by simp⟩
  | some m => exact hs.members m (List.mem_of_getElem? h)

theorem IsRegular.isAttribute_of_mem (hs : s.IsRegular) (t : ComplexType)
    : ∀ a ∈ s.attributesOf t, a.isAttribute = true :=
  (hs.membersAt t.members).attributes

theorem IsRegular.isElement_of_mem (hs : s.IsRegular) (t : ComplexType)
    : ∀ e ∈ s.elementsOf t, e.isElement = true :=
  (hs.membersAt t.members).elements

@[simp]
theorem length_putMembers (s : Store) (place : Nat) (m : Members)
    : (s.putMembers place m).members.length = s.members.length := by
  simp [putMembers]

theorem membersAt_putMembers_of_lt {place : Nat} (h : place < s.members.length) (m : Members)
    : (s.putMembers place m).membersAt place = m := by
  simp [Store.membersAt, putMembers, h]

theorem membersAt_putMembers_of_ne {place other : Nat} (h : place ≠ other) (m : Members)
    : (s.putMembers place m).membersAt other = s.membersAt other := by
  simp [Store.membersAt, putMembers, h]

theorem membersAt_of_length_le {place : Nat} (h : s.members.length ≤ place) : s.membersAt place = ⟨[], []⟩ := by
  unfold Store.membersAt
  rw [List.getD_eq_getElem?_getD]
  rw [List.getElem?_eq_none h]
  rfl

theorem putMembers_of_length_le {place : Nat} (h : s.members.length ≤ place) (m : Members)
    : s.putMembers place m = s := by
  unfold putMembers
  rw [List.set_eq_of_length_le h]

theorem putMembers_membersAt (s : Store) (place : Nat) : s.putMembers place (s.membersAt place) = s := by
  cases h : s.members[place]? with
  | none => exact putMembers_of_length_le (List.getElem?_eq_none_iff.mp h) _
  | some m =>
    obtain ⟨hlt, rfl⟩ := List.getElem?_eq_some_iff.mp h
    simp [putMembers, Store.membersAt, hlt]

theorem putMembers_putMembers (s : Store) (place : Nat) (m m' : Members)
    : (s.putMembers place m).putMembers place m' = s.putMembers place m' := by
  unfold putMembers
  rw [List.set_set]

theorem modify_members_eq_set (s : Store) (place : Nat) (f : Members → Members)
    : s.members.modify place f = s.members.set place (f (s.membersAt place)) := by
  unfold Store.membersAt
  rw [List.modify_eq_set_getElem?]
  rw [List.getD_eq_getElem?_getD]
  cases h : s.members[place]? with
  | none =>
    rw [List.set_eq_of_length_le (List.getElem?_eq_none_iff.mp h)]
    rfl
  | some m => rfl

theorem setAttributes_eq_putMembers (s : Store) (t : ComplexType) (attributes : List Member)
    : s.setAttributes t attributes = s.putMembers t.members ⟨attributes, s.elementsOf t⟩ := by
  unfold setAttributes putMembers
  rw [modify_members_eq_set]
  rfl

theorem setElements_eq_putMembers (s : Store) (t : ComplexType) (elements : List Member)
    : s.setElements t elements = s.putMembers t.members ⟨s.attributesOf t, elements⟩ := by
  unfold setElements putMembers
  rw [modify_members_eq_set]
  rfl

@[simp]
theorem elementsOf_setAttributes (s : Store) (t t' : ComplexType) (attributes : List Member)
    : (s.setAttributes t attributes).elementsOf t' = s.elementsOf t' := by
  rw [setAttributes_eq_putMembers]
  unfold elementsOf
  by_cases hplace : t.members = t'.members
  . rw [hplace]
    by_cases hlt : t'.members < s.members.length
    . rw [membersAt_putMembers_of_lt hlt]
    . rw [putMembers_of_length_le (Nat.le_of_not_lt hlt)]
  . rw [membersAt_putMembers_of_ne hplace]

theorem lt_length_of_attributesOf_ne_nil (h : s.attributesOf t ≠ []) : t.members < s.members.length := by
  by_contra hge
  apply h
  unfold attributesOf
  rw [membersAt_of_length_le (Nat.le_of_not_lt hge)]

/-! ### Bases -/

/-- A chain of declared types is no longer than there are types, unless one of them leads back to itself. -/
theorem length_le_of_isChain {R : TypeRef → TypeRef → Prop} {path : List TypeRef} (h : path.IsChain R)
    (hacyclic : ∀ r ∈ path, ¬ Relation.TransGen R r r) (hdeclared : ∀ r ∈ path, ∃ i < s.nodes.length, r = .declared i)
    : path.length ≤ s.nodes.length := by
  -- A type that stands twice in the chain would lead back to itself.
  have hpairwise : path.Pairwise (Relation.TransGen R) :=
    List.isChain_iff_pairwise.mp (h.imp fun _ _ => Relation.TransGen.single)
  have hnodup : path.Nodup := by
    apply hpairwise.imp_of_mem
    rintro r _ hmem - hr rfl
    exact hacyclic r hmem hr
  have hsub : path ⊆ (List.range s.nodes.length).map .declared := by
    intro r hr
    obtain ⟨i, hi, rfl⟩ := hdeclared r hr
    exact List.mem_map_of_mem (List.mem_range.mpr hi)
  have := (List.subperm_of_subset hnodup hsub).length_le
  simpa using this

/-- Where a type stands if builtin types come first and every base comes before what is made from it. -/
def height : TypeRef → Nat
  | .builtin .anyType => 0
  | .builtin .anySimpleType => 1
  | .builtin _ => 2
  | .declared i => 3 + i

theorem height_builtin_lt (b : Builtin) (i : Nat) : height (.builtin b) < height (.declared i) := by
  have : height (.builtin b) ≤ 2 := by cases b <;> decide
  have : height (.declared i) = 3 + i := rfl
  omega

theorem height_lt_of_hasBase (h : ∀ i j, s.HasBase (.declared i) (.declared j) → j < i) {base : TypeRef}
    (hbase : s.HasBase r base)
    : height base < height r := by
  cases r with
  | declared i =>
    cases base with
    | declared j =>
      have := h i j hbase
      simp only [height]
      omega
    | builtin b => exact height_builtin_lt b i
  | builtin b =>
    have hbase' : b.base?.map TypeRef.builtin = some base := Except.ok.inj hbase
    obtain ⟨b', hb', rfl⟩ := Option.map_eq_some_iff.mp hbase'
    cases b <;> cases hb' <;> decide

theorem acyclic_of_lt (h : ∀ i j, s.HasBase (.declared i) (.declared j) → j < i)
    : ∀ r, ¬ Relation.TransGen s.HasBase r r := by
  have hpath : ∀ r base, Relation.TransGen s.HasBase r base → height base < height r := by
    intro r base hr
    induction hr with
    | single hbase => exact height_lt_of_hasBase h hbase
    | tail _ hbase ih => exact Nat.lt_trans (height_lt_of_hasBase h hbase) ih
  intro r hr
  exact Nat.lt_irrefl _ (hpath r r hr)

/-! ### Stores that are written down -/

def place? : Entity → Option Nat
  | .complex t => some t.members
  | _ => none

def standsBefore (i : Nat) : Except Fault (Option TypeRef) → Bool
  | .ok (some (.declared j)) => j < i
  | _ => true

/-- A store is in order if no place is used twice and all declared bases stand before what is made from them. -/
theorem isRegular_of_inOrder (hnodes : ∀ e ∈ s.nodes, e.isType = true)
    (hmembers : ∀ m ∈ s.members,
      (∀ a ∈ m.attributes, a.isAttribute = true) ∧ ∀ e ∈ m.elements, e.isElement = true)
    (hplaces : (s.nodes.filterMap place?).Nodup)
    (hbases : ∀ i < s.nodes.length, standsBefore i (s.get (.declared i)).base? = true)
    : s.IsRegular where
  nodes := hnodes
  members m hm := ⟨(hmembers m hm).1, (hmembers m hm).2⟩
  unshared := by
    intro r r' t t' hr hr' heq
    obtain ⟨i, rfl, hi⟩ := exists_of_get_eq_complex hr
    obtain ⟨j, rfl, hj⟩ := exists_of_get_eq_complex hr'
    obtain ⟨hi, hti⟩ := List.getElem?_eq_some_iff.mp hi
    obtain ⟨hj, htj⟩ := List.getElem?_eq_some_iff.mp hj
    have happart := List.pairwise_iff_getElem.mp (List.pairwise_filterMap.mp hplaces)
    have hpi : place? s.nodes[i] = some t.members := by rw [hti]; rfl
    have hpj : place? s.nodes[j] = some t'.members := by rw [htj]; rfl
    obtain hlt | rfl | hlt := Nat.lt_trichotomy i j
    . exact absurd heq.symm (happart i j hi hj hlt _ hpi _ hpj)
    . rfl
    . exact absurd heq (happart j i hj hi hlt _ hpj _ hpi)
  acyclic := by
    apply acyclic_of_lt
    intro i j hbase
    by_cases hi : i < s.nodes.length
    . have hbefore := hbases i hi
      rw [hbase] at hbefore
      exact of_decide_eq_true hbefore
    . unfold HasBase at hbase
      rw [get_declared] at hbase
      rw [List.getElem?_eq_none (Nat.le_of_not_lt hi)] at hbase
      cases hbase

end Store

end XmlBinding
