import Mathlib.Data.List.Nodup
import Mathlib.Data.List.Perm.Subperm
import Mathlib.Logic.Relation
import XmlBinding.Declaration.Order

/-!
This module contains what the order of declarations guarantees. A declaration comes after those that it refers
to and that do not lead back to it. References of structures only matter once the module is there, but they
are followed like all others, and so a circle through a structure can put an alias before what it needs.
-/

namespace XmlBinding

namespace Shape

/-- The names that have to be defined when a declaration is executed. The types of fields are looked at
later. -/
def required : Shape → List String
  | .struct _ => []
  | .type t => [t.rootName]

theorem mem_references_of_mem_required {s : Shape} {name : String} (h : name ∈ s.required)
    : name ∈ s.references := by
  cases s with
  | struct s => simp [required] at h
  | type t => exact h

end Shape

namespace Declaration

open Relation

def names (ds : List Declaration) : List String :=
  ds.map (·.name)

def RefersTo (ds : List Declaration) (x y : String) : Prop :=
  y ∈ names ds ∧ ∃ d ∈ ds, d.name = x ∧ y ∈ d.shape.references

def Requires (ds : List Declaration) (x y : String) : Prop :=
  y ∈ names ds ∧ ∃ d ∈ ds, d.name = x ∧ y ∈ d.shape.required

def Reaches (ds : List Declaration) : String → String → Prop :=
  ReflTransGen (RefersTo ds)

/-- Every declaration of `ds` comes in `order` after those of `ds` that it requires. -/
def IsDefinedInTime (ds order : List Declaration) : Prop :=
  ∀ d ∈ ds, ∀ e ∈ ds, e.name ∈ d.shape.required → [e, d].Sublist order

section

variable {ds : List Declaration}

theorem name_mem_names {d : Declaration} (h : d ∈ ds) : d.name ∈ names ds :=
  List.mem_map_of_mem h

theorem mem_of_name_mem_names {done : List Declaration} (hnd : (names ds).Nodup)
    (hsub : ∀ d ∈ done, d ∈ ds) {d : Declaration} (hd : d ∈ ds) (h : d.name ∈ names done)
    : d ∈ done := by
  obtain ⟨e, he, hname⟩ := List.mem_map.mp h
  have : e = d := List.inj_on_of_nodup_map hnd (hsub e he) hd hname
  rw [← this]
  exact he

theorem named?_eq_some {name : String} {d : Declaration} (h : named? ds name = some d)
    : d ∈ ds ∧ d.name = name := by
  unfold named? at h
  constructor
  . exact List.mem_reverse.mp (List.mem_of_find?_eq_some h)
  . simpa using List.find?_some h

theorem not_mem_names_of_named? {name : String} (h : named? ds name = none) : name ∉ names ds := by
  intro hmem
  obtain ⟨d, hd, hname⟩ := List.mem_map.mp hmem
  unfold named? at h
  have := List.find?_eq_none.mp h d (List.mem_reverse.mpr hd)
  simp [hname] at this

end

/-- What holds of the declarations that are done while those with the names `visiting` wait for what they
refer to. -/
structure Sound (ds : List Declaration) (visiting : List String) (done : List Declaration) : Prop where
  mem : ∀ d ∈ done, d ∈ ds
  nodup : (names done).Nodup
  disjoint : ∀ x ∈ visiting, x ∉ names done
  closed : ∀ d ∈ done, ∀ y ∈ d.shape.references, y ∈ names ds → y ∈ names done ∨ y ∈ visiting
  ordered : ∀ before d after, done = before ++ d :: after →
    ∀ y ∈ d.shape.references, y ∈ names ds → y ∈ names before ∨ Reaches ds y d.name

/-- What a visit of names makes of the declarations that are done. -/
structure Visited (ds : List Declaration) (visiting : List String) (done done' : List Declaration)
    (xs : List String) : Prop where
  sound : Sound ds visiting done'
  grows : done <+: done'
  mem : ∀ x ∈ xs, x ∈ names ds → x ∈ names done' ∨ x ∈ visiting

section

variable {ds done : List Declaration} {visiting : List String}

theorem Sound.nil : Sound ds [] [] where
  mem := by simp
  nodup := by simp [names]
  disjoint := by simp
  closed := by simp
  ordered := by simp

theorem Sound.cons (h : Sound ds visiting done) {name : String} (hname : name ∉ names done)
    : Sound ds (name :: visiting) done where
  mem := h.mem
  nodup := h.nodup
  disjoint := by
    intro x hx
    cases List.mem_cons.mp hx with
    | inl heq => rwa [heq]
    | inr hmem => exact h.disjoint x hmem
  closed := by
    intro d hd y hy hyds
    cases h.closed d hd y hy hyds with
    | inl hdone => exact .inl hdone
    | inr hvis => exact .inr (List.mem_cons_of_mem name hvis)
  ordered := h.ordered

theorem mem_names_snoc {d : Declaration} {x : String} : x ∈ names (done ++ [d]) ↔ x ∈ names done ∨ x = d.name := by
  simp [names]

/-- A split of a longer list is at its last declaration or before it. -/
theorem snoc_eq_append_cons {d e : Declaration} {before after : List Declaration}
    (h : done ++ [d] = before ++ e :: after)
    : done = before ∧ d = e ∨ ∃ rest, done = before ++ e :: rest := by
  cases List.eq_nil_or_concat after with
  | inl hnil =>
    rw [hnil] at h
    obtain ⟨hdone, hlast⟩ := List.append_inj' h rfl
    exact .inl ⟨hdone, List.singleton_inj.mp hlast⟩
  | inr hconcat =>
    obtain ⟨rest, last, rfl⟩ := hconcat
    rw [List.concat_eq_append] at h
    rw [← List.cons_append] at h
    rw [← List.append_assoc] at h
    exact .inr ⟨rest, (List.append_inj' h rfl).1⟩

theorem Sound.snoc {d : Declaration} (h : Sound ds (d.name :: visiting) done) (hd : d ∈ ds)
    (hname : d.name ∉ visiting) (hpath : ∀ x ∈ visiting, Reaches ds x d.name)
    (hrefs : ∀ y ∈ d.shape.references, y ∈ names ds → y ∈ names done ∨ y ∈ d.name :: visiting)
    : Sound ds visiting (done ++ [d]) where
  mem := List.forall_mem_append.mpr ⟨h.mem, by simpa using hd⟩
  nodup := by
    have hnot : d.name ∉ names done := h.disjoint d.name List.mem_cons_self
    have hnames : names (done ++ [d]) = names done ++ [d.name] := by simp [names]
    rw [hnames]
    rw [List.nodup_append_comm]
    exact List.nodup_cons.mpr ⟨hnot, h.nodup⟩
  disjoint := by
    intro x hx hmem
    cases mem_names_snoc.mp hmem with
    | inl hdone => exact h.disjoint x (List.mem_cons_of_mem d.name hx) hdone
    | inr heq => exact hname (heq ▸ hx)
  closed := by
    have hcase : ∀ y, y ∈ names done ∨ y ∈ d.name :: visiting → y ∈ names (done ++ [d]) ∨ y ∈ visiting := by
      intro y hy
      rw [mem_names_snoc]
      rw [List.mem_cons] at hy
      rw [or_assoc]
      exact hy
    rw [List.forall_mem_append]
    constructor
    . exact fun e he y hy hyds => hcase y (h.closed e he y hy hyds)
    . intro e he y hy hyds
      rw [List.mem_singleton.mp he] at hy
      exact hcase y (hrefs y hy hyds)
  ordered := by
    intro before e after hsplit y hy hyds
    obtain ⟨rfl, rfl⟩ | ⟨rest, hdone⟩ := snoc_eq_append_cons hsplit
    . cases hrefs y hy hyds with
      | inl hmem => exact .inl hmem
      | inr hvis =>
        right
        cases List.mem_cons.mp hvis with
        | inl heq =>
          rw [heq]
          exact ReflTransGen.refl
        | inr hmem => exact hpath y hmem
    . exact h.ordered before e rest hdone y hy hyds

theorem Visited.refl {xs : List String} (h : Sound ds visiting done)
    (hmem : ∀ x ∈ xs, x ∈ names ds → x ∈ names done ∨ x ∈ visiting)
    : Visited ds visiting done done xs :=
  ⟨h, List.prefix_refl done, hmem⟩

theorem names_subset {done' : List Declaration} (h : done <+: done') {x : String}
    (hx : x ∈ names done)
    : x ∈ names done' :=
  List.map_subset _ h.subset hx

theorem foldl_visited {f : List Declaration → String → List Declaration} {xs : List String}
    (hf : ∀ x ∈ xs, ∀ done, Sound ds visiting done → Visited ds visiting done (f done x) [x])
    (h : Sound ds visiting done)
    : Visited ds visiting done (xs.foldl f done) xs := by
  induction xs generalizing done with
  | nil => exact Visited.refl h (by simp)
  | cons x xs ih =>
    have hfirst := hf x List.mem_cons_self done h
    have hrest := ih (fun y hy => hf y (List.mem_cons_of_mem x hy)) hfirst.sound
    rw [List.foldl_cons]
    constructor
    . exact hrest.sound
    . exact hfirst.grows.trans hrest.grows
    . intro y hy hyds
      cases List.mem_cons.mp hy with
      | inl heq =>
        subst heq
        cases hfirst.mem y List.mem_cons_self hyds with
        | inl hdone => exact .inl (names_subset hrest.grows hdone)
        | inr hvis => exact .inr hvis
      | inr hmem => exact hrest.mem y hmem hyds

theorem length_le_of_subset_names (hnd : visiting.Nodup) (hsub : visiting ⊆ names ds)
    : visiting.length ≤ ds.length := by
  have := (List.subperm_of_subset hnd hsub).length_le
  simpa [names] using this

theorem Visited.snoc {done' : List Declaration} {d : Declaration}
    (h : Visited ds (d.name :: visiting) done done' d.shape.references) (hd : d ∈ ds) (hname : d.name ∉ visiting)
    (hpath : ∀ x ∈ visiting, Reaches ds x d.name)
    : Visited ds visiting done (done' ++ [d]) [d.name] := by
  constructor
  . exact h.sound.snoc hd hname hpath h.mem
  . exact h.grows.trans (List.prefix_append _ _)
  . intro x hx hxds
    left
    rw [List.mem_singleton.mp hx]
    simp [names]

theorem Reaches.tail_visiting {d : Declaration} {y : String} (hd : d ∈ ds) (hy : y ∈ d.shape.references)
    (hyds : y ∈ names ds) (hpath : ∀ x ∈ visiting, Reaches ds x d.name)
    : ∀ x ∈ d.name :: visiting, Reaches ds x y := by
  have hstep : RefersTo ds d.name y := ⟨hyds, d, hd, rfl, hy⟩
  intro x hx
  cases List.mem_cons.mp hx with
  | inl heq =>
    rw [heq]
    exact ReflTransGen.single hstep
  | inr hmem => exact (hpath x hmem).tail hstep

/-- A name is passed over if it is done or being visited. -/
theorem isPassed_iff {name : String}
    : (done.any (·.name == name) || visiting.contains name) = true ↔ name ∈ names done ∨ name ∈ visiting := by
  simp [names]

theorem visit_visited (fuel : Nat) {visiting : List String}
    {done : List Declaration} {name : String} (hfuel : ds.length < fuel + visiting.length)
    (hvis : visiting.Nodup) (hsub : visiting ⊆ names ds)
    (hpath : name ∈ names ds → ∀ x ∈ visiting, Reaches ds x name) (h : Sound ds visiting done)
    : Visited ds visiting done (visit ds fuel visiting done name) [name] := by
  -- There is fuel for every name that is not being visited, and a visit goes on with one such name less.
  induction fuel generalizing visiting done name with
  | zero =>
    have := length_le_of_subset_names hvis hsub
    omega
  | succ fuel ih =>
    rw [visit]
    split
    . next hseen =>
      apply Visited.refl h
      intro x hx hxds
      rw [List.mem_singleton.mp hx]
      exact isPassed_iff.mp hseen
    . next hnew =>
      obtain ⟨hnotDone, hnotVisiting⟩ := not_or.mp (isPassed_iff.not.mp hnew)
      split
      . next hnone =>
        apply Visited.refl h
        intro x hx hxds
        rw [List.mem_singleton.mp hx] at hxds
        exact absurd hxds (not_mem_names_of_named? hnone)
      . next d hsome =>
        obtain ⟨hd, rfl⟩ := named?_eq_some hsome
        have hrefs : Visited ds (d.name :: visiting) done
            (d.shape.references.foldl (visit ds fuel (d.name :: visiting)) done) d.shape.references := by
          apply foldl_visited _ (h.cons hnotDone)
          intro y hy done' hdone'
          apply ih
          . rw [List.length_cons]
            omega
          . exact List.nodup_cons.mpr ⟨hnotVisiting, hvis⟩
          . exact List.cons_subset.mpr ⟨name_mem_names hd, hsub⟩
          . intro hyds
            exact Reaches.tail_visiting hd hy hyds (hpath (name_mem_names hd))
          . exact hdone'
        exact hrefs.snoc hd hnotVisiting (hpath (name_mem_names hd))

end

section

variable {ds : List Declaration}

theorem visit_top {done : List Declaration} (name : String) (h : Sound ds [] done)
    : Visited ds [] done (visit ds (ds.length + 1) [] done name) [name] := by
  apply visit_visited
  . simp
  . exact List.nodup_nil
  . simp
  . simp
  . exact h

theorem inOrder_visited (ds : List Declaration) : Visited ds [] [] (inOrder ds) (names ds) := by
  unfold inOrder
  apply foldl_visited
  . intro x _ done hdone
    exact visit_top x hdone
  . exact Sound.nil

theorem inOrder_perm (hnd : (names ds).Nodup) : (inOrder ds).Perm ds := by
  have h := inOrder_visited ds
  apply (List.perm_ext_iff_of_nodup (List.Nodup.of_map _ h.sound.nodup) (List.Nodup.of_map _ hnd)).mpr
  intro d
  constructor
  . exact h.sound.mem d
  . intro hd
    apply mem_of_name_mem_names hnd h.sound.mem hd
    cases h.mem d.name (name_mem_names hd) (name_mem_names hd) with
    | inl hdone => exact hdone
    | inr hvis => simp at hvis

theorem inOrder_sublist_of_not_reaches (hnd : (names ds).Nodup) {d e : Declaration} (hd : d ∈ ds)
    (he : e ∈ ds) (href : e.name ∈ d.shape.references) (hback : ¬ Reaches ds e.name d.name)
    : [e, d].Sublist (inOrder ds) := by
  have h := (inOrder_visited ds).sound
  have hmem : d ∈ inOrder ds := (inOrder_perm hnd).mem_iff.mpr hd
  obtain ⟨before, after, hsplit⟩ := List.append_of_mem hmem
  have hname : e.name ∈ names before := by
    cases h.ordered before d after hsplit e.name href (name_mem_names he) with
    | inl hbefore => exact hbefore
    | inr hreach => exact absurd hreach hback
  have hbefore : e ∈ before := by
    apply mem_of_name_mem_names hnd _ he hname
    intro x hx
    apply h.mem
    rw [hsplit]
    exact List.mem_append_left _ hx
  rw [hsplit]
  apply List.Sublist.append (List.singleton_sublist.mpr hbefore)
  exact List.singleton_sublist.mpr List.mem_cons_self

theorem Sound.mem_of_reaches {done : List Declaration} (h : Sound ds [] done) (hnd : (names ds).Nodup)
    {x y : String} (hreach : Reaches ds x y) (hx : x ∈ names done)
    : y ∈ names done := by
  induction hreach with
  | refl => exact hx
  | tail _ hstep ih =>
    obtain ⟨hyds, d, hd, hname, hy⟩ := hstep
    have hdone : d ∈ done := by
      apply mem_of_name_mem_names hnd h.mem hd
      rw [hname]
      exact ih
    cases h.closed d hdone _ hy hyds with
    | inl hmem => exact hmem
    | inr hvis => simp at hvis

theorem named?_of_mem (hnd : (names ds).Nodup) {d : Declaration} (hd : d ∈ ds)
    : named? ds d.name = some d := by
  cases h : named? ds d.name with
  | none => exact absurd (name_mem_names hd) (not_mem_names_of_named? h)
  | some e =>
    obtain ⟨he, hname⟩ := named?_eq_some h
    rw [List.inj_on_of_nodup_map hnd he hd hname]

theorem inOrder_cons (hnd : (names (e :: ds)).Nodup)
    : ∃ before after, inOrder (e :: ds) = before ++ e :: after
      ∧ ∀ d ∈ e :: ds, d ≠ e → Reaches (e :: ds) e.name d.name → d ∈ before := by
  have he : e ∈ e :: ds := List.mem_cons_self
  have hnil : Sound (e :: ds) [] [] := Sound.nil
  have hfirst := visit_top e.name hnil
  have hrest : Visited (e :: ds) [] (visit (e :: ds) ((e :: ds).length + 1) [] [] e.name)
      (inOrder (e :: ds)) (names ds) := by
    apply foldl_visited
    . intro x _ done hdone
      exact visit_top x hdone
    . exact hfirst.sound
  obtain ⟨after, hafter⟩ := hrest.grows
  have hvisit : ∃ before, visit (e :: ds) ((e :: ds).length + 1) [] [] e.name = before ++ [e] := by
    rw [visit]
    simp [named?_of_mem hnd he]
  obtain ⟨before, hbefore⟩ := hvisit
  refine ⟨before, after, ?_, ?_⟩
  . rw [← hafter]
    rw [hbefore]
    simp
  . intro d hd hne hreach
    have hename : e.name ∈ names (before ++ [e]) := by simp [names]
    rw [hbefore] at hfirst
    have hdname := hfirst.sound.mem_of_reaches hnd hreach hename
    have hmem := mem_of_name_mem_names hnd hfirst.sound.mem hd hdname
    cases List.mem_append.mp hmem with
    | inl hin => exact hin
    | inr hlast => exact absurd (List.mem_singleton.mp hlast) hne

theorem not_sublist_of_mem_before {α : Type} {before after : List α} {d e : α}
    (hnd : (before ++ e :: after).Nodup) (hd : d ∈ before)
    : ¬ [e, d].Sublist (before ++ e :: after) := by
  intro hsub
  have hdisjoint := List.disjoint_of_nodup_append hnd
  obtain ⟨l₁, l₂, heq, h₁, h₂⟩ := List.sublist_append_iff.mp hsub
  cases l₁ with
  | nil =>
    rw [List.nil_append] at heq
    rw [← heq] at h₂
    exact hdisjoint hd (h₂.subset (by simp))
  | cons x xs =>
    obtain ⟨rfl, -⟩ := List.cons.inj heq
    exact hdisjoint (h₁.subset List.mem_cons_self) List.mem_cons_self

theorem names_nodup_of_perm {ds' : List Declaration} (hperm : ds'.Perm ds) (hnd : (names ds).Nodup)
    : (names ds').Nodup :=
  (hperm.map _).nodup_iff.mpr hnd

theorem refersTo_of_perm {ds' : List Declaration} (hperm : ds'.Perm ds) {x y : String}
    (h : RefersTo ds x y)
    : RefersTo ds' x y := by
  obtain ⟨hy, d, hd, hname, href⟩ := h
  exact ⟨(hperm.map _).mem_iff.mpr hy, d, hperm.mem_iff.mpr hd, hname, href⟩

theorem reaches_of_perm {ds' : List Declaration} (hperm : ds'.Perm ds) {x y : String}
    (h : Reaches ds x y)
    : Reaches ds' x y := by
  induction h with
  | refl => exact ReflTransGen.refl
  | tail _ hstep ih => exact ih.tail (refersTo_of_perm hperm hstep)

/-- Declarations are defined in time, in whatever order they are given, if and only if nothing that an alias
or a list class requires leads back to it. -/
theorem isDefinedInTime_inOrder_iff (hnd : (names ds).Nodup)
    : (∀ ds', ds'.Perm ds → IsDefinedInTime ds (inOrder ds'))
        ↔
      ∀ x y, Requires ds x y → ¬ Reaches ds y x := by
  constructor
  . rintro h x y ⟨hyds, d, hd, rfl, hy⟩ hreach
    obtain ⟨e, he, rfl⟩ := List.mem_map.mp hyds
    have hperm : (e :: ds.erase e).Perm ds := (List.perm_cons_erase he).symm
    have hnd' := names_nodup_of_perm hperm hnd
    have hin := h _ hperm d hd e he hy
    have hnodup : (inOrder (e :: ds.erase e)).Nodup :=
      List.Nodup.of_map _ (names_nodup_of_perm (inOrder_perm hnd') hnd')
    obtain ⟨before, after, horder, hbefore⟩ := inOrder_cons hnd'
    rw [horder] at hin hnodup
    by_cases heq : d = e
    . rw [heq] at hin
      have := hin.nodup hnodup
      simp at this
    . apply not_sublist_of_mem_before hnodup _ hin
      exact hbefore d (hperm.mem_iff.mpr hd) heq (reaches_of_perm hperm hreach)
  . intro h ds' hperm d hd e he hreq
    apply inOrder_sublist_of_not_reaches (names_nodup_of_perm hperm hnd) (hperm.mem_iff.mpr hd)
      (hperm.mem_iff.mpr he) (Shape.mem_references_of_mem_required hreq)
    intro hreach
    apply h d.name e.name ⟨name_mem_names he, d, hd, rfl, hreq⟩
    exact reaches_of_perm hperm.symm hreach

end

/-- A list class and the structure of its items, which `fieldType` leads on from. -/
def nodesAndNode (fieldType : String) : List Declaration :=
  [⟨"Node", .struct ⟨[⟨"next", .named fieldType [], some "next", none⟩], []⟩, [], none, none⟩,
    ⟨"Nodes", .type (.list (.named "Node" [])), [.toXml], none, none⟩]

theorem requires_nodesAndNode {fieldType x y : String} (h : Requires (nodesAndNode fieldType) x y)
    : x = "Nodes" ∧ y = "Node" := by
  obtain ⟨-, d, hd, hname, hy⟩ := h
  simp only [nodesAndNode, List.mem_cons, List.not_mem_nil, or_false] at hd
  cases hd with
  | inl hnode =>
    rw [hnode] at hy
    simp [Shape.required] at hy
  | inr hnodes =>
    rw [hnodes] at hname hy
    exact ⟨hname.symm, by simpa [Shape.required, TypeExpr.rootName] using hy⟩

theorem isDefinedInTime_nodesAndNode
    : (names (nodesAndNode "str")).Nodup
      ∧ ∀ ds', ds'.Perm (nodesAndNode "str") → IsDefinedInTime (nodesAndNode "str") (inOrder ds') := by
  have hnd : (names (nodesAndNode "str")).Nodup := by decide
  refine ⟨hnd, (isDefinedInTime_inOrder_iff hnd).mpr ?_⟩
  rintro x y hreq hreach
  obtain ⟨rfl, rfl⟩ := requires_nodesAndNode hreq
  cases ReflTransGen.cases_head hreach with
  | inl heq => exact absurd heq (by decide)
  | inr hstep =>
    -- the only reference of the structure is to a type that is not declared
    obtain ⟨z, ⟨hz, d, hd, hname, href⟩, -⟩ := hstep
    simp only [nodesAndNode, List.mem_cons, List.not_mem_nil, or_false] at hd
    cases hd with
    | inl hnode =>
      rw [hnode] at href
      have : z = "str" := by simpa [Shape.references, TypeExpr.rootName] using href
      rw [this] at hz
      exact absurd hz (by decide)
    | inr hnodes =>
      rw [hnodes] at hname
      exact absurd hname (by decide)

/-- A structure that holds a list class of itself is written after that class, although only the class needs
the structure when it is executed. -/
theorem not_isDefinedInTime_nodesAndNode
    : (names (nodesAndNode "Nodes")).Nodup
      ∧ (∀ x, ¬ TransGen (Requires (nodesAndNode "Nodes")) x x)
      ∧ names (inOrder (nodesAndNode "Nodes")) = ["Nodes", "Node"]
      ∧ ¬ IsDefinedInTime (nodesAndNode "Nodes") (inOrder (nodesAndNode "Nodes")) := by
  have hpath : ∀ {x y}, TransGen (Requires (nodesAndNode "Nodes")) x y → x = "Nodes" ∧ y = "Node" := by
    intro x y h
    induction h with
    | single hstep => exact requires_nodesAndNode hstep
    | tail _ hstep ih => exact ⟨ih.1, (requires_nodesAndNode hstep).2⟩
  refine ⟨by decide, ?_, by decide, ?_⟩
  . intro x h
    obtain ⟨hx, hx'⟩ := hpath h
    rw [hx] at hx'
    exact absurd hx' (by decide)
  . intro h
    have := h _ (List.mem_cons_of_mem _ List.mem_cons_self) _ List.mem_cons_self (by decide)
    exact absurd this (by decide)

end Declaration

end XmlBinding
