import XmlBinding.Proofs.Declaration.Order

/-!
This module contains that the search behind the order of declarations comes to an end by itself, whatever refers to
what, and that the order has every declaration once, after those that it refers to and that do not lead back to it.
-/

namespace XmlBinding.Declaration

open Relation

variable {ds done done' : List Declaration} {visiting xs : List String} {name : String}

/-- The search as it is without a bound on its depth: visiting the names `xs`, one after the other, comes to an end, and
`done'` are the declarations that are done by then. -/
inductive Searches (ds : List Declaration) : (visiting : List String) → (done : List Declaration) →
    (xs : List String) → (done' : List Declaration) → Prop
  | nil {visiting : List String} {done : List Declaration} : Searches ds visiting done [] done
  | skip {visiting xs : List String} {done done' : List Declaration} {name : String} :
      name ∈ names done ∨ name ∈ visiting ∨ name ∉ names ds → Searches ds visiting done xs done' →
      Searches ds visiting done (name :: xs) done'
  | visit {visiting xs : List String} {done between done' : List Declaration} {name : String} {d : Declaration} :
      name ∉ names done → name ∉ visiting → named? ds name = some d →
      Searches ds (name :: visiting) done d.shape.references between →
      Searches ds visiting (between ++ [d]) xs done' → Searches ds visiting done (name :: xs) done'

theorem Searches.cons {between : List Declaration} (h : Searches ds visiting done [name] between)
    (hrest : Searches ds visiting between xs done')
    : Searches ds visiting done (name :: xs) done' := by
  cases h with
  | skip hknown hnil =>
    cases hnil
    exact .skip hknown hrest
  | visit hdone hvisiting hnamed hrefs hnil =>
    cases hnil
    exact .visit hdone hvisiting hnamed hrefs hrest

theorem mem_names_of_named? {d : Declaration} (h : named? ds name = some d) : name ∈ names ds := by
  obtain ⟨hd, rfl⟩ := named?_eq_some h
  exact name_mem_names hd

theorem Searches.unique {other : List Declaration} (h : Searches ds visiting done xs done')
    (hother : Searches ds visiting done xs other)
    : done' = other := by
  induction h generalizing other with
  | nil =>
    cases hother
    rfl
  | skip hknown _ ih =>
    cases hother with
    | skip _ hrest => exact ih hrest
    | visit hdone hvisiting hnamed _ _ =>
      exact absurd hknown (by simp [hdone, hvisiting, mem_names_of_named? hnamed])
  | visit hdone hvisiting hnamed _ _ ihrefs ihrest =>
    cases hother with
    | skip hknown _ => exact absurd hknown (by simp [hdone, hvisiting, mem_names_of_named? hnamed])
    | visit _ _ hnamed' hrefs' hrest' =>
      obtain rfl := Option.some.inj (hnamed.symm.trans hnamed')
      obtain rfl := ihrefs hrefs'
      exact ihrest hrest'

theorem foldl_searches {f : List Declaration → String → List Declaration}
    (hf : ∀ x ∈ xs, ∀ done, Searches ds visiting done [x] (f done x)) (done : List Declaration)
    : Searches ds visiting done xs (xs.foldl f done) := by
  induction xs generalizing done with
  | nil => exact .nil
  | cons x xs ih =>
    rw [List.foldl_cons]
    apply (hf x List.mem_cons_self done).cons
    exact ih (fun y hy => hf y (List.mem_cons_of_mem x hy)) _

/-- A visit needs no more depth than there are declarations that are not being visited. -/
theorem visit_searches {fuel : Nat} (hfuel : ds.length < fuel + visiting.length) (hvis : visiting.Nodup)
    (hsub : visiting ⊆ names ds) (done : List Declaration) (name : String)
    : Searches ds visiting done [name] (visit ds fuel visiting done name) := by
  induction fuel generalizing visiting done name with
  | zero =>
    have := length_le_of_subset_names hvis hsub
    omega
  | succ fuel ih =>
    rw [visit]
    split
    . next hseen =>
      exact .skip (or_assoc.mp (.inl (isPassed_iff.mp hseen))) .nil
    . next hnew =>
      obtain ⟨hnotDone, hnotVisiting⟩ := not_or.mp (isPassed_iff.not.mp hnew)
      split
      . next hnone => exact .skip (.inr (.inr (not_mem_names_of_named? hnone))) .nil
      . next d hsome =>
        apply Searches.visit hnotDone hnotVisiting hsome _ .nil
        apply foldl_searches
        intro y _ done'
        apply ih
        . rw [List.length_cons]
          omega
        . exact List.nodup_cons.mpr ⟨hnotVisiting, hvis⟩
        . exact List.cons_subset.mpr ⟨mem_names_of_named? hsome, hsub⟩

theorem inOrder_searches (ds : List Declaration) : Searches ds [] [] (names ds) (inOrder ds) := by
  unfold inOrder
  apply foldl_searches
  intro x _ done
  apply visit_searches
  . simp
  . exact List.nodup_nil
  . simp

theorem Searches.named?_of_mem (h : Searches ds visiting done xs done') (hdone : ∀ d ∈ done, named? ds d.name = some d)
    : ∀ d ∈ done', named? ds d.name = some d := by
  induction h with
  | nil => exact hdone
  | skip _ _ ih => exact ih hdone
  | visit _ _ hnamed _ _ ihrefs ihrest =>
    apply ihrest
    rw [List.forall_mem_append]
    refine ⟨ihrefs hdone, ?_⟩
    intro d hd
    obtain rfl := List.mem_singleton.mp hd
    rwa [(named?_eq_some hnamed).2]

/-- The order has the declarations whose names no later one has. -/
theorem mem_inOrder_iff {d : Declaration} : d ∈ inOrder ds ↔ named? ds d.name = some d := by
  have hnamed := (inOrder_searches ds).named?_of_mem (by simp)
  constructor
  . exact hnamed d
  . intro h
    have hname := mem_names_of_named? h
    cases (inOrder_visited ds).mem d.name hname hname with
    | inl hdone =>
      obtain ⟨e, he, hename⟩ := List.mem_map.mp hdone
      have hsame := hnamed e he
      rw [hename] at hsame
      rwa [Option.some.inj (h.symm.trans hsame)]
    | inr hvisiting => cases hvisiting

theorem not_reaches_of_acyclic (h : ∀ x, ¬ TransGen (RefersTo ds) x x) {d e : Declaration} (hd : d ∈ ds)
    (he : e ∈ ds) (href : e.name ∈ d.shape.references)
    : ¬ Reaches ds e.name d.name := by
  intro hback
  have hstep : RefersTo ds d.name e.name := ⟨name_mem_names he, d, hd, rfl, href⟩
  exact h d.name (TransGen.head' hstep hback)

/-- The search ends, in one way only. It loses no declaration and has none twice. What a declaration refers to comes
before it if it does not lead back, which it never does where references do not run in a circle. -/
theorem inOrder_isTopological (hnd : (names ds).Nodup)
    : (∀ order, Searches ds [] [] (names ds) order ↔ order = inOrder ds) ∧
        (inOrder ds).Perm ds ∧
        (inOrder ds).Nodup ∧
        (∀ d ∈ ds, ∀ e ∈ ds, e.name ∈ d.shape.references → ¬ Reaches ds e.name d.name →
          [e, d].Sublist (inOrder ds)) ∧
        ((∀ x, ¬ TransGen (RefersTo ds) x x) →
          ∀ d ∈ ds, ∀ e ∈ ds, e.name ∈ d.shape.references → [e, d].Sublist (inOrder ds)) := by
  have hperm := inOrder_perm hnd
  have hordered : ∀ d ∈ ds, ∀ e ∈ ds, e.name ∈ d.shape.references → ¬ Reaches ds e.name d.name →
      [e, d].Sublist (inOrder ds) :=
    fun d hd e he href hback => inOrder_sublist_of_not_reaches hnd hd he href hback
  refine ⟨?_, hperm, hperm.nodup_iff.mpr (List.Nodup.of_map _ hnd), hordered, ?_⟩
  . intro order
    constructor
    . intro h
      exact h.unique (inOrder_searches ds)
    . rintro rfl
      exact inOrder_searches ds
  . intro hacyclic d hd e he href
    exact hordered d hd e he href (not_reaches_of_acyclic hacyclic hd he href)

/-- A structure with fields of these types. -/
def record (name : String) (types : List String) : Declaration :=
  ⟨name, .struct ⟨types.map fun type => ⟨type, .named type [], some type, none⟩, []⟩, [], none, none⟩

/-- Two structures that refer to one another, a structure that refers to one of them, to itself and to a type that is
not there, and a list class of all that. -/
def circular : List Declaration :=
  [⟨"Leaves", .type (.list (.named "Leaf" [])), [.toXml], none, none⟩, record "Leaf" ["Tree", "Leaf", "Wind"],
    record "Tree" ["Branch"], record "Branch" ["Tree"]]

theorem reference_circular {x y : String} (h : RefersTo circular x y) (hx : x = "Tree" ∨ x = "Branch")
    : y = "Tree" ∨ y = "Branch" := by
  obtain ⟨-, d, hd, hname, hy⟩ := h
  simp only [circular, List.mem_cons, List.not_mem_nil, or_false] at hd
  rcases hd with rfl | rfl | rfl | rfl
  . rcases hx with rfl | rfl <;> exact absurd hname (by decide)
  . rcases hx with rfl | rfl <;> exact absurd hname (by decide)
  . right
    simpa [record, Shape.references, TypeExpr.rootName] using hy
  . left
    simpa [record, Shape.references, TypeExpr.rootName] using hy

theorem inOrder_isTopological_circular
    : (names circular).Nodup ∧
        names (inOrder circular) = ["Branch", "Tree", "Leaf", "Leaves"] ∧
        (inOrder circular).Perm circular ∧
        [record "Tree" ["Branch"], record "Leaf" ["Tree", "Leaf", "Wind"]].Sublist (inOrder circular) := by
  have hnd : (names circular).Nodup := by decide
  obtain ⟨-, hperm, -, hordered, -⟩ := inOrder_isTopological hnd
  refine ⟨hnd, by decide, hperm, hordered _ (by decide) _ (by decide) (by decide) ?_⟩
  intro hback
  have hclosed : ∀ {y}, Reaches circular "Tree" y → y = "Tree" ∨ y = "Branch" := by
    intro y h
    induction h with
    | refl => exact .inl rfl
    | tail _ hstep ih => exact reference_circular hstep ih
  rcases hclosed hback with heq | heq <;> exact absurd heq (by decide)

end XmlBinding.Declaration
