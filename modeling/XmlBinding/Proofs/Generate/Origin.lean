import XmlBinding.Proofs.Declaration.Flatten
import XmlBinding.Proofs.Generate.Process

/-!
This module contains where the parts of a declaration come from: its name from the name of its type, and the types in it
from those that attributes and elements mention. Flattening changes none of it.
-/

namespace XmlBinding

open Report

namespace Shape

def types : Shape → List TypeExpr
  | .struct s => s.fields.map (·.type)
  | .type t => [t]

theorem references_eq (shape : Shape) : shape.references = shape.types.map (·.rootName) := by
  cases shape with
  | struct s => simp [references, types]
  | type t => rfl

theorem imports_eq (shape : Shape) : shape.imports = shape.types.flatMap (·.imports) := by
  cases shape with
  | struct s => simp [imports, types, List.flatMap_map]
  | type t => simp [imports, types]

end Shape

/-! ### Flattening -/

namespace Declaration

variable {d d' d'' : Declaration}

/-- The same declaration, which may be a list instead of a structure with nothing else in it. -/
structure IsVariant (d d' : Declaration) : Prop where
  name : d'.name = d.name
  source : d'.source? = d.source?
  types : d'.shape.types = d.shape.types
  struct : ∀ st, d'.shape = .struct st → d.shape = .struct st

theorem IsVariant.refl (d : Declaration) : d.IsVariant d :=
  ⟨rfl, rfl, rfl, fun _ h => h⟩

theorem IsVariant.trans (h : d.IsVariant d') (h' : d'.IsVariant d'') : d.IsVariant d'' where
  name := h'.name.trans h.name
  source := h'.source.trans h.source
  types := h'.types.trans h.types
  struct st hst := h.struct st (h'.struct st hst)

theorem isVariant_flatten (h : d.flatten.result = .ok d') : d.IsVariant d' := by
  obtain rfl | ⟨f, item, tag, honly, -, rfl⟩ := eq_or_becomesList_of_flatten h
  . exact .refl d'
  . obtain ⟨⟨constants, hshape⟩, -⟩ := honly
    refine ⟨rfl, rfl, ?_, fun st hst => nomatch hst⟩
    rw [hshape]
    rfl

end Declaration

namespace Generate

variable {cfg : Config} {s : Store} {r : TypeRef} {d : Declaration}

theorem isVariant_postprocess {steps : List DeclarationStep} (hsteps : ∀ step ∈ steps, step = .flatten)
    {d' : Declaration} (h : (postprocess steps d).result = .ok d')
    : d.IsVariant d' := by
  induction steps generalizing d with
  | nil =>
    rw [← result_pure_eq_ok_iff.mp h]
    exact .refl d
  | cons step steps ih =>
    rw [List.forall_mem_cons] at hsteps
    obtain ⟨rfl, hsteps⟩ := hsteps
    rw [postprocess] at h
    obtain ⟨flat, hflat, h⟩ := result_bind_eq_ok_iff.mp h
    exact (Declaration.isVariant_flatten hflat).trans (ih hsteps h)

theorem exists_declaration?_of_finish (hsteps : ∀ step ∈ cfg.declarationSteps, step = .flatten)
    (h : (finish cfg s (some r)).result = .ok (some d))
    : ∃ draft, (declaration? cfg s (some r)).result = .ok (some draft) ∧ draft.IsVariant d := by
  obtain ⟨draft?, hdraft, h⟩ := result_bind_eq_ok_iff.mp h
  cases draft? with
  | none => cases result_pure_eq_ok_iff.mp h
  | some draft =>
    obtain ⟨d', hd', h⟩ := result_bind_eq_ok_iff.mp h
    obtain rfl := Option.some.inj (result_pure_eq_ok_iff.mp h)
    exact ⟨draft, hdraft, isVariant_postprocess hsteps hd'⟩

/-! ### Types -/

/-- The declaration of a type refers to another one: that of an element, that of an attribute that is not fixed, that
of the items of a list, or the base of any other simple type. -/
inductive Uses (s : Store) (r : TypeRef) : Option TypeRef → Prop
  | «attribute» {t : ComplexType} {a : Attribute} : s.get r = .complex t → .attribute a ∈ s.attributesOf t →
      a.fixed = "" → Uses s r a.type?
  | element {t : ComplexType} {e : Element} : s.get r = .complex t → .element e ∈ s.elementsOf t → Uses s r e.type?
  | item {t : SimpleType} {item : TypeRef} : s.get r = .simple t → t.listOf? = some item → Uses s r (some item)
  | base {t : SimpleType} : s.get r = .simple t → t.listOf? = none → Uses s r t.base?

/-- The type expression is that of a type, or a list of it. -/
def IsFor (cfg : Config) (s : Store) (r? : Option TypeRef) (type : TypeExpr) : Prop :=
  ∃ plain, (cfg.typeExpr s r?).result = .ok plain ∧ (type = plain ∨ type = .list plain)

theorem exists_uses_of_declaration? (h : (declaration? cfg s (some r)).result = .ok (some d))
    : ∀ type ∈ d.shape.types, ∃ r?, Uses s r r? ∧ IsFor cfg s r? type := by
  unfold declaration? at h
  dsimp only at h
  split at h
  . cases result_pure_eq_ok_iff.mp h
  . next t hr =>
    obtain ⟨st, hst, h⟩ := result_bind_eq_ok_iff.mp h
    obtain ⟨name, -, h⟩ := result_bind_eq_ok_iff.mp h
    rw [← Option.some.inj (result_pure_eq_ok_iff.mp h)]
    intro type htype
    obtain ⟨f, hf, rfl⟩ := List.mem_map.mp htype
    cases (mem_of_struct hst).1 f hf with
    | inl hattribute =>
      obtain ⟨a, ha, hfield⟩ := hattribute
      exact ⟨_, .attribute hr ha hfield.fixed, f.type, hfield.type, .inl rfl⟩
    | inr helement =>
      obtain ⟨e, he, ⟨plain, hplain, htype⟩, -⟩ := helement
      refine ⟨_, .element hr he, plain, hplain, ?_⟩
      rw [htype]
      cases e.isPlural with
      | true => exact .inr rfl
      | false => exact .inl rfl
  . next t hr =>
    obtain ⟨type, htype, h⟩ := result_bind_eq_ok_iff.mp h
    obtain ⟨name, -, h⟩ := result_bind_eq_ok_iff.mp h
    rw [← Option.some.inj (result_pure_eq_ok_iff.mp h)]
    rw [Shape.types]
    rw [List.forall_mem_singleton]
    unfold simple at htype
    split at htype
    . next item hitem =>
      obtain ⟨plain, hplain, htype⟩ := result_bind_eq_ok_iff.mp htype
      rw [← result_pure_eq_ok_iff.mp htype]
      exact ⟨some item, .item hr hitem, plain, hplain, .inr rfl⟩
    . next hnone => exact ⟨t.base?, .base hr hnone, type, htype, .inl rfl⟩
  . exact absurd h result_fail_ne_ok

theorem of_declaration? (h : (declaration? cfg s (some r)).result = .ok (some d))
    : (cfg.typeName (s.nameOf r)).result = .ok d.name ∧ d.source? = some r ∧
        ∀ st, d.shape = .struct st → ∃ t, s.get r = .complex t ∧ (struct cfg s t).result = .ok st := by
  unfold declaration? at h
  dsimp only at h
  unfold Store.nameOf
  split at h
  . cases result_pure_eq_ok_iff.mp h
  . next t hr =>
    obtain ⟨shape, hshape, h⟩ := result_bind_eq_ok_iff.mp h
    obtain ⟨name, hname, h⟩ := result_bind_eq_ok_iff.mp h
    rw [← Option.some.inj (result_pure_eq_ok_iff.mp h)]
    rw [hr]
    refine ⟨hname, rfl, ?_⟩
    intro st hst
    rw [← Shape.struct.inj hst]
    exact ⟨t, rfl, hshape⟩
  . next t hr =>
    obtain ⟨type, -, h⟩ := result_bind_eq_ok_iff.mp h
    obtain ⟨name, hname, h⟩ := result_bind_eq_ok_iff.mp h
    rw [← Option.some.inj (result_pure_eq_ok_iff.mp h)]
    rw [hr]
    refine ⟨hname, rfl, ?_⟩
    intro st hst
    cases hst
  . exact absurd h result_fail_ne_ok

/-! ### What is finished -/

theorem exists_uses_of_finish (hcfg : cfg.IsRegular) (h : (finish cfg s (some r)).result = .ok (some d))
    : ∀ type ∈ d.shape.types, ∃ r?, Uses s r r? ∧ IsFor cfg s r? type := by
  obtain ⟨draft, hdraft, hvariant⟩ := exists_declaration?_of_finish hcfg.declarationSteps h
  rw [hvariant.types]
  exact exists_uses_of_declaration? hdraft

theorem of_finish (hcfg : cfg.IsRegular) (h : (finish cfg s (some r)).result = .ok (some d))
    : (cfg.typeName (s.nameOf r)).result = .ok d.name ∧ d.source? = some r ∧
        ∀ st, d.shape = .struct st → ∃ t, s.get r = .complex t ∧ (struct cfg s t).result = .ok st := by
  obtain ⟨draft, hdraft, hvariant⟩ := exists_declaration?_of_finish hcfg.declarationSteps h
  obtain ⟨hname, hsource, hstruct⟩ := of_declaration? hdraft
  rw [hvariant.name]
  rw [hvariant.source]
  exact ⟨hname, hsource, fun st hst => hstruct st (hvariant.struct st hst)⟩

end Generate

end XmlBinding
