import Mathlib.Data.List.Forall2
import XmlBinding.Generate.Declare
import XmlBinding.Proofs.Codec.Members
import XmlBinding.Proofs.Name.Fresh
import XmlBinding.Proofs.Name.Tag
import XmlBinding.Proofs.Report

/-!
This module contains what a structure gets for the attributes and elements of a type: a constant for each attribute that
is fixed, and a field for each other one and for each element. They stay in their order, and no two of them have one
name.
-/

namespace XmlBinding

open Report

/-! ### Attributes and elements -/

def Member.attribute? : Member → Option Attribute
  | .attribute a => some a
  | .element _ => none

def Member.element? : Member → Option Element
  | .element e => some e
  | .attribute _ => none

theorem Member.attribute?_eq_some_iff {m : Member} {a : Attribute} : m.attribute? = some a ↔ m = .attribute a := by
  cases m with
  | «attribute» b => simp [attribute?]
  | element e => simp [attribute?]

theorem Member.element?_eq_some_iff {m : Member} {e : Element} : m.element? = some e ↔ m = .element e := by
  cases m with
  | «attribute» a => simp [element?]
  | element e' => simp [element?]

/-- The elements of a type. -/
def Store.declaredElements (s : Store) (t : ComplexType) : List Element :=
  (s.elementsOf t).filterMap (·.element?)

/-- The attributes among some members that have a fixed value. -/
def fixedAmong (ms : List Member) : List Attribute :=
  (ms.filterMap (·.attribute?)).filter (!·.fixed.isEmpty)

/-- The attributes among some members that have no fixed value. -/
def unfixedAmong (ms : List Member) : List Attribute :=
  (ms.filterMap (·.attribute?)).filter (·.fixed.isEmpty)

section

variable {a : Attribute} {ms : List Member}

theorem fixedAmong_cons_of_isEmpty (h : a.fixed.isEmpty = true) (ms : List Member)
    : fixedAmong (.attribute a :: ms) = fixedAmong ms := by
  simp [fixedAmong, Member.attribute?, h]

theorem fixedAmong_cons_of_not_isEmpty (h : ¬a.fixed.isEmpty = true) (ms : List Member)
    : fixedAmong (.attribute a :: ms) = a :: fixedAmong ms := by
  simp [fixedAmong, Member.attribute?, h]

theorem unfixedAmong_cons_of_isEmpty (h : a.fixed.isEmpty = true) (ms : List Member)
    : unfixedAmong (.attribute a :: ms) = a :: unfixedAmong ms := by
  simp [unfixedAmong, Member.attribute?, h]

theorem unfixedAmong_cons_of_not_isEmpty (h : ¬a.fixed.isEmpty = true) (ms : List Member)
    : unfixedAmong (.attribute a :: ms) = unfixedAmong ms := by
  simp [unfixedAmong, Member.attribute?, h]

theorem mem_of_mem_fixedAmong (h : a ∈ fixedAmong ms) : .attribute a ∈ ms := by
  obtain ⟨m, hm, ha⟩ := List.mem_filterMap.mp (List.mem_filter.mp h).1
  rw [← Member.attribute?_eq_some_iff.mp ha]
  exact hm

theorem mem_of_mem_unfixedAmong (h : a ∈ unfixedAmong ms) : .attribute a ∈ ms := by
  obtain ⟨m, hm, ha⟩ := List.mem_filterMap.mp (List.mem_filter.mp h).1
  rw [← Member.attribute?_eq_some_iff.mp ha]
  exact hm

theorem mem_of_mem_elements {e : Element} (h : e ∈ ms.filterMap (·.element?)) : .element e ∈ ms := by
  obtain ⟨m, hm, he⟩ := List.mem_filterMap.mp h
  rw [← Member.element?_eq_some_iff.mp he]
  exact hm

end

/-! ### Filters -/

namespace Config

variable {cfg : Config} {s : Store} {subject : Nat → Subject} {ms rest : List Member}

theorem keptBy_sublist {filter : Filter} {i : Nat} (h : (keptBy filter s subject i ms).result = .ok rest)
    : rest.Sublist ms := by
  induction ms generalizing i rest with
  | nil =>
    rw [keptBy] at h
    rw [← result_pure_eq_ok_iff.mp h]
  | cons m ms ih =>
    rw [keptBy] at h
    obtain ⟨excluded, -, h⟩ := result_bind_eq_ok_iff.mp h
    obtain ⟨others, hothers, h⟩ := result_bind_eq_ok_iff.mp h
    rw [← result_pure_eq_ok_iff.mp h]
    split
    . exact (ih hothers).cons m
    . exact (ih hothers).cons_cons m

theorem kept_sublist {filter? : Option Filter} (h : (kept filter? s subject ms).result = .ok rest)
    : rest.Sublist ms := by
  unfold kept at h
  split at h
  . rw [← result_pure_eq_ok_iff.mp h]
  . exact keptBy_sublist h

theorem keptMembers_sublist {t : ComplexType} {kept : Members} (h : (cfg.keptMembers s t).result = .ok kept)
    : kept.attributes.Sublist (s.attributesOf t) ∧ kept.elements.Sublist (s.elementsOf t) := by
  unfold keptMembers at h
  obtain ⟨attributes, hattributes, h⟩ := result_bind_eq_ok_iff.mp h
  obtain ⟨elements, helements, h⟩ := result_bind_eq_ok_iff.mp h
  rw [← result_pure_eq_ok_iff.mp h]
  exact ⟨kept_sublist hattributes, kept_sublist helements⟩

end Config

/-! ### Names -/

namespace Scope

/-- No name is given twice, and none is reserved. -/
structure IsProper (scope : Scope) : Prop where
  nodup : scope.used.Nodup
  unreserved : ∀ name ∈ scope.used, name ∉ scope.reserved

/-- Of two scopes the second one has some names besides those of the first one. -/
structure Adds (scope : Scope) (names : List String) (after : Scope) : Prop where
  reserved : after.reserved = scope.reserved
  used : after.used.Perm (names ++ scope.used)
  isProper : scope.IsProper → after.IsProper

variable {scope next after : Scope} {names names' : List String}

theorem isProper_members : members.IsProper where
  nodup := List.nodup_nil
  unreserved := by simp [members]

theorem adds_nil (scope : Scope) : scope.Adds [] scope where
  reserved := rfl
  used := List.Perm.refl _
  isProper := id

theorem Adds.perm (h : scope.Adds names after) (hnames : names'.Perm names) : scope.Adds names' after where
  reserved := h.reserved
  used := h.used.trans (hnames.symm.append_right scope.used)
  isProper := h.isProper

theorem Adds.append (h : scope.Adds names next) (hnext : next.Adds names' after)
    : scope.Adds (names' ++ names) after where
  reserved := hnext.reserved.trans h.reserved
  used := by
    rw [List.append_assoc]
    exact hnext.used.trans (h.used.append_left names')
  isProper hscope := hnext.isProper (h.isProper hscope)

/-- All names that a structure takes from the start are different, and none is reserved. -/
theorem Adds.of_members (h : members.Adds names after)
    : names.Nodup ∧ ∀ name ∈ names, name ∉ Identifier.memberReserved := by
  have hused : after.used.Perm names := by simpa [members] using h.used
  have hafter := h.isProper isProper_members
  refine ⟨hused.nodup hafter.nodup, ?_⟩
  intro name hname
  rw [show Identifier.memberReserved = after.reserved from h.reserved.symm]
  exact hafter.unreserved name (hused.symm.subset hname)

theorem adds_add (hscope : Identifier.AreWords scope.reserved) (source : String)
    : scope.Adds [(scope.add "_" source).1] (scope.add "_" source).2 where
  reserved := rfl
  used := List.Perm.refl _
  isProper h := by
    constructor
    . exact List.nodup_cons.mpr ⟨scope.add_not_mem_used "_" source, h.nodup⟩
    . exact List.forall_mem_cons.mpr ⟨add_not_mem hscope source, h.unreserved⟩

end Scope

namespace Config

variable {cfg : Config} {slot : RuleSlot} {n : QName} {scope after : Scope} {name : String}

/-- The name is given to a member called `source`, after the names `used`. -/
def Gives (cfg : Config) (slot : RuleSlot) (source : QName) (name : String) : Prop :=
  ∃ used after, (cfg.memberName slot source ⟨Identifier.memberReserved, used⟩).result = .ok (name, after)

theorem exists_add_of_memberName (h : (cfg.memberName slot n scope).result = .ok (name, after))
    : ∃ source, scope.add "_" source = (name, after) := by
  unfold memberName at h
  obtain ⟨source, -, h⟩ := result_bind_eq_ok_iff.mp h
  exact ⟨source, result_pure_eq_ok_iff.mp h⟩

theorem Gives.isWordy (h : cfg.Gives slot n name) : Identifier.IsWordy name := by
  obtain ⟨used, after, h⟩ := h
  obtain ⟨source, hadd⟩ := exists_add_of_memberName h
  have hwordy := Scope.isWordy_add Identifier.areWords_memberReserved used source
  rw [hadd] at hwordy
  exact hwordy

variable (hscope : scope.reserved = Identifier.memberReserved)
  (h : (cfg.memberName slot n scope).result = .ok (name, after))

include hscope h

theorem gives_of_memberName : cfg.Gives slot n name := by
  obtain ⟨reserved, used⟩ := scope
  obtain rfl : reserved = Identifier.memberReserved := hscope
  exact ⟨used, after, h⟩

theorem adds_of_memberName : scope.Adds [name] after := by
  obtain ⟨source, hadd⟩ := exists_add_of_memberName h
  have hwords : Identifier.AreWords scope.reserved := by
    rw [hscope]
    exact Identifier.areWords_memberReserved
  have hadds := Scope.adds_add hwords source
  rw [hadd] at hadds
  exact hadds

end Config

theorem Shape.names_cons_constant (st : Struct) (c : Constant)
    : (Shape.struct { st with constants := c :: st.constants }).names.Perm (c.name :: (Shape.struct st).names) :=
  List.perm_middle

theorem Shape.names_append_fields (st : Struct) (fields : List Field)
    : (Shape.struct { st with fields := st.fields ++ fields }).names.Perm
        (fields.map (·.name) ++ (Shape.struct st).names) := by
  unfold names Struct.memberNames
  dsimp only
  rw [List.map_append]
  rw [← List.append_assoc]
  exact List.perm_append_comm.append_right _

namespace Generate

variable {cfg : Config} {s : Store}

/-! ### Constants and fields -/

/-- The constant is made for a fixed attribute. -/
structure IsConstantOf (cfg : Config) (a : Attribute) (c : Constant) : Prop where
  fixed : a.fixed ≠ ""
  value : c.value = a.fixed
  name : cfg.Gives .attributes a.name c.name
  tag : c.tag? = some (Tag.ofName a.name ++ ",attr")

/-- The field is made for an attribute that is not fixed. Only a text has a default value. -/
structure IsAttributeField (cfg : Config) (s : Store) (a : Attribute) (f : Field) : Prop where
  fixed : a.fixed = ""
  type : (cfg.typeExpr s a.type?).result = .ok f.type
  name : cfg.Gives .attributes a.name f.name
  tag : f.tag? = some (Tag.ofName a.name ++ ",attr")
  default : f.default? =
    if f.type.source == "str" && !a.defaultText.isEmpty then some (Text.quoted a.defaultText) else none

/-- The field is made for an element. -/
structure IsElementField (cfg : Config) (s : Store) (e : Element) (f : Field) : Prop where
  type : ∃ type, (cfg.typeExpr s e.type?).result = .ok type ∧ f.type = if e.isPlural then .list type else type
  name : cfg.Gives .elements (fieldSource e) f.name
  tag : f.tag? = some (if e.isWildcard then wildcardTag else Tag.ofName e.name)
  default : f.default? = none

/-- The parts of a structure that are made for attributes: a constant for each one that is fixed and a field for each
other one, in their order. The scope has their names afterwards. -/
structure AreParts (cfg : Config) (s : Store) (scope : Scope) (ms : List Member) (st : Struct) (after : Scope) :
    Prop where
  constants : List.Forall₂ (IsConstantOf cfg) (fixedAmong ms) st.constants
  fields : List.Forall₂ (IsAttributeField cfg s) (unfixedAmong ms) st.fields
  names : scope.Adds (Shape.struct st).names after

section

variable {scope next after : Scope} {m : Member} {ms : List Member} {st : Struct} {a : Attribute}

theorem AreParts.cons_constant (h : AreParts cfg s next ms st after) {c : Constant} (hc : IsConstantOf cfg a c)
    (hname : scope.Adds [c.name] next)
    : AreParts cfg s scope (.attribute a :: ms) { st with constants := c :: st.constants } after := by
  have hfixed : ¬a.fixed.isEmpty = true := String.isEmpty_iff.not.mpr hc.fixed
  constructor
  . rw [fixedAmong_cons_of_not_isEmpty hfixed]
    exact .cons hc h.constants
  . rw [unfixedAmong_cons_of_not_isEmpty hfixed]
    exact h.fields
  . exact (hname.append h.names).perm ((Shape.names_cons_constant st c).trans (List.perm_append_singleton _ _).symm)

theorem AreParts.cons_field (h : AreParts cfg s next ms st after) {f : Field} (hf : IsAttributeField cfg s a f)
    (hname : scope.Adds [f.name] next)
    : AreParts cfg s scope (.attribute a :: ms) { st with fields := f :: st.fields } after := by
  have hfixed : a.fixed.isEmpty = true := String.isEmpty_iff.mpr hf.fixed
  constructor
  . rw [fixedAmong_cons_of_isEmpty hfixed]
    exact h.constants
  . rw [unfixedAmong_cons_of_isEmpty hfixed]
    exact .cons hf h.fields
  . exact (hname.append h.names).perm (List.perm_append_singleton _ _).symm

/-- Each attribute gets a name, and then it is a constant or a field in front of the parts of the other ones. -/
theorem exists_of_attributeParts_cons (h : (attributeParts cfg s scope (m :: ms)).result = .ok (st, after))
    : ∃ a name next rest, m = .attribute a ∧ (cfg.memberName .attributes a.name scope).result = .ok (name, next) ∧
        (attributeParts cfg s next ms).result = .ok (rest, after) ∧
        ((∃ f, st = { rest with fields := f :: rest.fields } ∧ f.name = name ∧
            (cfg.Gives .attributes a.name name → IsAttributeField cfg s a f)) ∨
          ∃ c, st = { rest with constants := c :: rest.constants } ∧ c.name = name ∧
            (cfg.Gives .attributes a.name name → IsConstantOf cfg a c)) := by
  rw [attributeParts] at h
  obtain ⟨⟨name, next⟩, hname, h⟩ := result_bind_eq_ok_iff.mp h
  cases m with
  | element e => exact absurd h result_fail_ne_ok
  | «attribute» a =>
    refine ⟨a, name, next, ?_⟩
    dsimp only at h
    split at h
    . next hfixed =>
      obtain ⟨type, htype, h⟩ := result_bind_eq_ok_iff.mp h
      obtain ⟨⟨rest, last⟩, hrest, h⟩ := result_bind_eq_ok_iff.mp h
      cases result_pure_eq_ok_iff.mp h
      refine ⟨rest, rfl, hname, hrest, .inl ⟨_, rfl, rfl, ?_⟩⟩
      exact fun hgives => ⟨String.isEmpty_iff.mp hfixed, htype, hgives, rfl, rfl⟩
    . next hfixed =>
      obtain ⟨⟨rest, last⟩, hrest, h⟩ := result_bind_eq_ok_iff.mp h
      cases result_pure_eq_ok_iff.mp h
      refine ⟨rest, rfl, hname, hrest, .inr ⟨_, rfl, rfl, ?_⟩⟩
      exact fun hgives => ⟨String.isEmpty_iff.not.mp hfixed, rfl, hgives, rfl⟩

theorem exists_of_elementFields_cons {fields : List Field}
    (h : (elementFields cfg s scope (m :: ms)).result = .ok fields)
    : ∃ e f next rest, m = .element e ∧ fields = f :: rest ∧
        (cfg.memberName .elements (fieldSource e) scope).result = .ok (f.name, next) ∧
        (elementFields cfg s next ms).result = .ok rest ∧
        (cfg.Gives .elements (fieldSource e) f.name → IsElementField cfg s e f) := by
  cases m with
  | «attribute» a =>
    rw [elementFields] at h
    exact absurd h result_fail_ne_ok
  | element e =>
    rw [elementFields] at h
    obtain ⟨type, htype, h⟩ := result_bind_eq_ok_iff.mp h
    obtain ⟨⟨name, next⟩, hname, h⟩ := result_bind_eq_ok_iff.mp h
    obtain ⟨rest, hrest, h⟩ := result_bind_eq_ok_iff.mp h
    refine ⟨e, _, next, rest, rfl, (result_pure_eq_ok_iff.mp h).symm, hname, hrest, ?_⟩
    exact fun hgives => ⟨⟨type, htype, rfl⟩, hgives, rfl, rfl⟩

theorem areParts_attributeParts (hscope : scope.reserved = Identifier.memberReserved)
    (h : (attributeParts cfg s scope ms).result = .ok (st, after))
    : AreParts cfg s scope ms st after := by
  -- The names that are used only grow from one member to the next, so later names differ from earlier ones.
  induction ms generalizing scope st after with
  | nil =>
    rw [attributeParts] at h
    cases result_pure_eq_ok_iff.mp h
    exact ⟨.nil, .nil, scope.adds_nil⟩
  | cons m ms ih =>
    obtain ⟨a, name, next, rest, rfl, hname, hrest, hcases⟩ := exists_of_attributeParts_cons h
    have hgives := Config.gives_of_memberName hscope hname
    have hadds := Config.adds_of_memberName hscope hname
    have hparts := ih (hadds.reserved.trans hscope) hrest
    rcases hcases with ⟨f, rfl, rfl, hfield⟩ | ⟨c, rfl, rfl, hconstant⟩
    . exact hparts.cons_field (hfield hgives) hadds
    . exact hparts.cons_constant (hconstant hgives) hadds

theorem elementFields_forall₂ (hscope : scope.reserved = Identifier.memberReserved) {fields : List Field}
    (h : (elementFields cfg s scope ms).result = .ok fields)
    : List.Forall₂ (IsElementField cfg s) (ms.filterMap (·.element?)) fields ∧
        ∃ after, scope.Adds (fields.map (·.name)) after := by
  induction ms generalizing scope fields with
  | nil =>
    rw [elementFields] at h
    rw [← result_pure_eq_ok_iff.mp h]
    exact ⟨.nil, scope, scope.adds_nil⟩
  | cons m ms ih =>
    obtain ⟨e, f, next, rest, rfl, rfl, hname, hrest, hfield⟩ := exists_of_elementFields_cons h
    have hadds := Config.adds_of_memberName hscope hname
    obtain ⟨hfields, after, hafter⟩ := ih (hadds.reserved.trans hscope) hrest
    refine ⟨.cons (hfield (Config.gives_of_memberName hscope hname)) hfields, after, ?_⟩
    exact (hadds.append hafter).perm (List.perm_append_singleton _ _).symm

end

/-- The field is read from the children of an element, by its name or as a wildcard. -/
structure IsFieldOf (e : Element) (f : Field) : Prop where
  tag : f.tag = if e.isWildcard then wildcardTag else Tag.ofName e.name
  name : Identifier.IsWordy f.name

theorem IsElementField.isFieldOf {e : Element} {f : Field} (h : IsElementField cfg s e f) : IsFieldOf e f where
  tag := by
    unfold Field.tag
    rw [h.tag]
    rfl
  name := h.name.isWordy

theorem IsAttributeField.tag_eq {a : Attribute} {f : Field} (h : IsAttributeField cfg s a f)
    : f.tag = Tag.ofName a.name ++ ",attr" := by
  unfold Field.tag
  rw [h.tag]
  rfl

/-! ### Structures -/

/-- The structure is made for some members: it has a constant for each fixed attribute, and a field for each other one
and then for each element, in their order. All names are different, and none is reserved. -/
structure IsStructOf (cfg : Config) (s : Store) (ms : Members) (st : Struct) : Prop where
  constants : List.Forall₂ (IsConstantOf cfg) (fixedAmong ms.attributes) st.constants
  fields : ∃ attributes elements, st.fields = attributes ++ elements ∧
    List.Forall₂ (IsAttributeField cfg s) (unfixedAmong ms.attributes) attributes ∧
      List.Forall₂ (IsElementField cfg s) (ms.elements.filterMap (·.element?)) elements
  nodup : (Shape.struct st).names.Nodup
  unreserved : ∀ name ∈ (Shape.struct st).names, name ∉ Identifier.memberReserved

theorem isStructOf_struct {t : ComplexType} {st : Struct} (h : (struct cfg s t).result = .ok st)
    : ∃ kept, (cfg.keptMembers s t).result = .ok kept ∧ IsStructOf cfg s kept st := by
  unfold struct at h
  obtain ⟨kept, hkept, h⟩ := result_bind_eq_ok_iff.mp h
  obtain ⟨⟨parts, scope⟩, hparts, h⟩ := result_bind_eq_ok_iff.mp h
  obtain ⟨elements, helements, h⟩ := result_bind_eq_ok_iff.mp h
  have hmade : AreParts cfg s .members kept.attributes parts scope := areParts_attributeParts rfl hparts
  obtain ⟨hfields, after, hafter⟩ := elementFields_forall₂ hmade.names.reserved helements
  have hnames := (hmade.names.append hafter).perm (Shape.names_append_fields parts elements)
  rw [← result_pure_eq_ok_iff.mp h]
  exact ⟨kept, hkept, hmade.constants, ⟨parts.fields, elements, rfl, hmade.fields, hfields⟩, hnames.of_members.1,
    hnames.of_members.2⟩

theorem mem_of_struct {t : ComplexType} {st : Struct} (h : (struct cfg s t).result = .ok st)
    : (∀ f ∈ st.fields,
        (∃ a, .attribute a ∈ s.attributesOf t ∧ IsAttributeField cfg s a f) ∨
          ∃ e, .element e ∈ s.elementsOf t ∧ IsElementField cfg s e f) ∧
        ∀ c ∈ st.constants, ∃ a, .attribute a ∈ s.attributesOf t ∧ IsConstantOf cfg a c := by
  obtain ⟨kept, hkept, hst⟩ := isStructOf_struct h
  obtain ⟨hattributes, helements⟩ := Config.keptMembers_sublist hkept
  obtain ⟨attributes, elements, hfields, hattributeFields, helementFields⟩ := hst.fields
  rw [hfields]
  rw [List.forall_mem_append]
  refine ⟨⟨?_, ?_⟩, ?_⟩
  . intro f hf
    obtain ⟨a, ha, hfield⟩ := exists_mem_of_forall₂ hattributeFields f hf
    exact .inl ⟨a, hattributes.subset (mem_of_mem_unfixedAmong ha), hfield⟩
  . intro f hf
    obtain ⟨e, he, hfield⟩ := exists_mem_of_forall₂ helementFields f hf
    exact .inr ⟨e, helements.subset (mem_of_mem_elements he), hfield⟩
  . intro c hc
    obtain ⟨a, ha, hconstant⟩ := exists_mem_of_forall₂ hst.constants c hc
    exact ⟨a, hattributes.subset (mem_of_mem_fixedAmong ha), hconstant⟩

theorem struct_of_declaration? {r : TypeRef} {t : ComplexType} {d : Declaration} (hr : s.get r = .complex t)
    (h : (declaration? cfg s (some r)).result = .ok (some d))
    : ∃ st, d.shape = .struct st ∧ (struct cfg s t).result = .ok st := by
  unfold declaration? at h
  simp only [hr] at h
  obtain ⟨st, hst, h⟩ := result_bind_eq_ok_iff.mp h
  obtain ⟨name, -, h⟩ := result_bind_eq_ok_iff.mp h
  rw [← Option.some.inj (result_pure_eq_ok_iff.mp h)]
  exact ⟨st, rfl, hst⟩

end Generate

end XmlBinding
