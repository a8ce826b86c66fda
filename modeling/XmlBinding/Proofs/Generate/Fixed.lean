import XmlBinding.Proofs.Codec.Constants
import XmlBinding.Proofs.Codec.Flattened
import XmlBinding.Proofs.Declaration.Flatten
import XmlBinding.Proofs.Generate.Alone
import XmlBinding.Proofs.Generate.Clashes
import XmlBinding.Proofs.Generate.Origin
import XmlBinding.Proofs.SoapArray.Recorded

/-!
This module contains that attributes with fixed values are written for every instance of the class of a type, unless
the class is flattened to a list.
-/

namespace XmlBinding

open Report

/-! ### Attributes with fixed values -/

theorem map_fixedAmong_sublist (ms : List Member) : ((fixedAmong ms).map .attribute).Sublist ms := by
  induction ms with
  | nil => exact .slnil
  | cons m ms ih =>
    cases m with
    | element e => exact ih.cons _
    | «attribute» a =>
      by_cases hfixed : a.fixed.isEmpty = true
      . rw [fixedAmong_cons_of_isEmpty hfixed]
        exact ih.cons _
      . rw [fixedAmong_cons_of_not_isEmpty hfixed]
        exact ih.cons_cons _

theorem fixed_of_mem_fixedAmong {ms : List Member} {a : Attribute} (h : a ∈ fixedAmong ms) : a.fixed ≠ "" := by
  intro hempty
  have hfixed := (List.mem_filter.mp h).2
  rw [hempty] at hfixed
  cases hfixed

namespace Config

variable {cfg : Config} {s : Store} {t : ComplexType}

/-- The attributes of a type that have a fixed value and are not left out. -/
def fixedAttributes (cfg : Config) (s : Store) (t : ComplexType) : List Attribute :=
  match (cfg.keptMembers s t).result with
  | .ok kept => fixedAmong kept.attributes
  | .error _ => []

theorem map_fixedAttributes_sublist (cfg : Config) (s : Store) (t : ComplexType)
    : ((cfg.fixedAttributes s t).map .attribute).Sublist (s.attributesOf t) := by
  unfold fixedAttributes
  split
  . next kept hkept => exact (map_fixedAmong_sublist kept.attributes).trans (keptMembers_sublist hkept).1
  . exact List.nil_sublist _

theorem fixed_of_mem_fixedAttributes {a : Attribute} (h : a ∈ cfg.fixedAttributes s t) : a.fixed ≠ "" := by
  unfold fixedAttributes at h
  split at h
  . exact fixed_of_mem_fixedAmong h
  . cases h

end Config

namespace Generate

variable {cfg : Config} {s : Store} {t : ComplexType} {st : Struct}

/-! ### Constants and fields -/

structure IsFixedBy (a : Attribute) (c : Constant) : Prop where
  tag : c.tag? = some (Tag.ofName a.name ++ ",attr")
  value : c.value = a.fixed

theorem IsConstantOf.isFixedBy {a : Attribute} {c : Constant} (h : IsConstantOf cfg a c) : IsFixedBy a c where
  tag := h.tag
  value := h.value

/-- A field of a structure is made for an attribute without a fixed value, or for an element. -/
inductive IsFieldIn (s : Store) (t : ComplexType) (f : Field) : Prop
  | «attribute» {a : Attribute} : .attribute a ∈ s.attributesOf t → a.fixed = "" →
      f.tag = Tag.ofName a.name ++ ",attr" → IsFieldIn s t f
  | element {e : Element} : e ∈ s.declaredElements t → IsFieldOf e f → IsFieldIn s t f

/-- The structure has a constant with a name of its own for each attribute that has a fixed value. -/
structure HasFixed (cfg : Config) (s : Store) (t : ComplexType) (st : Struct) : Prop where
  constants : List.Forall₂ IsFixedBy (cfg.fixedAttributes s t) st.constants
  nodup : (st.constants.map (·.name)).Nodup
  fields : ∀ f ∈ st.fields, IsFieldIn s t f

theorem hasFixed_struct (h : (struct cfg s t).result = .ok st) : HasFixed cfg s t st := by
  obtain ⟨kept, hkept, hst⟩ := isStructOf_struct h
  have hnodup := hst.nodup
  unfold Shape.names Struct.memberNames at hnodup
  refine ⟨?_, hnodup.of_append_right, ?_⟩
  . unfold Config.fixedAttributes
    rw [hkept]
    exact hst.constants.imp fun a c hc => hc.isFixedBy
  . intro f hf
    cases (mem_of_struct h).1 f hf with
    | inl hattribute =>
      obtain ⟨a, ha, hfield⟩ := hattribute
      exact .attribute ha hfield.fixed hfield.tag_eq
    | inr helement =>
      obtain ⟨e, he, hfield⟩ := helement
      exact .element (List.mem_filterMap.mpr ⟨.element e, he, rfl⟩) hfield.isFieldOf

/-! ### Instances -/

/-- The names of attributes are different texts that their tags can hold, and no element is taken for an attribute. -/
structure IsWellNamed (s : Store) (t : ComplexType) : Prop where
  unbroken : ∀ m ∈ s.attributesOf t, m.name.IsUnbroken
  nodup : ((s.attributesOf t).map (·.name.clark)).Nodup
  noComma : ∀ e ∈ s.declaredElements t, e.isWildcard = false →
    ',' ∉ e.name.space.toList ∧ ',' ∉ e.name.localPart.toList

def carried (a : Attribute) : String × String :=
  (a.name.clark, a.fixed)

theorem eq_of_clark_eq (hnames : IsWellNamed s t) {a b : Attribute} (ha : .attribute a ∈ s.attributesOf t)
    (hb : .attribute b ∈ s.attributesOf t) (h : a.name.clark = b.name.clark)
    : a = b :=
  Member.attribute.inj (List.inj_on_of_nodup_map hnames.nodup ha hb h)

theorem nodup_carried (hnames : IsWellNamed s t) (cfg : Config)
    : (((cfg.fixedAttributes s t).map carried).map (·.1)).Nodup := by
  have hsublist := (cfg.map_fixedAttributes_sublist s t).map (·.name.clark)
  rw [List.map_map] at hsublist
  rw [List.map_map]
  exact hnames.nodup.sublist hsublist

theorem mem_attributesOf {a : Attribute} (h : a ∈ cfg.fixedAttributes s t) : .attribute a ∈ s.attributesOf t :=
  (cfg.map_fixedAttributes_sublist s t).subset (List.mem_map_of_mem h)

theorem standsFor_carried (hnames : IsWellNamed s t) {a : Attribute} {c : Constant}
    (ha : .attribute a ∈ s.attributesOf t) (h : IsFixedBy a c)
    : Codec.StandsFor c (carried a) where
  tag := ⟨_, _, h.tag, Tag.read_attr_of_isUnbroken (hnames.unbroken _ ha), rfl⟩
  value := h.value

theorem isAttribute_of_isFieldOf (hnames : IsWellNamed s t) {e : Element} (he : e ∈ s.declaredElements t) {f : Field}
    (hf : IsFieldOf e f) {tag : Tag} (htag : Tag.read f.tag = .ok tag)
    : tag.isAttribute = false := by
  rw [hf.tag] at htag
  cases hw : e.isWildcard with
  | true =>
    rw [hw] at htag
    have hwildcard : Tag.read wildcardTag = .ok ⟨"", wildcardTag, ["any"]⟩ := by decide
    rw [if_pos rfl] at htag
    rw [hwildcard] at htag
    rw [← Except.ok.inj htag]
    decide
  | false =>
    rw [hw] at htag
    obtain ⟨hspace, hlocal⟩ := hnames.noComma e he hw
    exact Tag.isAttribute_of_read_ofName hlocal hspace htag

/-- No attribute that is written for a field has the name of a fixed one. -/
theorem clark_ne_of_isFieldIn (hnames : IsWellNamed s t) {a : Attribute} (ha : a ∈ cfg.fixedAttributes s t) {f : Field}
    (hf : IsFieldIn s t f) {tag : Tag} (htag : Tag.read f.tag = .ok tag) (hattribute : tag.isAttribute = true)
    : tag.name.clark ≠ a.name.clark := by
  cases hf with
  | @«attribute» b hb hfixed hf =>
    have hunbroken : b.name.IsUnbroken := hnames.unbroken _ hb
    rw [hf] at htag
    rw [Tag.read_attr_of_isUnbroken hunbroken] at htag
    rw [← Except.ok.inj htag]
    intro heq
    obtain rfl : b = a := eq_of_clark_eq hnames hb (mem_attributesOf ha) heq
    exact Config.fixed_of_mem_fixedAttributes ha hfixed
  | @element e he hf =>
    rw [isAttribute_of_isFieldOf hnames he hf htag] at hattribute
    cases hattribute

end Generate

namespace Codec

open Generate

/-- An instance of a class can be written if its fields can be, and then it has some attributes with their fixed
values. -/
structure WritesFixed (table : Table) (name : String) (d : StructDef) (attributes : List Attribute) : Prop where
  succeeds : ∀ values tag,
    (∃ x, encode table (.struct name values) tag = .ok x) ↔
      (∃ typed, d.typedFields table = .ok typed) ∧ ∃ parts, writeFields table values d.fields = .ok parts
  lookup : ∀ values tag x, encode table (.struct name values) tag = .ok x →
    ∀ a ∈ attributes, x.attributes.lookup a.name.clark = some a.fixed

theorem writesFixed_of_hasFixed {cfg : Config} {s : Store} {t : ComplexType} {st : Struct} {table : Table}
    {className name : String} (hnames : IsWellNamed s t) (hst : HasFixed cfg s t st)
    (hplain : IsPlainlyNamed table className st)
    (hfind : table.find? name = some (.struct (.ofStruct className st)))
    : WritesFixed table name (.ofStruct className st) (cfg.fixedAttributes s t) := by
  have hkeys := nodup_carried hnames cfg
  have hstands : List.Forall₂ StandsFor st.constants ((cfg.fixedAttributes s t).map carried) := by
    rw [List.forall₂_map_right_iff]
    apply List.Forall₂.flip
    have hmem : ∀ a ∈ cfg.fixedAttributes s t, .attribute a ∈ s.attributesOf t := fun a => mem_attributesOf
    refine ((List.forall₂_and_left _ _).mpr ⟨hmem, hst.constants⟩).imp ?_
    rintro a c ⟨ha, hc⟩
    exact standsFor_carried hnames ha hc
  have hencode (values : List Value) :=
    encode_ofStruct_eq_ok_iff hfind hplain (constantAttributes_ofStruct hplain hst.nodup hstands hkeys name values)
  constructor
  . intro values tag
    constructor
    . rintro ⟨x, hx⟩
      obtain ⟨htyped, parts, hparts, -⟩ := (hencode values tag x).mp hx
      exact ⟨htyped, parts, hparts⟩
    . rintro ⟨htyped, parts, hparts⟩
      exact ⟨_, (hencode values tag _).mpr ⟨htyped, parts, hparts, rfl⟩⟩
  . intro values tag x hx a ha
    obtain ⟨-, parts, hparts, rfl⟩ := (hencode values tag x).mp hx
    have hothers : ∀ new ∈ parts.1, new.1 ≠ a.name.clark := by
      intro new hnew
      obtain ⟨field, hfield, tag, htag, hattribute, hname⟩ := mem_writeFields hparts new hnew
      obtain ⟨f, hf, rfl⟩ := StructDef.exists_of_mem_fields_ofStruct hfield
      obtain ⟨_, hread, heq⟩ := StructDef.exists_read_of_fieldTag? htag
      obtain rfl := Option.some.inj heq
      rw [← hname]
      exact clark_ne_of_isFieldIn hnames ha (hst.fields f hf) hread hattribute
    refine (Entries.lookup_foldl_set_of_ne hothers).trans ?_
    rw [Entries.lookup_eq_some_iff_mem hkeys]
    exact List.mem_map_of_mem ha

end Codec

/-! ### Declarations -/

namespace Declaration

variable {d d' : Declaration}

/-- The structure has a list as its only field, and is declared as that list. -/
def IsListed (d d' : Declaration) : Prop :=
  ∃ f item, d.onlyList? = some (f, item) ∧ d'.shape = .type (.list item)

theorem shape_of_flatten (h : d.flatten.result = .ok d') : d'.shape = d.shape ∨ d.IsListed d' := by
  obtain rfl | ⟨f, item, tag, honly, -, rfl⟩ := eq_or_becomesList_of_flatten h
  . exact .inl rfl
  . exact .inr ⟨f, item, onlyList?_eq_some_iff.mpr honly, congrArg Shape.type honly.2⟩

theorem onlyList?_congr (h : d'.shape = d.shape) : d'.onlyList? = d.onlyList? := by
  unfold onlyList?
  rw [h]

theorem onlyList?_of_type {type : TypeExpr} (h : d.shape = .type type) : d.onlyList? = none := by
  unfold onlyList?
  rw [h]

end Declaration

namespace Generate

variable {cfg : Config} {find? : QName → Option TypeRef} {s s' : Store} {r : TypeRef} {d d' : Declaration}

theorem shape_of_postprocess {steps : List DeclarationStep} (hsteps : ∀ step ∈ steps, step = .flatten)
    (h : (postprocess steps d).result = .ok d')
    : d'.shape = d.shape ∨ .flatten ∈ steps ∧ d.IsListed d' := by
  induction steps generalizing d with
  | nil =>
    rw [← result_pure_eq_ok_iff.mp h]
    exact .inl rfl
  | cons step steps ih =>
    rw [List.forall_mem_cons] at hsteps
    obtain ⟨rfl, hsteps⟩ := hsteps
    rw [postprocess] at h
    obtain ⟨between, hbetween, h⟩ := result_bind_eq_ok_iff.mp h
    have hfirst : .flatten ∈ DeclarationStep.flatten :: steps := List.mem_cons_self
    cases Declaration.shape_of_flatten hbetween with
    | inl hsame =>
      cases ih hsteps h with
      | inl hlater => exact .inl (hlater.trans hsame)
      | inr hlisted =>
        obtain ⟨-, f, item, honly, hshape⟩ := hlisted
        rw [Declaration.onlyList?_congr hsame] at honly
        exact .inr ⟨hfirst, f, item, honly, hshape⟩
    | inr hlisted =>
      -- A list stays one, for it has no fields.
      obtain ⟨f, item, honly, hshape⟩ := hlisted
      refine .inr ⟨hfirst, f, item, honly, ?_⟩
      cases ih hsteps h with
      | inl hlater => exact hlater.trans hshape
      | inr hagain =>
        obtain ⟨-, _, _, honly', -⟩ := hagain
        rw [Declaration.onlyList?_of_type hshape] at honly'
        cases honly'

theorem shape_of_finish {t : ComplexType} (hsteps : ∀ step ∈ cfg.declarationSteps, step = .flatten)
    (hr : s.get r = .complex t) (h : (finish cfg s (some r)).result = .ok (some d))
    : ∃ st, (struct cfg s t).result = .ok st ∧
        (d.shape = .struct st ∨
          .flatten ∈ cfg.declarationSteps ∧
            ∃ f item, st.fields = [f] ∧ f.type = .list item ∧ d.shape = .type (.list item)) := by
  obtain ⟨draft?, hdraft, h⟩ := result_bind_eq_ok_iff.mp h
  cases draft? with
  | none => cases result_pure_eq_ok_iff.mp h
  | some draft =>
    obtain ⟨d', hd', h⟩ := result_bind_eq_ok_iff.mp h
    obtain rfl := Option.some.inj (result_pure_eq_ok_iff.mp h)
    obtain ⟨st, hshape, hst⟩ := struct_of_declaration? hr hdraft
    refine ⟨st, hst, ?_⟩
    cases shape_of_postprocess hsteps hd' with
    | inl hsame => exact .inl (hsame.trans hshape)
    | inr hlisted =>
      obtain ⟨hflatten, f, item, honly, hlist⟩ := hlisted
      obtain ⟨⟨constants, honlyShape⟩, htype⟩ := Declaration.onlyList?_eq_some_iff.mp honly
      obtain rfl := Shape.struct.inj (hshape.symm.trans honlyShape)
      exact .inr ⟨hflatten, f, item, rfl, htype, hlist⟩

/-- What becomes of the attributes with fixed values. The class of a type is a structure with constants for them, unless
flattening makes a list of its only field. Every instance of the structure has all of them when it is written, and they
never are the reason why it cannot be. With the steps for arrays there is the recorded annotation among them. -/
theorem writesFixed_of_process {t : ComplexType} {r' : TypeRef} {notices : List Notice}
    (hsteps : ∀ step ∈ cfg.declarationSteps, step = .flatten)
    (hpreprocess : preprocess find? cfg.typeSteps (some r) s = (s', ⟨.ok (some r'), notices⟩))
    (hr : s'.get r' = .complex t) (hnames : IsWellNamed s' t)
    (h : (process cfg find? r s).2.result = .ok (some d))
    : (∃ st, (struct cfg s' t).result = .ok st ∧
          (d.shape = .struct st ∨
            .flatten ∈ cfg.declarationSteps ∧
              ∃ f item, st.fields = [f] ∧ f.type = .list item ∧ d.shape = .type (.list item))) ∧
        (∀ st, d.shape = .struct st → ∀ readDate? ds table, Declaration.AreApart ds → d ∈ ds →
          Codec.Table.ofDeclarations readDate? ds = .ok table → Codec.IsPlainlyNamed table d.name st →
            Codec.WritesFixed table (Identifier.normal d.name) (.ofStruct d.name st) (cfg.fixedAttributes s' t)) ∧
        ∀ t₀, s.get r = .complex t₀ → (∀ step ∈ cfg.typeSteps, step = .soapArrays) →
          r' = r ∧ t = t₀ ∧ (s'.attributesOf t).map (·.name) = (s.attributesOf t₀).map (·.name) ∧
            s'.attributesOf t =
              if cfg.typeSteps.isEmpty then s.attributesOf t₀ else SoapArray.recorded (s.attributesOf t₀) := by
  have hfinish : (finish cfg s' (some r')).result = .ok (some d) := by
    rw [process_of_preprocess hpreprocess] at h
    exact h
  obtain ⟨st, hst, hshape⟩ := shape_of_finish hsteps hr hfinish
  refine ⟨⟨st, hst, hshape⟩, ?_, ?_⟩
  . intro st' hst' readDate? ds table hds hd htable hplain
    have hsame : d.shape = .struct st := by
      cases hshape with
      | inl hstruct => exact hstruct
      | inr hlist =>
        obtain ⟨-, f, item, -, -, hlist⟩ := hlist
        rw [hst'] at hlist
        cases hlist
    obtain rfl := Shape.struct.inj (hsame.symm.trans hst')
    exact Codec.writesFixed_of_hasFixed hnames (hasFixed_struct hst) hplain
      (Codec.Table.find?_ofDeclarations_of_struct hds htable hd hst')
  . intro t₀ hr₀ harrays
    obtain ⟨hsame, hr', hattributes⟩ := attributesOf_preprocess harrays hr₀ hpreprocess
    obtain rfl := Option.some.inj hsame
    obtain rfl := Entity.complex.inj (hr.symm.trans hr')
    refine ⟨rfl, rfl, ?_, hattributes⟩
    rw [hattributes]
    split
    . rfl
    . exact SoapArray.map_name_recorded _

/-! ### Arrays with and without a label -/

def numbersType : ComplexType :=
  ⟨⟨"urn:t", "Numbers"⟩, none, 0, false, false, none⟩

def versionAttribute : Attribute :=
  ⟨⟨"", "version"⟩, none, "1.0", "", true, [], []⟩

def numbersOf (arrayType : Attribute) (elements : List Element) : Store :=
  ⟨[.complex numbersType], [⟨[.attribute versionAttribute, .attribute arrayType], elements.map .element⟩]⟩

def anyInts : Element :=
  { anyItems with type? := some (.builtin .int) }

def recordedInts : Attribute :=
  { itemTypeAttribute "xs:int[]" with fixed := "xs:int[]" }

def labelled : Store :=
  numbersOf (itemTypeAttribute "xs:int[]") [word "" "label", anyItems]

def labelledAfter : Store :=
  numbersOf recordedInts [word "" "label", anyInts]

def labelledStruct : Struct :=
  ⟨[wordField "label" "label", ⟨"items", .list (.named "int" []), some wildcardTag, none⟩],
    [⟨"version", "1.0", some "version,attr"⟩, ⟨"arrayType", "xs:int[]", some "arrayType,attr"⟩]⟩

def labelledNumbers : Declaration :=
  ⟨"Numbers", .struct labelledStruct, [], none, some (.declared 0)⟩

def labelledTable : Codec.Table :=
  (Codec.Table.empty Calendar.noReader).define "Numbers" (.struct (.ofStruct "Numbers" labelledStruct))

theorem writesFixed_of_process_labelled
    : (process arraysConfig arrays.findType? (.declared 0) labelled).2.result = .ok (some labelledNumbers) ∧
        arraysConfig.fixedAttributes labelledAfter numbersType = [versionAttribute, recordedInts] ∧
        labelledAfter.attributesOf numbersType = SoapArray.recorded (labelled.attributesOf numbersType) ∧
        ∃ table x, Codec.Table.ofDeclarations Calendar.noReader [labelledNumbers] = .ok table ∧
          Codec.encode table (.struct "Numbers" [.text "few", .list [.int 1, .int 2]]) "numbers" = .ok x ∧
          x.attributes.lookup "version" = some "1.0" ∧ x.attributes.lookup "arrayType" = some "xs:int[]" := by
  have hd : (process arraysConfig arrays.findType? (.declared 0) labelled).2.result = .ok (some labelledNumbers) := rfl
  have hfixed : arraysConfig.fixedAttributes labelledAfter numbersType = [versionAttribute, recordedInts] := rfl
  have hnames : IsWellNamed labelledAfter numbersType := ⟨by decide, by decide, by decide⟩
  have hds : Declaration.AreApart [labelledNumbers] := ⟨by decide +kernel, by decide, by decide +kernel⟩
  have hordinary : Codec.IsOrdinary labelledTable "Numbers" labelledStruct :=
    ⟨by decide +kernel, by decide +kernel, by decide +kernel, by decide +kernel⟩
  have hplain : Codec.IsPlainlyNamed labelledTable "Numbers" labelledStruct :=
    ⟨hordinary, by decide +kernel, by decide +kernel, by decide +kernel⟩
  have hflatten : ∀ step ∈ arraysConfig.declarationSteps, step = .flatten := by
    rw [show arraysConfig.declarationSteps = [.flatten] from rfl]
    simp
  have harrays : ∀ step ∈ arraysConfig.typeSteps, step = .soapArrays := by
    rw [show arraysConfig.typeSteps = [.soapArrays] from rfl]
    simp
  obtain ⟨-, hinstances, hrecorded⟩ := writesFixed_of_process hflatten rfl rfl hnames hd
  obtain ⟨-, -, -, hattributes⟩ := hrecorded numbersType rfl harrays
  have hwrites := hinstances labelledStruct rfl Calendar.noReader [labelledNumbers] labelledTable hds
    List.mem_cons_self rfl hplain
  obtain ⟨x, hx⟩ := (hwrites.succeeds [.text "few", .list [.int 1, .int 2]] "numbers").mpr ⟨⟨_, rfl⟩, _, rfl⟩
  have hlookup := hwrites.lookup _ _ x hx
  rw [hfixed] at hlookup
  refine ⟨hd, hfixed, hattributes, _, x, rfl, hx, ?_, ?_⟩
  . exact hlookup versionAttribute (by simp)
  . exact hlookup recordedInts (by simp)

def unlabelled : Store :=
  numbersOf (itemTypeAttribute "xs:int[]") [anyItems]

/-- A list class has no constants, so nothing is written for the attributes of the type that is flattened to it. -/
theorem not_written_unlabelled
    : let processed := process arraysConfig arrays.findType? (.declared 0) unlabelled
      unlabelled.get (.declared 0) = .complex numbersType ∧
        ((unlabelled.attributesOf numbersType).map (·.name)).Nodup ∧
        (∀ m ∈ unlabelled.attributesOf numbersType, ',' ∉ m.name.space.toList ∧ ',' ∉ m.name.localPart.toList) ∧
        arraysConfig.fixedAttributes processed.1 numbersType = [versionAttribute, recordedInts] ∧
        ∃ d table x, processed.2.result = .ok (some d) ∧ d.shape = .type (.list (.named "int" [])) ∧
          Codec.Table.ofDeclarations Calendar.noReader [d] = .ok table ∧
          Codec.encode table (.sequence d.name [.int 1]) "numbers" = .ok x ∧
          x.attributes.lookup versionAttribute.name.clark ≠ some versionAttribute.fixed ∧
          x.attributes.lookup recordedInts.name.clark ≠ some recordedInts.fixed := by
  refine ⟨rfl, by decide, by decide, rfl, _, _, _, rfl, rfl, rfl, rfl, ?_, ?_⟩
  . decide
  . decide

end Generate

end XmlBinding
