import Mathlib.Data.List.Forall2
import XmlBinding.Proofs.Codec.Members
import XmlBinding.Proofs.Codec.Written
import XmlBinding.Proofs.Declaration.Order

/-!
This module contains what is written for the constants of a class: the attributes of an element start with them, and
the fields add their own attributes after that.
-/

namespace XmlBinding

namespace Declaration

/-- The names that modules and the classes in them use. -/
def moduleWords : List String :=
  "classmethod" :: Identifier.declarationReserved ++ Identifier.classNames

/-- The declarations can stand in one module: all names in them are identifiers, and those of the declarations are
different there and used for nothing else. -/
structure AreApart (ds : List Declaration) : Prop where
  identifiers : ∀ d ∈ ds, ∀ name ∈ d.name :: d.shape.names ++ d.shape.references, ∀ piece ∈ Text.pieces '.' name,
    Text.isIdentifier piece.toList = true
  nodup : (ds.map fun d => Identifier.normal d.name).Nodup
  unused : ∀ d ∈ ds, Identifier.normal d.name ∉ moduleWords

theorem AreApart.nodup_names {ds : List Declaration} (h : AreApart ds) : (names ds).Nodup := by
  apply List.Nodup.of_map Identifier.normal
  unfold names
  rw [List.map_map]
  exact h.nodup

end Declaration

namespace Codec

open Identifier

/-! ### Classes in a table -/

namespace Table

variable {t t' : Table} {ds : List Declaration} {d : Declaration} {st : Struct}

theorem definition_of_struct (h : d.shape = .struct st) : t.definition d = .ok (.struct (.ofStruct d.name st)) := by
  unfold definition
  rw [h]

theorem find?_define_self (t : Table) (name : String) (definition : Definition)
    : (t.define name definition).find? name = some definition := by
  unfold find? define
  exact List.lookup_cons_self

theorem find?_define_of_ne {name name' : String} (h : name ≠ name') (t : Table) (definition : Definition)
    : (t.define name' definition).find? name = t.find? name := by
  unfold find? define
  rw [List.lookup_cons]
  rw [beq_eq_false_iff_ne.mpr h]

theorem find?_declare_of_not_mem (h : t.declare ds = .ok t') {name : String}
    (hname : name ∉ ds.map fun d => normal d.name)
    : t'.find? name = t.find? name := by
  induction ds generalizing t with
  | nil =>
    rw [declare] at h
    rw [Except.ok.inj h]
  | cons first ds ih =>
    rw [declare] at h
    obtain ⟨definition, -, h⟩ := bind_eq_ok_iff.mp h
    rw [List.map_cons] at hname
    rw [List.mem_cons] at hname
    rw [not_or] at hname
    rw [ih h hname.2]
    exact find?_define_of_ne hname.1 t definition

theorem find?_declare_of_struct (hnames : (ds.map fun d => normal d.name).Nodup) (h : t.declare ds = .ok t')
    (hd : d ∈ ds) (hshape : d.shape = .struct st)
    : t'.find? (normal d.name) = some (.struct (.ofStruct d.name st)) := by
  induction ds generalizing t with
  | nil => cases hd
  | cons first ds ih =>
    rw [declare] at h
    obtain ⟨definition, hdefinition, h⟩ := bind_eq_ok_iff.mp h
    rw [List.map_cons] at hnames
    rw [List.nodup_cons] at hnames
    cases List.mem_cons.mp hd with
    | inl heq =>
      obtain rfl := heq
      rw [find?_declare_of_not_mem h hnames.1]
      rw [find?_define_self]
      rw [definition_of_struct hshape] at hdefinition
      rw [Except.ok.inj hdefinition]
    | inr hmem => exact ih hnames.2 h hmem

/-- The class of a structure is in the table for a module, whatever else is declared there. -/
theorem find?_ofDeclarations_of_struct {readDate? : Calendar.Reader} (hds : Declaration.AreApart ds)
    (h : ofDeclarations readDate? ds = .ok t) (hd : d ∈ ds) (hshape : d.shape = .struct st)
    : t.find? (normal d.name) = some (.struct (.ofStruct d.name st)) := by
  have hperm := Declaration.inOrder_perm hds.nodup_names
  exact find?_declare_of_struct ((hperm.map _).nodup_iff.mpr hds.nodup) h (hperm.mem_iff.mpr hd) hshape

end Table

/-! ### The constants of a class -/

/-- Each constant is held under its name and nothing else is, and no other member stands in the way of writing them. -/
structure IsPlainlyNamed (t : Table) (className : String) (st : Struct) : Prop where
  ordinary : IsOrdinary t className st
  writeMethod : Method.writeName ∉ (StructDef.ofStruct className st).memberNames
  constants : ∀ c ∈ st.constants, inClass className c.name = c.name
  own : ∀ c ∈ st.constants, ∀ f ∈ st.fields, inClass className f.name ≠ c.name

/-- A constant with its tag is written as an attribute with this name and value. -/
def IsWrittenAs (d : StructDef) (held : String × String) (new : String × String) : Prop :=
  (∃ tag, Tag.read held.1 = .ok tag ∧ tag.name.clark = new.1) ∧ d.constants.lookup held.2 = some new.2

theorem StructDef.foldlM_addConstant_eq {d : StructDef} {tags news : List (String × String)}
    (h : List.Forall₂ (IsWrittenAs d) tags news) (name : String) (values : List Value)
    (attributes : List (String × String))
    : tags.foldlM (addConstant name d values) attributes =
        .ok (news.foldl (fun acc new => Entries.set acc new.1 new.2) attributes) := by
  induction h generalizing attributes with
  | nil => rfl
  | @cons held new tags news hheld _ ih =>
    obtain ⟨⟨tag, htag, hname⟩, hvalue⟩ := hheld
    have hadd := addConstant_eq htag hvalue name values attributes
    rw [hname] at hadd
    rw [List.foldlM_cons]
    rw [hadd]
    exact ih (Entries.set attributes new.1 new.2)

/-- The constant stands for an attribute with this name and value. -/
structure StandsFor (c : Constant) (new : String × String) : Prop where
  tag : ∃ text tag, c.tag? = some text ∧ Tag.read text = .ok tag ∧ tag.name.clark = new.1
  value : c.value = new.2

/-- A constant under its tag. -/
def heldAs (c : Constant) : String × String :=
  (c.tag?.getD "", c.name)

section

variable {cs : List Constant} {news : List (String × String)}

theorem StandsFor.read_heldAs {c : Constant} {new : String × String} (h : StandsFor c new)
    : c.tag? = some (heldAs c).1 ∧ ∃ tag, Tag.read (heldAs c).1 = .ok tag ∧ tag.name.clark = new.1 := by
  obtain ⟨text, tag, htext, hread⟩ := h.tag
  unfold heldAs
  rw [htext]
  exact ⟨rfl, tag, hread⟩

/-- The name that is read from a tag, in the form with braces. -/
def nameOfTag (text : String) : String :=
  ((Tag.read text).toOption.map (·.name.clark)).getD ""

theorem nameOfTag_of_read {text : String} {tag : Tag} (h : Tag.read text = .ok tag)
    : nameOfTag text = tag.name.clark := by
  unfold nameOfTag
  rw [h]
  rfl

theorem map_nameOfTag_heldAs (h : List.Forall₂ StandsFor cs news)
    : ((cs.map heldAs).map (·.1)).map nameOfTag = news.map (·.1) := by
  induction h with
  | nil => rfl
  | @cons c new cs news hc _ ih =>
    obtain ⟨-, tag, htag, hname⟩ := hc.read_heldAs
    have hfirst : nameOfTag (heldAs c).1 = new.1 := (nameOfTag_of_read htag).trans hname
    simp only [List.map_cons, ih, hfirst]

theorem nodup_heldAs (h : List.Forall₂ StandsFor cs news) (hkeys : (news.map (·.1)).Nodup)
    : ((cs.map heldAs).map (·.1)).Nodup := by
  -- The names are read off the tags, so tags of different names are different.
  apply List.Nodup.of_map nameOfTag
  rw [map_nameOfTag_heldAs h]
  exact hkeys

theorem tag?_of_standsFor (h : List.Forall₂ StandsFor cs news) : ∀ c ∈ cs, c.tag? = some (heldAs c).1 := by
  induction h with
  | nil => simp
  | cons hc _ ih =>
    rw [List.forall_mem_cons]
    exact ⟨hc.read_heldAs.1, ih⟩

end

section

variable {t : Table} {className : String} {st : Struct} {news : List (String × String)}

theorem constantTags_eq (h : List.Forall₂ StandsFor st.constants news) (hkeys : (news.map (·.1)).Nodup)
    : st.constantTags = .ok (st.constants.map heldAs) := by
  unfold Struct.constantTags
  refine bind_eq_ok_iff.mpr ⟨st.constants.map heldAs, ?_, ?_⟩
  . rw [mapM_eq_ok_iff]
    rw [List.forall₂_map_right_iff]
    rw [List.forall₂_same]
    intro c hc
    rw [tag?_of_standsFor h c hc]
    rfl
  . rw [Entries.ofList_of_nodup (nodup_heldAs h hkeys)]

theorem heldTags_eq (hnames : IsPlainlyNamed t className st) (h : List.Forall₂ StandsFor st.constants news)
    (hkeys : (news.map (·.1)).Nodup)
    : heldTags (.ofStruct className st) = .ok (st.constants.map heldAs) := by
  rw [StructDef.heldTags_of_not_mem]
  . unfold StructDef.ofStruct
    rw [constantTags_eq h hkeys]
    rfl
  . intro hmem
    exact hnames.ordinary.notSpecial tagsName hmem (by decide)

theorem lookup_constants (hnames : IsPlainlyNamed t className st) (hnodup : (st.constants.map (·.name)).Nodup)
    {c : Constant} (hc : c ∈ st.constants)
    : (StructDef.ofStruct className st).constants.lookup c.name = some c.value := by
  have hheld := hnames.constants c hc
  rw [← hheld]
  apply StructDef.lookup_constants_ofStruct hc
  . intro other hother heq
    rw [hnames.constants other hother] at heq
    rw [hheld] at heq
    exact List.inj_on_of_nodup_map hnodup hother hc heq
  . intro f hf
    rw [hheld]
    exact hnames.own c hc f hf

/-- The attributes for the constants of a class are those that the constants stand for. -/
theorem constantAttributes_ofStruct (hnames : IsPlainlyNamed t className st)
    (hnodup : (st.constants.map (·.name)).Nodup) (h : List.Forall₂ StandsFor st.constants news)
    (hkeys : (news.map (·.1)).Nodup) (name : String) (values : List Value)
    : constantAttributes name (.ofStruct className st) values = .ok news := by
  have hlookup : ∀ c ∈ st.constants, (StructDef.ofStruct className st).constants.lookup c.name = some c.value :=
    fun c => lookup_constants hnames hnodup
  have hwritten : List.Forall₂ (IsWrittenAs (.ofStruct className st)) (st.constants.map heldAs) news := by
    rw [List.forall₂_map_left_iff]
    refine ((List.forall₂_and_left st.constants news).mpr ⟨hlookup, h⟩).imp ?_
    rintro c new ⟨hvalue, hc⟩
    refine ⟨hc.read_heldAs.2, ?_⟩
    rw [← hc.value]
    exact hvalue
  rw [StructDef.constantAttributes_eq]
  rw [heldTags_eq hnames h hkeys]
  refine (StructDef.foldlM_addConstant_eq hwritten name values []).trans ?_
  exact congrArg Except.ok (Entries.ofList_of_nodup hkeys)

/-! ### Instances -/

variable {name : String}

/-- What is written for an instance: the attributes that the constants of its class stand for, and then what is written
for its fields. -/
theorem encode_ofStruct (hfind : t.find? name = some (.struct (.ofStruct className st)))
    (hnames : IsPlainlyNamed t className st) {values : List Value}
    (hconstants : constantAttributes name (.ofStruct className st) values = .ok news) (tag : String)
    : encode t (.struct name values) tag =
        (StructDef.ofStruct className st).typedFields t >>= fun _ =>
          (writeFields t values (StructDef.ofStruct className st).fields).map fun w =>
            .element tag (setAll news w.1) none w.2 := by
  rw [encode_of_struct hfind (StructDef.writeMember?_of_not_mem hnames.writeMethod values)]
  rw [hconstants]
  change (StructDef.typedFields t _ >>= fun _ => encodeFields t values _ news >>= fun w =>
    Except.ok (Xml.element tag w.1 none w.2)) = _
  congr 1
  funext _
  rw [bind_ok_eq_map]
  rw [encodeFields_eq_writeFields]
  cases writeFields t values (StructDef.ofStruct className st).fields <;> rfl

theorem encode_ofStruct_eq_ok_iff (hfind : t.find? name = some (.struct (.ofStruct className st)))
    (hnames : IsPlainlyNamed t className st) {values : List Value}
    (hconstants : constantAttributes name (.ofStruct className st) values = .ok news) (tag : String) (x : Xml)
    : encode t (.struct name values) tag = .ok x ↔
        (∃ typed, (StructDef.ofStruct className st).typedFields t = .ok typed) ∧
          ∃ parts, writeFields t values (StructDef.ofStruct className st).fields = .ok parts ∧
            x = .element tag (setAll news parts.1) none parts.2 := by
  rw [encode_ofStruct hfind hnames hconstants]
  rw [← bind_ok_eq_map]
  constructor
  . intro h
    obtain ⟨typed, htyped, h⟩ := bind_eq_ok_iff.mp h
    obtain ⟨parts, hparts, h⟩ := bind_eq_ok_iff.mp h
    exact ⟨⟨typed, htyped⟩, parts, hparts, (Except.ok.inj h).symm⟩
  . rintro ⟨⟨typed, htyped⟩, parts, hparts, rfl⟩
    exact bind_eq_ok_iff.mpr ⟨typed, htyped, bind_eq_ok_iff.mpr ⟨parts, hparts, rfl⟩⟩

end

end Codec

end XmlBinding
