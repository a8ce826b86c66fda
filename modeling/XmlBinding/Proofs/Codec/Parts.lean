import Mathlib.Data.List.Nodup
import XmlBinding.Proofs.Codec.Separable
import XmlBinding.Proofs.Except

/-!
This module contains what is written for the fields of a structure, part by part, after the attributes for its
constants. An element has the attributes and children of all parts, and each field finds those of its own part.
-/

namespace XmlBinding.Codec

/-- What is written for a field. -/
structure Part where
  slot : Slot
  attribute? : Option (String × String)
  children : List Xml

namespace Part

structure IsProper (p : Part) : Prop where
  attributeName : ∀ a, p.attribute? = some a → p.slot.attributeName? = some a.1
  childName : ∀ x ∈ p.children, p.slot.childName? = some x.tag

def allAttributes (parts : List Part) (attributes : List (String × String)) : List (String × String) :=
  (parts.filterMap (·.attribute?)).foldl (fun acc new => Entries.set acc new.1 new.2) attributes

def allChildren (parts : List Part) : List Xml :=
  parts.flatMap (·.children)

variable {before after : List Part} {p : Part} {slots : List Slot}

theorem ne_of_mem_attributes {parts : List Part} {name : String} (hproper : ∀ q ∈ parts, q.IsProper)
    (hname : name ∉ parts.filterMap (·.slot.attributeName?))
    : ∀ new ∈ parts.filterMap (·.attribute?), new.1 ≠ name := by
  intro new hnew heq
  obtain ⟨q, hq, hattribute⟩ := List.mem_filterMap.mp hnew
  apply hname
  rw [List.mem_filterMap]
  exact ⟨q, hq, heq ▸ (hproper q hq).attributeName new hattribute⟩

theorem lookup_allAttributes {names : List String} {attributes : List (String × String)} {name : String}
    (hproper : ∀ q ∈ before ++ p :: after, q.IsProper)
    (hnodup : (names ++ (before ++ p :: after).filterMap (·.slot.attributeName?)).Nodup)
    (hnames : ∀ key, key ∉ names → attributes.lookup key = none)
    (hname : p.slot.attributeName? = some name)
    : (allAttributes (before ++ p :: after) attributes).lookup name = p.attribute?.map (·.2) := by
  rw [List.filterMap_append] at hnodup
  rw [List.filterMap_cons_some (f := fun q : Part => q.slot.attributeName?) hname] at hnodup
  rw [← List.append_assoc] at hnodup
  rw [List.nodup_middle] at hnodup
  have hnot := (List.nodup_cons.mp hnodup).1
  -- so the name stands neither for a constant nor for another field
  simp only [List.mem_append, not_or] at hnot
  obtain ⟨⟨hnotNames, hnotBefore⟩, hnotAfter⟩ := hnot
  have hbefore := ne_of_mem_attributes (fun q hq => hproper q (by simp [hq])) hnotBefore
  have hafter := ne_of_mem_attributes (fun q hq => hproper q (by simp [hq])) hnotAfter
  unfold allAttributes
  rw [List.filterMap_append]
  rw [List.foldl_append]
  cases hattribute : p.attribute? with
  | none =>
    rw [List.filterMap_cons_none hattribute]
    rw [Entries.lookup_foldl_set_of_ne hafter]
    rw [Entries.lookup_foldl_set_of_ne hbefore]
    exact hnames name hnotNames
  | some a =>
    have heq : a.1 = name := by
      have := (hproper p (by simp)).attributeName a hattribute
      rw [hname] at this
      exact (Option.some.inj this).symm
    rw [List.filterMap_cons_some hattribute]
    rw [List.foldl_cons]
    rw [Entries.lookup_foldl_set_of_ne hafter]
    rw [heq]
    exact Entries.lookup_set_self _ _ _

theorem filter_allChildren_eq_nil {parts : List Part} (hproper : ∀ q ∈ parts, q.IsProper)
    (hclashes : ∀ q ∈ parts, ¬q.slot.Clashes slots p.slot)
    : (allChildren parts).filter (fun x => p.slot.takes slots x.tag) = [] := by
  rw [List.filter_eq_nil_iff]
  intro x hx htakes
  obtain ⟨q, hq, hxq⟩ := List.mem_flatMap.mp hx
  exact hclashes q hq ⟨x.tag, (hproper q hq).childName x hxq, htakes⟩

theorem filter_allChildren (hproper : ∀ q ∈ before ++ p :: after, q.IsProper)
    (htakes : ∀ clark, p.slot.childName? = some clark → p.slot.takes slots clark = true)
    (hbefore : ∀ q ∈ before, ¬q.slot.Clashes slots p.slot) (hafter : ∀ q ∈ after, ¬q.slot.Clashes slots p.slot)
    : (allChildren (before ++ p :: after)).filter (fun x => p.slot.takes slots x.tag) = p.children := by
  have hown : p.children.filter (fun x => p.slot.takes slots x.tag) = p.children := by
    rw [List.filter_eq_self]
    intro x hx
    exact htakes x.tag ((hproper p (by simp)).childName x hx)
  have hnone := filter_allChildren_eq_nil (fun q hq => hproper q (by simp [hq])) hbefore
  have hnone' := filter_allChildren_eq_nil (fun q hq => hproper q (by simp [hq])) hafter
  unfold allChildren at hnone hnone' ⊢
  rw [List.flatMap_append]
  rw [List.flatMap_cons]
  rw [List.filter_append]
  rw [List.filter_append]
  rw [hnone]
  rw [hown]
  rw [hnone']
  simp

end Part

/-! ### The attributes for constants -/

namespace StructDef

variable {d : StructDef}

theorem mem_constantNames {held : String × String} (h : held ∈ d.constantTags) {tag : Tag}
    (htag : Tag.read held.1 = .ok tag)
    : tag.name.clark ∈ d.constantNames := by
  unfold constantNames
  rw [List.mem_filterMap]
  exact ⟨held, h, by rw [htag]; rfl⟩

theorem exists_heldTags (hd : d.HoldsConstants)
    : ∃ tags, heldTags d = .ok tags ∧ ∀ held ∈ tags, held ∈ d.constantTags := by
  unfold heldTags
  split
  . exact ⟨_, rfl, fun _ h => h⟩
  . next f hf =>
    have hrepeated := hd.tags f (List.mem_of_find?_eq_some hf) (by simpa using List.find?_some hf)
    rw [if_pos hrepeated]
    exact ⟨[], rfl, by simp⟩

theorem instanceMember?_of_lookup {name text : String} (h : d.constants.lookup name = some text) (values : List Value)
    : instanceMember? d values name = some (.text text) := by
  unfold instanceMember?
  rw [h]

def addConstant (name : String) (d : StructDef) (values : List Value) (attributes : List (String × String))
    (held : String × String)
    : Except Fault (List (String × String)) :=
  match Tag.read held.1, instanceMember? d values held.2 with
  | .error e, _ => .error (.malformedTag e)
  | .ok _, none => .error (.noMember name held.2)
  | .ok tag, some (.text value) => .ok (Entries.set attributes tag.name.clark value)
  | .ok _, some v => .error (.notText v.typeName)

theorem constantAttributes_eq (name : String) (d : StructDef) (values : List Value)
    : constantAttributes name d values = heldTags d >>= fun tags => tags.foldlM (addConstant name d values) [] := by
  rfl

theorem addConstant_eq {held : String × String} {tag : Tag} {value : String} (htag : Tag.read held.1 = .ok tag)
    (hvalue : d.constants.lookup held.2 = some value) (name : String) (values : List Value)
    (attributes : List (String × String))
    : addConstant name d values attributes held = .ok (Entries.set attributes tag.name.clark value) := by
  unfold addConstant
  rw [htag]
  rw [instanceMember?_of_lookup hvalue]

/-- Where no field is held under their names, the constants are the same for all instances. -/
theorem foldlM_addConstant_of_not_mem {tags : List (String × String)}
    (h : ∀ held ∈ tags, ∀ f ∈ d.fields, f.name ≠ held.2) (name : String) (values : List Value)
    (attributes : List (String × String))
    : tags.foldlM (addConstant name d values) attributes = tags.foldlM (addConstant name d []) attributes := by
  induction tags generalizing attributes with
  | nil => rfl
  | cons held tags ih =>
    rw [List.forall_mem_cons] at h
    have hfields : (d.fields.zip values).find? (fun r => r.1.name == held.2) = none := by
      rw [List.find?_eq_none]
      intro r hr
      simpa using h.1 r.1 (List.of_mem_zip hr).1
    have hmember : instanceMember? d values held.2 = instanceMember? d [] held.2 := by
      unfold instanceMember?
      rw [hfields]
      rw [List.zip_nil_right]
      rfl
    have hfirst : addConstant name d values attributes held = addConstant name d [] attributes held := by
      unfold addConstant
      rw [hmember]
    rw [List.foldlM_cons]
    rw [List.foldlM_cons]
    rw [hfirst]
    simp only [ih h.2]

theorem exists_foldlM_addConstant (hd : d.HoldsConstants) (name : String) (values : List Value)
    {tags : List (String × String)} (hmem : ∀ held ∈ tags, held ∈ d.constantTags)
    {attributes : List (String × String)} (hattributes : ∀ key, key ∉ d.constantNames → attributes.lookup key = none)
    : ∃ all, tags.foldlM (addConstant name d values) attributes = .ok all ∧
        ∀ key, key ∉ d.constantNames → all.lookup key = none := by
  induction tags generalizing attributes with
  | nil => exact ⟨attributes, rfl, hattributes⟩
  | cons held tags ih =>
    have hheld := hmem held List.mem_cons_self
    obtain ⟨htag, hvalue⟩ := hd.constants held hheld
    obtain ⟨tag, htag⟩ := isOk_iff.mp htag
    obtain ⟨value, hvalue⟩ := Option.isSome_iff_exists.mp hvalue
    rw [List.foldlM_cons]
    rw [addConstant_eq htag hvalue]
    apply ih
    . intro other hother
      exact hmem other (List.mem_cons_of_mem held hother)
    . intro key hkey
      rw [Entries.lookup_set_of_ne]
      . exact hattributes key hkey
      . rintro rfl
        exact hkey (mem_constantNames hheld htag)

theorem exists_constantAttributes (hd : d.HoldsConstants) (name : String) (values : List Value)
    : ∃ attributes, constantAttributes name d values = .ok attributes ∧
        ∀ key, key ∉ d.constantNames → attributes.lookup key = none := by
  obtain ⟨tags, htags, hmem⟩ := exists_heldTags hd
  rw [constantAttributes_eq]
  rw [htags]
  exact exists_foldlM_addConstant hd name values hmem fun _ _ => rfl

end StructDef

end XmlBinding.Codec
