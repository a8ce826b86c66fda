import Mathlib.Data.List.Pairwise
import Mathlib.Tactic.MkIffOfInductiveProp
import XmlBinding.Proofs.Codec.Children
import XmlBinding.Proofs.Entries
import XmlBinding.Proofs.Name.Clark

/-!
This module contains when the fields of a structure can be told apart in an element. Then each field is read
from its own children, and what is written for the others stays out of its way.
-/

namespace XmlBinding.Codec

/-- The named field `g` does not accept what is written for `f`. -/
def Slot.Apart (f g : Slot) : Prop :=
  g.isNamed = true → ∀ clark ∈ f.childName?, g.accepts clark = false

instance (f g : Slot) : Decidable (f.Apart g) :=
  inferInstanceAs (Decidable (_ → _))

namespace StructDef

def memberNames (d : StructDef) : List String :=
  d.fields.map (·.name) ++ d.constants.map (·.1)

def constantNames (d : StructDef) : List String :=
  d.constantTags.filterMap fun held => (Tag.read held.1).toOption.map (·.name.clark)

/-- No two attributes of an element have one name, and no field takes the children of another one. -/
@[mk_iff]
structure IsSeparable (d : StructDef) (slots : List Slot) : Prop where
  noBrace : ∀ s ∈ slots, ∀ tag ∈ s.tag?, '\x7d' ∉ tag.localPart.toList
  attributes : (d.constantNames ++ slots.filterMap (·.attributeName?)).Nodup
  oneWildcard : slots.Pairwise fun f g => ¬(f.isWildcard = true ∧ g.isWildcard = true)
  apart : slots.Pairwise fun f g => f.Apart g ∧ g.Apart f
  noReadMethod : Method.readName ∉ d.memberNames
  noWriteMethod : Method.writeName ∉ d.memberNames

instance (d : StructDef) (slots : List Slot) : Decidable (d.IsSeparable slots) :=
  decidable_of_iff _ (isSeparable_iff d slots).symm

/-- The class has the tags of its constants, which can be read, and each of the constants. -/
@[mk_iff]
structure HoldsConstants (d : StructDef) : Prop where
  tags : ∀ f ∈ d.fields, f.name = tagsName → f.isRepeated = true
  constants : ∀ held ∈ d.constantTags, (Tag.read held.1).isOk = true ∧ (d.constants.lookup held.2).isSome = true

instance (d : StructDef) : Decidable d.HoldsConstants :=
  decidable_of_iff _ d.holdsConstants_iff.symm

variable {d : StructDef} {slots : List Slot}

theorem name_beq_of_not_mem {name : String} (h : name ∉ d.memberNames) {f : FieldDef} (hf : f ∈ d.fields)
    : (f.name == name) = false := by
  rw [beq_eq_false_iff_ne]
  rintro rfl
  apply h
  unfold memberNames
  rw [List.mem_append]
  exact .inl (List.mem_map_of_mem hf)

theorem lookup_constants_of_not_mem {name : String} (h : name ∉ d.memberNames)
    : d.constants.lookup name = none := by
  rw [List.lookup_eq_none_iff]
  intro c hc
  rw [bne_iff_ne]
  rintro rfl
  apply h
  unfold memberNames
  rw [List.mem_append]
  exact .inr (List.mem_map_of_mem hc)

theorem member?_of_not_mem {name : String} (h : name ∉ d.memberNames) : d.member? name = none := by
  have hfields : d.fields.find? (·.name == name) = none := by
    rw [List.find?_eq_none]
    intro f hf
    simp [name_beq_of_not_mem h hf]
  simp [member?, hfields, lookup_constants_of_not_mem h]

theorem writeMember?_of_not_mem (h : Method.writeName ∉ d.memberNames) (values : List Value)
    : writeMember? d values = none := by
  have hfields : (d.fields.zip values).find? (fun r => r.1.name == Method.writeName) = none := by
    rw [List.find?_eq_none]
    intro r hr
    simp [name_beq_of_not_mem h (List.of_mem_zip hr).1]
  simp [writeMember?, instanceMember?, hfields, lookup_constants_of_not_mem h]

theorem heldTags_of_not_mem (h : tagsName ∉ d.memberNames) : heldTags d = .ok d.constantTags := by
  have hfields : d.fields.find? (·.name == tagsName) = none := by
    rw [List.find?_eq_none]
    intro f hf
    simp [name_beq_of_not_mem h hf]
  unfold heldTags
  rw [hfields]

namespace IsSeparable

theorem accepts_childName (hd : IsSeparable d slots) {s : Slot} (hs : s ∈ slots) (hnamed : s.isNamed = true)
    {clark : String} (h : s.childName? = some clark)
    : s.accepts clark = true := by
  obtain ⟨tag, htag, hw⟩ := Slot.isNamed_eq_true.mp hnamed
  obtain ⟨htag', -⟩ := Slot.elementTag?_eq_some.mp htag
  have hclark : tag.name.clark = clark := by
    simpa [Slot.childName?, htag, childTag, hw] using h
  rw [← hclark]
  simp only [Slot.accepts, htag', Option.any_some]
  exact tagMatches_clark (n := tag.name) (hd.noBrace s hs tag htag')

theorem takes_childName (hd : IsSeparable d slots) {s : Slot} (hs : s ∈ slots) {clark : String}
    (h : s.childName? = some clark)
    : s.takes slots clark = true := by
  cases hnamed : s.isNamed with
  | true =>
    rw [Slot.takes_of_isNamed hnamed]
    exact hd.accepts_childName hs hnamed h
  | false =>
    -- A wildcard gets its own children, because they are apart from all named fields.
    have hw : s.isWildcard = true := Slot.isWildcard_of_childName? h hnamed
    rw [Slot.takes_of_isWildcard hw]
    intro n hn hnnamed
    have hne : s ≠ n := by
      rintro rfl
      simp [hnnamed] at hnamed
    have : Std.Symm fun f g : Slot => f.Apart g ∧ g.Apart f := ⟨fun _ _ h => h.symm⟩
    exact (hd.apart.forall hs hn hne).1 hnnamed clark h

theorem not_clashes (hd : IsSeparable d slots) {f g : Slot} (hf : f ∈ slots) (hapart : f.Apart g)
    (hw : ¬(f.isWildcard = true ∧ g.isWildcard = true))
    : ¬f.Clashes slots g := by
  rintro ⟨clark, hclark, htakes⟩
  cases Slot.isNamed_or_isWildcard_of_takes htakes with
  | inl hnamed =>
    rw [Slot.takes_of_isNamed hnamed] at htakes
    rw [hapart hnamed clark hclark] at htakes
    cases htakes
  | inr hgw =>
    cases hnamed : f.isNamed with
    | false => exact hw ⟨Slot.isWildcard_of_childName? hclark hnamed, hgw⟩
    | true =>
      -- What a named field accepts is not left for a wildcard.
      have := (Slot.takes_of_isWildcard hgw clark).mp htakes f hf hnamed
      rw [hd.accepts_childName hf hnamed hclark] at this
      cases this

theorem pairwise_not_clashes (hd : IsSeparable d slots)
    : slots.Pairwise fun f g => ¬f.Clashes slots g ∧ ¬g.Clashes slots f := by
  have hboth := hd.oneWildcard.and hd.apart
  apply hboth.imp_of_mem
  intro f g hf hg ⟨hw, hfg, hgf⟩
  exact ⟨hd.not_clashes hf hfg hw, hd.not_clashes hg hgf fun h => hw h.symm⟩

theorem member?_readName (hd : IsSeparable d slots) : d.member? Method.readName = none :=
  member?_of_not_mem hd.noReadMethod

theorem writeMember?_eq_none (hd : IsSeparable d slots) (values : List Value)
    : writeMember? d values = none :=
  writeMember?_of_not_mem hd.noWriteMethod values

end IsSeparable

end StructDef

end XmlBinding.Codec
