import XmlBinding.Proofs.Generate.Fields

/-!
This module contains which fields for the elements of a type clash. Where all elements have different names, a
field takes the children of another one only if it has no namespace, so that local names decide.
-/

namespace XmlBinding

/-- A legal name that its tag does not take apart. -/
@[mk_iff]
structure QName.IsKept (n : QName) : Prop where
  legal : n.IsLegal
  noComma : ',' ∉ n.space.toList
  noBlank : NcName.oghamSpace ∉ n.localPart.toList

instance (n : QName) : Decidable n.IsKept :=
  decidable_of_iff _ n.isKept_iff.symm

theorem QName.IsKept.localPart_ne_wildcardTag {n : QName} (h : n.IsKept) : n.localPart ≠ wildcardTag := by
  intro heq
  apply h.legal.comma_not_mem
  rw [heq]
  decide

/-- One of two elements is no wildcard, and they have different names if both are none. -/
def Element.IsApart (e f : Element) : Prop :=
  ¬(e.isWildcard = true ∧ f.isWildcard = true) ∧
    (e.isWildcard = false → f.isWildcard = false → e.name ≠ f.name)

instance (e f : Element) : Decidable (e.IsApart f) :=
  inferInstanceAs (Decidable (_ ∧ _))

theorem Element.IsApart.symm {e f : Element} (h : e.IsApart f) : f.IsApart e :=
  ⟨fun hw => h.1 hw.symm, fun hf he => (h.2 he hf).symm⟩

namespace Codec

namespace Slot

/-- The field `g` has no namespace, and its name is the local name of the children that are written for `f`. -/
def SharesLocalName (f g : Slot) : Prop :=
  ∃ clark ∈ f.childName?, ∃ tag ∈ g.elementTag?,
    tag.isWildcard = false ∧ tag.space = "" ∧ localName clark = tag.localPart

/-- The fields `f` and `g` clash over a local name or not at all; named fields do clash over one. -/
structure ClashesLocally (slots : List Slot) (f g : Slot) : Prop where
  of_clashes : f.Clashes slots g → f.SharesLocalName g
  clashes : f.isNamed = true → f.SharesLocalName g → f.Clashes slots g

/-- The field has the tag that is read for an element. -/
structure IsFor (e : Element) (s : Slot) : Prop where
  named : e.isWildcard = false → s.tag? = some ⟨e.name.space, e.name.localPart, []⟩
  wildcard : e.isWildcard = true → s.tag? = some ⟨"", wildcardTag, ["any"]⟩ ∧
    ∀ n : QName, n.space ≠ "" → s.field.name ≠ n.clark

variable {slots : List Slot} {e e' : Element} {s s' : Slot}

theorem clashes_of_sharesLocalName (h : s.SharesLocalName s') : s.Clashes slots s' := by
  obtain ⟨clark, hclark, tag, htag, hw, hspace, hlocal⟩ := h
  refine ⟨clark, hclark, ?_⟩
  rw [takes_of_isNamed (isNamed_eq_true.mpr ⟨tag, htag, hw⟩)]
  obtain ⟨htag', -⟩ := elementTag?_eq_some.mp htag
  simp [accepts, htag', tagMatches, hspace, hlocal]

namespace IsFor

theorem elementTag?_of_named (hs : s.IsFor e) (he : e.isWildcard = false)
    : s.elementTag? = some ⟨e.name.space, e.name.localPart, []⟩ :=
  elementTag?_eq_some.mpr ⟨hs.named he, rfl⟩

theorem elementTag?_of_wildcard (hs : s.IsFor e) (he : e.isWildcard = true)
    : s.elementTag? = some ⟨"", wildcardTag, ["any"]⟩ :=
  elementTag?_eq_some.mpr ⟨(hs.wildcard he).1, by decide⟩

theorem isNamed (hs : s.IsFor e) (he : e.isWildcard = false) (hkept : e.name.IsKept) : s.isNamed = true := by
  rw [isNamed_eq_true]
  refine ⟨_, hs.elementTag?_of_named he, ?_⟩
  simpa [Tag.isWildcard] using hkept.localPart_ne_wildcardTag

theorem childName?_of_named (hs : s.IsFor e) (he : e.isWildcard = false) (hkept : e.name.IsKept)
    : s.childName? = some e.name.clark := by
  simp [childName?, hs.elementTag?_of_named he, childTag, Tag.isWildcard, hkept.localPart_ne_wildcardTag, Tag.name]

theorem childName?_of_wildcard (hs : s.IsFor e) (he : e.isWildcard = true)
    : s.childName? = some s.field.name := by
  simp [childName?, hs.elementTag?_of_wildcard he, childTag, Tag.isWildcard]

theorem ne_clark (hs : s.IsFor e) (hkept : e.isWildcard = false → e.name.IsKept) (he' : e'.isWildcard = false)
    (hkept' : e'.name.IsKept) (hapart : e.IsApart e') (hspace : e'.name.space ≠ "") {clark : String}
    (hclark : s.childName? = some clark)
    : clark ≠ e'.name.clark := by
  cases he : e.isWildcard with
  | true =>
    rw [hs.childName?_of_wildcard he] at hclark
    rw [← Option.some.inj hclark]
    exact (hs.wildcard he).2 e'.name hspace
  | false =>
    rw [hs.childName?_of_named he (hkept he)] at hclark
    rw [← Option.some.inj hclark]
    intro heq
    apply hapart.2 he he'
    exact QName.eq_of_clark_eq (hkept he).legal.closingBrace_not_mem hkept'.legal.closingBrace_not_mem heq

theorem sharesLocalName_of_clashes (hs : s.IsFor e) (hs' : s'.IsFor e') (hmem : s ∈ slots)
    (hkept : e.isWildcard = false → e.name.IsKept) (hkept' : e'.isWildcard = false → e'.name.IsKept)
    (hapart : e.IsApart e') (h : s.Clashes slots s')
    : s.SharesLocalName s' := by
  obtain ⟨clark, hclark, htakes⟩ := h
  cases he' : e'.isWildcard with
  | false =>
    have hk := hkept' he'
    rw [takes_of_isNamed (hs'.isNamed he' hk)] at htakes
    simp only [accepts, hs'.named he', Option.any_some, tagMatches] at htakes
    rw [if_neg (by simpa using hk.localPart_ne_wildcardTag)] at htakes
    refine ⟨clark, hclark, _, hs'.elementTag?_of_named he', ?_⟩
    split at htakes
    . next hspace =>
      refine ⟨?_, String.isEmpty_iff.mp hspace, by simpa using htakes⟩
      simpa [Tag.isWildcard] using hk.localPart_ne_wildcardTag
    . next hspace =>
      have hne : e'.name.space ≠ "" := by simpa using hspace
      exact absurd (by simpa using htakes) (hs.ne_clark hkept he' hk hapart hne hclark)
  | true =>
    -- The wildcard gets what no named field accepts, but `s` is one and accepts its own children.
    have hw : s'.isWildcard = true := isWildcard_eq_true.mpr ⟨_, hs'.elementTag?_of_wildcard he', by decide⟩
    have he : e.isWildcard = false := by
      cases he : e.isWildcard with
      | false => rfl
      | true => exact absurd ⟨he, he'⟩ hapart.1
    have hk := hkept he
    have hnot := (takes_of_isWildcard hw clark).mp htakes s hmem (hs.isNamed he hk)
    rw [hs.childName?_of_named he hk] at hclark
    rw [← Option.some.inj hclark] at hnot
    simp only [accepts, hs.named he, Option.any_some] at hnot
    rw [tagMatches_clark hk.legal.closingBrace_not_mem] at hnot
    cases hnot

end IsFor

theorem clashesLocally_of_elementTag?_eq_none (h : s.elementTag? = none) (slots : List Slot) (s' : Slot)
    : ClashesLocally slots s s' ∧ ClashesLocally slots s' s := by
  refine ⟨⟨?_, ?_⟩, ⟨?_, ?_⟩⟩
  . rintro ⟨clark, hclark, -⟩
    simp [childName?, h] at hclark
  . rintro - ⟨clark, hclark, -⟩
    simp [childName?, h] at hclark
  . rintro ⟨clark, -, htakes⟩
    simp [takes, h] at htakes
  . rintro - ⟨clark, -, tag, htag, -⟩
    simp [h] at htag

end Slot

/-! ### The fields of a generated class -/

theorem exists_read_of_ofField {className : String} {f : Field} {s : Slot}
    (hfield : s.field = .ofField className f) (htag : StructDef.fieldTag? s.field = .ok s.tag?)
    : ∃ tag, Tag.read f.tag = .ok tag ∧ s.tag? = some tag := by
  rw [hfield] at htag
  exact StructDef.exists_read_of_fieldTag? htag

theorem elementTag?_of_attribute {className text : String} {f : Field} {s : Slot} (hf : f.tag = text ++ ",attr")
    (hfield : s.field = .ofField className f) (htag : StructDef.fieldTag? s.field = .ok s.tag?)
    : s.elementTag? = none := by
  obtain ⟨tag, hread, hs⟩ := exists_read_of_ofField hfield htag
  rw [hf] at hread
  simp [Slot.elementTag?, hs, Tag.isAttribute_of_read_attr hread]

theorem isFor_of_ofField {className : String} {e : Element} {f : Field} {s : Slot} (hf : Generate.IsFieldOf e f)
    (hfield : s.field = .ofField className f) (htag : StructDef.fieldTag? s.field = .ok s.tag?)
    (hkept : e.isWildcard = false → e.name.IsKept)
    : s.IsFor e := by
  obtain ⟨tag, hread, hs⟩ := exists_read_of_ofField hfield htag
  rw [hf.tag] at hread
  constructor
  . intro he
    have hk := hkept he
    rw [he] at hread
    rw [if_neg (by decide)] at hread
    rw [Tag.read_ofName hk.legal hk.noComma hk.noBlank] at hread
    rw [hs]
    rw [← Except.ok.inj hread]
  . intro he
    have hwildcard : Tag.read wildcardTag = .ok ⟨"", wildcardTag, ["any"]⟩ := by decide
    rw [he] at hread
    rw [if_pos rfl] at hread
    rw [hwildcard] at hread
    refine ⟨by rw [hs, ← Except.ok.inj hread], ?_⟩
    intro n hn
    rw [hfield]
    rw [FieldDef.ofField_name]
    exact Identifier.inClass_ne_clark hf.name.openingBrace_not_mem className hn

theorem pairwise_of_forall₂ {α β : Type} {R : α → β → Prop} {P : α → α → Prop} {Q : β → β → Prop}
    {xs : List α} {ys : List β} (h : List.Forall₂ R xs ys) (hp : xs.Pairwise P)
    (hq : ∀ x ∈ xs, ∀ x' ∈ xs, ∀ y ∈ ys, ∀ y' ∈ ys, R x y → R x' y' → P x x' → Q y y')
    : ys.Pairwise Q := by
  rw [List.pairwise_iff_getElem] at hp ⊢
  intro i j hi hj hlt
  have hlen := h.length_eq
  have hi' : i < xs.length := by omega
  have hj' : j < xs.length := by omega
  exact hq _ (List.getElem_mem hi') _ (List.getElem_mem hj') _ (List.getElem_mem hi) _ (List.getElem_mem hj)
    (h.get hi' hi) (h.get hj' hj) (hp i j hi' hj' hlt)

/-- What is read for the one field and what is read for the other one clash over a local name or not at all. -/
def ClashLocally (slots : List Slot) (f g : FieldDef) : Prop :=
  ∀ s ∈ slots, s.field = f → ∀ s' ∈ slots, s'.field = g → s.ClashesLocally slots s' ∧ s'.ClashesLocally slots s

theorem ClashLocally.symm {slots : List Slot} {f g : FieldDef} (h : ClashLocally slots f g) : ClashLocally slots g f :=
  fun s hs hf s' hs' hg => (h s' hs' hg s hs hf).symm

/-- The order of the fields is of no account, and neither are fields that are lacking. -/
theorem pairwise_slots {d : StructDef} {table : Table} {slots : List Slot} {fields : List FieldDef}
    (hslots : d.slots table = .ok slots) (hsubperm : d.fields.Subperm fields) (h : fields.Pairwise (ClashLocally slots))
    : slots.Pairwise fun f g => f.ClashesLocally slots g ∧ g.ClashesLocally slots f := by
  obtain ⟨kept, hperm, hsublist⟩ := hsubperm
  have hfields : d.fields.Pairwise (ClashLocally slots) :=
    (hperm.pairwise_iff ClashLocally.symm).mp (h.sublist hsublist)
  rw [← StructDef.map_field_slots hslots] at hfields
  rw [List.pairwise_map] at hfields
  exact hfields.imp_of_mem fun hs hs' hclash => hclash _ hs rfl _ hs' rfl

end Codec

namespace Generate

/-- In the class that is generated for a type, one field takes the children of another one only if it has no
namespace and the local name of those children. -/
theorem pairwise_clashesLocally {cfg : Config} {s : Store} {r : TypeRef} {t : ComplexType} {d : Declaration}
    (hr : s.get r = .complex t) (hd : (declaration? cfg s (some r)).result = .ok (some d))
    (hapart : (s.declaredElements t).Pairwise Element.IsApart)
    (hkept : ∀ e ∈ s.declaredElements t, e.isWildcard = false → e.name.IsKept)
    : ∃ st, d.shape = .struct st ∧ ∀ className table slots,
        (Codec.StructDef.ofStruct className st).slots table = .ok slots →
          slots.Pairwise fun f g => f.ClashesLocally slots g ∧ g.ClashesLocally slots f := by
  obtain ⟨st, hshape, hst⟩ := struct_of_declaration? hr hd
  refine ⟨st, hshape, ?_⟩
  intro className table slots hslots
  obtain ⟨kept, hkeeps, hmadeOf⟩ := isStructOf_struct hst
  obtain ⟨attributes, elements, hfields, hattributes, helements⟩ := hmadeOf.fields
  have hsublist := (Config.keptMembers_sublist hkeeps).2.filterMap (·.element?)
  have htags := Codec.StructDef.fieldTag?_of_mem_slots hslots
  have hattribute : ∀ f ∈ attributes, ∀ g, Codec.ClashLocally slots (.ofField className f) g := by
    intro f hf g s hs hfield s' _ _
    obtain ⟨a, -, hfieldOf⟩ := exists_mem_of_forall₂ hattributes f hf
    exact Codec.Slot.clashesLocally_of_elementTag?_eq_none
      (Codec.elementTag?_of_attribute hfieldOf.tag_eq hfield (htags s hs)) slots s'
  apply Codec.pairwise_slots hslots (Codec.StructDef.fields_ofStruct_subperm className st)
  rw [hfields]
  rw [List.pairwise_map]
  rw [List.pairwise_append]
  refine ⟨?_, ?_, fun f hf g _ => hattribute f hf _⟩
  . apply List.pairwise_of_forall_mem_list
    exact fun f hf g _ => hattribute f hf _
  . apply Codec.pairwise_of_forall₂ helements (hapart.sublist hsublist)
    intro e he e' he' f _ g _ hf hg hpair s hs hfield s' hs' hfield'
    have hk := hkept e (hsublist.subset he)
    have hk' := hkept e' (hsublist.subset he')
    have hfor := Codec.isFor_of_ofField hf.isFieldOf hfield (htags s hs) hk
    have hfor' := Codec.isFor_of_ofField hg.isFieldOf hfield' (htags s' hs') hk'
    constructor
    . exact ⟨hfor.sharesLocalName_of_clashes hfor' hs hk hk' hpair, fun _ => Codec.Slot.clashes_of_sharesLocalName⟩
    . exact ⟨hfor'.sharesLocalName_of_clashes hfor hs' hk' hk hpair.symm,
        fun _ => Codec.Slot.clashes_of_sharesLocalName⟩

/-! ### Types with fields that clash, and one without -/

def word (space localPart : String) : Element :=
  ⟨⟨space, localPart⟩, some (.builtin .string), false, false, false, false⟩

def anyWords : Element :=
  ⟨⟨"", ""⟩, some (.builtin .string), true, true, true, false⟩

def onlyType : ComplexType :=
  ⟨⟨"urn:t", "T"⟩, none, 0, false, false, none⟩

def storeOf (es : List Element) : Store :=
  ⟨[.complex onlyType], [⟨[], es.map .element⟩]⟩

def phrase : Store :=
  storeOf [word "urn:a" "x", word "" "y", anyWords]

def wordField (name tag : String) : Field :=
  ⟨name, .named "str" [], some tag, none⟩

def wordSlot (name text : String) (tag : Tag) : Codec.Slot :=
  ⟨⟨name, .either (.scalar .text) .nothing, some text, false, .nothing⟩, .scalar .text, some tag⟩

def anyField : Field :=
  ⟨"items", .list (.named "str" []), some wildcardTag, none⟩

def anySlot : Codec.Slot :=
  ⟨⟨"items", .list (.scalar .text), some wildcardTag, true, .nothing⟩, .list (.scalar .text),
    some ⟨"", wildcardTag, ["any"]⟩⟩

def declarationOf (fields : List Field) : Declaration :=
  ⟨"T", .struct ⟨fields, []⟩, [], none, some (.declared 0)⟩

def phraseFields : List Field :=
  [wordField "x" "urn:a x", wordField "y" "y", anyField]

def phraseSlots : List Codec.Slot :=
  [wordSlot "x" "urn:a x" ⟨"urn:a", "x", []⟩, wordSlot "y" "y" ⟨"", "y", []⟩, anySlot]

theorem pairwise_clashesLocally_phrase
    : phrase.get (.declared 0) = .complex onlyType ∧
        (declaration? Config.empty phrase (some (.declared 0))).result = .ok (some (declarationOf phraseFields)) ∧
        (phrase.declaredElements onlyType).Pairwise Element.IsApart ∧
        (∀ e ∈ phrase.declaredElements onlyType, e.isWildcard = false → e.name.IsKept) ∧
        (Codec.StructDef.ofStruct "T" ⟨phraseFields, []⟩).slots (.empty Calendar.noReader) = .ok phraseSlots ∧
        phraseSlots.Pairwise fun f g => f.ClashesLocally phraseSlots g ∧ g.ClashesLocally phraseSlots f := by
  have hd : (declaration? Config.empty phrase (some (.declared 0))).result =
      .ok (some (declarationOf phraseFields)) := rfl
  have hslots : (Codec.StructDef.ofStruct "T" ⟨phraseFields, []⟩).slots (.empty Calendar.noReader) =
      .ok phraseSlots := rfl
  refine ⟨rfl, hd, by decide, by decide, hslots, ?_⟩
  obtain ⟨st, hshape, hall⟩ := pairwise_clashesLocally (t := onlyType) rfl hd (by decide) (by decide)
  obtain rfl := Shape.struct.inj hshape
  exact hall "T" (.empty Calendar.noReader) phraseSlots hslots

/-- The elements have legal names and can be told apart, and yet the children that are written for the first of
the two fields are read for the second one. -/
def IsConfused (es : List Element) : Prop :=
  es.Pairwise Element.IsApart ∧ (∀ e ∈ es, e.isWildcard = false → e.name.IsLegal) ∧
    ∃ d st f g, (declaration? Config.empty (storeOf es) (some (.declared 0))).result = .ok (some d) ∧
      d.shape = .struct st ∧
        (Codec.StructDef.ofStruct d.name st).slots (.empty Calendar.noReader) = .ok [f, g] ∧ f.Clashes [f, g] g

set_option maxRecDepth 10000 in
/-- Fields clash over a local name, over the name of the field for a wildcard, over a comma in a namespace, and
over a blank in a local part. -/
theorem isConfused_words
    : IsConfused [word "urn:a" "x", word "" "x"] ∧ IsConfused [anyWords, word "" "items"] ∧
        IsConfused [word "urn:a,b" "x", word "urn:a,c" "y"] ∧
        IsConfused [word "" "a\u1680b", word "a" "b"] := by
  refine ⟨⟨by decide, by decide, ?_⟩, ⟨by decide, by decide, ?_⟩, ⟨by decide, by decide, ?_⟩,
    ⟨by decide, by decide, ?_⟩⟩
  . exact ⟨declarationOf [wordField "x" "urn:a x", wordField "x_1" "x"], _,
      wordSlot "x" "urn:a x" ⟨"urn:a", "x", []⟩, wordSlot "x_1" "x" ⟨"", "x", []⟩, rfl, rfl, rfl, by decide⟩
  . exact ⟨declarationOf [anyField, wordField "items_1" "items"], _,
      anySlot, wordSlot "items_1" "items" ⟨"", "items", []⟩, rfl, rfl, rfl, by decide⟩
  . exact ⟨declarationOf [wordField "x" "urn:a,b x", wordField "y" "urn:a,c y"], _,
      wordSlot "x" "urn:a,b x" ⟨"", "urn:a", ["b x"]⟩, wordSlot "y" "urn:a,c y" ⟨"", "urn:a", ["c y"]⟩,
      rfl, rfl, rfl, by decide⟩
  . exact ⟨declarationOf [wordField "a_b" "a\u1680b", wordField "b" "a b"], _,
      wordSlot "a_b" "a\u1680b" ⟨"a", "b", []⟩, wordSlot "b" "a b" ⟨"a", "b", []⟩, rfl, rfl, rfl, by decide⟩

end Generate

end XmlBinding
