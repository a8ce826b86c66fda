import XmlBinding.Codec.Module
import XmlBinding.Proofs.Except

/-!
This module contains which children of an element a field is read from, and what is written for it. Two fields
clash if reading gives one of them what was written for the other.
-/

namespace XmlBinding.Codec

/-! ### Fields with their tags -/

namespace Slot

/-- The tag of a field that stands for children. -/
def elementTag? (s : Slot) : Option Tag :=
  s.tag?.filter (!·.isAttribute)

/-- The name of the attribute that a field stands for. -/
def attributeName? (s : Slot) : Option String :=
  (s.tag?.filter (·.isAttribute)).map (·.name.clark)

def isWildcard (s : Slot) : Bool :=
  s.elementTag?.any (·.isWildcard)

/-- The name of the children that are written for a field. -/
def childName? (s : Slot) : Option String :=
  s.elementTag?.map (childTag s.field)

/-- Whether a field is read from the children called `clark`. -/
def takes (slots : List Slot) (s : Slot) (clark : String) : Bool :=
  s.elementTag?.any fun tag =>
    if tag.isWildcard then
      !slots.any fun n => n.isNamed && n.accepts clark
    else
      tagMatches clark tag.space tag.localPart

/-- What is written for the field `f` is read for the field `g`. -/
def Clashes (slots : List Slot) (f g : Slot) : Prop :=
  ∃ clark ∈ f.childName?, g.takes slots clark = true

instance (slots : List Slot) (f g : Slot) : Decidable (f.Clashes slots g) :=
  inferInstanceAs (Decidable (∃ _ ∈ _, _))

theorem elementTag?_eq_some {s : Slot} {tag : Tag}
    : s.elementTag? = some tag ↔ s.tag? = some tag ∧ tag.isAttribute = false := by
  unfold elementTag?
  simp [Option.filter_eq_some_iff]

theorem attributeName?_eq_some {s : Slot} {name : String}
    : s.attributeName? = some name ↔ ∃ tag, s.tag? = some tag ∧ tag.isAttribute = true ∧ tag.name.clark = name := by
  unfold attributeName?
  simp [Option.filter_eq_some_iff, and_assoc]

theorem isNamed_eq_true {s : Slot}
    : s.isNamed = true ↔ ∃ tag, s.elementTag? = some tag ∧ tag.isWildcard = false := by
  unfold isNamed
  cases h : s.tag? with
  | none => simp [elementTag?, h]
  | some tag => simp [elementTag?_eq_some, h]

theorem isWildcard_eq_true {s : Slot}
    : s.isWildcard = true ↔ ∃ tag, s.elementTag? = some tag ∧ tag.isWildcard = true := by
  unfold isWildcard
  simp [Option.any_eq_true]

theorem candidates_eq_filter {slots : List Slot} {s : Slot} {tag : Tag} (h : s.elementTag? = some tag)
    (children : List Child)
    : candidates slots children tag = children.filter fun c => s.takes slots c.tag := by
  unfold candidates takes
  rw [h]
  simp only [Option.any_some]
  split
  . rfl
  . rfl

theorem takes_of_isNamed {slots : List Slot} {s : Slot} (h : s.isNamed = true) (clark : String)
    : s.takes slots clark = s.accepts clark := by
  obtain ⟨tag, htag, hw⟩ := isNamed_eq_true.mp h
  obtain ⟨htag', -⟩ := elementTag?_eq_some.mp htag
  simp [takes, accepts, htag, htag', hw]

theorem takes_of_isWildcard {slots : List Slot} {s : Slot} (h : s.isWildcard = true) (clark : String)
    : s.takes slots clark = true ↔ ∀ n ∈ slots, n.isNamed = true → n.accepts clark = false := by
  obtain ⟨tag, htag, hw⟩ := isWildcard_eq_true.mp h
  simp [takes, htag, hw]

theorem isNamed_or_isWildcard_of_takes {slots : List Slot} {s : Slot} {clark : String}
    (h : s.takes slots clark = true)
    : s.isNamed = true ∨ s.isWildcard = true := by
  unfold takes at h
  obtain ⟨tag, htag, -⟩ := Option.any_eq_true _ _ |>.mp h
  cases hw : tag.isWildcard with
  | false => exact .inl (isNamed_eq_true.mpr ⟨tag, htag, hw⟩)
  | true => exact .inr (isWildcard_eq_true.mpr ⟨tag, htag, hw⟩)

theorem isWildcard_of_childName? {s : Slot} {clark : String} (h : s.childName? = some clark)
    (hnamed : s.isNamed = false)
    : s.isWildcard = true := by
  unfold childName? at h
  obtain ⟨tag, htag, -⟩ := Option.map_eq_some_iff.mp h
  rw [isWildcard_eq_true]
  refine ⟨tag, htag, ?_⟩
  cases hw : tag.isWildcard with
  | true => rfl
  | false =>
    have := isNamed_eq_true.mpr ⟨tag, htag, hw⟩
    simp [hnamed] at this

end Slot

namespace StructDef

variable {t : Table} {d : StructDef} {slots : List Slot}

theorem typedFields_eq_ok {typed : List (FieldDef × Hint)} (h : d.typedFields t = .ok typed)
    : typed.map (·.1) = d.fields := by
  apply map_eq_of_mapM_eq_ok h
  intro f typedField hf
  obtain ⟨hint, -, heq⟩ := bind_eq_ok_iff.mp hf
  obtain rfl := Except.ok.inj heq
  rfl

theorem exists_typedFields (h : d.slots t = .ok slots) : ∃ typed, d.typedFields t = .ok typed := by
  obtain ⟨typed, htyped, -⟩ := bind_eq_ok_iff.mp h
  exact ⟨typed, htyped⟩

theorem map_field_slots (h : d.slots t = .ok slots) : slots.map (·.field) = d.fields := by
  obtain ⟨typed, htyped, hslots⟩ := bind_eq_ok_iff.mp h
  rw [← typedFields_eq_ok htyped]
  have : typed.map (·.1) = slots.map (·.field) := by
    have hall := mapM_eq_ok_iff.mp hslots
    clear h htyped hslots
    induction hall with
    | nil => rfl
    | cons hs _ ih =>
      obtain ⟨tag?, -, heq⟩ := bind_eq_ok_iff.mp hs
      obtain rfl := Except.ok.inj heq
      simp [ih]
  exact this.symm

theorem fieldTag?_of_mem_slots (h : d.slots t = .ok slots)
    : ∀ s ∈ slots, fieldTag? s.field = .ok s.tag? := by
  obtain ⟨typed, -, hslots⟩ := bind_eq_ok_iff.mp h
  apply forall_of_mapM_eq_ok (P := fun s => fieldTag? s.field = .ok s.tag?) hslots
  intro typedField s hs
  obtain ⟨tag?, htag, heq⟩ := bind_eq_ok_iff.mp hs
  obtain rfl := Except.ok.inj heq
  exact htag

end StructDef

namespace FieldDef

theorem ofField_tag? (className : String) (f : Field) : (ofField className f).tag? = some f.tag := by
  unfold ofField
  split <;> rfl

theorem ofField_name (className : String) (f : Field)
    : (ofField className f).name = Identifier.inClass className f.name := by
  unfold ofField
  split <;> rfl

end FieldDef

/-- All fields of a class have tags. -/
theorem StructDef.exists_read_of_fieldTag? {className : String} {f : Field} {tag? : Option Tag}
    (h : fieldTag? (.ofField className f) = .ok tag?)
    : ∃ tag, Tag.read f.tag = .ok tag ∧ tag? = some tag := by
  simp only [fieldTag?, FieldDef.ofField_tag?] at h
  split at h
  . next tag hread => exact ⟨tag, hread, (Except.ok.inj h).symm⟩
  . cases h

end XmlBinding.Codec
