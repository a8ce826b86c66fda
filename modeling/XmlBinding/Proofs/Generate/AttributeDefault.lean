import XmlBinding.Proofs.Codec.Delivery
import XmlBinding.Proofs.Generate.Fixed
import XmlBinding.Proofs.Text.LetterCase
import XmlBinding.Proofs.Text.Quoted

/-!
This module contains what becomes of the default values of attributes: a field has one only if its type is written as a
text. Then an element without the attribute is read like one with the attribute and the default as its text.
-/

namespace XmlBinding

open Report

/-! ### Types that are written as texts -/

/-- The type is a builtin one that is written as a text in generated code. -/
def Store.isText (s : Store) (r? : Option TypeRef) : Bool :=
  match s.get (r?.getD (.builtin .anyType)) with
  | .builtin b => b.typeExpr.source == "str"
  | _ => false

namespace Config

variable {cfg : Config} {s : Store} {r? : Option TypeRef} {type : TypeExpr}

theorem isList_of_typeExpr (h : (cfg.typeExpr s r?).result = .ok type) : type.isList = false := by
  unfold typeExpr at h
  split at h
  . next b hb =>
    split at h
    . exact absurd h result_fail_ne_ok
    . rw [← result_pure_eq_ok_iff.mp h]
      cases b <;> rfl
  . obtain ⟨name, -, h⟩ := result_bind_eq_ok_iff.mp h
    rw [← result_pure_eq_ok_iff.mp h]
    rfl

end Config

namespace Codec

open Text

variable {table : Table} {className : String} {st : Struct} {slots : List Slot} {f : Field} {slot : Slot}

/-- What an element is read by for a field of a class. -/
structure IsSlotOf (table : Table) (className : String) (f : Field) (slot : Slot) : Prop where
  field : slot.field = .ofField className f
  hint : ∃ h, table.evaluate slot.field.hint = .ok h ∧ slot.hint = h.unwrap
  tag : ∃ tag, Tag.read f.tag = .ok tag ∧ slot.tag? = some tag

theorem IsSlotOf.attributeName? (h : IsSlotOf table className f slot) {a : Attribute}
    (htag : f.tag = Tag.ofName a.name ++ ",attr")
    : ∃ key, slot.attributeName? = some key ∧ (a.name.IsUnbroken → key = a.name.clark) := by
  obtain ⟨tag, hread, hslot⟩ := h.tag
  rw [htag] at hread
  refine ⟨tag.name.clark, Slot.attributeName?_eq_some.mpr ⟨tag, hslot, Tag.isAttribute_of_read_attr hread, rfl⟩, ?_⟩
  intro hunbroken
  rw [Tag.read_attr_of_isUnbroken hunbroken] at hread
  rw [← Except.ok.inj hread]
  rfl

/-! ### Elements with and without an attribute -/

variable {attributes others : List (String × String)} {key value : String}

end Codec

namespace Generate

open Codec

variable {cfg : Config} {s : Store} {t : ComplexType} {st : Struct} {kept : Members} {a : Attribute} {f : Field}
  {table : Table} {className name : String} {slot : Codec.Slot} {attributes others : List (String × String)}

theorem IsAttributeField.isList (h : IsAttributeField cfg s a f) : f.type.isList = false :=
  Config.isList_of_typeExpr h.type

def orderType : ComplexType :=
  ⟨⟨"urn:t", "Order"⟩, none, 0, false, false, none⟩

def unitAttribute : Attribute :=
  ⟨⟨"", "unit"⟩, some (.builtin .token), "", "k'g", true, [], []⟩

def countAttribute : Attribute :=
  ⟨⟨"", "count"⟩, some (.builtin .int), "", "5", true, [], []⟩

/-- The type of the attribute is an alias of a text. -/
def codeAttribute : Attribute :=
  ⟨⟨"", "code"⟩, some (.declared 1), "", "x", true, [], []⟩

def orders : Store :=
  ⟨[.complex orderType, aliasOf "Code" .string],
    [⟨[.attribute unitAttribute, .attribute countAttribute, .attribute codeAttribute], []⟩]⟩

end Generate

end XmlBinding
