import Mathlib.Tactic.MkIffOfInductiveProp
import XmlBinding.Name.QName
import XmlBinding.Text.Blank

/-!
This module contains the names that XML allows: local parts without colons, as the fifth edition of XML 1.0
and the namespaces on top of it define them, and namespaces that are texts without blanks.
-/

namespace XmlBinding

open Text

namespace NcName

/-- The code points of the characters that a local part starts with. -/
def startRanges : List (Nat × Nat) :=
  [(0x41, 0x5A), (0x5F, 0x5F), (0x61, 0x7A), (0xC0, 0xD6), (0xD8, 0xF6), (0xF8, 0x2FF), (0x370, 0x37D),
    (0x37F, 0x1FFF), (0x200C, 0x200D), (0x2070, 0x218F), (0x2C00, 0x2FEF), (0x3001, 0xD7FF),
    (0xF900, 0xFDCF), (0xFDF0, 0xFFFD), (0x10000, 0xEFFFF)]

/-- The code points of the characters that only stand after the first one. -/
def laterRanges : List (Nat × Nat) :=
  [(0x2D, 0x2E), (0x30, 0x39), (0xB7, 0xB7), (0x300, 0x36F), (0x203F, 0x2040)]

def isIn (ranges : List (Nat × Nat)) (c : Char) : Bool :=
  ranges.any fun (first, last) => first ≤ c.toNat && c.toNat ≤ last

def isStart (c : Char) : Bool :=
  isIn startRanges c

def isLater (c : Char) : Bool :=
  isIn (startRanges ++ laterRanges) c

def isNcName : List Char → Bool
  | [] => false
  | c :: cs => isStart c && cs.all isLater

/-- The one blank that local parts can have. -/
def oghamSpace : Char := '\u1680'

theorem isLater_of_isStart {c : Char} (h : isStart c = true) : isLater c = true := by
  unfold isLater isIn
  rw [List.any_append]
  unfold isStart isIn at h
  rw [h]
  rfl

theorem ne_nil {cs : List Char} (h : isNcName cs = true) : cs ≠ [] := by
  rintro rfl
  simp [isNcName] at h

theorem isLater_of_mem {cs : List Char} (h : isNcName cs = true) {c : Char} (hc : c ∈ cs)
    : isLater c = true := by
  cases cs with
  | nil => simp at hc
  | cons d ds =>
    unfold isNcName at h
    rw [Bool.and_eq_true] at h
    obtain ⟨hd, hds⟩ := h
    cases List.mem_cons.mp hc with
    | inl heq =>
      rw [heq]
      exact isLater_of_isStart hd
    | inr hmem => exact List.all_eq_true.mp hds c hmem

theorem isLater_comma : isLater ',' = false := by decide

theorem isLater_closingBrace : isLater '\x7d' = false := by decide

theorem eq_oghamSpace_of_isBlank {c : Char} (h : isLater c = true) (hb : isBlank c = true)
    : c = oghamSpace := by
  have hn : c.toNat = oghamSpace.toNat := by
    have : oghamSpace.toNat = 0x1680 := by decide
    simp only [isLater, isIn, startRanges, laterRanges, List.cons_append, List.nil_append, List.any_cons,
      List.any_nil, Bool.or_eq_true, Bool.and_eq_true, decide_eq_true_eq, Bool.or_false] at h
    simp only [isBlank, Bool.or_eq_true, Bool.and_eq_true, decide_eq_true_eq, beq_iff_eq] at hb
    omega
  exact Char.toNat_inj.mp hn

end NcName

namespace QName

/-- A local part without a colon, in a namespace that is written without blanks. -/
@[mk_iff]
structure IsLegal (n : QName) : Prop where
  isNcName : NcName.isNcName n.localPart.toList = true
  space_not_blank : ∀ c ∈ n.space.toList, isBlank c = false

-- The characters of the namespace are gone through, and not all characters that there are.
instance (n : QName) : Decidable n.IsLegal :=
  have : Decidable (∀ c ∈ n.space.toList, isBlank c = false) := List.decidableBAll _ _
  decidable_of_iff _ n.isLegal_iff.symm

namespace IsLegal

variable {n : QName}

theorem localPart_ne_empty (h : n.IsLegal) : n.localPart ≠ "" := by
  intro hempty
  apply NcName.ne_nil h.isNcName
  rw [hempty]
  rfl

theorem comma_not_mem (h : n.IsLegal) : ',' ∉ n.localPart.toList := by
  intro hmem
  have := NcName.isLater_of_mem h.isNcName hmem
  rw [NcName.isLater_comma] at this
  contradiction

theorem closingBrace_not_mem (h : n.IsLegal) : '\x7d' ∉ n.localPart.toList := by
  intro hmem
  have := NcName.isLater_of_mem h.isNcName hmem
  rw [NcName.isLater_closingBrace] at this
  contradiction

theorem localPart_not_blank (h : n.IsLegal) (hspace : NcName.oghamSpace ∉ n.localPart.toList)
    : ∀ c ∈ n.localPart.toList, isBlank c = false := by
  intro c hc
  cases hb : isBlank c with
  | false => rfl
  | true =>
    have := NcName.eq_oghamSpace_of_isBlank (NcName.isLater_of_mem h.isNcName hc) hb
    rw [this] at hc
    exact absurd hc hspace

end IsLegal

end QName

end XmlBinding
