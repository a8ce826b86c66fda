import XmlBinding.Text.CharClass

/-!
This module contains how facts about ASCII characters are decided.
-/

namespace XmlBinding.Text

theorem isAscii_of_isDigit {c : Char} (h : c.isDigit = true) : isAscii c = true := by
  unfold Char.isDigit at h
  simp only [isAscii, Bool.and_eq_true, decide_eq_true_eq, UInt32.le_iff_toNat_le] at h ⊢
  change c.val.toNat < 128
  have := h.2
  change c.val.toNat ≤ 57 at this
  omega

/-- What holds of the first code points holds of all ASCII characters. -/
theorem of_isAscii {p : Char → Prop} (hp : ∀ n < 128, p (Char.ofNat n)) {c : Char} (h : isAscii c = true) : p c := by
  have hc := hp c.toNat (of_decide_eq_true h)
  rw [Char.ofNat_toNat] at hc
  exact hc

end XmlBinding.Text
