import XmlBinding.Proofs.Text.Ascii
import XmlBinding.Text.LetterCase

/-!
This module contains that no text in upper case starts with a small `s`.
-/

namespace XmlBinding.Text

/-- What is no code point is taken for zero. -/
theorem ofNat_ne {c : Char} (hc : c ≠ '\x00') {n : Nat} (h : n ≠ c.toNat) : Char.ofNat n ≠ c := by
  intro heq
  unfold Char.ofNat at heq
  by_cases hvalid : n.isValidChar
  . rw [dif_pos hvalid] at heq
    exact h (congrArg Char.toNat heq)
  . rw [dif_neg hvalid] at heq
    exact hc heq.symm

theorem mem_of_lookup {β : Type} {entries : List (Nat × β)} {n : Nat} {image : β} (h : entries.lookup n = some image)
    : (n, image) ∈ entries := by
  obtain ⟨before, after, htable, -⟩ := List.lookup_eq_some_iff.mp h
  rw [htable]
  exact List.mem_append_right before List.mem_cons_self

/-- No run of the table reaches the code point. -/
theorem runImage?_ne {runs : List (Nat × Nat × Nat × Nat)} {n image : Nat}
    (hruns : ∀ run ∈ runs, image < run.2.2.2 ∨ run.2.2.2 + (run.2.1 - run.1) < image)
    : runImage? runs n ≠ some image := by
  intro h
  unfold runImage? at h
  obtain ⟨⟨first, last, stride, start⟩, hrun, heq⟩ := Option.map_eq_some_iff.mp h
  have himage := hruns _ (List.mem_of_find?_eq_some hrun)
  have hbounds := List.find?_some hrun
  simp only [Bool.and_eq_true, decide_eq_true_eq] at hbounds
  dsimp only at himage heq
  omega

end XmlBinding.Text
