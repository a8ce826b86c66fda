import Mathlib.Data.List.Induction
import XmlBinding.Proofs.Text.LetterCase
import XmlBinding.Text.Normalization

/-!
This module contains what the normal form of identifiers leaves alone: texts of ASCII characters, and such characters
at the end of other texts. No brace arises in it, either.
-/

namespace XmlBinding.Text

/-! ### ASCII characters -/

section

variable {c : Char} (h : isAscii c = true)

include h

theorem combiningClass_of_isAscii : combiningClass c = 0 := by
  unfold combiningClass
  exact if_pos h

theorem decompose_of_isAscii : decompose c = [c] := by
  unfold decompose
  exact if_pos h

theorem composition?_of_isAscii (base : Char) : composition? base c = none := by
  unfold composition?
  exact if_pos h

theorem putInOrder_append (d : Char) (cs : List Char) : putInOrder d (cs ++ [c]) = putInOrder d cs ++ [c] := by
  induction cs with
  | nil =>
    simp [putInOrder, combiningClass_of_isAscii h]
  | cons e cs ih =>
    rw [List.cons_append]
    rw [putInOrder]
    rw [putInOrder]
    split
    . rw [ih]
      rfl
    . rfl

theorem foldr_putInOrder_append (cs : List Char)
    : (cs ++ [c]).foldr putInOrder [] = cs.foldr putInOrder [] ++ [c] := by
  induction cs with
  | nil => rfl
  | cons d cs ih =>
    rw [List.cons_append]
    rw [List.foldr_cons]
    rw [ih]
    exact putInOrder_append h d _

theorem composeAfter_append (base : Char) (marks cs : List Char)
    : composeAfter base marks (cs ++ [c]) = composeAfter base marks cs ++ [c] := by
  induction cs generalizing base marks with
  | nil =>
    -- The character composes with nothing, and no marks are put after it.
    simp [composeAfter, composition?_of_isAscii h, combiningClass_of_isAscii h]
  | cons d cs ih =>
    rw [List.cons_append]
    rw [composeAfter]
    rw [composeAfter]
    split
    . exact ih _ _
    . split
      . rw [ih]
        rw [List.append_assoc]
      . exact ih _ _

theorem normalize_append (cs : List Char) : normalize (cs ++ [c]) = normalize cs ++ [c] := by
  unfold normalize
  rw [List.flatMap_append]
  rw [List.flatMap_singleton]
  rw [decompose_of_isAscii h]
  rw [foldr_putInOrder_append h]
  cases (cs.flatMap decompose).foldr putInOrder [] with
  | nil => rfl
  | cons base rest => exact composeAfter_append h base [] rest

end

theorem normalize_of_isAscii {cs : List Char} (h : ∀ c ∈ cs, isAscii c = true) : normalize cs = cs := by
  induction cs using List.reverseRecOn with
  | nil => rfl
  | append_singleton cs c ih =>
    rw [List.forall_mem_append] at h
    rw [normalize_append (h.2 c List.mem_cons_self)]
    rw [ih h.1]

/-! ### Characters that arise -/

theorem putInOrder_perm (c : Char) (cs : List Char) : (putInOrder c cs).Perm (c :: cs) := by
  induction cs with
  | nil => exact List.Perm.refl _
  | cons d cs ih =>
    rw [putInOrder]
    split
    . exact (ih.cons d).trans (List.Perm.swap c d cs)
    . exact List.Perm.refl _

theorem foldr_putInOrder_perm (cs : List Char) : (cs.foldr putInOrder []).Perm cs := by
  induction cs with
  | nil => exact List.Perm.refl _
  | cons c cs ih => exact (putInOrder_perm c _).trans (ih.cons c)

section

variable {p : Char → Prop} (hcompose : ∀ a b c, composition? a b = some c → p c)

include hcompose

theorem forall_mem_composeAfter {cs : List Char} (h : ∀ c ∈ cs, p c) {base : Char} (hbase : p base) {marks : List Char}
    (hmarks : ∀ c ∈ marks, p c)
    : ∀ c ∈ composeAfter base marks cs, p c := by
  induction cs generalizing base marks with
  | nil => exact List.forall_mem_cons.mpr ⟨hbase, hmarks⟩
  | cons d cs ih =>
    rw [List.forall_mem_cons] at h
    rw [composeAfter]
    split
    . next composed hcomposed =>
      have hfound : composition? base d = some composed := by
        split at hcomposed
        . exact hcomposed
        . cases hcomposed
      exact ih h.2 (hcompose _ _ _ hfound) hmarks
    . split
      . rw [List.forall_mem_append]
        exact ⟨List.forall_mem_cons.mpr ⟨hbase, hmarks⟩, ih h.2 h.1 (List.forall_mem_nil _)⟩
      . apply ih h.2 hbase
        rw [List.forall_mem_append]
        exact ⟨hmarks, List.forall_mem_singleton.mpr h.1⟩

/-- What is kept when characters are decomposed, and holds of all compositions, is kept by the normal form. -/
theorem forall_mem_normalize (hdecompose : ∀ c, p c → ∀ d ∈ decompose c, p d) {cs : List Char} (h : ∀ c ∈ cs, p c)
    : ∀ c ∈ normalize cs, p c := by
  have hordered : ∀ c ∈ (cs.flatMap decompose).foldr putInOrder [], p c := by
    intro c hc
    obtain ⟨d, hd, hc⟩ := List.mem_flatMap.mp ((foldr_putInOrder_perm _).subset hc)
    exact hdecompose d (h d hd) c hc
  unfold normalize
  revert hordered
  cases (cs.flatMap decompose).foldr putInOrder [] with
  | nil => exact id
  | cons base rest =>
    intro hordered
    rw [List.forall_mem_cons] at hordered
    exact forall_mem_composeAfter hcompose hordered.2 hordered.1 (List.forall_mem_nil _)

end

/-! ### Braces -/

theorem not_mem_compositions
    : ∀ entry ∈ Property.compositions, '\x7b'.toNat ∉ [entry.1, entry.2.1, entry.2.2] := by
  decide +kernel

theorem not_mem_compatibilityExpansions
    : ∀ entry ∈ Property.compatibilityExpansions, '\x7b'.toNat ∉ entry.2 := by
  decide +kernel

theorem image_compatibilityRuns
    : ∀ run ∈ Property.compatibilityRuns,
        '\x7b'.toNat < run.2.2.2 ∨ run.2.2.2 + (run.2.1 - run.1) < '\x7b'.toNat := by
  decide +kernel

theorem not_mem_compatibilityImages
    : ∀ block ∈ Property.compatibilityImages, '\x7b'.toNat ∉ block.2 := by
  decide +kernel

/-- No character but the brace itself stands for one. -/
theorem ne_of_mem_compatibleWith {n image : Nat} (h : n ≠ '\x7b'.toNat) (himage : image ∈ compatibleWith n)
    : image ≠ '\x7b'.toNat := by
  rintro rfl
  unfold compatibleWith at himage
  split at himage
  . next images hlookup =>
    exact not_mem_compatibilityExpansions _ (mem_of_lookup hlookup) himage
  . split at himage
    . next start hrun =>
      obtain rfl := List.mem_singleton.mp himage
      exact runImage?_ne image_compatibilityRuns hrun
    . split at himage
      . next start hblock =>
        obtain rfl := List.mem_singleton.mp himage
        obtain ⟨block, hmem, hfound⟩ := List.exists_of_findSome?_eq_some hblock
        dsimp only at hfound
        split at hfound
        . exact not_mem_compatibilityImages _ hmem (List.mem_of_getElem? hfound)
        . cases hfound
      . exact h (List.mem_singleton.mp himage).symm

theorem ne_of_mem_parts {depth n image : Nat} (h : n ≠ '\x7b'.toNat) (himage : image ∈ parts depth n)
    : image ≠ '\x7b'.toNat := by
  induction depth generalizing n with
  | zero => exact ne_of_mem_compatibleWith h himage
  | succ depth ih =>
    rw [parts] at himage
    split at himage
    . next first second composition hfound =>
      have hentry := not_mem_compositions _ (List.mem_of_find?_eq_some hfound)
      simp only [List.mem_cons, not_or] at hentry
      obtain hfirst | hsecond := List.mem_append.mp himage
      . exact ih (Ne.symm hentry.1) hfirst
      . rw [List.mem_singleton.mp hsecond]
        exact Ne.symm hentry.2.1
    . exact ne_of_mem_compatibleWith h himage

theorem Hangul.leading_le_of_mem_parts {n image : Nat} (h : image ∈ Hangul.parts n) : leading ≤ image := by
  simp only [Hangul.parts, leading, vowel, trailing] at h ⊢
  split at h
  . simp only [List.mem_cons, List.not_mem_nil, or_false] at h
    omega
  . simp only [List.mem_append, List.mem_cons, List.not_mem_nil, or_false] at h
    omega

theorem Hangul.leading_le_of_compose? {a b n : Nat} (h : Hangul.compose? a b = some n) : leading ≤ n := by
  unfold Hangul.compose? at h
  split at h
  . rw [← Option.some.inj h]
    simp only [leading, syllable]
    omega
  . split at h
    . next hsyllable =>
      simp only [isSyllable, Bool.and_eq_true, decide_eq_true_eq] at hsyllable
      rw [← Option.some.inj h]
      simp only [leading, syllable] at hsyllable ⊢
      omega
    . cases h

theorem ne_of_leading_le {n : Nat} (h : Hangul.leading ≤ n) : n ≠ '\x7b'.toNat := by
  rintro rfl
  revert h
  decide

theorem ne_of_mem_decompose {c : Char} (h : c ≠ '\x7b') : ∀ d ∈ decompose c, d ≠ '\x7b' := by
  have hnat : c.toNat ≠ '\x7b'.toNat := fun heq => h (Char.toNat_inj.mp heq)
  unfold decompose
  split
  . simpa using h
  . split
    . rw [List.forall_mem_map]
      intro n hn
      exact ofNat_ne (by decide) (ne_of_leading_le (Hangul.leading_le_of_mem_parts hn))
    . rw [List.forall_mem_map]
      intro n hn
      exact ofNat_ne (by decide) (ne_of_mem_parts hnat hn)

theorem ne_of_composition? (a b c : Char) (h : composition? a b = some c) : c ≠ '\x7b' := by
  unfold composition? at h
  split at h
  . cases h
  . split at h
    . next n hn =>
      obtain rfl := Option.some.inj h
      exact ofNat_ne (by decide) (ne_of_leading_le (Hangul.leading_le_of_compose? hn))
    . obtain ⟨entry, hfound, rfl⟩ := Option.map_eq_some_iff.mp h
      have hentry := not_mem_compositions _ (List.mem_of_find?_eq_some hfound)
      simp only [List.mem_cons, not_or] at hentry
      exact ofNat_ne (by decide) (Ne.symm hentry.2.2.1)

theorem openingBrace_not_mem_normalize {cs : List Char} (h : '\x7b' ∉ cs) : '\x7b' ∉ normalize cs := by
  have hall : ∀ c ∈ cs, c ≠ '\x7b' := by
    rintro c hc rfl
    exact h hc
  intro hmem
  exact forall_mem_normalize ne_of_composition? (fun c => ne_of_mem_decompose) hall _ hmem rfl

end XmlBinding.Text
