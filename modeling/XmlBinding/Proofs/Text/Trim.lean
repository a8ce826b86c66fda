import Mathlib.Data.List.DropRight
import XmlBinding.Proofs.Text.Lines

/-!
This module contains what is left of texts and of their lines when the blanks at the ends are cut off.
-/

namespace XmlBinding.Text

variable {l a cs : List Char} {ls : List (List Char)}

theorem mem_dropWhile {α : Type} {p : α → Bool} {x : α} {xs : List α} (hmem : x ∈ xs) (h : p x = false)
    : x ∈ xs.dropWhile p := by
  rw [← List.takeWhile_append_dropWhile (p := p) (l := xs)] at hmem
  refine (List.mem_append.mp hmem).resolve_left fun htaken => ?_
  have := List.mem_takeWhile_imp htaken
  simp [h] at this

theorem isAllBlank_eq_false_iff : isAllBlank cs = false ↔ ∃ c ∈ cs, isBlank c = false := by
  unfold isAllBlank
  simp

theorem isAllBlank_of_isTrim (h : IsTrim l) : isAllBlank l = false := by
  obtain ⟨c, hc, hblank⟩ := h
  exact isAllBlank_eq_false_iff.mpr ⟨c, List.mem_of_getLast? hc, hblank⟩

theorem trimStart_eq_nil_iff : trimStart l = [] ↔ isAllBlank l = true := by
  unfold trimStart isAllBlank
  rw [List.dropWhile_eq_nil_iff]
  rw [List.all_eq_true]

theorem trimEnd_eq_nil_iff : trimEnd l = [] ↔ isAllBlank l = true := by
  have h : trimEnd l = [] ↔ ∀ c ∈ l, isBlank c = true := List.rdropWhile_eq_nil_iff
  rw [h]
  unfold isAllBlank
  rw [List.all_eq_true]

theorem trimStart_append (h : isAllBlank l = false) (cs : List Char) : trimStart (l ++ cs) = trimStart l ++ cs := by
  have hne : trimStart l ≠ [] := by
    rw [ne_eq]
    rw [trimStart_eq_nil_iff]
    simp [h]
  unfold trimStart at hne ⊢
  rw [List.dropWhile_append]
  rw [if_neg (by simpa using hne)]

theorem isAllBlank_trimStart (h : isAllBlank l = false) : isAllBlank (trimStart l) = false := by
  have hne : trimStart l ≠ [] := by
    rw [ne_eq]
    rw [trimStart_eq_nil_iff]
    simp [h]
  unfold trimStart at hne ⊢
  refine isAllBlank_eq_false_iff.mpr ⟨_, List.head_mem hne, ?_⟩
  simpa using List.head_dropWhile_not isBlank hne

theorem trimStart_append_of_isAllBlank (h : isAllBlank l = true) (cs : List Char)
    : trimStart (l ++ cs) = trimStart cs :=
  List.dropWhile_append_of_pos (List.all_eq_true.mp h)

theorem trimEnd_append (h : isAllBlank cs = false) (l : List Char) : trimEnd (l ++ cs) = l ++ trimEnd cs := by
  have hreverse : isAllBlank cs.reverse = false := by
    unfold isAllBlank
    rw [List.all_reverse]
    exact h
  have := trimStart_append hreverse l.reverse
  unfold trimStart at this
  unfold trimEnd
  rw [List.reverse_append]
  rw [this]
  rw [List.reverse_append]
  rw [List.reverse_reverse]

theorem isTrim_trimEnd (h : isAllBlank l = false) : IsTrim (trimEnd l) := by
  have hne : trimEnd l ≠ [] := by
    rw [ne_eq]
    rw [trimEnd_eq_nil_iff]
    simp [h]
  refine ⟨(trimEnd l).getLast hne, List.getLast?_eq_some_getLast hne, ?_⟩
  exact Bool.eq_false_iff.mpr (List.rdropWhile_last_not isBlank l hne)

theorem exists_trimEnd_cons {c : Char} (hc : isBlank c = false) (cs : List Char)
    : ∃ rest, trimEnd (c :: cs) = c :: rest := by
  have hblank : isAllBlank (c :: cs) = false := isAllBlank_eq_false_iff.mpr ⟨c, List.mem_cons_self, hc⟩
  obtain hnil | ⟨rest, hrest, -⟩ := List.prefix_cons_iff.mp (isPrefix_trimEnd (c :: cs))
  . exact absurd hnil (isTrim_trimEnd hblank).ne_nil
  . exact ⟨rest, hrest⟩

theorem isTrim_trim (h : isAllBlank cs = false) : IsTrim (trim cs) :=
  isTrim_trimEnd (isAllBlank_trimStart h)

theorem head?_trim (h : isAllBlank cs = false) : ∃ c ∈ (trim cs).head?, isBlank c = false := by
  unfold trim
  cases hstart : trimStart cs with
  | nil =>
    rw [trimStart_eq_nil_iff] at hstart
    simp [h] at hstart
  | cons c rest =>
    have hc : isBlank c = false := by
      unfold trimStart at hstart
      have := List.head_dropWhile_not isBlank (l := cs) (by simp [hstart])
      simpa [hstart] using this
    obtain ⟨kept, hkept⟩ := exists_trimEnd_cons hc rest
    rw [hkept]
    exact ⟨c, rfl, hc⟩

theorem getLast?_ne_of_isTrim (h : IsTrim l) {b : Char} (hb : isBlank b = true) : l.getLast? ≠ some b := by
  intro hlast
  obtain ⟨c, hc, hblank⟩ := h
  cases hlast.symm.trans hc
  simp [hb] at hblank

theorem getLast?_trimEnd_ne (l : List Char) {b : Char} (hb : isBlank b = true) : (trimEnd l).getLast? ≠ some b := by
  cases h : isAllBlank l with
  | true =>
    rw [trimEnd_eq_nil_iff.mpr h]
    simp
  | false => exact getLast?_ne_of_isTrim (isTrim_trimEnd h) hb

/-! ### Lines -/

theorem unlines_append {ms : List (List Char)} (hls : ls ≠ []) (hms : ms ≠ [])
    : unlines (ls ++ ms) = unlines ls ++ '\n' :: unlines ms := by
  induction ls with
  | nil => exact absurd rfl hls
  | cons l ls ih =>
    cases ls with
    | nil =>
      rw [List.singleton_append]
      rw [unlines_cons hms]
      rw [unlines_singleton]
    | cons l' ls =>
      rw [List.cons_append]
      rw [unlines_cons (by simp)]
      rw [unlines_cons (by simp)]
      rw [ih (by simp)]
      rw [List.append_assoc]
      rw [List.cons_append]

theorem exists_unlines_concat (ls : List (List Char)) : ∃ before, ∀ l, unlines (ls ++ [l]) = before ++ l := by
  cases ls with
  | nil => exact ⟨[], unlines_singleton⟩
  | cons first ls =>
    refine ⟨unlines (first :: ls) ++ ['\n'], fun l => ?_⟩
    rw [unlines_append (by simp) (by simp)]
    rw [unlines_singleton]
    rw [List.append_cons]

theorem isTrim_unlines (h : IsTrim l) (ls : List (List Char)) : IsTrim (unlines (ls ++ [l])) := by
  obtain ⟨before, hbefore⟩ := exists_unlines_concat ls
  rw [hbefore]
  exact h.append_left before

theorem trimEnd_unlines (h : isAllBlank l = false) (ls : List (List Char))
    : trimEnd (unlines (ls ++ [l])) = unlines (ls ++ [trimEnd l]) := by
  obtain ⟨before, hbefore⟩ := exists_unlines_concat ls
  rw [hbefore]
  rw [hbefore]
  exact trimEnd_append h before

theorem exists_lines_cons {c : Char} (hc : c ≠ '\n') (cs : List Char) : ∃ l ls, lines (c :: cs) = (c :: l) :: ls := by
  obtain ⟨l, ls, -, h⟩ := exists_cutAt_cons hc cs
  exact ⟨l, ls, h⟩

theorem exists_lines_concat (h : IsTrim cs) : ∃ ls l, lines cs = ls ++ [l] ∧ IsTrim l := by
  obtain ⟨before, l, rfl, hbefore, hl⟩ := exists_last_line cs
  obtain ⟨c, hc, hblank⟩ := h
  have hne : l ≠ [] := by
    rintro rfl
    rw [List.append_nil] at hc
    rcases hbefore with rfl | ⟨first, rfl⟩
    . cases hc
    . rw [List.getLast?_concat] at hc
      cases hc
      exact absurd hblank (by decide)
  rw [List.getLast?_append_of_ne_nil before hne] at hc
  rcases hbefore with rfl | ⟨first, rfl⟩
  . exact ⟨[], l, lines_of_not_mem hl, c, hc, hblank⟩
  . refine ⟨lines first, l, ?_, c, hc, hblank⟩
    rw [List.append_assoc]
    rw [List.singleton_append]
    rw [lines_append]
    rw [lines_of_not_mem hl]

theorem isBlock_unlines (hls : ls ≠ []) (before after : List (List Char))
    : IsBlock (unlines ls) (unlines (before ++ ls ++ after)) := by
  have hfirst : IsBlock (unlines ls) (unlines (before ++ ls)) := by
    cases before with
    | nil => exact ⟨[], [], by simp, .inl rfl, .inl rfl⟩
    | cons l before =>
      rw [unlines_append (by simp) hls]
      exact ⟨unlines (l :: before) ++ ['\n'], [], by simp, .inr ⟨_, rfl⟩, .inl rfl⟩
  apply hfirst.trans
  cases after with
  | nil => exact ⟨[], [], by simp, .inl rfl, .inl rfl⟩
  | cons l after =>
    have hne : before ++ ls ≠ [] := List.append_ne_nil_of_right_ne_nil before hls
    rw [unlines_append hne (List.cons_ne_nil l after)]
    exact ⟨[], _, rfl, .inl rfl, .inr ⟨_, rfl⟩⟩

/-- Trimming the start of a text drops its first lines as long as they are blank. -/
theorem exists_trimStart_unlines (h : ∀ l ∈ ls, isAllBlank l = false → trimStart l = l) (a : List Char)
    : ∃ last, trimStart (unlines (ls ++ [a])) = unlines (ls.dropWhile isAllBlank ++ [last]) ∧
        (last = a ∨ last = trimStart a) := by
  induction ls with
  | nil =>
    refine ⟨trimStart a, ?_, .inr rfl⟩
    rw [List.nil_append]
    rw [unlines_singleton]
    rw [List.dropWhile_nil]
    rw [List.nil_append]
    rw [unlines_singleton]
  | cons l ls ih =>
    rw [List.forall_mem_cons] at h
    have hcut : unlines (l :: ls ++ [a]) = l ++ '\n' :: unlines (ls ++ [a]) := unlines_cons (by simp) l
    cases hblank : isAllBlank l with
    | true =>
      rw [hcut]
      rw [trimStart_append_of_isAllBlank hblank]
      rw [List.dropWhile_cons_of_pos hblank]
      exact ih h.2
    | false =>
      refine ⟨a, ?_, .inl rfl⟩
      rw [List.dropWhile_cons_of_neg (by simp [hblank])]
      rw [hcut]
      rw [trimStart_append hblank]
      rw [h.1 hblank]

end XmlBinding.Text
