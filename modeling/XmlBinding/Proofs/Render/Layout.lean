import XmlBinding.Proofs.Text.Trim
import XmlBinding.Render.Layout

/-!
This module contains that the clean-up of source text keeps every line that has something on it and does not end in
blanks.
-/

namespace XmlBinding.Render

open Text

variable {l cs part : List Char} {ls : List (List Char)}

/-! ### Lines that are tidied -/

theorem tidyLines_cons (h : isAllBlank l = false) (empties : Nat) (ls : List (List Char))
    : tidyLines empties (l :: ls) = trimEnd l :: tidyLines 0 ls := by
  have hne : trimEnd l ≠ [] := (isTrim_trimEnd h).ne_nil
  rw [tidyLines]
  rw [if_neg (by simpa using hne)]

/-- How many empty lines came just before matters for empty lines only. -/
theorem exists_tidyLines_append (empties : Nat) (ls ms : List (List Char))
    : ∃ n, tidyLines empties (ls ++ ms) = tidyLines empties ls ++ tidyLines n ms := by
  induction ls generalizing empties with
  | nil => exact ⟨empties, rfl⟩
  | cons l ls ih =>
    rw [List.cons_append]
    rw [tidyLines]
    rw [tidyLines]
    split
    . obtain ⟨n, hn⟩ := ih (empties + 1)
      rw [hn]
      split
      . exact ⟨n, rfl⟩
      . exact ⟨n, rfl⟩
    . obtain ⟨n, hn⟩ := ih 0
      rw [hn]
      exact ⟨n, rfl⟩

theorem tidyLines_concat (hl : IsTrim l) (empties : Nat) (ls : List (List Char))
    : tidyLines empties (ls ++ [l]) = tidyLines empties ls ++ [l] := by
  obtain ⟨n, hn⟩ := exists_tidyLines_append empties ls [l]
  rw [hn]
  rw [tidyLines_cons (isAllBlank_of_isTrim hl)]
  rw [hl.trimEnd_eq]
  rw [tidyLines]

theorem exists_tidyLines_lines {c : Char} (hc : isBlank c = false) (cs : List Char)
    : ∃ l ls, ∀ empties, tidyLines empties (lines (c :: cs)) = (c :: l) :: ls := by
  have hfeed : c ≠ '\n' := by
    rintro rfl
    exact absurd hc (by decide)
  obtain ⟨l, ls, hlines⟩ := exists_lines_cons hfeed cs
  have hblank : isAllBlank (c :: l) = false := isAllBlank_eq_false_iff.mpr ⟨c, List.mem_cons_self, hc⟩
  obtain ⟨rest, hrest⟩ := exists_trimEnd_cons hc l
  refine ⟨rest, tidyLines 0 ls, fun empties => ?_⟩
  rw [hlines]
  rw [tidyLines_cons hblank]
  rw [hrest]

theorem trimEnd_mem_tidyLines (h : l ∈ ls) (hl : isAllBlank l = false) (empties : Nat)
    : trimEnd l ∈ tidyLines empties ls := by
  obtain ⟨before, after, rfl⟩ := List.append_of_mem h
  obtain ⟨n, hn⟩ := exists_tidyLines_append empties before (l :: after)
  rw [hn]
  rw [tidyLines_cons hl]
  exact List.mem_append_right _ List.mem_cons_self

theorem mem_tidyLines (h : l ∈ ls) (hl : IsTrim l) (empties : Nat) : l ∈ tidyLines empties ls := by
  have := trimEnd_mem_tidyLines h (isAllBlank_of_isTrim hl) empties
  rwa [hl.trimEnd_eq] at this

theorem exists_of_mem_tidyLines {empties : Nat} (h : l ∈ tidyLines empties ls) : ∃ first ∈ ls, l = trimEnd first := by
  induction ls generalizing empties with
  | nil => cases h
  | cons first ls ih =>
    have hrest : ∀ {n : Nat}, l ∈ tidyLines n ls → ∃ other ∈ first :: ls, l = trimEnd other := by
      intro n hmem
      obtain ⟨other, hother, heq⟩ := ih hmem
      exact ⟨other, List.mem_cons_of_mem first hother, heq⟩
    have hfirst : l = trimEnd first → ∃ other ∈ first :: ls, l = trimEnd other :=
      fun heq => ⟨first, List.mem_cons_self, heq⟩
    rw [tidyLines] at h
    split at h
    . split at h
      . exact (List.mem_cons.mp h).elim hfirst hrest
      . exact hrest h
    . exact (List.mem_cons.mp h).elim hfirst hrest

theorem lineFeed_not_mem_of_mem_tidyLines {empties : Nat} (h : l ∈ tidyLines empties (lines cs)) : '\n' ∉ l := by
  obtain ⟨first, hfirst, rfl⟩ := exists_of_mem_tidyLines h
  intro hmem
  exact lineFeed_not_mem_of_mem_lines hfirst ((isPrefix_trimEnd first).subset hmem)

/-- The first line stays, even if it is empty. -/
theorem tidyLines_ne_nil (h : ls ≠ []) : tidyLines 0 ls ≠ [] := by
  cases ls with
  | nil => exact absurd rfl h
  | cons first ls =>
    rw [tidyLines]
    split
    . rw [if_pos (by decide)]
      simp
    . simp

/-! ### Texts that are tidied -/

theorem endsLine_dropBreaks {before : List Char} (h : EndsLine before) : EndsLine (before.dropWhile (· == '\n')) := by
  obtain ⟨dropped, hdropped⟩ := List.dropWhile_suffix (l := before) (· == '\n')
  rcases List.eq_nil_or_concat (before.dropWhile (· == '\n')) with hnil | ⟨kept, c, hc⟩
  . exact .inl hnil
  . rcases h with rfl | ⟨first, hfirst⟩
    . exact .inl rfl
    . refine .inr ⟨kept, ?_⟩
      rw [hc] at hdropped
      rw [List.concat_eq_append] at hdropped hc
      rw [← hdropped] at hfirst
      rw [← List.append_assoc] at hfirst
      rw [hc]
      rw [(List.append_inj' hfirst rfl).2]

theorem isBlock_dropBreaks (h : IsBlock part cs) (hfirst : ∃ c ∈ part.head?, c ≠ '\n')
    : IsBlock part (cs.dropWhile (· == '\n')) := by
  obtain ⟨before, after, rfl, hbefore, hafter⟩ := h
  have hkept : (part ++ after).dropWhile (· == '\n') = part ++ after := by
    obtain ⟨c, hc, hfeed⟩ := hfirst
    obtain ⟨rest, rfl⟩ := List.head?_eq_some_iff.mp hc
    exact List.dropWhile_cons_of_neg (by simpa using hfeed)
  rw [List.append_assoc]
  rw [List.dropWhile_append]
  split
  . rw [hkept]
    exact ⟨[], after, rfl, .inl rfl, hafter⟩
  . exact ⟨_, after, by rw [List.append_assoc], endsLine_dropBreaks hbefore, hafter⟩

theorem isBlock_trimBreaks (h : IsBlock part cs) (hfirst : ∃ c ∈ part.head?, c ≠ '\n')
    (hlast : ∃ c ∈ part.getLast?, c ≠ '\n')
    : IsBlock part (trimBreaks cs) := by
  rw [← List.head?_reverse] at hlast
  have := (isBlock_dropBreaks (isBlock_dropBreaks h hfirst).reverse hlast).reverse
  rwa [List.reverse_reverse] at this

theorem mem_lines_trimBreaks (h : l ∈ lines cs) (hne : l ≠ []) : l ∈ lines (trimBreaks cs) := by
  obtain ⟨hfeed, hblock⟩ := mem_lines_iff.mp h
  have hall : ∀ c ∈ l, c ≠ '\n' := by
    rintro c hc rfl
    exact hfeed hc
  refine mem_lines_iff.mpr ⟨hfeed, isBlock_trimBreaks hblock ?_ ?_⟩
  . exact ⟨l.head hne, List.head?_eq_some_head hne, hall _ (List.head_mem hne)⟩
  . exact ⟨l.getLast hne, List.getLast?_eq_some_getLast hne, hall _ (List.getLast_mem hne)⟩

theorem mem_lines_tidy (h : l ∈ lines cs) (hl : IsTrim l) : l ∈ lines (tidy cs) := by
  have htidied : l ∈ lines (unlines (tidyLines 0 (lines cs))) := by
    rw [lines_unlines]
    . exact mem_tidyLines h hl 0
    . exact tidyLines_ne_nil (lines_ne_nil cs)
    . intro other hother
      exact lineFeed_not_mem_of_mem_tidyLines hother
  unfold tidy
  rw [lines_append]
  exact List.mem_append_left _ (mem_lines_trimBreaks htidied hl.ne_nil)

theorem isBlock_unlines_tidyLines (h : IsBlock part cs) (hfirst : ∃ c ∈ part.head?, isBlank c = false)
    : IsBlock (unlines (tidyLines 0 (lines part))) (unlines (tidyLines 0 (lines cs))) := by
  obtain ⟨c, hc, hblank⟩ := hfirst
  obtain ⟨rest, rfl⟩ := List.head?_eq_some_iff.mp hc
  obtain ⟨l, ls, htidied⟩ := exists_tidyLines_lines hblank rest
  obtain ⟨before, after, hlines⟩ := h.lines_isInfix
  obtain ⟨n, hn⟩ := exists_tidyLines_append 0 (before ++ lines (c :: rest)) after
  obtain ⟨m, hm⟩ := exists_tidyLines_append 0 before (lines (c :: rest))
  rw [← hlines]
  rw [hn]
  rw [hm]
  rw [htidied]
  rw [htidied]
  exact isBlock_unlines (List.cons_ne_nil _ _) _ _

theorem isTrim_unlines_tidyLines (h : IsTrim cs) : IsTrim (unlines (tidyLines 0 (lines cs))) := by
  obtain ⟨ls, l, hls, hl⟩ := exists_lines_concat h
  rw [hls]
  rw [tidyLines_concat hl]
  exact isTrim_unlines hl (tidyLines 0 ls)

/-- The clean-up keeps a part together that starts and ends where lines do, and has no blanks at its ends. -/
theorem isBlock_tidy (h : IsBlock part cs) (hfirst : ∃ c ∈ part.head?, isBlank c = false) (hlast : IsTrim part)
    : IsBlock (unlines (tidyLines 0 (lines part))) (tidy cs) := by
  have hfeed : ∀ {c : Char}, isBlank c = false → c ≠ '\n' := by
    rintro c hc rfl
    exact absurd hc (by decide)
  have htrimmed : IsBlock (unlines (tidyLines 0 (lines part))) (trimBreaks (unlines (tidyLines 0 (lines cs)))) := by
    apply isBlock_trimBreaks (isBlock_unlines_tidyLines h hfirst)
    . obtain ⟨c, hc, hblank⟩ := hfirst
      obtain ⟨rest, rfl⟩ := List.head?_eq_some_iff.mp hc
      obtain ⟨l, ls, htidied⟩ := exists_tidyLines_lines hblank rest
      rw [htidied]
      rw [unlines_cons_cons]
      exact ⟨c, rfl, hfeed hblank⟩
    . obtain ⟨c, hc, hblank⟩ := isTrim_unlines_tidyLines hlast
      exact ⟨c, hc, hfeed hblank⟩
  exact htrimmed.trans ⟨[], ['\n'], rfl, .inl rfl, .inr ⟨[], rfl⟩⟩

end XmlBinding.Render
