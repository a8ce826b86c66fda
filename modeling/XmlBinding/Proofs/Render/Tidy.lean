import XmlBinding.Proofs.Render.Layout

/-!
This module contains what the clean-up of source text leaves: the lines with something on them, in their order and
without the blanks at their ends, at most two empty lines between two of them, and one line feed at the end. A text of
this form is left as it is.
-/

namespace XmlBinding.Render

open Text

/-- The lines with something on them. -/
def filled (ls : List (List Char)) : List (List Char) :=
  ls.filter fun l => !isAllBlank l

/-- Three blank lines in a row. -/
def HasWideGap (ls : List (List Char)) : Prop :=
  ∃ a b c, [a, b, c] <:+: ls ∧ isAllBlank a = true ∧ isAllBlank b = true ∧ isAllBlank c = true

/-- Lines without blanks at their ends, with no wide gap. -/
structure AreTidy (ls : List (List Char)) : Prop where
  trimmed : ∀ l ∈ ls, trimEnd l = l
  gaps : ¬[[], [], []] <:+: ls

/-- Lines without the empty ones in front of the others and behind them. -/
def inner (ls : List (List Char)) : List (List Char) :=
  (ls.dropWhile List.isEmpty).rdropWhile List.isEmpty

variable {l cs : List Char} {ls : List (List Char)}

/-! ### Lines -/

theorem trimEnd_trimEnd (l : List Char) : trimEnd (trimEnd l) = trimEnd l := by
  cases h : isAllBlank l with
  | true =>
    rw [trimEnd_eq_nil_iff.mpr h]
    rfl
  | false => exact (isTrim_trimEnd h).trimEnd_eq

theorem filled_tidyLines (empties : Nat) (ls : List (List Char))
    : filled (tidyLines empties ls) = (filled ls).map trimEnd := by
  induction ls generalizing empties with
  | nil => rfl
  | cons l ls ih =>
    unfold filled at ih ⊢
    cases h : isAllBlank l with
    | true =>
      have hnil : trimEnd l = [] := trimEnd_eq_nil_iff.mpr h
      rw [tidyLines]
      rw [if_pos (List.isEmpty_iff.mpr hnil)]
      rw [hnil]
      rw [List.filter_cons_of_neg (by simp [h])]
      split
      . rw [List.filter_cons_of_neg (by decide)]
        exact ih _
      . exact ih _
    | false =>
      have hkept : isAllBlank (trimEnd l) = false := isAllBlank_of_isTrim (isTrim_trimEnd h)
      rw [tidyLines_cons h]
      rw [List.filter_cons_of_pos (by simp [hkept])]
      rw [List.filter_cons_of_pos (by simp [h])]
      rw [List.map_cons]
      rw [ih]

theorem trimmed_tidyLines (empties : Nat) (h : l ∈ tidyLines empties ls) : trimEnd l = l := by
  obtain ⟨first, -, rfl⟩ := exists_of_mem_tidyLines h
  exact trimEnd_trimEnd first

/-- A line with something on it parts what is in front of it from what is behind it. -/
theorem gap_isInfix_append_iff {empties : Nat} (hempties : empties ≤ 2) (hl : l ≠ [])
    : [[], [], []] <:+: List.replicate empties [] ++ l :: ls ↔ [[], [], []] <:+: ls := by
  have hl : ([] : List Char) ≠ l := Ne.symm hl
  obtain rfl | rfl | rfl : empties = 0 ∨ empties = 1 ∨ empties = 2 := by omega
  . simp [List.infix_cons_iff, List.cons_prefix_cons, hl]
  . simp [List.infix_cons_iff, List.cons_prefix_cons, hl]
  . simp [List.infix_cons_iff, List.cons_prefix_cons, List.replicate_succ, hl]

/-- The invariant of the clean-up: with the empty lines that came just before, as far as they were kept, there are
never three in a row. -/
theorem gap_not_isInfix_tidyLines (empties : Nat) (ls : List (List Char))
    : ¬[[], [], []] <:+: List.replicate (min empties 2) [] ++ tidyLines empties ls := by
  induction ls generalizing empties with
  | nil =>
    intro h
    have hlength := h.length_le
    rw [tidyLines] at hlength
    rw [List.append_nil] at hlength
    rw [List.length_replicate] at hlength
    have hmost : min empties 2 ≤ 2 := Nat.min_le_right empties 2
    exact absurd (Nat.le_trans hlength hmost) (by decide)
  | cons l ls ih =>
    rw [tidyLines]
    split
    . next hempty =>
      split
      . next hfew =>
        have hnext : min (empties + 1) 2 = min empties 2 + 1 := by omega
        have := ih (empties + 1)
        rw [hnext] at this
        rw [List.replicate_succ'] at this
        rw [List.isEmpty_iff.mp hempty]
        simpa using this
      . next hmany =>
        have hnext : min (empties + 1) 2 = min empties 2 := by omega
        have := ih (empties + 1)
        rwa [hnext] at this
    . next hfilled =>
      rw [gap_isInfix_append_iff (by omega) (by simpa using hfilled)]
      exact ih 0

theorem areTidy_tidyLines (ls : List (List Char)) : AreTidy (tidyLines 0 ls) where
  trimmed _ := trimmed_tidyLines 0
  gaps := gap_not_isInfix_tidyLines 0 ls

/-- The other direction: where there are never three in a row, none is dropped. -/
theorem tidyLines_eq_self_of_gap (htrimmed : ∀ l ∈ ls, trimEnd l = l) (empties : Nat)
    (hgap : ¬[[], [], []] <:+: List.replicate (min empties 2) [] ++ ls)
    : tidyLines empties ls = ls := by
  induction ls generalizing empties with
  | nil => rfl
  | cons l ls ih =>
    rw [List.forall_mem_cons] at htrimmed
    rw [tidyLines]
    rw [htrimmed.1]
    split
    . next hempty =>
      have hnil : l = [] := List.isEmpty_iff.mp hempty
      subst hnil
      have hfew : empties < 2 := by
        refine Nat.lt_of_not_le fun hmany => hgap ?_
        rw [Nat.min_eq_right hmany]
        exact ⟨[], ls, rfl⟩
      have hnext : min (empties + 1) 2 = min empties 2 + 1 := by omega
      rw [if_pos hfew]
      rw [ih htrimmed.2]
      rw [hnext]
      rw [List.replicate_succ']
      simpa using hgap
    . next hfilled =>
      rw [gap_isInfix_append_iff (by omega) (by simpa using hfilled)] at hgap
      rw [ih htrimmed.2 0 hgap]

theorem AreTidy.tidyLines_eq (h : AreTidy ls) : tidyLines 0 ls = ls :=
  tidyLines_eq_self_of_gap h.trimmed 0 h.gaps

theorem AreTidy.of_isInfix {part : List (List Char)} (h : AreTidy ls) (hpart : part <:+: ls) : AreTidy part where
  trimmed l hl := h.trimmed l (hpart.subset hl)
  gaps hgap := h.gaps (hgap.trans hpart)

/-- In tidy lines the blank ones are empty. -/
theorem AreTidy.not_hasWideGap (h : AreTidy ls) : ¬HasWideGap ls := by
  rintro ⟨a, b, c, hrow, ha, hb, hc⟩
  have hempty {l : List Char} (hl : l ∈ [a, b, c]) (hblank : isAllBlank l = true) : l = [] := by
    rw [← h.trimmed l (hrow.subset hl)]
    exact trimEnd_eq_nil_iff.mpr hblank
  rw [hempty (by simp) ha] at hrow
  rw [hempty (by simp) hb] at hrow
  rw [hempty (by simp) hc] at hrow
  exact h.gaps hrow

/-! ### Empty lines at the ends -/

theorem inner_isInfix (ls : List (List Char)) : inner ls <:+: ls :=
  (List.rdropWhile_prefix _ _).isInfix.trans (List.dropWhile_suffix _).isInfix

theorem head?_inner (h : l ∈ (inner ls).head?) : l ≠ [] := by
  obtain ⟨rest, hrest⟩ := List.rdropWhile_prefix List.isEmpty (ls.dropWhile List.isEmpty)
  obtain ⟨behind, hinner⟩ := List.head?_eq_some_iff.mp h
  unfold inner at hinner
  rw [hinner] at hrest
  have hne : ls.dropWhile List.isEmpty ≠ [] := by
    rw [← hrest]
    simp
  have := List.head_dropWhile_not List.isEmpty hne
  simp only [← hrest] at this
  simpa using this

theorem getLast?_inner (h : l ∈ (inner ls).getLast?) : l ≠ [] := by
  obtain ⟨before, hinner⟩ := List.getLast?_eq_some_iff.mp h
  have hne : inner ls ≠ [] := by
    rw [hinner]
    simp
  have := List.rdropWhile_last_not List.isEmpty (ls.dropWhile List.isEmpty) hne
  unfold inner at hinner
  simp only [hinner] at this
  simpa using this

theorem filter_dropWhile {α : Type} {p q : α → Bool} (h : ∀ x, p x = true → q x = false) (xs : List α)
    : (xs.dropWhile p).filter q = xs.filter q := by
  have htaken : (xs.takeWhile p).filter q = [] := by
    apply List.filter_eq_nil_iff.mpr
    intro x hx
    simp [h x (List.mem_takeWhile_imp hx)]
  conv_rhs => rw [← List.takeWhile_append_dropWhile (p := p) (l := xs)]
  rw [List.filter_append]
  rw [htaken]
  rfl

theorem filled_inner (ls : List (List Char)) : filled (inner ls) = filled ls := by
  have hempty : ∀ l : List Char, l.isEmpty = true → (!isAllBlank l) = false := by
    intro l hl
    rw [List.isEmpty_iff.mp hl]
    rfl
  unfold filled inner List.rdropWhile
  rw [List.filter_reverse]
  rw [filter_dropWhile hempty]
  rw [List.filter_reverse]
  rw [List.reverse_reverse]
  rw [filter_dropWhile hempty]

theorem inner_eq_self (hhead : ∀ l ∈ ls.head?, l ≠ []) (hlast : ∀ l ∈ ls.getLast?, l ≠ []) : inner ls = ls := by
  have hfirst : ls.dropWhile List.isEmpty = ls := by
    cases ls with
    | nil => rfl
    | cons l ls => exact List.dropWhile_cons_of_neg (by simpa using hhead l rfl)
  unfold inner
  rw [hfirst]
  rw [List.rdropWhile_eq_self_iff]
  intro hne
  simpa using hlast _ (List.getLast?_eq_some_getLast hne)

theorem inner_concat_empty (ls : List (List Char)) : inner (ls ++ [[]]) = inner ls := by
  unfold inner
  rw [List.dropWhile_append]
  split
  . next h =>
    rw [List.isEmpty_iff.mp h]
    rfl
  . exact List.rdropWhile_concat_pos _ _ _ rfl

/-! ### Line feeds at the ends -/

theorem dropBreaks_unlines (h : ∀ l ∈ ls, '\n' ∉ l)
    : (unlines ls).dropWhile (· == '\n') = unlines (ls.dropWhile List.isEmpty) := by
  induction ls with
  | nil => rfl
  | cons l ls ih =>
    rw [List.forall_mem_cons] at h
    cases l with
    | nil =>
      rw [List.dropWhile_cons_of_pos rfl]
      rw [← ih h.2]
      cases ls with
      | nil => rfl
      | cons l' ls =>
        rw [unlines_cons (by simp)]
        rfl
    | cons c l =>
      have hc : c ≠ '\n' := by
        rintro rfl
        exact h.1 List.mem_cons_self
      rw [unlines_cons_cons]
      rw [List.dropWhile_cons_of_neg (by simpa using hc)]
      rw [List.dropWhile_cons_of_neg (by simp)]
      rw [unlines_cons_cons]

theorem reverse_unlines (ls : List (List Char)) : (unlines ls).reverse = unlines (ls.map List.reverse).reverse := by
  induction ls with
  | nil => rfl
  | cons l ls ih =>
    cases ls with
    | nil => simp [unlines_singleton]
    | cons l' ls =>
      rw [unlines_cons (by simp)]
      rw [List.map_cons]
      rw [List.reverse_cons]
      rw [unlines_append (by simp) (by simp)]
      rw [← ih]
      rw [unlines_singleton]
      simp

theorem trimBreaks_unlines (h : ∀ l ∈ ls, '\n' ∉ l) : trimBreaks (unlines ls) = unlines (inner ls) := by
  have hrest : ∀ l ∈ ((ls.dropWhile List.isEmpty).map List.reverse).reverse, '\n' ∉ l := by
    intro l hl
    rw [List.mem_reverse] at hl
    obtain ⟨first, hfirst, rfl⟩ := List.mem_map.mp hl
    rw [List.mem_reverse]
    exact h first ((List.dropWhile_suffix _).subset hfirst)
  have hisEmpty : List.isEmpty ∘ List.reverse = (List.isEmpty : List Char → Bool) := by
    funext l
    simp
  unfold trimBreaks inner List.rdropWhile
  rw [dropBreaks_unlines h]
  rw [reverse_unlines]
  rw [dropBreaks_unlines hrest]
  rw [reverse_unlines]
  simp only [← List.map_reverse, List.dropWhile_map, hisEmpty, List.map_map]
  simp

/-! ### Texts -/

/-- Lines that are tidy, the first and the last of them not empty. -/
structure IsLaidOut (ls : List (List Char)) : Prop extends AreTidy ls where
  head : ∀ l ∈ ls.head?, l ≠ []
  last : ∀ l ∈ ls.getLast?, l ≠ []

theorem AreTidy.isLaidOut_inner (h : AreTidy ls) : IsLaidOut (inner ls) where
  toAreTidy := h.of_isInfix (inner_isInfix ls)
  head _ := head?_inner
  last _ := getLast?_inner

namespace IsLaidOut

theorem isTrim_of_ne_nil (h : IsLaidOut ls) (hl : l ∈ ls) (hne : l ≠ []) : IsTrim l := by
  cases hblank : isAllBlank l with
  | true =>
    rw [← trimEnd_eq_nil_iff] at hblank
    rw [h.trimmed l hl] at hblank
    exact absurd hblank hne
  | false =>
    rw [← h.trimmed l hl]
    exact isTrim_trimEnd hblank

theorem head_not_blank (h : IsLaidOut ls) (hl : l ∈ ls.head?) : isAllBlank l = false :=
  isAllBlank_of_isTrim (h.isTrim_of_ne_nil (List.mem_of_mem_head? hl) (h.head l hl))

theorem last_not_blank (h : IsLaidOut ls) (hl : l ∈ ls.getLast?) : isAllBlank l = false :=
  isAllBlank_of_isTrim (h.isTrim_of_ne_nil (List.mem_of_mem_getLast? hl) (h.last l hl))

theorem eq_nil_iff (h : IsLaidOut ls) : ls = [] ↔ filled ls = [] := by
  constructor
  . rintro rfl
    rfl
  . intro hfilled
    cases ls with
    | nil => rfl
    | cons l ls =>
      have := List.filter_eq_nil_iff.mp hfilled l List.mem_cons_self
      simp [h.head_not_blank rfl] at this

/-- The empty line behind the line feed at the end makes no wide gap. -/
theorem areTidy_concat_empty (h : IsLaidOut ls) : AreTidy (ls ++ [[]]) where
  trimmed l hl := by
    cases List.mem_append.mp hl with
    | inl hmem => exact h.trimmed l hmem
    | inr hmem =>
      rw [List.mem_singleton.mp hmem]
      rfl
  gaps hgap := by
    cases List.infix_concat_iff.mp hgap with
    | inl hsuffix =>
      obtain ⟨before, hbefore⟩ := hsuffix
      have hls : ls = before ++ [[], []] := by
        have hconcat : before ++ [[], []] ++ [[]] = ls ++ [[]] := by simpa using hbefore
        exact (List.append_cancel_right hconcat).symm
      exact h.last [] (by simp [hls]) rfl
    | inr hrow => exact h.gaps hrow

theorem getLast?_unlines (h : IsLaidOut ls) : (unlines ls).getLast? ≠ some '\n' := by
  cases List.eq_nil_or_concat ls with
  | inl hnil =>
    rw [hnil]
    simp [unlines]
  | inr hconcat =>
    obtain ⟨before, l, rfl⟩ := hconcat
    rw [List.concat_eq_append] at h ⊢
    have hl : l ∈ (before ++ [l]).getLast? := by simp
    have htrim := h.isTrim_of_ne_nil (List.mem_of_mem_getLast? hl) (h.last l hl)
    exact getLast?_ne_of_isTrim (isTrim_unlines htrim before) (by decide)

end IsLaidOut

/-- The lines that the clean-up leaves, without the empty one behind the line feed at the end. -/
def tidied (cs : List Char) : List (List Char) :=
  inner (tidyLines 0 (lines cs))

theorem isLaidOut_tidied (cs : List Char) : IsLaidOut (tidied cs) :=
  (areTidy_tidyLines (lines cs)).isLaidOut_inner

theorem filled_tidied (cs : List Char) : filled (tidied cs) = (filled (lines cs)).map trimEnd := by
  unfold tidied
  rw [filled_inner]
  exact filled_tidyLines 0 (lines cs)

theorem lineFeed_not_mem_of_mem_tidied (h : l ∈ tidied cs) : '\n' ∉ l :=
  lineFeed_not_mem_of_mem_tidyLines ((inner_isInfix _).subset h)

theorem tidy_eq (cs : List Char) : tidy cs = unlines (tidied cs) ++ ['\n'] := by
  unfold tidy tidied
  rw [trimBreaks_unlines fun l hl => lineFeed_not_mem_of_mem_tidyLines hl]

theorem lines_unlines_tidied (h : tidied cs ≠ []) : lines (unlines (tidied cs)) = tidied cs :=
  lines_unlines h fun _ => lineFeed_not_mem_of_mem_tidied

theorem lines_tidy (h : tidied cs ≠ []) : lines (tidy cs) = tidied cs ++ [[]] := by
  rw [tidy_eq]
  rw [lines_append]
  rw [lines_unlines_tidied h]
  rfl

theorem tidied_tidy (cs : List Char) : tidied (tidy cs) = tidied cs := by
  have h := isLaidOut_tidied cs
  by_cases hnil : tidied cs = []
  . rw [tidy_eq]
    rw [hnil]
    rfl
  . have hlines : tidied (tidy cs) = inner (tidyLines 0 (tidied cs ++ [[]])) := by
      rw [← lines_tidy hnil]
      rfl
    rw [hlines]
    rw [h.areTidy_concat_empty.tidyLines_eq]
    rw [inner_concat_empty]
    exact inner_eq_self h.head h.last

theorem tidy_tidy (cs : List Char) : tidy (tidy cs) = tidy cs := by
  rw [tidy_eq (tidy cs)]
  rw [tidied_tidy]
  rw [← tidy_eq]

/-! ### The clean-up -/

/-- What a text is after the clean-up, said of the lines of both. -/
structure IsTidyOf (before after : List Char) : Prop where
  /-- Of the lines with something on them nothing but the blanks at their ends is lost. -/
  filled_eq : filled (lines after) = (filled (lines before)).map trimEnd
  gaps : ¬HasWideGap (lines after)
  ending : ∃ body, after = body ++ ['\n'] ∧ body.getLast? ≠ some '\n'
  edges : (∃ l ∈ lines before, isAllBlank l = false) →
    ∀ l, l ∈ (lines after.dropLast).head? ∨ l ∈ (lines after.dropLast).getLast? → isAllBlank l = false
  blank : (∀ l ∈ lines before, isAllBlank l = true) → after = ['\n']

theorem tidied_eq_nil_iff : tidied cs = [] ↔ ∀ l ∈ lines cs, isAllBlank l = true := by
  rw [(isLaidOut_tidied cs).eq_nil_iff]
  rw [filled_tidied]
  rw [List.map_eq_nil_iff]
  unfold filled
  rw [List.filter_eq_nil_iff]
  simp

/-- A text without anything on its lines becomes one line feed. -/
theorem isTidyOf_of_tidied_eq_nil (hnil : tidied cs = []) : IsTidyOf cs (tidy cs) := by
  have hbreak : tidy cs = ['\n'] := by
    rw [tidy_eq]
    rw [hnil]
    rfl
  have hblank := tidied_eq_nil_iff.mp hnil
  have hfilled := filled_tidied cs
  rw [hnil] at hfilled
  rw [hbreak]
  constructor
  . exact hfilled
  . rintro ⟨a, b, c, hrow, -⟩
    have hlength := hrow.length_le
    simp [lines, cutAt, cutWhen] at hlength
  . exact ⟨[], rfl, by simp⟩
  . rintro ⟨l, hl, hfalse⟩
    simp [hblank l hl] at hfalse
  . exact fun _ => rfl

theorem isTidyOf_tidy (cs : List Char) : IsTidyOf cs (tidy cs) := by
  by_cases hnil : tidied cs = []
  . exact isTidyOf_of_tidied_eq_nil hnil
  . have h := isLaidOut_tidied cs
    constructor
    . rw [lines_tidy hnil]
      unfold filled
      rw [List.filter_append]
      rw [List.filter_cons_of_neg (by decide)]
      rw [List.filter_nil]
      rw [List.append_nil]
      exact filled_tidied cs
    . rw [lines_tidy hnil]
      exact h.areTidy_concat_empty.not_hasWideGap
    . exact ⟨_, tidy_eq cs, h.getLast?_unlines⟩
    . intro _ l hl
      rw [tidy_eq] at hl
      rw [List.dropLast_concat] at hl
      rw [lines_unlines_tidied hnil] at hl
      exact hl.elim h.head_not_blank h.last_not_blank
    . intro hblank
      exact absurd (tidied_eq_nil_iff.mpr hblank) hnil

/-- The clean-up takes away nothing but blanks, and a second one takes away nothing more. -/
theorem isTidyOf_formatCode (s : String)
    : IsTidyOf s.toList (formatCode s).toList ∧ formatCode (formatCode s) = formatCode s := by
  unfold formatCode
  rw [String.toList_ofList]
  rw [tidy_tidy]
  exact ⟨isTidyOf_tidy s.toList, rfl⟩

example : formatCode "\n\u3000\n  a = 1 \r\n\t\n\n\n\nb\x0c\n " = "  a = 1\n\n\nb\n" := by decide

end XmlBinding.Render
