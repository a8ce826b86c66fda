import XmlBinding.Proofs.Text.Cut

/-!
This module contains which lines a text has, and that trimming the text leaves all lines alone that do not end in
blanks.
-/

namespace XmlBinding.Text

/-! ### Lines -/

/-- A text in front of a line: nothing, or other lines. -/
def EndsLine (cs : List Char) : Prop :=
  cs = [] ∨ ∃ before, cs = before ++ ['\n']

/-- A text behind a line: nothing, or other lines. -/
def StartsLine (cs : List Char) : Prop :=
  cs = [] ∨ ∃ after, cs = '\n' :: after

/-- A part of a text that starts and ends where lines do. -/
def IsBlock (part cs : List Char) : Prop :=
  ∃ before after, cs = before ++ part ++ after ∧ EndsLine before ∧ StartsLine after

variable {l cs ds part : List Char}

theorem lines_of_not_mem (h : '\n' ∉ cs) : lines cs = [cs] :=
  cutAt_of_not_mem h

theorem lines_append (cs ds : List Char) : lines (cs ++ '\n' :: ds) = lines cs ++ lines ds :=
  cutAt_append '\n' cs ds

theorem lines_ne_nil (cs : List Char) : lines cs ≠ [] :=
  cutWhen_ne_nil _ cs

theorem lineFeed_not_mem_of_mem_lines (h : l ∈ lines cs) : '\n' ∉ l :=
  not_mem_of_mem_cutAt h

theorem endsLine_reverse : EndsLine cs.reverse ↔ StartsLine cs := by
  unfold EndsLine StartsLine
  rw [List.reverse_eq_nil_iff]
  constructor
  . rintro (rfl | ⟨before, h⟩)
    . exact .inl rfl
    . exact .inr ⟨before.reverse, by simpa using congrArg List.reverse h⟩
  . rintro (rfl | ⟨after, rfl⟩)
    . exact .inl rfl
    . exact .inr ⟨after.reverse, by simp⟩

theorem startsLine_reverse : StartsLine cs.reverse ↔ EndsLine cs := by
  rw [← endsLine_reverse]
  rw [List.reverse_reverse]

theorem IsBlock.lines_isInfix (h : IsBlock part cs) : lines part <:+: lines cs := by
  obtain ⟨before, after, rfl, hbefore, hafter⟩ := h
  have hfirst : lines part <:+: lines (before ++ part) := by
    rcases hbefore with rfl | ⟨first, rfl⟩
    . exact List.infix_rfl
    . rw [List.append_assoc]
      rw [List.singleton_append]
      rw [lines_append]
      exact (List.suffix_append _ _).isInfix
  rcases hafter with rfl | ⟨rest, rfl⟩
  . rwa [List.append_nil]
  . rw [lines_append]
    exact hfirst.trans (List.prefix_append _ _).isInfix

theorem IsBlock.mem_lines (h : IsBlock l cs) (hl : '\n' ∉ l) : l ∈ lines cs := by
  apply h.lines_isInfix.subset
  rw [lines_of_not_mem hl]
  exact List.mem_singleton_self l

theorem isBlock_of_mem_lines (h : l ∈ lines cs) : IsBlock l cs := by
  induction hn : cs.length using Nat.strongRecOn generalizing cs with
  | ind n ih =>
    by_cases hmem : '\n' ∈ cs
    . obtain ⟨first, rest, rfl, hfirst⟩ := List.eq_append_cons_of_mem hmem
      rw [lines_append] at h
      rw [lines_of_not_mem hfirst] at h
      cases List.mem_append.mp h with
      | inl hl =>
        rw [List.mem_singleton.mp hl]
        exact ⟨[], '\n' :: rest, by simp, .inl rfl, .inr ⟨rest, rfl⟩⟩
      | inr hl =>
        have hlt : rest.length < n := by
          rw [← hn]
          simp
          omega
        obtain ⟨before, after, rfl, hbefore, hafter⟩ := ih rest.length hlt hl rfl
        refine ⟨first ++ '\n' :: before, after, by simp, .inr ?_, hafter⟩
        rcases hbefore with rfl | ⟨other, rfl⟩
        . exact ⟨first, rfl⟩
        . exact ⟨first ++ '\n' :: other, by simp⟩
    . rw [lines_of_not_mem hmem] at h
      rw [List.mem_singleton.mp h]
      exact ⟨[], [], by simp, .inl rfl, .inl rfl⟩

theorem mem_lines_iff : l ∈ lines cs ↔ '\n' ∉ l ∧ IsBlock l cs := by
  constructor
  . intro h
    exact ⟨lineFeed_not_mem_of_mem_lines h, isBlock_of_mem_lines h⟩
  . rintro ⟨hl, hblock⟩
    exact hblock.mem_lines hl

theorem EndsLine.append {before : List Char} (hbefore : EndsLine before) (h : EndsLine cs)
    : EndsLine (before ++ cs) := by
  rcases h with rfl | ⟨first, rfl⟩
  . rwa [List.append_nil]
  . exact .inr ⟨before ++ first, by rw [List.append_assoc]⟩

theorem StartsLine.append {after : List Char} (h : StartsLine cs) (hafter : StartsLine after)
    : StartsLine (cs ++ after) := by
  rcases h with rfl | ⟨rest, rfl⟩
  . exact hafter
  . exact .inr ⟨rest ++ after, rfl⟩

theorem IsBlock.trans {whole : List Char} (hpart : IsBlock part cs) (h : IsBlock cs whole) : IsBlock part whole := by
  obtain ⟨first, last, rfl, hfirst, hlast⟩ := hpart
  obtain ⟨before, after, rfl, hbefore, hafter⟩ := h
  exact ⟨before ++ first, last ++ after, by simp only [List.append_assoc], hbefore.append hfirst, hlast.append hafter⟩

theorem IsBlock.reverse (h : IsBlock part cs) : IsBlock part.reverse cs.reverse := by
  obtain ⟨before, after, rfl, hbefore, hafter⟩ := h
  refine ⟨after.reverse, before.reverse, ?_, endsLine_reverse.mpr hafter, startsLine_reverse.mpr hbefore⟩
  simp only [List.reverse_append, List.append_assoc]

theorem unlines_singleton (l : List Char) : unlines [l] = l :=
  List.intercalate_singleton

theorem unlines_cons {ls : List (List Char)} (hne : ls ≠ []) (l : List Char)
    : unlines (l :: ls) = l ++ '\n' :: unlines ls := by
  unfold unlines
  rw [List.intercalate_cons_of_ne_nil hne]
  simp

theorem unlines_cons_cons (c : Char) (l : List Char) (ls : List (List Char))
    : unlines ((c :: l) :: ls) = c :: unlines (l :: ls) := by
  cases ls with
  | nil =>
    rw [unlines_singleton]
    rw [unlines_singleton]
  | cons l' ls =>
    have hne : l' :: ls ≠ [] := List.cons_ne_nil l' ls
    rw [unlines_cons hne]
    rw [unlines_cons hne]
    rfl

theorem lines_unlines {ls : List (List Char)} (hne : ls ≠ []) (h : ∀ l ∈ ls, '\n' ∉ l) : lines (unlines ls) = ls := by
  induction ls with
  | nil => exact absurd rfl hne
  | cons l ls ih =>
    rw [List.forall_mem_cons] at h
    cases ls with
    | nil =>
      rw [unlines_singleton]
      exact lines_of_not_mem h.1
    | cons l' ls =>
      rw [unlines_cons (by simp)]
      rw [lines_append]
      rw [lines_of_not_mem h.1]
      rw [ih (by simp) h.2]
      rfl

/-- The end of a text after its last line feed. -/
theorem exists_last_line (cs : List Char) : ∃ before l, cs = before ++ l ∧ EndsLine before ∧ '\n' ∉ l := by
  induction cs with
  | nil => exact ⟨[], [], rfl, .inl rfl, by simp⟩
  | cons c cs ih =>
    obtain ⟨before, l, rfl, hbefore, hl⟩ := ih
    rcases hbefore with rfl | ⟨first, rfl⟩
    . by_cases hc : c = '\n'
      . exact ⟨[c], l, rfl, .inr ⟨[], by rw [hc]; rfl⟩, hl⟩
      . refine ⟨[], c :: l, rfl, .inl rfl, ?_⟩
        rw [List.mem_cons]
        exact not_or.mpr ⟨Ne.symm hc, hl⟩
    . exact ⟨c :: (first ++ ['\n']), l, rfl, .inr ⟨c :: first, rfl⟩, hl⟩

theorem exists_mem_lines_append (cs : List Char) (hl : '\n' ∉ l) {after : List Char} (hafter : StartsLine after)
    : ∃ start, start ++ l ∈ lines (cs ++ l ++ after) := by
  obtain ⟨before, start, rfl, hbefore, hstart⟩ := exists_last_line cs
  refine ⟨start, ?_⟩
  rw [List.append_assoc before]
  apply IsBlock.mem_lines ⟨before, after, rfl, hbefore, hafter⟩
  rw [List.mem_append]
  exact not_or.mpr ⟨hstart, hl⟩

/-! ### Blanks at the ends of lines -/

/-- There is something on the line, and there are no blanks at its end. -/
def IsTrim (l : List Char) : Prop :=
  ∃ c ∈ l.getLast?, isBlank c = false

theorem IsTrim.ne_nil (h : IsTrim l) : l ≠ [] := by
  rintro rfl
  obtain ⟨c, hc, -⟩ := h
  cases hc

theorem IsTrim.append_left (h : IsTrim l) (before : List Char) : IsTrim (before ++ l) := by
  obtain ⟨c, hc, hblank⟩ := h
  refine ⟨c, ?_, hblank⟩
  rw [List.getLast?_append]
  rw [Option.mem_def.mp hc]
  rfl

theorem trimEnd_append_of_isTrim (h : IsTrim cs) (ds : List Char) : trimEnd (cs ++ ds) = cs ++ trimEnd ds := by
  obtain ⟨c, hc, hblank⟩ := h
  obtain ⟨before, rfl⟩ := List.getLast?_eq_some_iff.mp hc
  unfold trimEnd
  simp only [List.reverse_append, List.reverse_cons, List.reverse_nil, List.nil_append, List.singleton_append]
  rw [List.dropWhile_append]
  split
  . next hempty => simp [hblank, List.isEmpty_iff.mp hempty]
  . simp

theorem IsTrim.trimEnd_eq (h : IsTrim l) : trimEnd l = l := by
  have := trimEnd_append_of_isTrim h []
  simpa [trimEnd] using this

theorem isPrefix_trimEnd (cs : List Char) : trimEnd cs <+: cs := by
  have h := List.reverse_prefix.mpr (List.dropWhile_suffix (l := cs.reverse) isBlank)
  rwa [List.reverse_reverse] at h

theorem startsLine_trimEnd (h : StartsLine cs) : StartsLine (trimEnd cs) := by
  have hprefix := isPrefix_trimEnd cs
  rcases h with rfl | ⟨after, rfl⟩
  . exact .inl (List.prefix_nil.mp hprefix)
  . rcases List.prefix_cons_iff.mp hprefix with hnil | ⟨rest, hrest, -⟩
    . exact .inl hnil
    . exact .inr ⟨rest, hrest⟩

theorem mem_lines_trimEnd (h : l ∈ lines cs) (hl : IsTrim l) : l ∈ lines (trimEnd cs) := by
  obtain ⟨hfeed, before, after, rfl, hbefore, hafter⟩ := mem_lines_iff.mp h
  rw [trimEnd_append_of_isTrim (hl.append_left before)]
  exact IsBlock.mem_lines ⟨before, trimEnd after, rfl, hbefore, startsLine_trimEnd hafter⟩ hfeed

end XmlBinding.Text
