import XmlBinding.Proofs.Text.Lines

/-!
This module contains the lines of source text, where a carriage return ends a line like a line feed does, and the two
together end one line.
-/

namespace XmlBinding.Text

/-- Puts line feeds for the other ends of lines: a carriage return ends a line unless the line feed behind it does. -/
def unifyBreaks : List Char → List Char
  | [] => []
  | c :: cs =>
    if c = '\r' then
      if cs.head? = some '\n' then unifyBreaks cs else '\n' :: unifyBreaks cs
    else
      c :: unifyBreaks cs

def sourceLines (cs : List Char) : List (List Char) :=
  lines (unifyBreaks cs)

/-- There is no end of a line in a text. -/
def IsOneLine (cs : List Char) : Prop :=
  '\n' ∉ cs ∧ '\r' ∉ cs

variable {cs ds part : List Char} {ls : List (List Char)}

/-- Only a carriage return at the end of the first text could be taken together with the second one. -/
theorem unifyBreaks_append (h : cs.getLast? ≠ some '\r') (ds : List Char)
    : unifyBreaks (cs ++ ds) = unifyBreaks cs ++ unifyBreaks ds := by
  induction cs with
  | nil => rfl
  | cons c cs ih =>
    rw [List.cons_append]
    rw [unifyBreaks]
    rw [unifyBreaks]
    cases cs with
    | nil =>
      have hc : c ≠ '\r' := by simpa using h
      rw [if_neg hc]
      rw [if_neg hc]
      rfl
    | cons d cs =>
      rw [List.getLast?_cons_cons] at h
      rw [ih h]
      split
      . split
        . next hd =>
          rw [if_pos (by simpa using hd)]
        . next hd =>
          rw [if_neg (by simpa using hd)]
          rfl
      . rfl

theorem exists_unifyBreaks_lineFeed (cs : List Char) : ∃ ds, unifyBreaks (cs ++ ['\n']) = ds ++ ['\n'] := by
  induction cs with
  | nil => exact ⟨[], rfl⟩
  | cons c cs ih =>
    obtain ⟨ds, hds⟩ := ih
    rw [List.cons_append]
    rw [unifyBreaks]
    rw [hds]
    split
    . split
      . exact ⟨ds, rfl⟩
      . exact ⟨'\n' :: ds, rfl⟩
    . exact ⟨c :: ds, rfl⟩

theorem unifyBreaks_lineFeed (cs : List Char) : unifyBreaks ('\n' :: cs) = '\n' :: unifyBreaks cs := by
  rw [unifyBreaks]
  rw [if_neg (by decide)]

/-! ### Lines -/

theorem sourceLines_append (h : cs.getLast? ≠ some '\r') (ds : List Char)
    : sourceLines (cs ++ '\n' :: ds) = sourceLines cs ++ sourceLines ds := by
  unfold sourceLines
  rw [unifyBreaks_append h]
  rw [unifyBreaks_lineFeed]
  rw [lines_append]

/-- On what is one line for the line feeds, each carriage return ends a line. -/
theorem sourceLines_of_not_mem (h : '\n' ∉ cs) : sourceLines cs = cutAt '\r' cs := by
  induction cs with
  | nil => rfl
  | cons c cs ih =>
    rw [List.mem_cons] at h
    rw [not_or] at h
    have hhead : cs.head? ≠ some '\n' := fun hfeed => h.2 (List.mem_of_mem_head? hfeed)
    have ih : cutWhen (· == '\n') (unifyBreaks cs) = cutWhen (· == '\r') cs := ih h.2
    unfold sourceLines lines cutAt
    rw [unifyBreaks]
    rw [cutWhen]
    rw [if_neg hhead]
    split
    . next hc =>
      rw [if_pos (by simpa using hc)]
      rw [cutWhen]
      rw [if_pos (by decide)]
      rw [ih]
    . next hc =>
      rw [if_neg (by simpa using hc)]
      rw [cutWhen]
      rw [if_neg (by simpa using Ne.symm h.1)]
      rw [ih]

theorem sourceLines_unlines (hne : ls ≠ []) (h : ∀ l ∈ ls, '\n' ∉ l ∧ l.getLast? ≠ some '\r')
    : sourceLines (unlines ls) = ls.flatMap (cutAt '\r') := by
  induction ls with
  | nil => exact absurd rfl hne
  | cons l ls ih =>
    rw [List.forall_mem_cons] at h
    rw [List.flatMap_cons]
    rw [← sourceLines_of_not_mem h.1.1]
    cases ls with
    | nil =>
      rw [unlines_singleton]
      rw [List.flatMap_nil]
      rw [List.append_nil]
    | cons l' ls =>
      rw [unlines_cons (by simp)]
      rw [sourceLines_append h.1.2]
      rw [ih (by simp) h.2]

/-- A part that starts and ends where lines do has its lines among those of the whole text. -/
theorem IsBlock.sourceLines_isInfix (h : IsBlock part cs) (hlast : part.getLast? ≠ some '\r')
    : sourceLines part <:+: sourceLines cs := by
  obtain ⟨before, after, rfl, hbefore, hafter⟩ := h
  apply IsBlock.lines_isInfix
  have hparts : unifyBreaks (before ++ part ++ after) = unifyBreaks before ++ unifyBreaks part ++ unifyBreaks after := by
    rw [List.append_assoc]
    rw [unifyBreaks_append]
    . rw [unifyBreaks_append hlast]
      rw [List.append_assoc]
    . rcases hbefore with rfl | ⟨first, rfl⟩
      . simp
      . simp
  refine ⟨unifyBreaks before, unifyBreaks after, hparts, ?_, ?_⟩
  . rcases hbefore with rfl | ⟨first, rfl⟩
    . exact .inl rfl
    . exact .inr (exists_unifyBreaks_lineFeed first)
  . rcases hafter with rfl | ⟨rest, rfl⟩
    . exact .inl rfl
    . exact .inr ⟨_, unifyBreaks_lineFeed rest⟩

end XmlBinding.Text
