import XmlBinding.Pattern.Replacement

/-!
This module contains that a pattern for one character, replaced by nothing, drops the characters that it holds of and no
others.
-/

namespace XmlBinding.Pattern

variable {r : Regex} {t : CharTest} {xs before : List Char} {position : Nat} {nonEmpty : Bool}

theorem searchFrom_of_forall_not (hr : r.root = .char t) (h : ∀ x ∈ xs, t.holds x = false)
    : r.searchFrom nonEmpty before xs position = none := by
  induction xs generalizing before position nonEmpty with
  | nil =>
    rw [Regex.searchFrom]
    rw [hr]
    rfl
  | cons x xs ih =>
    rw [List.forall_mem_cons] at h
    rw [Regex.searchFrom]
    rw [hr]
    simp only [Node.run, Cursor.step?, h.1, Bool.false_eq_true, if_false, Option.bind_none]
    exact ih h.2

theorem searchFrom_append (hr : r.root = .char t) (h : ∀ x ∈ xs, t.holds x = false) {x : Char}
    (hx : t.holds x = true) (rest : List Char)
    : r.searchFrom nonEmpty before (xs ++ x :: rest) position =
        some ⟨⟨xs.reverse ++ before, x :: rest, position + xs.length, []⟩,
          ⟨x :: (xs.reverse ++ before), rest, position + xs.length + 1, []⟩⟩ := by
  induction xs generalizing before position nonEmpty with
  | nil =>
    rw [List.nil_append]
    rw [Regex.searchFrom]
    rw [hr]
    simp [Node.run, Cursor.step?, hx]
  | cons y ys ih =>
    rw [List.forall_mem_cons] at h
    rw [List.cons_append]
    rw [Regex.searchFrom]
    rw [hr]
    simp only [Node.run, Cursor.step?, h.1, Bool.false_eq_true, if_false, Option.bind_none]
    rw [ih h.2]
    simp [Nat.add_right_comm, Nat.add_assoc]

theorem split_at_first (t : CharTest) (cs : List Char)
    : (∀ x ∈ cs, t.holds x = false) ∨
        ∃ kept x rest, cs = kept ++ x :: rest ∧ (∀ y ∈ kept, t.holds y = false) ∧ t.holds x = true := by
  induction cs with
  | nil => exact .inl (by simp)
  | cons c cs ih =>
    cases hc : t.holds c with
    | true => exact .inr ⟨[], c, cs, rfl, by simp, hc⟩
    | false =>
      obtain hnone | ⟨kept, x, rest, rfl, hkept, hx⟩ := ih
      . exact .inl (List.forall_mem_cons.mpr ⟨hc, hnone⟩)
      . exact .inr ⟨c :: kept, x, rest, rfl, List.forall_mem_cons.mpr ⟨hc, hkept⟩, hx⟩

theorem replaceFrom_of_lt (hr : r.root = .char t) {fuel : Nat} {c : Cursor} (hfuel : c.after.length < fuel)
    : r.replaceFrom [.text []] fuel nonEmpty c = c.after.filter fun x => !t.holds x := by
  -- Each match uses up a character, so the fuel lasts for the text.
  induction fuel generalizing c nonEmpty with
  | zero => omega
  | succ fuel ih =>
    rw [Regex.replaceFrom]
    obtain hnone | ⟨kept, x, rest, hafter, hkept, hx⟩ := split_at_first t c.after
    . rw [searchFrom_of_forall_not hr hnone]
      symm
      rw [List.filter_eq_self]
      simpa using hnone
    . rw [hafter] at hfuel ⊢
      rw [searchFrom_append hr hkept hx]
      have hfuel : rest.length < fuel := by
        simp only [List.length_append, List.length_cons] at hfuel
        omega
      dsimp only
      rw [ih hfuel]
      have hfilter : kept.filter (fun x => !t.holds x) = kept := by
        rw [List.filter_eq_self]
        simpa using hkept
      rw [List.filter_append]
      rw [hfilter]
      rw [List.filter_cons_of_neg (by simp [hx])]
      simp [Piece.expand]

/-- Replacing by nothing is leaving out. -/
theorem replace_char (hr : r.root = .char t) (text : List Char)
    : r.replace [] text = .ok (text.filter fun x => !t.holds x) := by
  unfold Regex.replace
  rw [if_neg (by simp)]
  apply congrArg Except.ok
  apply replaceFrom_of_lt hr
  simp only [Cursor.ofText]
  omega

end XmlBinding.Pattern
