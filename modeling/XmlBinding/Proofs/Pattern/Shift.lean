import XmlBinding.Pattern.Match

/-!
This module contains the renumbering of groups. A node whose groups stand behind `k` others matches what it matched
before, and its groups hold the same texts under their new numbers.
-/

namespace XmlBinding.Pattern

/-- The node as it is where `k` groups stand in front of its own. -/
def Node.shift (k : Nat) : Node → Node
  | .empty => .empty
  | .char t => .char t
  | .anchor a => .anchor a
  | .seq a b => .seq (a.shift k) (b.shift k)
  | .alt a b => .alt (a.shift k) (b.shift k)
  | .repeated greed least most? body => .repeated greed least most? (body.shift k)
  | .group index? body => .group (index?.map (· + k)) (body.shift k)
  | .atomic body => .atomic (body.shift k)
  | .again index d => .again (index + k) d
  | .ahead negated body => .ahead negated (body.shift k)
  | .behind negated width widest body => .behind negated width widest (body.shift k)
  | .ifGroup index yes no => .ifGroup (index + k) (yes.shift k) (no.shift k)

def Cursor.shift (k : Nat) (c : Cursor) : Cursor :=
  { c with groups := c.groups.map fun g => (g.1 + k, g.2) }

/-- Every group that is referred to has a number; numbers start with one. -/
def Node.IsNumbered : Node → Prop
  | .empty | .char _ | .anchor _ => True
  | .seq a b | .alt a b | .ifGroup _ a b => a.IsNumbered ∧ b.IsNumbered
  | .repeated _ _ _ body | .group _ body | .atomic body | .ahead _ body | .behind _ _ _ body => body.IsNumbered
  | .again index _ => 0 < index

variable {k : Nat} {c : Cursor}

/-! ### What does not depend on the numbers -/

namespace Node

theorem flaw?_shift (plainOnly : Bool) (n : Node) : (n.shift k).flaw? plainOnly = n.flaw? plainOnly := by
  induction n with
  | empty | char | anchor | again => rfl
  | seq a b iha ihb | alt a b iha ihb | ifGroup _ a b iha ihb => simp only [shift, flaw?, iha, ihb]
  | repeated _ _ _ body ih | group _ body ih | atomic body ih | ahead _ body ih | behind _ _ _ body ih =>
    simp only [shift, flaw?, ih]

theorem width_shift {n : Node} (h : n.IsNumbered) (before groups : List (Option (Nat × Nat)))
    : (n.shift before.length).width (before ++ groups) = n.width groups := by
  induction n with
  | empty | char | anchor | ahead | behind => rfl
  | seq a b iha ihb => simp only [shift, width, iha h.1, ihb h.2]
  | alt a b iha ihb | ifGroup _ a b iha ihb => simp only [shift, width, iha h.1, ihb h.2]
  | repeated _ _ _ body ih | group _ body ih | atomic body ih => simp only [shift, width, ih h]
  | again index =>
    have hindex : index + before.length - 1 = before.length + (index - 1) := by
      have : 0 < index := h
      omega
    simp only [shift, width, hindex]
    rw [List.getElem?_append_right (by omega)]
    rw [Nat.add_sub_cancel_left]

end Node

/-! ### Cursors -/

namespace Cursor

theorem position_shift : (c.shift k).position = c.position :=
  rfl

theorem step?_shift (p : Char → Bool) : (c.shift k).step? p = (c.step? p).map (shift k) := by
  unfold step?
  simp only [shift]
  split
  . rfl
  . split <;> rfl

theorem over?_shift (d : Dialect) (text : List Char)
    : (c.shift k).over? d text = (c.over? d text).map (shift k) := by
  induction text generalizing c with
  | nil => rfl
  | cons x text ih =>
    simp only [over?, step?_shift]
    cases c.step? fun y => d.fold y == d.fold x with
    | none => rfl
    | some c => exact ih

theorem back?_shift (n : Nat) : (c.shift k).back? n = (c.back? n).map (shift k) := by
  induction n generalizing c with
  | zero => rfl
  | succ n ih =>
    obtain ⟨before, after, position, groups⟩ := c
    cases before with
    | nil => rfl
    | cons x before => exact @ih ⟨before, x :: after, position - 1, groups⟩

theorem capture_shift (index : Nat) (start : Cursor)
    : (c.capture index start).shift k = (c.shift k).capture (index + k) (start.shift k) :=
  rfl

theorem lookup_shift (index : Nat) : (c.shift k).groups.lookup (index + k) = c.groups.lookup index := by
  simp only [shift]
  induction c.groups with
  | nil => rfl
  | cons g groups ih =>
    obtain ⟨number, text⟩ := g
    have hnumber : (index + k == number + k) = (index == number) := by
      rw [Bool.eq_iff_iff]
      simp only [beq_iff_eq, Nat.add_right_cancel_iff]
    simp only [List.map_cons, List.lookup_cons, ih, hnumber]

end Cursor

theorem Anchor.holds_shift (a : Anchor) : a.holds (c.shift k) = a.holds c := by
  cases a <;> rfl

/-! ### Matching -/

/-- What is left of a match ends alike when the groups move. -/
def Rest.Shifts (k : Nat) (rest moved : Rest) : Prop :=
  ∀ c, moved (c.shift k) = (rest c).map (Cursor.shift k)

/-- A step of a match, given what is left of it, ends alike when the groups move. -/
def Carries (k : Nat) (step moved : Rest → Rest) : Prop :=
  ∀ ⦃rest rest'⦄, Rest.Shifts k rest rest' → Rest.Shifts k (step rest) (moved rest')

namespace Rest.Shifts

variable {rest moved : Rest}

theorem some : Shifts k Option.some Option.some :=
  fun _ => rfl

theorem bind (h : Shifts k rest moved) (found? : Option Cursor)
    : (found?.map (Cursor.shift k)).bind moved = (found?.bind rest).map (Cursor.shift k) := by
  cases found? with
  | none => rfl
  | some c => exact h c

/-- A look ahead or behind keeps the groups that it found, and nothing else. -/
theorem looked (h : Shifts k rest moved) (negated : Bool) (found? : Option Cursor) (c : Cursor)
    : (match found?.map (Cursor.shift k), negated with
        | .some found, false => moved { c.shift k with groups := found.groups }
        | none, true => moved (c.shift k)
        | _, _ => none) =
      (match found?, negated with
        | .some found, false => rest { c with groups := found.groups }
        | none, true => rest c
        | _, _ => none).map (Cursor.shift k) := by
  cases found? with
  | some found =>
    cases negated with
    | false => exact h { c with groups := found.groups }
    | true => rfl
  | none =>
    cases negated with
    | false => rfl
    | true => exact h c

end Rest.Shifts

namespace Carries

variable {step moved : Rest → Rest} {rest rest' : Rest}

theorem times (h : Carries k step moved) (n : Nat)
    : Carries k (Pattern.times step n) (Pattern.times moved n) := by
  induction n with
  | zero => exact fun _ _ hrest => hrest
  | succ n ih => exact fun _ _ hrest => h (ih hrest)

theorem greedily (h : Carries k step moved) (hrest : Rest.Shifts k rest rest') (fuel : Nat)
    (left? last? : Option Nat)
    : Rest.Shifts k (Pattern.greedily step rest fuel left? last?) (Pattern.greedily moved rest' fuel left? last?) := by
  induction fuel generalizing left? last? with
  | zero => exact hrest
  | succ fuel ih =>
    intro c
    have hstep := h (ih (left?.map (· - 1)) (Option.some c.position)) c
    simp only [Pattern.greedily, Cursor.position_shift]
    by_cases hstop : left? == Option.some 0 || last? == Option.some c.position
    . simp only [hstop, if_true]
      exact hrest c
    . simp only [hstop, Bool.false_eq_true, if_false]
      rw [hstep]
      cases step (Pattern.greedily step rest fuel (left?.map (· - 1)) (Option.some c.position)) c with
      | none => exact hrest c
      | some found => rfl

theorem lazily (h : Carries k step moved) (hrest : Rest.Shifts k rest rest') (fuel : Nat)
    (left? last? : Option Nat)
    : Rest.Shifts k (Pattern.lazily step rest fuel left? last?) (Pattern.lazily moved rest' fuel left? last?) := by
  induction fuel generalizing left? last? with
  | zero => exact hrest
  | succ fuel ih =>
    intro c
    simp only [Pattern.lazily, Cursor.position_shift]
    rw [hrest c]
    cases rest c with
    | some found => rfl
    | none =>
      by_cases hstop : left? == Option.some 0 || last? == Option.some c.position
      . simp only [hstop, Option.map_none, if_true]
      . simp only [hstop, Option.map_none, Bool.false_eq_true, if_false]
        exact h (ih (left?.map (· - 1)) (Option.some c.position)) c

theorem possessively (h : Carries k step moved) (fuel : Nat) (left? : Option Nat) (c : Cursor)
    : Pattern.possessively moved fuel left? (c.shift k) = (Pattern.possessively step fuel left? c).shift k := by
  induction fuel generalizing left? c with
  | zero => rfl
  | succ fuel ih =>
    simp only [Pattern.possessively, Cursor.position_shift]
    rw [h Rest.Shifts.some c]
    split
    . rfl
    . cases step Option.some c with
      | none => rfl
      | some d =>
        simp only [Option.map_some, Cursor.position_shift, ih]
        rw [apply_ite (Cursor.shift k)]

theorem optionally (h : Carries k step moved) (greed : Greed) (left? : Option Nat)
    : Carries k (Pattern.optionally greed step left?) (Pattern.optionally greed moved left?) := by
  intro rest rest' hrest c
  cases greed with
  | greedy => exact h.greedily hrest (c.after.length + 2) left? none c
  | lazy => exact h.lazily hrest (c.after.length + 2) left? none c
  | possessive =>
    change rest' (Pattern.possessively moved (c.after.length + 2) left? (c.shift k)) = _
    rw [h.possessively]
    exact hrest _

/-- A step that takes nothing back once it is over. -/
theorem atomic (h : Carries k step moved)
    : Carries k (fun rest c => (step Option.some c).bind rest) (fun rest c => (moved Option.some c).bind rest) := by
  intro rest rest' hrest c
  change (moved Option.some (c.shift k)).bind rest' = _
  rw [h Rest.Shifts.some c]
  exact hrest.bind _

end Carries

theorem Node.carries_run (n : Node) : Carries k n.run (n.shift k).run := by
  induction n with
  | empty => exact fun _ _ hrest => hrest
  | char t =>
    intro rest rest' hrest c
    simp only [shift, run]
    rw [Cursor.step?_shift]
    exact hrest.bind _
  | anchor a =>
    intro rest rest' hrest c
    simp only [shift, run]
    rw [a.holds_shift]
    split
    . exact hrest c
    . rfl
  | seq a b iha ihb => exact fun _ _ hrest => iha (ihb hrest)
  | alt a b iha ihb =>
    intro rest rest' hrest c
    simp only [shift, run]
    rw [iha hrest c]
    cases a.run rest c with
    | some found => rfl
    | none => exact ihb hrest c
  | repeated greed least most? body ih =>
    intro rest rest' hrest
    have hrest := ih.optionally greed (most?.map (· - least)) hrest
    cases greed with
    | greedy => exact ih.times least hrest
    | lazy => exact ih.times least hrest
    | possessive => exact ih.atomic.times least hrest
  | group index? body ih =>
    intro rest rest' hrest
    cases index? with
    | none => exact ih hrest
    | some index =>
      intro c
      refine ih (fun d => ?_) c
      rw [← Cursor.capture_shift]
      exact hrest _
  | atomic body ih => exact ih.atomic
  | again index d =>
    intro rest rest' hrest c
    simp only [shift, run]
    rw [Cursor.lookup_shift]
    cases c.groups.lookup index with
    | none => rfl
    | some text =>
      change ((c.shift k).over? d text).bind rest' = _
      rw [Cursor.over?_shift]
      exact hrest.bind _
  | ahead negated body ih =>
    intro rest rest' hrest c
    simp only [shift, run]
    rw [ih Rest.Shifts.some c]
    exact hrest.looked negated _ c
  | behind negated width widest body ih =>
    intro rest rest' hrest c
    simp only [shift, run]
    rw [Cursor.back?_shift]
    rw [(ih Rest.Shifts.some).bind]
    exact hrest.looked negated _ c
  | ifGroup index yes no ihyes ihno =>
    intro rest rest' hrest c
    simp only [shift, run]
    rw [Cursor.lookup_shift]
    split
    . exact ihyes hrest c
    . exact ihno hrest c

end XmlBinding.Pattern
