import Mathlib.Data.List.TakeDrop
import Mathlib.Tactic.NormNum
import Mathlib.Tactic.Ring
import XmlBinding.Number.Decimal
import XmlBinding.Proofs.Number.Numeral

/-!
This module contains that a finite decimal is read back from its text without an exponent as the same number. The
coefficient and the exponent stay the same too if there are digits after the point.
-/

namespace XmlBinding.Number

open Text

/-! ### Numerals without an exponent -/

theorem ofDigits_append_zeros (ds : List Char) (n : Nat)
    : ofDigits (ds ++ Decimal.zeros n) = ofDigits ds * 10 ^ n := by
  induction n with
  | zero => simp [Decimal.zeros]
  | succ n ih =>
    have hzeros : Decimal.zeros (n + 1) = Decimal.zeros n ++ ['0'] := List.replicate_succ'
    rw [hzeros]
    rw [← List.append_assoc]
    have hlast : ofDigits (ds ++ Decimal.zeros n ++ ['0']) = 10 * ofDigits (ds ++ Decimal.zeros n) := by
      unfold ofDigits
      rw [List.foldl_append]
      rfl
    rw [hlast]
    rw [ih]
    rw [Nat.pow_succ]
    rw [Nat.mul_comm]
    rw [Nat.mul_assoc]

theorem ofDigits_zeros_append (n : Nat) (ds : List Char) : ofDigits (Decimal.zeros n ++ ds) = ofDigits ds := by
  induction n with
  | zero => rfl
  | succ n ih => exact ih

namespace Numeral

variable {whole part : List Char}

theorem span_of_isDigit (h : ∀ c ∈ whole, c.isDigit = true) {rest : List Char}
    (hrest : ∀ c ∈ rest.head?, c.isDigit = false)
    : (whole ++ rest).span Char.isDigit = (whole, rest) := by
  rw [List.span_eq_takeWhile_dropWhile]
  rw [List.takeWhile_append_of_pos h]
  rw [List.dropWhile_append_of_pos h]
  cases rest with
  | nil => simp
  | cons c rest =>
    have hc := hrest c rfl
    simp [hc]

theorem span_eq_self (h : ∀ c ∈ whole, c.isDigit = true) : whole.span Char.isDigit = (whole, []) := by
  have hspan : (whole ++ []).span Char.isDigit = (whole, []) := span_of_isDigit h (by simp)
  rwa [List.append_nil] at hspan

theorem read?_whole (hne : whole ≠ []) (h : ∀ c ∈ whole, c.isDigit = true) (negative : Bool)
    : read? (signed negative whole) = some ⟨negative, ofDigits whole, 0⟩ := by
  unfold read?
  rw [sign_signed (isDigit_of_mem_head? h)]
  simp only [span_eq_self h, fraction]
  simp [exponent?, hne]

theorem read?_pointed (hne : whole ≠ []) (hwhole : ∀ c ∈ whole, c.isDigit = true)
    (hpart : ∀ c ∈ part, c.isDigit = true) (negative : Bool)
    : read? (signed negative (whole ++ '.' :: part)) = some ⟨negative, ofDigits (whole ++ part), -part.length⟩ := by
  have hspan : (whole ++ '.' :: part).span Char.isDigit = (whole, '.' :: part) :=
    span_of_isDigit hwhole (by simp +decide)
  have hfraction : fraction ('.' :: part) = (part, []) := span_eq_self hpart
  have hhead : ∀ c ∈ (whole ++ '.' :: part).head?, c.isDigit = true := by
    intro c hc
    cases whole with
    | nil => exact absurd rfl hne
    | cons d ds => exact hwhole c (List.mem_of_mem_head? hc)
  unfold read?
  rw [sign_signed hhead]
  simp only [hspan, hfraction]
  simp [exponent?, hne]

end Numeral

/-! ### Decimals -/

namespace Decimal

/-- The number that a decimal stands for. -/
def number? : Decimal → Option ℚ
  | .finite negative coefficient exponent => some ((if negative then -1 else 1) * coefficient * 10 ^ exponent)
  | _ => none

theorem isDigit_of_mem_zeros {n : Nat} : ∀ c ∈ zeros n, c.isDigit = true := by
  intro c hc
  rw [List.eq_of_mem_replicate hc]
  decide

/-- A number of digits after the point, and at least one in front of it. -/
theorem exists_pointed_eq (coefficient places : Nat)
    : ∃ whole part, pointed (digits coefficient) (places + 1) = whole ++ '.' :: part ∧ whole ≠ [] ∧
        part.length = places + 1 ∧ ofDigits (whole ++ part) = coefficient ∧
        (∀ c ∈ whole, c.isDigit = true) ∧ ∀ c ∈ part, c.isDigit = true := by
  let ds := zeros (places + 1 + 1 - (digits coefficient).length) ++ digits coefficient
  have hlength : places + 1 + 1 ≤ ds.length := by
    rw [List.length_append]
    rw [zeros]
    rw [List.length_replicate]
    omega
  have hds : ∀ c ∈ ds, c.isDigit = true := by
    rw [List.forall_mem_append]
    exact ⟨isDigit_of_mem_zeros, isDigit_of_mem_digits⟩
  refine ⟨ds.take (ds.length - (places + 1)), ds.drop (ds.length - (places + 1)), rfl, ?_, ?_, ?_, ?_, ?_⟩
  . intro hnil
    have := congrArg List.length hnil
    rw [List.length_take] at this
    simp at this
    omega
  . rw [List.length_drop]
    omega
  . rw [List.take_append_drop]
    rw [ofDigits_zeros_append]
    exact ofDigits_digits coefficient
  . exact fun c hc => hds c (List.mem_of_mem_take hc)
  . exact fun c hc => hds c (List.mem_of_mem_drop hc)

theorem read?_of_numeral {s : String} {n : Numeral} (hs : ∀ c ∈ s.toList, isNumeric c = true)
    (h : Numeral.read? s.toList = some n)
    : read? s = some (.finite n.negative n.coefficient n.exponent) := by
  have hfilter : s.toList.filter (· != '_') = s.toList := by
    rw [List.filter_eq_self]
    intro c hc
    simpa using ne_underscore_of_isNumeric (hs c hc)
  unfold read?
  rw [trim_plain_of_isNumeric hs]
  rw [hfilter]
  dsimp only
  rw [h]

/-- All digits and no point. -/
theorem positional_ofNat (coefficient n : Nat)
    : positional coefficient n ≠ [] ∧ ofDigits (positional coefficient n) = coefficient * 10 ^ n ∧
        ∀ c ∈ positional coefficient n, c.isDigit = true := by
  have hpositional : positional coefficient n = if coefficient == 0 then ['0'] else digits coefficient ++ zeros n := rfl
  rw [hpositional]
  split
  . next hzero =>
    rw [beq_iff_eq.mp hzero]
    rw [Nat.zero_mul]
    exact ⟨by simp, rfl, List.forall_mem_singleton.mpr rfl⟩
  . refine ⟨List.append_ne_nil_of_left_ne_nil (digits_ne_nil coefficient) _, ?_, ?_⟩
    . rw [ofDigits_append_zeros]
      rw [ofDigits_digits]
    . rw [List.forall_mem_append]
      exact ⟨isDigit_of_mem_digits, isDigit_of_mem_zeros⟩

theorem toList_write (negative : Bool) (coefficient : Nat) (exponent : Int)
    : (write (.finite negative coefficient exponent)).toList = signed negative (positional coefficient exponent) :=
  String.toList_ofList

theorem isNumeric_positional (coefficient : Nat) (exponent : Int)
    : ∀ c ∈ positional coefficient exponent, isNumeric c = true := by
  cases exponent with
  | ofNat n => exact fun c hc => isNumeric_of_isDigit ((positional_ofNat coefficient n).2.2 c hc)
  | negSucc n =>
    obtain ⟨whole, part, hpointed, -, -, -, hwhole, hpart⟩ := exists_pointed_eq coefficient n
    change ∀ c ∈ pointed (digits coefficient) (n + 1), _
    rw [hpointed]
    rw [List.forall_mem_append]
    rw [List.forall_mem_cons]
    refine ⟨fun c hc => isNumeric_of_isDigit (hwhole c hc), by decide, fun c hc => isNumeric_of_isDigit (hpart c hc)⟩

theorem isNumeric_of_mem_write {negative : Bool} {coefficient : Nat} {exponent : Int}
    : ∀ c ∈ (write (.finite negative coefficient exponent)).toList, isNumeric c = true := by
  rw [toList_write]
  exact isNumeric_signed (isNumeric_positional coefficient exponent) negative

/-- The same decimal with all the digits that its text has. -/
theorem read?_write (negative : Bool) (coefficient : Nat) (exponent : Int)
    : read? (write (.finite negative coefficient exponent)) =
        some (.finite negative (coefficient * 10 ^ exponent.toNat) (min exponent 0)) := by
  have hread (n : Numeral) (h : Numeral.read? (signed negative (positional coefficient exponent)) = some n)
      : read? (write (.finite negative coefficient exponent)) =
          some (.finite n.negative n.coefficient n.exponent) := by
    apply read?_of_numeral isNumeric_of_mem_write
    rw [toList_write]
    exact h
  cases exponent with
  | ofNat n =>
    obtain ⟨hne, hdigits, hall⟩ := positional_ofNat coefficient n
    rw [hread _ (Numeral.read?_whole hne hall negative)]
    dsimp only
    rw [hdigits]
    simp
  | negSucc n =>
    obtain ⟨whole, part, hpointed, hne, hlength, hdigits, hwhole, hpart⟩ := exists_pointed_eq coefficient n
    have hpositional : positional coefficient (.negSucc n) = whole ++ '.' :: part := hpointed
    have hnumeral := Numeral.read?_pointed hne hwhole hpart negative
    rw [← hpositional] at hnumeral
    rw [hread _ hnumeral]
    dsimp only
    rw [hdigits]
    rw [hlength]
    have hexponent : min (Int.negSucc n) 0 = -((n + 1 : Nat) : Int) := by omega
    rw [hexponent]
    simp

/-- A finite decimal is read back as the same number, however large or small its exponent is. -/
theorem number?_read?_write (negative : Bool) (coefficient : Nat) (exponent : Int)
    : ∃ d, read? (write (.finite negative coefficient exponent)) = some d ∧
        number? d = number? (.finite negative coefficient exponent) := by
  refine ⟨_, read?_write negative coefficient exponent, ?_⟩
  unfold number?
  dsimp only
  congr 1
  have hpower : ((10 : ℚ) ^ exponent.toNat) * 10 ^ min exponent 0 = 10 ^ exponent := by
    rw [← zpow_natCast]
    rw [← zpow_add₀ (by norm_num)]
    congr 1
    omega
  push_cast
  rw [← hpower]
  ring

end Decimal

end XmlBinding.Number
