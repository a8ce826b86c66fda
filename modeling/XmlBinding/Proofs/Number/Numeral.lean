import Mathlib.Algebra.Group.Int.Defs
import Mathlib.Algebra.Group.Nat.Defs
import Mathlib.Data.List.Induction
import XmlBinding.Number.Integer
import XmlBinding.Proofs.Text.Ascii
import XmlBinding.Proofs.Text.Cut

/-!
This module contains that numbers are read back from their digits. A text of digits, a sign and a point has no
blanks or underscores, so the readers take it as it is. Integers are only refused for the number of their digits.
-/

namespace XmlBinding.Number

open Text

/-! ### Digits -/

theorem ofDigits_digits (n : Nat) : ofDigits (digits n) = n :=
  Nat.ofDigitChars_toDigits (by decide) (by decide)

theorem ofDigits_lt {ds : List Char} (h : ∀ d ∈ ds, d.isDigit = true) : ofDigits ds < 10 ^ ds.length := by
  induction ds using List.reverseRecOn with
  | nil => decide
  | append_singleton ds d ih =>
    have hlast : ofDigits (ds ++ [d]) = 10 * ofDigits ds + (d.toNat - 48) := by
      unfold ofDigits
      rw [List.foldl_append]
      rfl
    have hd : d.toNat ≤ 57 := (Char.isDigit_iff_toNat.mp (h d (by simp))).2
    have hbefore := ih fun d hd => h d (List.mem_append_left _ hd)
    rw [hlast]
    rw [List.length_append]
    rw [List.length_singleton]
    rw [Nat.pow_succ]
    omega

theorem length_digits_ofDigits_le {ds : List Char} (hne : ds ≠ []) (h : ∀ d ∈ ds, d.isDigit = true)
    : (digits (ofDigits ds)).length ≤ ds.length :=
  (Nat.length_toDigits_le_iff (by decide) (List.length_pos_iff.mpr hne)).mpr (ofDigits_lt h)

theorem length_digits_pow (n : Nat) : (digits (10 ^ n)).length = n + 1 := by
  apply Nat.le_antisymm
  . exact (Nat.length_toDigits_le_iff (by decide) (Nat.succ_pos n)).mpr (Nat.pow_lt_pow_succ (by decide))
  . cases n with
    | zero => decide
    | succ n =>
      apply Nat.lt_of_not_le
      intro h
      exact Nat.lt_irrefl _ ((Nat.length_toDigits_le_iff (by decide) (Nat.succ_pos n)).mp h)

theorem isDigit_of_mem_digits {n : Nat} : ∀ c ∈ digits n, c.isDigit = true :=
  fun _ hc => Nat.isDigit_of_mem_toDigits (by decide) (by decide) hc

theorem digits_ne_nil (n : Nat) : digits n ≠ [] :=
  Nat.toDigits_ne_nil

/-! ### Plain texts -/

/-- The characters of numbers that are written without an exponent. -/
def isNumeric (c : Char) : Bool :=
  c.isDigit || c == '-' || c == '.'

theorem isNumeric_of_isDigit {c : Char} (h : c.isDigit = true) : isNumeric c = true := by
  unfold isNumeric
  rw [h]
  rfl

theorem isAscii_of_isNumeric {c : Char} (h : isNumeric c = true) : isAscii c = true := by
  simp only [isNumeric, Bool.or_eq_true, beq_iff_eq] at h
  obtain (hdigit | rfl) | rfl := h
  . exact isAscii_of_isDigit hdigit
  . decide
  . decide

theorem isBlank_of_isNumeric {c : Char} (h : isNumeric c = true) : isBlank c = false := by
  exact of_isAscii (p := fun c => isNumeric c = true → isBlank c = false) (by decide) (isAscii_of_isNumeric h) h

theorem ne_underscore_of_isNumeric {c : Char} (h : isNumeric c = true) : c ≠ '_' := by
  rintro rfl
  cases h

section

variable {cs : List Char}

theorem plain_of_isNumeric (h : ∀ c ∈ cs, isNumeric c = true) : plain cs = cs := by
  have hchar {c : Char} (h : isNumeric c = true) : plain [c] = [c] :=
    of_isAscii (p := fun c => isNumeric c = true → plain [c] = [c]) (by decide) (isAscii_of_isNumeric h) h
  induction cs with
  | nil => rfl
  | cons c cs ih =>
    rw [List.forall_mem_cons] at h
    have hcons : plain (c :: cs) = plain [c] ++ plain cs := rfl
    rw [hcons]
    rw [hchar h.1]
    rw [ih h.2]
    rfl

theorem trim_plain_of_isNumeric (h : ∀ c ∈ cs, isNumeric c = true) : trim (plain cs) = cs := by
  rw [plain_of_isNumeric h]
  exact trim_of_forall_not_blank fun c hc => isBlank_of_isNumeric (h c hc)

theorem dropUnderscores?_of_not_mem (h : '_' ∉ cs) : dropUnderscores? cs = some cs := by
  have hgo (before : Option Char) (hbefore : before ≠ some '_') : dropUnderscores?.go before cs = some cs := by
    induction cs generalizing before with
    | nil => simp [dropUnderscores?.go, hbefore]
    | cons c cs ih =>
      rw [List.mem_cons] at h
      rw [not_or] at h
      have hc : c ≠ '_' := Ne.symm h.1
      rw [dropUnderscores?.go]
      simp [hc, hbefore, ih h.2 (some c) (by simpa using hc)]
  exact hgo none (by simp)

end

/-! ### Signs -/

/-- A text with a minus sign in front of it, or as it is. -/
def signed (negative : Bool) (cs : List Char) : List Char :=
  if negative then '-' :: cs else cs

theorem sign_of_isDigit {cs : List Char} (h : ∀ c ∈ cs.head?, c.isDigit = true) : sign cs = (false, cs) := by
  unfold sign
  split
  . cases h '-' rfl
  . cases h '+' rfl
  . rfl

theorem sign_signed {cs : List Char} (h : ∀ c ∈ cs.head?, c.isDigit = true) (negative : Bool)
    : sign (signed negative cs) = (negative, cs) := by
  cases negative with
  | true => rfl
  | false => exact sign_of_isDigit h

theorem isNumeric_signed {cs : List Char} (h : ∀ c ∈ cs, isNumeric c = true) (negative : Bool)
    : ∀ c ∈ signed negative cs, isNumeric c = true := by
  cases negative with
  | true =>
    intro c hc
    cases List.mem_cons.mp hc with
    | inl heq =>
      rw [heq]
      decide
    | inr hmem => exact h c hmem
  | false => exact h

theorem isDigit_of_mem_head? {ds : List Char} (h : ∀ c ∈ ds, c.isDigit = true) : ∀ c ∈ ds.head?, c.isDigit = true :=
  fun c hc => h c (List.mem_of_mem_head? hc)

/-! ### Integers -/

namespace Integer

theorem toList_write (n : Int) : (write n).toList = signed (decide (n < 0)) (digits n.natAbs) := by
  unfold write signed
  rw [String.toList_ofList]
  simp

theorem isNumeric_of_mem_write {n : Int} : ∀ c ∈ (write n).toList, isNumeric c = true := by
  rw [toList_write]
  exact isNumeric_signed (fun c hc => isNumeric_of_isDigit (isDigit_of_mem_digits c hc)) _

theorem signedDigits?_signed {ds : List Char} (hne : ds ≠ []) (hdigits : ∀ d ∈ ds, d.isDigit = true) (negative : Bool)
    : signedDigits? (signed negative ds) = some (if negative then -(ofDigits ds : Int) else ofDigits ds) := by
  unfold signedDigits?
  rw [sign_signed (isDigit_of_mem_head? hdigits)]
  exact if_pos (by simpa [hne] using hdigits)

/-- Digits are read unless there are too many of them. -/
theorem read_signed {ds : List Char} (hne : ds ≠ []) (hdigits : ∀ d ∈ ds, d.isDigit = true) (negative : Bool)
    : read (String.ofList (signed negative ds)) =
        if ds.length ≤ digitLimit then .ok (if negative then -(ofDigits ds : Int) else ofDigits ds)
        else .error (.tooManyDigits ds.length) := by
  have hnumeric := isNumeric_signed (fun d hd => isNumeric_of_isDigit (hdigits d hd)) negative
  have hplain : '_' ∉ signed negative ds := fun hmem => ne_underscore_of_isNumeric (hnumeric _ hmem) rfl
  unfold read
  rw [String.toList_ofList]
  rw [trim_plain_of_isNumeric hnumeric]
  rw [dropUnderscores?_of_not_mem hplain]
  simp only [signedDigits?_signed hne hdigits]
  rw [sign_signed (isDigit_of_mem_head? hdigits)]

/-- A number is read back unless it has too many digits. -/
theorem read_write (n : Int)
    : read (write n) =
        if (digits n.natAbs).length ≤ digitLimit then .ok n else .error (.tooManyDigits (digits n.natAbs).length) := by
  have hn : (if decide (n < 0) then -(n.natAbs : Int) else n.natAbs) = n := by
    simp only [decide_eq_true_eq]
    omega
  rw [← String.ofList_toList (s := write n)]
  rw [toList_write]
  rw [read_signed (digits_ne_nil _) isDigit_of_mem_digits]
  rw [ofDigits_digits]
  rw [hn]

theorem read_write_of_isWritable {n : Int} (h : isWritable n = true) : read (write n) = .ok n := by
  rw [read_write]
  exact if_pos (of_decide_eq_true h)

theorem isWritable_of_read_signed {ds : List Char} (hne : ds ≠ []) (hdigits : ∀ d ∈ ds, d.isDigit = true)
    {negative : Bool} {n : Int} (h : read (String.ofList (signed negative ds)) = .ok n)
    : isWritable n = true := by
  rw [read_signed hne hdigits] at h
  split at h
  . next hlength =>
    have habs : n.natAbs = ofDigits ds := by
      have hn := Except.ok.inj h
      split at hn <;> omega
    unfold isWritable
    rw [habs]
    exact decide_eq_true (Nat.le_trans (length_digits_ofDigits_le hne hdigits) hlength)
  . cases h

theorem isWritable_iff {n : Int} : isWritable n = true ↔ n.natAbs < 10 ^ digitLimit := by
  unfold isWritable
  rw [decide_eq_true_eq]
  exact Nat.length_toDigits_le_iff (by decide) (by decide)

theorem isWritable_pow_iff (n : Nat) : isWritable (10 ^ n) = true ↔ n < digitLimit := by
  have hten : Int.natAbs 10 = 10 := rfl
  unfold isWritable
  rw [Int.natAbs_pow]
  rw [hten]
  rw [length_digits_pow]
  rw [decide_eq_true_eq]
  rw [Nat.succ_le_iff]

/-- The first number with too many digits. -/
theorem isWritable_pow_digitLimit : isWritable (10 ^ digitLimit) = false := by
  rw [← Bool.not_eq_true]
  rw [isWritable_pow_iff]
  exact Nat.lt_irrefl _

end Integer

end XmlBinding.Number
