import XmlBinding.Binary.Base64
import XmlBinding.Binary.Hex
import XmlBinding.Text.Blank

/-!
This module contains that bytes are read back from both of their text forms, and that these have no blanks.
-/

namespace XmlBinding.Binary

open Text

/-! ### Hexadecimal digits -/

namespace Hex

theorem hexValue?_upperDigit {n : Nat} (h : n < 16) : hexValue? (upperDigit n) = some n := by
  have hall : ∀ n : Fin 16, hexValue? (upperDigit n) = some n.val := by decide
  exact hall ⟨n, h⟩

theorem isGap_upperDigit {n : Nat} (h : n < 16) : isGap (upperDigit n) = false := by
  have hall : ∀ n : Fin 16, isGap (upperDigit n) = false := by decide
  exact hall ⟨n, h⟩

theorem exists_of_mem_write {bytes : List UInt8} {c : Char} (h : c ∈ write bytes) : ∃ n < 16, c = upperDigit n := by
  unfold write at h
  obtain ⟨b, -, hc⟩ := List.mem_flatMap.mp h
  have hb := b.toNat_lt
  simp only [List.mem_cons, List.not_mem_nil, or_false] at hc
  obtain rfl | rfl := hc
  . exact ⟨b.toNat / 16, by omega, rfl⟩
  . exact ⟨b.toNat % 16, by omega, rfl⟩

theorem isBlank_of_mem_write {bytes : List UInt8} : ∀ c ∈ write bytes, isBlank c = false := by
  have hall : ∀ n : Fin 16, isBlank (upperDigit n) = false := by decide
  intro c hc
  obtain ⟨n, hn, rfl⟩ := exists_of_mem_write hc
  exact hall ⟨n, hn⟩

theorem readFrom_write (bytes : List UInt8) (position : Nat) : readFrom position (write bytes) = .ok bytes := by
  induction bytes generalizing position with
  | nil => rfl
  | cons b bytes ih =>
    have hhigh : b.toNat / 16 < 16 := by
      have := b.toNat_lt
      omega
    have hlow : b.toNat % 16 < 16 := by omega
    have hwrite : write (b :: bytes) = upperDigit (b.toNat / 16) :: upperDigit (b.toNat % 16) :: write bytes := rfl
    rw [hwrite]
    rw [readFrom]
    rw [if_neg (by simp [isGap_upperDigit hhigh])]
    rw [hexValue?_upperDigit hhigh]
    rw [hexValue?_upperDigit hlow]
    dsimp only
    rw [ih]
    rw [Nat.div_add_mod b.toNat 16]
    rw [UInt8.ofNat_toNat]
    rfl

theorem read_write (bytes : List UInt8) : read (write bytes) = .ok bytes := by
  have hall : ∀ n : Fin 16, isAscii (upperDigit n) = true := by decide
  have hascii : (write bytes).findIdx? (!isAscii ·) = none := by
    rw [List.findIdx?_eq_none_iff]
    intro c hc
    obtain ⟨n, hn, rfl⟩ := exists_of_mem_write hc
    rw [hall ⟨n, hn⟩]
    rfl
  unfold read
  rw [hascii]
  exact readFrom_write bytes 0

end Hex

/-! ### Base 64 -/

namespace Base64

theorem value?_letter {n : Nat} (h : n < 64) : value? (letter n) = some n := by
  have hall : ∀ n : Fin 64, value? (letter n) = some n.val := by decide
  exact hall ⟨n, h⟩

/-- A text with nothing but letters of the alphabet and pads. -/
theorem forall_mem_write {p : Char → Bool} (hletter : ∀ n : Fin 64, p (letter n) = true) (hpad : p '=' = true)
    (bytes : List UInt8)
    : ∀ c ∈ write bytes, p c = true := by
  have hletter {n : Nat} (h : n < 64) : p (letter n) = true := hletter ⟨n, h⟩
  fun_induction write bytes with
  | case1 => simp
  | case2 a n =>
    have := a.toNat_lt
    simp [hpad, hletter (show n / 64 < 64 by omega), hletter (show n % 64 < 64 by omega)]
  | case3 a b n =>
    have := a.toNat_lt
    have := b.toNat_lt
    simp [hpad, hletter (show n / 4096 < 64 by omega), hletter (show n / 64 % 64 < 64 by omega),
      hletter (show n % 64 < 64 by omega)]
  | case4 a b c rest n ih =>
    have := a.toNat_lt
    have := b.toNat_lt
    have := c.toNat_lt
    simpa [hletter (show n / 262144 < 64 by omega), hletter (show n / 4096 % 64 < 64 by omega),
      hletter (show n / 64 % 64 < 64 by omega), hletter (show n % 64 < 64 by omega)] using ih

theorem isBlank_of_mem_write (bytes : List UInt8) : ∀ c ∈ write bytes, isBlank c = false := by
  intro c hc
  have := forall_mem_write (p := fun c => !isBlank c) (by decide) (by decide) bytes c hc
  simpa using this

section

variable {v : Nat} (carry pads count : Nat) (cs : List Char)

theorem letter_beq_pad (h : v < 64) : (letter v == '=') = false := by
  have hall : ∀ v : Fin 64, (letter v == '=') = false := by decide
  exact hall ⟨v, h⟩

theorem readFrom_first (h : v < 64) : readFrom 0 carry pads count (letter v :: cs) = readFrom 1 v 0 count cs := by
  simp [readFrom, letter_beq_pad h, value?_letter h]

theorem readFrom_second (h : v < 64)
    : readFrom 1 carry pads count (letter v :: cs) =
        (readFrom 2 (v % 16) 0 (count + 1) cs).map (UInt8.ofNat (4 * carry + v / 16) :: ·) := by
  simp [readFrom, letter_beq_pad h, value?_letter h]

theorem readFrom_third (h : v < 64)
    : readFrom 2 carry pads count (letter v :: cs) =
        (readFrom 3 (v % 4) 0 (count + 1) cs).map (UInt8.ofNat (16 * carry + v / 4) :: ·) := by
  simp [readFrom, letter_beq_pad h, value?_letter h]

theorem readFrom_fourth (h : v < 64)
    : readFrom 3 carry pads count (letter v :: cs) =
        (readFrom 0 0 0 (count + 1) cs).map (UInt8.ofNat (64 * carry + v) :: ·) := by
  simp [readFrom, letter_beq_pad h, value?_letter h]

end

theorem readFrom_write (bytes : List UInt8) (count : Nat) : readFrom 0 0 0 count (write bytes) = .ok bytes := by
  fun_induction write bytes generalizing count with
  | case1 => rfl
  | case2 a n =>
    have ha := a.toNat_lt
    have hfirst : 4 * (n / 64) + n % 64 / 16 = a.toNat := by omega
    rw [readFrom_first _ _ _ _ (show n / 64 < 64 by omega)]
    rw [readFrom_second _ _ _ _ (show n % 64 < 64 by omega)]
    rw [hfirst]
    simp [readFrom, Except.map]
  | case3 a b n =>
    have ha := a.toNat_lt
    have hb := b.toNat_lt
    have hfirst : 4 * (n / 4096) + n / 64 % 64 / 16 = a.toNat := by omega
    have hsecond : 16 * (n / 64 % 64 % 16) + n % 64 / 4 = b.toNat := by omega
    rw [readFrom_first _ _ _ _ (show n / 4096 < 64 by omega)]
    rw [readFrom_second _ _ _ _ (show n / 64 % 64 < 64 by omega)]
    rw [readFrom_third _ _ _ _ (show n % 64 < 64 by omega)]
    rw [hfirst]
    rw [hsecond]
    simp [readFrom, Except.map]
  | case4 a b c rest n ih =>
    have ha := a.toNat_lt
    have hb := b.toNat_lt
    have hc := c.toNat_lt
    have hfirst : 4 * (n / 262144) + n / 4096 % 64 / 16 = a.toNat := by omega
    have hsecond : 16 * (n / 4096 % 64 % 16) + n / 64 % 64 / 4 = b.toNat := by omega
    have hthird : 64 * (n / 64 % 64 % 4) + n % 64 = c.toNat := by omega
    rw [readFrom_first _ _ _ _ (show n / 262144 < 64 by omega)]
    rw [readFrom_second _ _ _ _ (show n / 4096 % 64 < 64 by omega)]
    rw [readFrom_third _ _ _ _ (show n / 64 % 64 < 64 by omega)]
    rw [readFrom_fourth _ _ _ _ (show n % 64 < 64 by omega)]
    rw [hfirst]
    rw [hsecond]
    rw [hthird]
    rw [ih]
    simp [Except.map]

theorem read_write (bytes : List UInt8) : read (write bytes) = .ok bytes := by
  have hascii : (write bytes).all isAscii = true := by
    rw [List.all_eq_true]
    exact forall_mem_write (by decide) (by decide) bytes
  unfold read
  rw [if_pos hascii]
  exact readFrom_write bytes 0

end Base64

end XmlBinding.Binary
