import Mathlib.Algebra.Group.Nat.Defs
import XmlBinding.Text.Blank
import XmlBinding.Text.Literal

/-!
This module contains that the quoted form of a text is read back as that text, and that it has no blanks but spaces, so
that no line ends in it.
-/

namespace XmlBinding.Text

/-! ### Hexadecimal digits -/

theorem hexValue?_hexDigit {n : Nat} (h : n < 16) : hexValue? (hexDigit n) = some n := by
  have : ∀ n : Fin 16, hexValue? (hexDigit n.val) = some n.val := by decide
  exact this ⟨n, h⟩

@[simp]
theorem length_hexDigits (width n : Nat) : (hexDigits width n).length = width := by
  induction width generalizing n with
  | zero => rfl
  | succ width ih =>
    rw [hexDigits]
    rw [List.length_append]
    rw [ih]
    rfl

theorem foldlM_hexDigits (width n value : Nat)
    : (hexDigits width n).foldlM (fun value d => (hexValue? d).map (16 * value + ·)) value =
        some (value * 16 ^ width + n % 16 ^ width) := by
  induction width generalizing n with
  | zero => simp [hexDigits, Nat.mod_one]
  | succ width ih =>
    have hmod : n % 16 ^ (width + 1) = n % 16 + 16 * (n / 16 % 16 ^ width) := by
      rw [Nat.pow_succ']
      exact Nat.mod_mul
    rw [hexDigits]
    rw [List.foldlM_append]
    rw [ih]
    simp only [List.foldlM_cons, List.foldlM_nil, hexValue?_hexDigit (Nat.mod_lt n (by decide)), Option.map_some,
      bind_pure, Option.bind_eq_bind, Option.bind_some, Option.some.injEq]
    rw [hmod]
    rw [Nat.pow_succ']
    rw [Nat.mul_left_comm]
    omega

namespace Quoted

theorem hexRun?_hexDigits {width n : Nat} (h : n < 16 ^ width) (rest : List Char)
    : hexRun? width (hexDigits width n ++ rest) = some (n, rest) := by
  have htake : (hexDigits width n ++ rest).take width = hexDigits width n := List.take_left' (length_hexDigits width n)
  have hdrop : (hexDigits width n ++ rest).drop width = rest := List.drop_left' (length_hexDigits width n)
  unfold hexRun?
  rw [htake]
  rw [hdrop]
  simp [foldlM_hexDigits, Nat.mod_eq_of_lt h]

/-! ### One character -/

theorem mark_eq (cs : List Char) : mark cs = '\x27' ∨ mark cs = '"' := by
  unfold mark
  split
  . exact .inr rfl
  . exact .inl rfl

theorem toNat_lt (c : Char) : c.toNat < 0x110000 := by
  have := c.valid
  simp only [UInt32.isValidChar, Nat.isValidChar] at this
  simp only [Char.toNat]
  omega

/-- The forms in which a character stands between two marks. -/
theorem escape_cases {P : List Char → Prop} (q c : Char) (marked : c = q ∨ c = '\\' → P ['\\', c])
    (lineFeed : c = '\n' → P ['\\', 'n']) (carriageReturn : c = '\r' → P ['\\', 'r']) (tab : c = '\t' → P ['\\', 't'])
    (plain : c ≠ q → c ≠ '\\' → c ≠ '\n' → c ≠ '\r' → isPrintable c = true → P [c])
    (short : c.toNat < 16 ^ 2 → P ('\\' :: 'x' :: hexDigits 2 c.toNat))
    (middle : c.toNat < 16 ^ 4 → P ('\\' :: 'u' :: hexDigits 4 c.toNat))
    (long : c.toNat < 16 ^ 8 → P ('\\' :: 'U' :: hexDigits 8 c.toNat))
    : P (escape q c) := by
  unfold escape
  split
  . next h => exact marked (by simpa using h)
  . next hmarked =>
    have hne : c ≠ q ∧ c ≠ '\\' := by simpa using hmarked
    split
    . next h => exact lineFeed (by simpa using h)
    . next hlineFeed =>
      split
      . next h => exact carriageReturn (by simpa using h)
      . next hreturn =>
        split
        . next h => exact tab (by simpa using h)
        . split
          . next h => exact plain hne.1 hne.2 (by simpa using hlineFeed) (by simpa using hreturn) h
          . split
            . next h => exact short h
            . split
              . next h => exact middle h
              . exact long (Nat.lt_trans (toNat_lt c) (by decide))

theorem readChar?_escape {q : Char} (hq : q = '\x27' ∨ q = '"') (c : Char) (rest : List Char)
    : readChar? (escape q c ++ rest) = some (c, rest) ∧ (escape q c ++ rest).head? ≠ some q := by
  have hslash : '\\' ≠ q := by rcases hq with rfl | rfl <;> decide
  have hcode : Char.ofNat c.toNat = c := Char.ofNat_toNat c
  apply escape_cases (P := fun cs => readChar? (cs ++ rest) = some (c, rest) ∧ (cs ++ rest).head? ≠ some q) q c
  . intro h
    refine ⟨?_, by simpa using hslash⟩
    rcases h with rfl | rfl
    . rcases hq with rfl | rfl <;> rfl
    . rfl
  . rintro rfl
    exact ⟨rfl, by simpa using hslash⟩
  . rintro rfl
    exact ⟨rfl, by simpa using hslash⟩
  . rintro rfl
    exact ⟨rfl, by simpa using hslash⟩
  . intro hmark hbackslash hlineFeed hreturn _
    refine ⟨?_, by simpa using hmark⟩
    simp only [List.cons_append, List.nil_append]
    rw [readChar?]
    . simp [hbackslash, hlineFeed, hreturn]
    . intro d ds h
      exact absurd h hbackslash
  . intro h
    refine ⟨?_, by simpa using hslash⟩
    simp [readChar?, hexRun?_hexDigits h, hcode]
  . intro h
    refine ⟨?_, by simpa using hslash⟩
    simp [readChar?, hexRun?_hexDigits h, hcode]
  . intro h
    refine ⟨?_, by simpa using hslash⟩
    simp [readChar?, hexRun?_hexDigits h, hcode]

/-! ### A text -/

theorem readTo?_flatMap_escape {q : Char} (hq : q = '\x27' ∨ q = '"') {cs : List Char} {fuel : Nat}
    (hfuel : cs.length < fuel) (rest : List Char)
    : readTo? q fuel (cs.flatMap (escape q) ++ q :: rest) = some (cs, rest) := by
  induction cs generalizing fuel with
  | nil =>
    cases fuel with
    | zero => cases hfuel
    | succ fuel => simp [readTo?]
  | cons c cs ih =>
    cases fuel with
    | zero => cases hfuel
    | succ fuel =>
      rw [List.length_cons] at hfuel
      obtain ⟨hread, hhead⟩ := readChar?_escape hq c (cs.flatMap (escape q) ++ q :: rest)
      rw [List.flatMap_cons]
      rw [List.append_assoc]
      rw [readTo?]
      rw [if_neg (by simpa using hhead)]
      rw [hread]
      simp [ih (Nat.lt_of_succ_lt_succ hfuel)]

theorem length_le_length_flatMap_escape (q : Char) (cs : List Char) : cs.length ≤ (cs.flatMap (escape q)).length := by
  induction cs with
  | nil => exact Nat.le_refl 0
  | cons c cs ih =>
    have hone : 1 ≤ (escape q c).length := by
      apply escape_cases (P := fun ds => 1 ≤ ds.length) q c <;> simp
    rw [List.flatMap_cons]
    rw [List.length_append]
    rw [List.length_cons]
    omega

/-- What is quoted is read back, whatever follows it. -/
theorem readFront?_write (cs rest : List Char) : readFront? (write cs ++ rest) = some (cs, rest) := by
  have hlength := length_le_length_flatMap_escape (mark cs) cs
  have hmark := mark_eq cs
  unfold write
  dsimp only
  rw [List.cons_append]
  rw [List.cons_append]
  rw [readFront?]
  rw [if_pos (by simpa using hmark)]
  rw [List.append_assoc]
  apply readTo?_flatMap_escape hmark
  simp only [List.length_append, List.length_cons]
  omega

/-! ### Blanks -/

theorem eq_space_of_isPrintable {c : Char} (h : isPrintable c = true) (hblank : isBlank c = true) : c = ' ' := by
  have hfar : ∀ n ∈ [0x85, 0xA0, 0x1680, 0x2000, 0x2001, 0x2002, 0x2003, 0x2004, 0x2005, 0x2006, 0x2007, 0x2008, 0x2009,
      0x200A, 0x2028, 0x2029, 0x202F, 0x205F, 0x3000], inBounds Property.printableBounds n = false := by
    decide +kernel
  have hcode : c.toNat = ' '.toNat := by
    have hspace : ' '.toNat = 0x20 := rfl
    unfold isPrintable isAscii at h
    simp only [isBlank, Bool.or_eq_true, Bool.and_eq_true, decide_eq_true_eq, beq_iff_eq] at hblank
    by_cases hnear : c.toNat < 128
    . simp only [hnear, decide_true, if_true, Bool.and_eq_true, decide_eq_true_eq] at h
      omega
    . simp only [hnear, decide_false, Bool.false_eq_true, if_false] at h
      have hmem := hfar c.toNat
      rw [h] at hmem
      simp only [List.mem_cons, List.not_mem_nil, or_false, Bool.true_eq_false, imp_false, not_or] at hmem
      omega
  exact Char.toNat_inj.mp hcode

theorem isBlank_hexDigit {n : Nat} (h : n < 16) : isBlank (hexDigit n) = false := by
  have : ∀ n : Fin 16, isBlank (hexDigit n.val) = false := by decide
  exact this ⟨n, h⟩

theorem not_isBlank_of_mem_hexDigits {width n : Nat} {c : Char} (h : c ∈ hexDigits width n) : isBlank c = false := by
  induction width generalizing n with
  | zero => cases h
  | succ width ih =>
    rw [hexDigits] at h
    cases List.mem_append.mp h with
    | inl hmem => exact ih hmem
    | inr hlast =>
      rw [List.mem_singleton.mp hlast]
      exact isBlank_hexDigit (Nat.mod_lt n (by decide))

theorem eq_space_of_mem_escape {q c d : Char} (hq : isBlank q = false) (h : d ∈ escape q c) (hblank : isBlank d = true)
    : d = ' ' := by
  revert h
  have hletters : (['\\', 'n', 'r', 't', 'x', 'u', 'U'].all fun e => !isBlank e) = true := by decide
  have hcode (letter : Char) (hletter : letter ∈ ['\\', 'n', 'r', 't', 'x', 'u', 'U']) (width : Nat)
      (hd : d ∈ '\\' :: letter :: hexDigits width c.toNat) : d = ' ' := by
    have hnot : isBlank d = false := by
      rcases List.mem_cons.mp hd with rfl | hd
      . rfl
      . rcases List.mem_cons.mp hd with rfl | hd
        . simpa using List.all_eq_true.mp hletters d hletter
        . exact not_isBlank_of_mem_hexDigits hd
    rw [hnot] at hblank
    cases hblank
  apply escape_cases (P := fun ds => d ∈ ds → d = ' ') q c
  . intro h hd
    have hnot : isBlank d = false := by
      rcases List.mem_cons.mp hd with rfl | hd
      . rfl
      . rw [List.mem_singleton.mp hd]
        rcases h with rfl | rfl
        . exact hq
        . rfl
    rw [hnot] at hblank
    cases hblank
  . rintro - hd
    exact hcode 'n' (by decide) 0 hd
  . rintro - hd
    exact hcode 'r' (by decide) 0 hd
  . rintro - hd
    exact hcode 't' (by decide) 0 hd
  . intro _ _ _ _ hprintable hd
    obtain rfl := List.mem_singleton.mp hd
    exact eq_space_of_isPrintable hprintable hblank
  . rintro - hd
    exact hcode 'x' (by decide) 2 hd
  . rintro - hd
    exact hcode 'u' (by decide) 4 hd
  . rintro - hd
    exact hcode 'U' (by decide) 8 hd

theorem isBlank_mark (cs : List Char) : isBlank (mark cs) = false := by
  rcases mark_eq cs with h | h <;> rw [h] <;> rfl

theorem eq_space_of_mem_write {cs : List Char} {c : Char} (h : c ∈ write cs) (hblank : isBlank c = true) : c = ' ' := by
  have hmark : c ≠ mark cs := by
    rintro rfl
    rw [isBlank_mark] at hblank
    cases hblank
  unfold write at h
  simp only [List.cons_append, List.mem_cons, List.mem_append, List.mem_flatMap, List.mem_nil_iff, or_false, hmark,
    false_or] at h
  obtain ⟨d, -, hd⟩ := h
  exact eq_space_of_mem_escape (isBlank_mark cs) hd hblank

theorem lineFeed_not_mem_write (cs : List Char) : '\n' ∉ write cs := by
  intro h
  exact absurd (eq_space_of_mem_write h rfl) (by decide)

theorem getLast?_write (cs : List Char) : (write cs).getLast? = some (mark cs) := by
  exact List.getLast?_concat

end Quoted

end XmlBinding.Text
