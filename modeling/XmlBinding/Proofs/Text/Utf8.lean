import Mathlib.Data.List.Basic
import XmlBinding.Text.Utf8

/-!
This module contains that the reading of UTF-8 accepts exactly the bytes that characters are encoded in, and gives back
these characters.
-/

namespace XmlBinding.Text.Utf8

/-- The bytes of a text. -/
def encode (cs : List Char) : List UInt8 :=
  cs.flatMap String.utf8EncodeChar

theorem encode_cons {c : Char} {cs : List Char} : encode (c :: cs) = String.utf8EncodeChar c ++ encode cs :=
  rfl

variable {p first more bits low high : Nat} {byte b : UInt8} {tails bs : List UInt8} {c : Char} {cs : List Char}

/-! ### Bytes after the first -/

/-- Bytes that may follow a first byte, where the range of the first of them depends on it. -/
def AreTails (low high : Nat) : List UInt8 → Prop
  | [] => True
  | t :: ts => low ≤ t.toNat ∧ t.toNat ≤ high ∧ AreTails 0x80 0xBF ts

theorem areTails_cons : AreTails low high (b :: tails) ↔ low ≤ b.toNat ∧ b.toNat ≤ high ∧ AreTails 0x80 0xBF tails :=
  Iff.rfl

/-- The number that the bits of a sequence make up. -/
def code (bits : Nat) (tails : List UInt8) : Nat :=
  tails.foldl (fun bits t => bits * 64 + (t.toNat - 0x80)) bits

@[simp]
theorem code_nil : code bits [] = bits :=
  rfl

@[simp]
theorem code_cons : code bits (b :: tails) = code (bits * 64 + (b.toNat - 0x80)) tails := by
  unfold code
  rw [List.foldl_cons]

theorem readFrom_inside_cons (hlow : low ≤ b.toNat) (hhigh : b.toNat ≤ high)
    : readFrom p (.inside byte first (more + 1) bits low high) (b :: bs) =
        if more = 0 then (readFrom (p + 1) .between bs).map (Char.ofNat (bits * 64 + (b.toNat - 0x80)) :: ·)
        else readFrom (p + 1) (.inside byte first more (bits * 64 + (b.toNat - 0x80)) 0x80 0xBF) bs := by
  rw [readFrom]
  simp [hlow, hhigh]

theorem range_of_readFrom_inside (h : readFrom p (.inside byte first more bits low high) (b :: bs) = .ok cs)
    : low ≤ b.toNat ∧ b.toNat ≤ high := by
  rw [readFrom] at h
  split at h
  . next hrange => simpa using hrange
  . cases h

theorem map_cons_eq_ok_iff {x : Except ReadError (List Char)}
    : x.map (c :: ·) = .ok cs ↔ ∃ after, cs = c :: after ∧ x = .ok after := by
  cases x with
  | error e => simp [Except.map]
  | ok after => simp [Except.map, eq_comm]

/-- Inside of a sequence exactly the bytes that are to come are read, and then what stands after them. -/
theorem readFrom_inside_eq_ok_iff
    : readFrom p (.inside byte first (more + 1) bits low high) bs = .ok cs ↔
        ∃ tails rest after, bs = tails ++ rest ∧ tails.length = more + 1 ∧ AreTails low high tails ∧
          cs = Char.ofNat (code bits tails) :: after ∧ readFrom (p + more + 1) .between rest = .ok after := by
  -- All but the last byte lead to the same state with one byte less to come, and the widest range.
  induction more generalizing p bits low high bs with
  | zero =>
    constructor
    . intro h
      cases bs with
      | nil => cases h
      | cons b bs =>
        obtain ⟨hlow, hhigh⟩ := range_of_readFrom_inside h
        rw [readFrom_inside_cons hlow hhigh] at h
        rw [if_pos rfl] at h
        obtain ⟨after, rfl, hafter⟩ := map_cons_eq_ok_iff.mp h
        exact ⟨[b], bs, after, rfl, rfl, areTails_cons.mpr ⟨hlow, hhigh, trivial⟩, by simp, hafter⟩
    . rintro ⟨tails, rest, after, rfl, hlength, htails, rfl, hafter⟩
      obtain ⟨t, rfl⟩ := List.length_eq_one_iff.mp hlength
      obtain ⟨hlow, hhigh, -⟩ := areTails_cons.mp htails
      rw [List.singleton_append]
      rw [readFrom_inside_cons hlow hhigh]
      rw [if_pos rfl]
      rw [code_cons]
      rw [code_nil]
      exact map_cons_eq_ok_iff.mpr ⟨after, rfl, hafter⟩
  | succ more ih =>
    constructor
    . intro h
      cases bs with
      | nil => cases h
      | cons b bs =>
        obtain ⟨hlow, hhigh⟩ := range_of_readFrom_inside h
        rw [readFrom_inside_cons hlow hhigh] at h
        rw [if_neg (by omega)] at h
        obtain ⟨tails, rest, after, rfl, hlength, htails, rfl, hafter⟩ := ih.mp h
        rw [show p + 1 + more + 1 = p + (more + 1) + 1 by omega] at hafter
        exact ⟨b :: tails, rest, after, rfl, congrArg (· + 1) hlength, areTails_cons.mpr ⟨hlow, hhigh, htails⟩, by simp,
          hafter⟩
    . rintro ⟨tails, rest, after, rfl, hlength, htails, rfl, hafter⟩
      cases tails with
      | nil => cases hlength
      | cons t tails =>
        obtain ⟨hlow, hhigh, htails⟩ := areTails_cons.mp htails
        rw [List.cons_append]
        rw [readFrom_inside_cons hlow hhigh]
        rw [if_neg (by omega)]
        rw [show p + (more + 1) + 1 = p + 1 + more + 1 by omega] at hafter
        exact ih.mpr ⟨tails, rest, after, rfl, Nat.succ.inj hlength, htails, by rw [code_cons], hafter⟩

/-! ### First bytes -/

/-- A first byte with what it asks for: the range of the second byte leaves out what has a shorter form, surrogates, and
what is no code point. -/
inductive IsLead : (b more bits low high : Nat) → Prop
  | one {b : Nat} : b < 0x80 → IsLead b 0 b 0 0
  | two {b : Nat} : 0xC2 ≤ b → b < 0xE0 → IsLead b 1 (b - 0xC0) 0x80 0xBF
  | three {b low high : Nat} : 0xE0 ≤ b → b < 0xF0 → low = (if b = 0xE0 then 0xA0 else 0x80) →
      high = (if b = 0xED then 0x9F else 0xBF) → IsLead b 2 (b - 0xE0) low high
  | four {b low high : Nat} : 0xF0 ≤ b → b ≤ 0xF4 → low = (if b = 0xF0 then 0x90 else 0x80) →
      high = (if b = 0xF4 then 0x8F else 0xBF) → IsLead b 3 (b - 0xF0) low high

theorem lead?_eq_some_iff {b : Nat} : lead? b = some (more, bits, low, high) ↔ IsLead b more bits low high := by
  constructor
  . intro h
    unfold lead? at h
    split at h
    . cases h
      exact .one (by omega)
    split at h
    . cases h
    split at h
    . simp only [Option.some.injEq, Prod.mk.injEq] at h
      obtain ⟨rfl, rfl, rfl, rfl⟩ := h
      exact .two (by omega) (by omega)
    split at h
    . next hb =>
      cases h
      rw [beq_iff_eq.mp hb]
      exact .three (by decide) (by decide) rfl rfl
    split at h
    . next hb =>
      cases h
      rw [beq_iff_eq.mp hb]
      exact .three (by decide) (by decide) rfl rfl
    split at h
    . next hE0 hED _ =>
      simp only [Option.some.injEq, Prod.mk.injEq] at h
      obtain ⟨rfl, rfl, rfl, rfl⟩ := h
      rw [beq_iff_eq] at hE0 hED
      exact .three (by omega) (by omega) (by rw [if_neg hE0]) (by rw [if_neg hED])
    split at h
    . next hb =>
      cases h
      rw [beq_iff_eq.mp hb]
      exact .four (by decide) (by decide) rfl rfl
    split at h
    . next hF0 _ =>
      simp only [Option.some.injEq, Prod.mk.injEq] at h
      obtain ⟨rfl, rfl, rfl, rfl⟩ := h
      rw [beq_iff_eq] at hF0
      exact .four (by omega) (by omega) (by rw [if_neg hF0]) (by rw [if_neg (by omega)])
    split at h
    . next hb =>
      cases h
      rw [beq_iff_eq.mp hb]
      exact .four (by decide) (by decide) rfl rfl
    . cases h
  . intro h
    unfold lead?
    cases h with
    | one hb => rw [if_pos hb]
    | two hlow hhigh =>
      rw [if_neg (by omega)]
      rw [if_neg (by omega)]
      rw [if_pos hhigh]
    | three hlow hhigh hl hh => grind
    | four hlow hhigh hl hh => grind

/-! ### Sequences -/

/-- The bytes that make up a character. -/
inductive IsSequence (c : Char) : List UInt8 → Prop
  | mk {b : UInt8} {bits low high : Nat} {tails : List UInt8} :
      IsLead b.toNat tails.length bits low high → AreTails low high tails → c = Char.ofNat (code bits tails) →
      IsSequence c (b :: tails)

theorem readFrom_between_cons (h : IsLead b.toNat more bits low high)
    : readFrom p .between (b :: bs) =
        if more = 0 then (readFrom (p + 1) .between bs).map (Char.ofNat bits :: ·)
        else readFrom (p + 1) (.inside b p more bits low high) bs := by
  have hlead := lead?_eq_some_iff.mpr h
  cases more with
  | zero =>
    rw [readFrom]
    simp [hlead]
  | succ more =>
    rw [readFrom]
    simp [hlead]

theorem exists_isLead_of_readFrom (h : readFrom p .between (b :: bs) = .ok cs)
    : ∃ more bits low high, IsLead b.toNat more bits low high := by
  rw [readFrom] at h
  cases hlead : lead? b.toNat with
  | none =>
    rw [hlead] at h
    cases h
  | some lead => exact ⟨_, _, _, _, lead?_eq_some_iff.mp hlead⟩

/-- Between characters exactly the bytes of a character are read, and then what stands after them. -/
theorem readFrom_between_cons_eq_ok_iff
    : readFrom p .between (b :: bs) = .ok cs ↔
        ∃ c tails rest after, bs = tails ++ rest ∧ IsSequence c (b :: tails) ∧ cs = c :: after ∧
          readFrom (p + tails.length + 1) .between rest = .ok after := by
  constructor
  . intro h
    obtain ⟨more, bits, low, high, hlead⟩ := exists_isLead_of_readFrom h
    rw [readFrom_between_cons hlead] at h
    cases more with
    | zero =>
      rw [if_pos rfl] at h
      obtain ⟨after, rfl, hafter⟩ := map_cons_eq_ok_iff.mp h
      exact ⟨_, [], bs, after, rfl, .mk hlead trivial (by rw [code_nil]), rfl, hafter⟩
    | succ more =>
      rw [if_neg (by omega)] at h
      obtain ⟨tails, rest, after, rfl, hlength, htails, rfl, hafter⟩ := readFrom_inside_eq_ok_iff.mp h
      rw [← hlength] at hlead
      rw [show p + 1 + more + 1 = p + tails.length + 1 by omega] at hafter
      exact ⟨_, tails, rest, after, rfl, .mk hlead htails rfl, rfl, hafter⟩
  . rintro ⟨c, tails, rest, after, rfl, hseq, rfl, hafter⟩
    cases hseq with
    | mk hlead htails hc =>
      rw [readFrom_between_cons hlead]
      cases tails with
      | nil =>
        rw [hc]
        exact map_cons_eq_ok_iff.mpr ⟨after, rfl, hafter⟩
      | cons t tails =>
        rw [if_neg (by simp)]
        rw [show p + (t :: tails).length + 1 = p + 1 + tails.length + 1 by
          rw [List.length_cons]
          omega] at hafter
        exact readFrom_inside_eq_ok_iff.mpr ⟨t :: tails, rest, after, rfl, rfl, htails, by rw [hc], hafter⟩

/-! ### Characters -/

theorem toNat_cases (c : Char)
    : c.toNat ≤ 0x7F ∨ 0x7F < c.toNat ∧ c.toNat ≤ 0x7FF ∨
        0x7FF < c.toNat ∧ c.toNat ≤ 0xFFFF ∧ (c.toNat < 0xD800 ∨ 0xDFFF < c.toNat) ∨
        0xFFFF < c.toNat ∧ c.toNat < 0x110000 := by
  have hvalid : c.toNat < 0xD800 ∨ 0xDFFF < c.toNat ∧ c.toNat < 0x110000 := c.valid
  omega

theorem toNat_ofNat {n : Nat} (h : n < 0xD800 ∨ 0xDFFF < n ∧ n < 0x110000) : (Char.ofNat n).toNat = n := by
  have hvalid : n.isValidChar := h
  unfold Char.ofNat
  rw [dif_pos hvalid]
  rfl

section

open String (utf8EncodeChar)

theorem encodeChar_one (h : c.toNat ≤ 0x7F) : utf8EncodeChar c = [UInt8.ofNat c.toNat] := by
  have h : c.val.toNat ≤ 127 := h
  unfold utf8EncodeChar
  rw [if_pos h]
  rfl

theorem encodeChar_two (hlow : 0x7F < c.toNat) (hhigh : c.toNat ≤ 0x7FF)
    : utf8EncodeChar c = [UInt8.ofNat (c.toNat / 64 % 32 + 192), UInt8.ofNat (c.toNat % 64 + 128)] := by
  have hlow : ¬c.val.toNat ≤ 127 := Nat.not_le_of_lt hlow
  have hhigh : c.val.toNat ≤ 2047 := hhigh
  unfold utf8EncodeChar
  rw [if_neg hlow]
  rw [if_pos hhigh]
  rfl

theorem encodeChar_three (hlow : 0x7FF < c.toNat) (hhigh : c.toNat ≤ 0xFFFF)
    : utf8EncodeChar c =
        [UInt8.ofNat (c.toNat / 4096 % 16 + 224), UInt8.ofNat (c.toNat / 64 % 64 + 128),
          UInt8.ofNat (c.toNat % 64 + 128)] := by
  have hfirst : ¬c.val.toNat ≤ 127 := Nat.not_le_of_lt (Nat.lt_trans (by decide) hlow)
  have hlow : ¬c.val.toNat ≤ 2047 := Nat.not_le_of_lt hlow
  have hhigh : c.val.toNat ≤ 65535 := hhigh
  unfold utf8EncodeChar
  rw [if_neg hfirst]
  rw [if_neg hlow]
  rw [if_pos hhigh]
  rfl

theorem encodeChar_four (hlow : 0xFFFF < c.toNat)
    : utf8EncodeChar c =
        [UInt8.ofNat (c.toNat / 262144 % 8 + 240), UInt8.ofNat (c.toNat / 4096 % 64 + 128),
          UInt8.ofNat (c.toNat / 64 % 64 + 128), UInt8.ofNat (c.toNat % 64 + 128)] := by
  have hfirst : ¬c.val.toNat ≤ 127 := Nat.not_le_of_lt (Nat.lt_trans (by decide) hlow)
  have hsecond : ¬c.val.toNat ≤ 2047 := Nat.not_le_of_lt (Nat.lt_trans (by decide) hlow)
  have hlow : ¬c.val.toNat ≤ 65535 := Nat.not_le_of_lt hlow
  unfold utf8EncodeChar
  rw [if_neg hfirst]
  rw [if_neg hsecond]
  rw [if_neg hlow]
  rfl

theorem eq_ofNat {n : Nat} (h : b.toNat = n) : b = UInt8.ofNat n := by
  rw [← h]
  exact UInt8.ofNat_toNat.symm

/-- A sequence is the only one for its character: the ranges leave no longer form. -/
theorem IsSequence.eq_encodeChar (h : IsSequence c bs) : bs = utf8EncodeChar c := by
  cases h with
  | @mk b bits low high tails hlead htails hc =>
    have hcode (h : code bits tails < 0xD800 ∨ 0xDFFF < code bits tails ∧ code bits tails < 0x110000)
        : c.toNat = code bits tails := by
      rw [hc]
      exact toNat_ofNat h
    -- The ranges of the second byte keep the number within those that a character of this length has.
    generalize hfirst : b.toNat = first at hlead
    generalize hmore : tails.length = more at hlead
    cases hlead with
    | one hb =>
      obtain rfl := List.length_eq_zero_iff.mp hmore
      rw [code_nil] at hcode
      have hc := hcode (by omega)
      rw [encodeChar_one (by omega)]
      rw [eq_ofNat (hfirst.trans hc.symm)]
    | two hlow hhigh =>
      obtain ⟨t, rfl⟩ := List.length_eq_one_iff.mp hmore
      obtain ⟨htlow, hthigh, -⟩ := areTails_cons.mp htails
      rw [code_cons, code_nil] at hcode
      have hc := hcode (by omega)
      rw [encodeChar_two (by omega) (by omega)]
      rw [← eq_ofNat (b := b) (by omega)]
      rw [← eq_ofNat (b := t) (by omega)]
    | three hlow hhigh hl hh =>
      obtain ⟨t, u, rfl⟩ := List.length_eq_two.mp hmore
      obtain ⟨htlow, hthigh, htails⟩ := areTails_cons.mp htails
      obtain ⟨hulow, huhigh, -⟩ := areTails_cons.mp htails
      rw [code_cons, code_cons, code_nil] at hcode
      have hrange : (first = 0xE0 → 0xA0 ≤ t.toNat) ∧ (first = 0xED → t.toNat ≤ 0x9F) ∧ 0x80 ≤ t.toNat ∧
          t.toNat ≤ 0xBF := by grind
      have hc := hcode (by omega)
      rw [encodeChar_three (by omega) (by omega)]
      rw [← eq_ofNat (b := b) (by omega)]
      rw [← eq_ofNat (b := t) (by omega)]
      rw [← eq_ofNat (b := u) (by omega)]
    | four hlow hhigh hl hh =>
      obtain ⟨t, u, v, rfl⟩ := List.length_eq_three.mp hmore
      obtain ⟨htlow, hthigh, htails⟩ := areTails_cons.mp htails
      obtain ⟨hulow, huhigh, htails⟩ := areTails_cons.mp htails
      obtain ⟨hvlow, hvhigh, -⟩ := areTails_cons.mp htails
      rw [code_cons, code_cons, code_cons, code_nil] at hcode
      have hrange : (first = 0xF0 → 0x90 ≤ t.toNat) ∧ (first = 0xF4 → t.toNat ≤ 0x8F) ∧ 0x80 ≤ t.toNat ∧
          t.toNat ≤ 0xBF := by grind
      have hc := hcode (by omega)
      rw [encodeChar_four (by omega)]
      rw [← eq_ofNat (b := b) (by omega)]
      rw [← eq_ofNat (b := t) (by omega)]
      rw [← eq_ofNat (b := u) (by omega)]
      rw [← eq_ofNat (b := v) (by omega)]

theorem isSequence_encodeChar (c : Char) : IsSequence c (utf8EncodeChar c) := by
  have hbyte {n : Nat} (h : n < 256) : (UInt8.ofNat n).toNat = n := by simpa using h
  have hchar {n : Nat} (h : n = c.toNat) : c = Char.ofNat n := by
    rw [h]
    exact (Char.ofNat_toNat c).symm
  obtain hone | ⟨hlow, hhigh⟩ | ⟨hlow, hhigh, hplain⟩ | ⟨hlow, hhigh⟩ := toNat_cases c
  . rw [encodeChar_one hone]
    have hb : (UInt8.ofNat c.toNat).toNat = c.toNat := hbyte (by omega)
    have hlead := IsLead.one (b := c.toNat) (by omega)
    rw [← hb] at hlead
    exact .mk hlead trivial (hchar (by rw [code_nil, hb]))
  . rw [encodeChar_two hlow hhigh]
    have hb : (UInt8.ofNat (c.toNat / 64 % 32 + 192)).toNat = c.toNat / 64 % 32 + 192 := hbyte (by omega)
    have ht : (UInt8.ofNat (c.toNat % 64 + 128)).toNat = c.toNat % 64 + 128 := hbyte (by omega)
    have hlead := IsLead.two (b := c.toNat / 64 % 32 + 192) (by omega) (by omega)
    rw [← hb] at hlead
    refine .mk hlead (areTails_cons.mpr ⟨by omega, by omega, trivial⟩) (hchar ?_)
    rw [code_cons, code_nil]
    omega
  . rw [encodeChar_three hlow hhigh]
    have hb : (UInt8.ofNat (c.toNat / 4096 % 16 + 224)).toNat = c.toNat / 4096 % 16 + 224 := hbyte (by omega)
    have ht : (UInt8.ofNat (c.toNat / 64 % 64 + 128)).toNat = c.toNat / 64 % 64 + 128 := hbyte (by omega)
    have hu : (UInt8.ofNat (c.toNat % 64 + 128)).toNat = c.toNat % 64 + 128 := hbyte (by omega)
    have hlead := IsLead.three (b := c.toNat / 4096 % 16 + 224) (by omega) (by omega) rfl rfl
    rw [← hb] at hlead
    refine .mk hlead (areTails_cons.mpr ⟨?_, ?_, areTails_cons.mpr ⟨by omega, by omega, trivial⟩⟩) (hchar ?_)
    . split <;> omega
    . split <;> omega
    . rw [code_cons, code_cons, code_nil]
      omega
  . rw [encodeChar_four hlow]
    have hb : (UInt8.ofNat (c.toNat / 262144 % 8 + 240)).toNat = c.toNat / 262144 % 8 + 240 := hbyte (by omega)
    have ht : (UInt8.ofNat (c.toNat / 4096 % 64 + 128)).toNat = c.toNat / 4096 % 64 + 128 := hbyte (by omega)
    have hu : (UInt8.ofNat (c.toNat / 64 % 64 + 128)).toNat = c.toNat / 64 % 64 + 128 := hbyte (by omega)
    have hv : (UInt8.ofNat (c.toNat % 64 + 128)).toNat = c.toNat % 64 + 128 := hbyte (by omega)
    have hlead := IsLead.four (b := c.toNat / 262144 % 8 + 240) (by omega) (by omega) rfl rfl
    rw [← hb] at hlead
    refine .mk hlead (areTails_cons.mpr ⟨?_, ?_, areTails_cons.mpr ⟨by omega, by omega, areTails_cons.mpr
      ⟨by omega, by omega, trivial⟩⟩⟩) (hchar ?_)
    . split <;> omega
    . split <;> omega
    . rw [code_cons, code_cons, code_cons, code_nil]
      omega

end

/-! ### Texts -/

theorem readFrom_between_eq_ok_iff : readFrom p .between bs = .ok cs ↔ bs = encode cs := by
  constructor
  . intro h
    -- What is left after a character is shorter by one to four bytes.
    induction hlength : bs.length using Nat.strongRecOn generalizing p bs cs with
    | ind n ih =>
      cases bs with
      | nil =>
        cases h
        rfl
      | cons b bs =>
        obtain ⟨c, tails, rest, after, rfl, hseq, rfl, hafter⟩ := readFrom_between_cons_eq_ok_iff.mp h
        have hshorter : rest.length < n := by
          rw [← hlength]
          rw [List.length_cons]
          rw [List.length_append]
          omega
        rw [encode_cons]
        rw [← hseq.eq_encodeChar]
        rw [← ih rest.length hshorter hafter rfl]
        rfl
  . rintro rfl
    induction cs generalizing p with
    | nil => rfl
    | cons c cs ih =>
      rw [encode_cons]
      have hseq := isSequence_encodeChar c
      cases hbytes : String.utf8EncodeChar c with
      | nil =>
        rw [hbytes] at hseq
        cases hseq
      | cons b tails =>
        rw [hbytes] at hseq
        exact readFrom_between_cons_eq_ok_iff.mpr ⟨c, tails, encode cs, cs, rfl, hseq, rfl, ih⟩

theorem read_eq_ok_iff : read bs = .ok cs ↔ bs = encode cs :=
  readFrom_between_eq_ok_iff

end XmlBinding.Text.Utf8
