import XmlBinding.Proofs.Binary.Bytes
import XmlBinding.Proofs.Codec.RoundTrip
import XmlBinding.Proofs.Number.Decimal

/-!
This module contains that scalar values are read back from their texts, and so are lists of values whose texts are
words. Decimals come back as the same numbers, all other values as they were. Integers have to have few enough digits.
-/

namespace XmlBinding.Codec

open Number Text

/-! ### Values with a text -/

/-- Two values are equal: the same, or decimals that stand for the same number. -/
inductive IsSame : Value → Value → Prop
  | refl (v : Value) : IsSame v v
  | decimal {d e : Decimal} : d.number? = e.number? → d.number?.isSome = true → IsSame (.decimal d) (.decimal e)

/-- A text that stays one word of a list. -/
def IsWord (s : String) : Prop :=
  s ≠ "" ∧ ∀ c ∈ s.toList, isBlank c = false

instance (s : String) : Decidable (IsWord s) :=
  decidable_of_iff (s ≠ "" ∧ (s.toList.all fun c => !isBlank c) = true) (by simp [IsWord])

/-- A value of a type for which texts are made and read: texts themselves, truth values, integers with few enough
digits, finite decimals, bytes in either form, and lists of such values whose texts are words. -/
inductive HasText (t : Table) : Hint → Value → Prop
  | text (s : String) : HasText t (.scalar .text) (.text s)
  | any (s : String) : HasText t (.scalar .any) (.text s)
  | bool (b : Bool) : HasText t (.scalar .bool) (.bool b)
  | int {n : Int} : n.natAbs < 10 ^ Integer.digitLimit → HasText t (.scalar .int) (.int n)
  | decimal (negative : Bool) (coefficient : Nat) (exponent : Int) :
      HasText t (.scalar .decimal) (.decimal (.finite negative coefficient exponent))
  | bytes (bytes : List UInt8) : HasText t (.scalar .bytes) (.bytes bytes)
  | hex (bytes : List UInt8) : HasText t (.scalar .hex) (.hex bytes)
  | list {item : Hint} {items : List Value} :
      (∀ v ∈ items, HasText t item v) → (∀ v ∈ items, ∀ text, formatText t v = .ok text → IsWord text) →
      HasText t (.list item) (.list items)

/-- The value has a text, and is read back from it. -/
def ReadsBack (t : Table) (h : Hint) (v : Value) : Prop :=
  ∃ text w, formatText t v = .ok text ∧ parseText t h text = .ok w ∧ Agree IsSame w v

variable {t : Table}

/-! ### Scalars -/

theorem parseText_of_not_blank {scalar : Scalar} {s : String} (hs : ∀ c ∈ s.toList, isBlank c = false)
    (hscalar : scalar ≠ .text ∧ scalar ≠ .any)
    : parseText t (.scalar scalar) s = readScalar t s scalar := by
  have hstrip := strip_of_forall_not_blank hs
  cases scalar with
  | text => exact absurd rfl hscalar.1
  | any => exact absurd rfl hscalar.2
  | _ =>
    rw [parseText]
    . rw [hstrip]
    . exact Scalar.noConfusion
    . exact Scalar.noConfusion

theorem readsBack_bool (t : Table) (b : Bool) : ReadsBack t (.scalar .bool) (.bool b) := by
  have hword : IsWord (if b then "true" else "false") := by
    cases b with
    | false => decide
    | true => decide
  refine ⟨_, .bool b, by rw [formatText], ?_, .leaf (.refl _)⟩
  rw [parseText_of_not_blank hword.2 (by simp)]
  rw [readScalar]
  cases b with
  | false => rfl
  | true => rfl

theorem formatText_int (t : Table) (n : Int) : formatText t (.int n) = writeInteger n := by
  rw [formatText]

theorem readsBack_int (t : Table) {n : Int} (h : Integer.isWritable n = true)
    : ReadsBack t (.scalar .int) (.int n) := by
  have hblank : ∀ c ∈ (Integer.write n).toList, isBlank c = false :=
    fun c hc => isBlank_of_isNumeric (Integer.isNumeric_of_mem_write c hc)
  refine ⟨Integer.write n, .int n, ?_, ?_, .leaf (.refl _)⟩
  . rw [formatText_int]
    exact if_pos h
  . rw [parseText_of_not_blank hblank (by simp)]
    rw [readScalar]
    rw [Integer.read_write_of_isWritable h]
    rfl

theorem readsBack_decimal (t : Table) (negative : Bool) (coefficient : Nat) (exponent : Int)
    : ReadsBack t (.scalar .decimal) (.decimal (.finite negative coefficient exponent)) := by
  have hblank : ∀ c ∈ (Decimal.write (.finite negative coefficient exponent)).toList, isBlank c = false :=
    fun c hc => isBlank_of_isNumeric (Decimal.isNumeric_of_mem_write c hc)
  obtain ⟨d, hread, hnumber⟩ := Decimal.number?_read?_write negative coefficient exponent
  refine ⟨_, .decimal d, by rw [formatText], ?_, .leaf (.decimal hnumber (by rw [hnumber]; rfl))⟩
  rw [parseText_of_not_blank hblank (by simp)]
  rw [readScalar]
  rw [hread]

theorem readsBack_bytes (t : Table) (bytes : List UInt8) : ReadsBack t (.scalar .bytes) (.bytes bytes) := by
  refine ⟨_, .bytes bytes, by rw [formatText], ?_, .leaf (.refl _)⟩
  rw [parseText_of_not_blank (by simpa using Binary.Base64.isBlank_of_mem_write bytes) (by simp)]
  rw [readScalar]
  rw [String.toList_ofList]
  rw [Binary.Base64.read_write]
  rfl

theorem readsBack_hex (t : Table) (bytes : List UInt8) : ReadsBack t (.scalar .hex) (.hex bytes) := by
  refine ⟨_, .hex bytes, by rw [formatText], ?_, .leaf (.refl _)⟩
  rw [parseText_of_not_blank (by simpa using Binary.Hex.isBlank_of_mem_write) (by simp)]
  rw [readScalar]
  rw [String.toList_ofList]
  rw [Binary.Hex.read_write]
  rfl

/-! ### Lists -/

/-- The items of a list have texts, all of which are words, and each is read back from its own. -/
theorem exists_formatItems {item : Hint} {items : List Value} (h : ∀ v ∈ items, ReadsBack t item v)
    (hwords : ∀ v ∈ items, ∀ text, formatText t v = .ok text → IsWord text)
    : ∃ texts ws, formatItems t items = .ok texts ∧ (∀ text ∈ texts, IsWord text) ∧
        texts.mapM (parseText t item) = .ok ws ∧ List.Forall₂ (Agree IsSame) ws items := by
  induction items with
  | nil => exact ⟨[], [], by rw [formatItems], by simp, rfl, .nil⟩
  | cons v items ih =>
    rw [List.forall_mem_cons] at h hwords
    obtain ⟨text, w, htext, hparse, hsame⟩ := h.1
    obtain ⟨texts, ws, htexts, hall, hparses, hsames⟩ := ih h.2 hwords.2
    refine ⟨text :: texts, w :: ws, ?_, ?_, ?_, .cons hsame hsames⟩
    . rw [formatItems]
      rw [htext]
      rw [htexts]
      rfl
    . rw [List.forall_mem_cons]
      exact ⟨hwords.1 text htext, hall⟩
    . rw [List.mapM_cons]
      rw [hparse]
      rw [hparses]
      rfl

theorem readsBack_list {item : Hint} {items : List Value} (h : ∀ v ∈ items, ReadsBack t item v)
    (hwords : ∀ v ∈ items, ∀ text, formatText t v = .ok text → IsWord text)
    : ReadsBack t (.list item) (.list items) := by
  obtain ⟨texts, ws, htexts, hall, hparses, hsames⟩ := exists_formatItems h hwords
  refine ⟨" ".intercalate texts, .list ws, ?_, ?_, .list hsames⟩
  . rw [formatText]
    rw [htexts]
    rfl
  . rw [parseText]
    rw [wordsOf_intercalate hall]
    rw [hparses]
    rfl

/-- Every value is read back from its text. -/
theorem parseText_formatText {h : Hint} {v : Value} (hv : HasText t h v)
    : ∃ text w, formatText t v = .ok text ∧ parseText t h text = .ok w ∧ Agree IsSame w v := by
  induction hv with
  | text s => exact ⟨s, .text s, by rw [formatText], by rw [parseText], .leaf (.refl _)⟩
  | any s => exact ⟨s, .text s, by rw [formatText], by rw [parseText], .leaf (.refl _)⟩
  | bool b => exact readsBack_bool t b
  | int hn => exact readsBack_int t (Integer.isWritable_iff.mpr hn)
  | decimal negative coefficient exponent => exact readsBack_decimal t negative coefficient exponent
  | bytes bytes => exact readsBack_bytes t bytes
  | hex bytes => exact readsBack_hex t bytes
  | list _ hwords ih => exact readsBack_list ih hwords

def prices : Value :=
  .list [.decimal (.finite true 5 (-1)), .decimal (.finite false 1 3)]

theorem formatText_prices (t : Table) : formatText t prices = .ok "-0.5 1000" := by
  rfl

theorem parseText_formatText_prices
    : HasText (.empty Calendar.noReader) (.list (.scalar .decimal)) prices ∧
        formatText (.empty Calendar.noReader) prices = .ok "-0.5 1000" ∧
        ∃ w, parseText (.empty Calendar.noReader) (.list (.scalar .decimal)) "-0.5 1000" = .ok w ∧
          Agree IsSame w prices := by
  have hprices : HasText (.empty Calendar.noReader) (.list (.scalar .decimal)) prices := by
    apply HasText.list
    . rw [List.forall_mem_cons]
      rw [List.forall_mem_singleton]
      exact ⟨.decimal true 5 (-1), .decimal false 1 3⟩
    . rw [List.forall_mem_cons]
      rw [List.forall_mem_singleton]
      constructor
      . intro text htext
        obtain rfl : "-0.5" = text := Except.ok.inj htext
        decide
      . intro text htext
        obtain rfl : "1000" = text := Except.ok.inj htext
        decide
  obtain ⟨text, w, htext, hparse, hsame⟩ := parseText_formatText hprices
  obtain rfl : "-0.5 1000" = text := Except.ok.inj ((formatText_prices _).symm.trans htext)
  exact ⟨hprices, htext, w, hparse, hsame⟩

/-- The first number with too many digits has no text. -/
theorem not_parseText_formatText_long
    : formatText (.empty Calendar.noReader) (.int (10 ^ Integer.digitLimit)) = .error .tooManyDigits := by
  rw [formatText_int]
  unfold writeInteger
  rw [Integer.isWritable_pow_digitLimit]
  rfl

end XmlBinding.Codec
