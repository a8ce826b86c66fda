/-!
This module contains the blank characters and what is decided by them: trimming a text and cutting it
into words. Texts are lists of characters here; the versions on `String` stand at the end.
-/

namespace XmlBinding.Text

/-- The characters of Unicode that count as white space, with the four information separators. -/
def isBlank (c : Char) : Bool :=
  let n := c.toNat
  (0x09 ≤ n && n ≤ 0x0D) || (0x1C ≤ n && n ≤ 0x20) || n == 0x85 || n == 0xA0 || n == 0x1680
    || (0x2000 ≤ n && n ≤ 0x200A) || n == 0x2028 || n == 0x2029 || n == 0x202F || n == 0x205F
    || n == 0x3000

def isAllBlank (cs : List Char) : Bool :=
  cs.all isBlank

def trimStart (cs : List Char) : List Char :=
  cs.dropWhile isBlank

def trimEnd (cs : List Char) : List Char :=
  (cs.reverse.dropWhile isBlank).reverse

def trim (cs : List Char) : List Char :=
  trimEnd (trimStart cs)

/-- Cuts at every element that satisfies `p` and drops it; there is always one piece more than cuts. -/
def cutWhen {α : Type} (p : α → Bool) : List α → List (List α)
  | [] => [[]]
  | x :: xs =>
    if p x then
      [] :: cutWhen p xs
    else
      match cutWhen p xs with
      | [] => [[x]]
      | piece :: pieces => (x :: piece) :: pieces

theorem cutWhen_ne_nil {α : Type} (p : α → Bool) (xs : List α) : cutWhen p xs ≠ [] := by
  cases xs with
  | nil => simp [cutWhen]
  | cons x xs =>
    rw [cutWhen]
    split
    · simp
    · split <;> simp

def cutAt (sep : Char) (cs : List Char) : List (List Char) :=
  cutWhen (· == sep) cs

def words (cs : List Char) : List (List Char) :=
  (cutWhen isBlank cs).filter (!·.isEmpty)

/-- The lines of a text; only a line feed ends a line. -/
def lines (cs : List Char) : List (List Char) :=
  cutAt '\n' cs

def unlines (ls : List (List Char)) : List Char :=
  ['\n'].intercalate ls

def strip (s : String) : String :=
  String.ofList (trim s.toList)

def wordsOf (s : String) : List String :=
  (words s.toList).map String.ofList

def pieces (sep : Char) (s : String) : List String :=
  (cutAt sep s.toList).map String.ofList

end XmlBinding.Text
