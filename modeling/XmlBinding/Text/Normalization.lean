import XmlBinding.Text.CharClass
import XmlBinding.Text.LetterCase
import XmlBinding.Text.Property.Compatibility
import XmlBinding.Text.Property.Composition

/-!
This module contains the normal form of identifiers, which is the form KC of Unicode: characters are decomposed, what
combines with one character is put in order, and then characters are composed again as far as possible.
-/

namespace XmlBinding.Text

namespace Hangul

def leading : Nat := 0x1100
def vowel : Nat := 0x1161
/-- The code point before the first trailing consonant: a syllable can do without one. -/
def trailing : Nat := 0x11A7
def syllable : Nat := 0xAC00

def isSyllable (n : Nat) : Bool :=
  syllable ≤ n && n < syllable + 19 * 21 * 28

def parts (n : Nat) : List Nat :=
  let index := n - syllable
  let pair := [leading + index / (21 * 28), vowel + index % (21 * 28) / 28]
  if index % 28 == 0 then pair else pair ++ [trailing + index % 28]

def compose? (a b : Nat) : Option Nat :=
  if leading ≤ a && a < leading + 19 && vowel ≤ b && b < vowel + 21 then
    some (syllable + ((a - leading) * 21 + (b - vowel)) * 28)
  else if isSyllable a && (a - syllable) % 28 == 0 && trailing < b && b < trailing + 28 then
    some (a + (b - trailing))
  else
    none

end Hangul

/-- What a character stands for that is no composition. -/
def compatibleWith (n : Nat) : List Nat :=
  match Property.compatibilityExpansions.lookup n with
  | some images => images
  | none =>
    match runImage? Property.compatibilityRuns n with
    | some image => [image]
    | none =>
      match Property.compatibilityImages.findSome? fun (first, images) =>
        if first ≤ n then images[n - first]? else none with
      | some image => [image]
      | none => [n]

/-- The decomposition of a code point. Only the first part of a composition can be decomposed again; `depth` compositions
may be inside of one another. -/
def parts : (depth n : Nat) → List Nat
  | 0, n => compatibleWith n
  | depth + 1, n =>
    match Property.compositions.find? fun (_, _, composition) => composition == n with
    | some (first, second, _) => parts depth first ++ [second]
    | none => compatibleWith n

def decompose (c : Char) : List Char :=
  if isAscii c then
    [c]
  else if Hangul.isSyllable c.toNat then
    (Hangul.parts c.toNat).map Char.ofNat
  else
    (parts 3 c.toNat).map Char.ofNat

/-- How a character combines with the one before it; zero if it does not. -/
def combiningClass (c : Char) : Nat :=
  if isAscii c then
    0
  else
    ((Property.combiningRuns.find? fun (first, last, _) => first ≤ c.toNat && c.toNat ≤ last).map (·.2.2)).getD 0

/-- Puts a character behind those in front that combine and have a lower class. -/
def putInOrder (c : Char) : List Char → List Char
  | [] => [c]
  | d :: ds =>
    if 0 < combiningClass d && combiningClass d < combiningClass c then
      d :: putInOrder c ds
    else
      c :: d :: ds

def composition? (a b : Char) : Option Char :=
  if isAscii b then
    none
  else
    match Hangul.compose? a.toNat b.toNat with
    | some n => some (Char.ofNat n)
    | none =>
      (Property.compositions.find? fun (first, second, _) => first == a.toNat && second == b.toNat).map
        fun (_, _, n) => Char.ofNat n

/-- Composes what follows with `base`, after which the marks stand that do not compose with it. A character reaches the
base only past marks of lower classes. -/
def composeAfter (base : Char) (marks : List Char) : List Char → List Char
  | [] => base :: marks
  | c :: cs =>
    let isFree := marks.getLast?.all fun mark => combiningClass mark < combiningClass c
    match if isFree then composition? base c else none with
    | some composed => composeAfter composed marks cs
    | none =>
      if combiningClass c == 0 then
        base :: marks ++ composeAfter c [] cs
      else
        composeAfter base (marks ++ [c]) cs

def compose : List Char → List Char
  | [] => []
  | c :: cs => composeAfter c [] cs

/-- The normal form of an identifier. -/
def normalize (cs : List Char) : List Char :=
  compose ((cs.flatMap decompose).foldr putInOrder [])

end XmlBinding.Text
