import XmlBinding.Text.Property.LetterCase

/-!
This module contains the upper and lower case of characters and texts. The case of one character can be
several characters, so both are functions into lists.
-/

namespace XmlBinding.Text

/-- The image of `n` under a table of runs, where it has one. -/
def runImage? (runs : List (Nat × Nat × Nat × Nat)) (n : Nat) : Option Nat :=
  (runs.find? fun (first, last, stride, _) => first ≤ n && n ≤ last && (n - first) % stride == 0).map
    fun (first, _, _, image) => image + (n - first)

def upperChar (c : Char) : List Char :=
  if c.toNat < 128 then
    [c.toUpper]
  else
    match Property.upperExpansions.lookup c.toNat with
    | some image => image.map Char.ofNat
    | none =>
      match runImage? Property.upperRuns c.toNat with
      | some image => [Char.ofNat image]
      | none => [c]

def lowerChar (c : Char) : List Char :=
  if c.toNat < 128 then
    [c.toLower]
  else
    match Property.lowerExpansions.lookup c.toNat with
    | some image => image.map Char.ofNat
    | none =>
      match runImage? Property.lowerRuns c.toNat with
      | some image => [Char.ofNat image]
      | none => [c]

/-- Lower case as one character, for comparing without regard to case. -/
def foldChar (c : Char) : Char :=
  (lowerChar c).headD c

def preimages (c : Char) : List Char :=
  let n := c.toNat
  let runs := Property.lowerRuns.filterMap fun (first, last, stride, image) =>
    let source := first + (n - image)
    if image ≤ n && source ≤ last && (source - first) % stride == 0 then some (Char.ofNat source) else none
  let expansions := Property.lowerExpansions.filterMap fun (source, images) =>
    if images.head? == some n then some (Char.ofNat source) else none
  let ascii := if c.isLower then [c.toUpper] else []
  c :: ascii ++ runs ++ expansions

def siblings (c : Char) : List Char :=
  ((Property.caseSiblings.lookup c.toNat).getD []).map Char.ofNat

def upperFirst : List Char → List Char
  | [] => []
  | c :: cs => upperChar c ++ cs

def lowerFirst : List Char → List Char
  | [] => []
  | c :: cs => lowerChar c ++ cs

def upper (cs : List Char) : List Char :=
  cs.flatMap upperChar

/-- Lower case character by character, without regard to the characters around it. -/
def lower (cs : List Char) : List Char :=
  cs.flatMap lowerChar

end XmlBinding.Text
