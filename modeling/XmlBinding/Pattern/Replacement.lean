import XmlBinding.Pattern.Match

/-!
This module contains replacement texts, which can refer to the groups of a match, and the replacement of
all matches in a text.
-/

namespace XmlBinding.Pattern

open Text

inductive Piece
  | text (cs : List Char)
  | group (index : Nat)
  deriving DecidableEq

def groupPiece (r : Regex) (index offset : Nat) : ReadM Piece :=
  if r.groupCount < index then fail (.invalidGroup index) offset else return .group index

def namedPiece (r : Regex) : ReadM Piece := do
  if ← accept '<' then
    let name ← takeName '>' "group name" ((← get).tokens.length + 1)
    let offset := name.length + 1
    if isIdentifier name then
      match r.names.lookup (String.ofList name) with
      | some index => groupPiece r index offset
      | none => throw (.noSuchGroup (String.ofList name))
    else
      match Number.Integer.read (String.ofList name) with
      | .error _ => fail (.badGroupName (String.ofList name)) offset
      | .ok n =>
        if n < 0 then
          fail (.badGroupName (String.ofList name)) offset
        else if groupLimit ≤ n.toNat then
          fail (.invalidGroup n.toNat) offset
        else
          groupPiece r n.toNat offset
  else
    fail .missingAngle 0

def digitPiece (r : Regex) (c : Char) : ReadM Piece := do
  let second ← takeWhile Char.isDigit 1
  let third ←
    if isOctal c && second.any isOctal && second != [] then takeWhile isOctal 1 else pure []
  if third != [] then
    return .text [Char.ofNat (← octalCode ('\\' :: c :: second ++ third))]
  else
    groupPiece r (Number.ofDigits (c :: second)) (1 + second.length)

def piece (r : Regex) : Token → ReadM Piece
  | .plain c => return .text [c]
  | .dangling => fail .danglingEscape 0
  | .escaped c => do
    if c == 'g' then
      namedPiece r
    else if c == '0' then
      return .text [Char.ofNat (ofBase 8 (← takeWhile isOctal 2) % 256)]
    else if c.isDigit then
      digitPiece r c
    else
      match controlEscape? c with
      | some n => return .text [Char.ofNat n]
      | none => if c.isAlpha then badEscape ['\\', c] else return .text ['\\', c]

def pieces (r : Regex) : (fuel : Nat) → ReadM (List Piece)
  | 0 => return []
  | fuel + 1 => do
    match ← take with
    | none => return []
    | some t =>
      let p ← piece r t
      return p :: (← pieces r fuel)

def readPieces (r : Regex) (text : List Char) : Except Error (List Piece) :=
  (do refuseDangling; pieces r (text.length + 1) : ReadM (List Piece)).run' (Reading.ofText text)

/-- What a piece stands for at a match; a group without a match stands for nothing. -/
def Piece.expand (found : Found) : Piece → List Char
  | .text cs => cs
  | .group 0 => found.start.after.take (found.stop.position - found.start.position)
  | .group index => (found.stop.groups.lookup index).getD []

def Regex.replaceFrom (r : Regex) (pieces : List Piece) :
    (fuel : Nat) → (nonEmpty : Bool) → Cursor → List Char
  | 0, _, c => c.after
  | fuel + 1, nonEmpty, c =>
    match r.searchFrom nonEmpty c.before c.after c.position with
    | none => c.after
    | some found =>
      c.after.take (found.start.position - c.position) ++ pieces.flatMap (Piece.expand found)
        ++ r.replaceFrom pieces fuel (found.stop.position == found.start.position)
          { found.stop with groups := [] }

/-- Replaces every match in `text`, empty ones included; after an empty match the next one either starts
later or is not empty. -/
def Regex.replace (r : Regex) (replacement text : List Char) : Except Error (List Char) := do
  let pieces ←
    if replacement.contains '\\' then readPieces r replacement else pure [Piece.text replacement]
  return r.replaceFrom pieces (2 * text.length + 2) false (.ofText text)

end XmlBinding.Pattern
