import XmlBinding.Pattern.Error

/-!
This module contains the tokens of a pattern and the steps that read them. A backslash and the character
after it are one token. A backslash that ends the text is refused as soon as it comes next.
-/

namespace XmlBinding.Pattern

inductive Token
  | plain (c : Char)
  | escaped (c : Char)
  | dangling
  deriving DecidableEq

def Token.text : Token → List Char
  | .plain c => [c]
  | .escaped c => ['\\', c]
  | .dangling => ['\\']

def tokens : List Char → List Token
  | [] => []
  | ['\\'] => [.dangling]
  | '\\' :: c :: cs => .escaped c :: tokens cs
  | c :: cs => .plain c :: tokens cs

inductive Flag
  | ignoreCase
  | locale
  | multiline
  | dotAll
  | verbose
  | ascii
  | template
  | unicode
  deriving DecidableEq

/-- What is left to read, and what is known of the groups so far. -/
structure Reading where
  text : List Char
  tokens : List Token
  position : Nat
  /-- The widths of the groups in the order in which they opened; open ones have none yet. -/
  groups : List (Option (Nat × Nat))
  names : List (String × Nat)
  /-- The number of groups where the outermost look-behind started. -/
  behindStart? : Option Nat
  /-- Groups that a condition refers to by number, with the position of the reference. -/
  conditions : List (Nat × Nat)
  flags : List Flag

abbrev ReadM := StateT Reading (Except Error)

def Reading.error (r : Reading) (cause : Cause) (offset : Nat) : Error :=
  .malformed cause (some ⟨r.text, r.position - offset⟩)

def fail {α : Type} (cause : Cause) (offset : Nat) : ReadM α := do
  throw ((← get).error cause offset)

def peek : ReadM (Option Token) := do
  return (← get).tokens.head?

def refuseDangling : ReadM Unit := do
  if (← peek) == some .dangling then
    fail .danglingEscape 0

def advance : ReadM Unit := do
  let r ← get
  match r.tokens with
  | [] => pure ()
  | t :: rest =>
    set { r with tokens := rest, position := r.position + t.text.length }
    refuseDangling

def take : ReadM (Option Token) := do
  let t ← peek
  advance
  return t

def accept (c : Char) : ReadM Bool := do
  if (← peek) == some (.plain c) then
    advance
    return true
  else
    return false

def takeWhile (p : Char → Bool) : Nat → ReadM (List Char)
  | 0 => return []
  | n + 1 => do
    match ← peek with
    | some (.plain c) =>
      if p c then
        advance
        return c :: (← takeWhile p n)
      else
        return []
    | _ => return []

/-- Takes a name up to `stop`, which is dropped; `fuel` bounds its length. -/
def takeName (stop : Char) (what : String) (fuel : Nat) : ReadM (List Char) :=
  go fuel []
where
  go : Nat → List Char → ReadM (List Char)
    | 0, name => return name
    | fuel + 1, name => do
      match ← take with
      | none =>
        if name.isEmpty then
          fail (.missingName what) 0
        else
          fail (.unterminatedName stop) name.length
      | some t =>
        if t == .plain stop then
          if name.isEmpty then fail (.missingName what) 1 else return name
        else
          go fuel (name ++ t.text)

def Reading.ofText (text : List Char) : Reading :=
  ⟨text, Pattern.tokens text, 0, [], [], none, [], []⟩

end XmlBinding.Pattern
