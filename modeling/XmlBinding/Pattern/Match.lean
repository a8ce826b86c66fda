import XmlBinding.Pattern.Reader

/-!
This module contains matching by backtracking. A node is run with what has to match after it, so the first
way in which the whole matches is the one that is found.
-/

namespace XmlBinding.Pattern

open Text

/-- A place in a text, and what the groups have matched up to it, latest first. -/
structure Cursor where
  /-- The characters before the place, nearest first. -/
  before : List Char
  after : List Char
  position : Nat
  groups : List (Nat × List Char)
  deriving DecidableEq

namespace Cursor

def ofText (text : List Char) : Cursor :=
  ⟨[], text, 0, []⟩

def step? (p : Char → Bool) (c : Cursor) : Option Cursor :=
  match c.after with
  | [] => none
  | x :: rest =>
    if p x then some { c with before := x :: c.before, after := rest, position := c.position + 1 }
    else none

/-- Moves over characters that are the same as `text` for `d`. -/
def over? (d : Dialect) : (text : List Char) → Cursor → Option Cursor
  | [], c => some c
  | x :: text, c => (c.step? fun y => d.fold y == d.fold x).bind (over? d text)

def back? : Nat → Cursor → Option Cursor
  | 0, c => some c
  | n + 1, c =>
    match c.before with
    | [] => none
    | x :: rest => back? n { c with before := rest, after := x :: c.after, position := c.position - 1 }

/-- Records that the group `index` matched what lies between `start` and here. -/
def capture (c : Cursor) (index : Nat) (start : Cursor) : Cursor :=
  { c with groups := (index, start.after.take (c.position - start.position)) :: c.groups }

end Cursor

def Anchor.holds (c : Cursor) : Anchor → Bool
  | .start => c.before.isEmpty
  | .lineStart => c.before.isEmpty || c.before.head? == some '\n'
  | .stop => c.after.isEmpty
  | .beforeLastBreak => c.after.isEmpty || c.after == ['\n']
  | .lineEnd => c.after.isEmpty || c.after.head? == some '\n'
  | .boundary ascii negated =>
    let isWord := Category.word.holds ascii
    !(c.before.isEmpty && c.after.isEmpty)
      && (c.before.head?.any isWord != c.after.head?.any isWord) != negated

/-- What is left of a match, given where the part before it ended. -/
abbrev Rest := Cursor → Option Cursor

def times (body : Rest → Rest) : (n : Nat) → Rest → Rest
  | 0, k => k
  | n + 1, k => body (times body n k)

/-- Runs `body` up to `left?` times, as often as possible. -/
def greedily (body : Rest → Rest) (k : Rest) : (fuel : Nat) → (left? last? : Option Nat) → Rest
  | 0, _, _, c => k c
  | fuel + 1, left?, last?, c =>
    -- A run that started where the one before it started would match nothing forever.
    if left? == some 0 || last? == some c.position then
      k c
    else
      match body (greedily body k fuel (left?.map (· - 1)) (some c.position)) c with
      | some found => some found
      | none => k c

def lazily (body : Rest → Rest) (k : Rest) : (fuel : Nat) → (left? last? : Option Nat) → Rest
  | 0, _, _, c => k c
  | fuel + 1, left?, last?, c =>
    match k c with
    | some found => some found
    | none =>
      if left? == some 0 || last? == some c.position then
        none
      else
        body (lazily body k fuel (left?.map (· - 1)) (some c.position)) c

/-- Runs `body` up to `left?` times, as often as possible and with nothing taken back. -/
def possessively (body : Rest → Rest) : (fuel : Nat) → (left? : Option Nat) → Cursor → Cursor
  | 0, _, c => c
  | fuel + 1, left?, c =>
    if left? == some 0 then
      c
    else
      match body some c with
      | none => c
      | some d => if d.position == c.position then d else possessively body fuel (left?.map (· - 1)) d

def optionally (greed : Greed) (body : Rest → Rest) (left? : Option Nat) (k : Rest) : Rest := fun c =>
  let fuel := c.after.length + 2
  match greed with
  | .greedy => greedily body k fuel left? none c
  | .lazy => lazily body k fuel left? none c
  | .possessive => k (possessively body fuel left? c)

def Node.run : Node → Rest → Rest
  | .empty, k => k
  | .char t, k => fun c => (c.step? t.holds).bind k
  | .anchor a, k => fun c => if a.holds c then k c else none
  | .seq a b, k => a.run (b.run k)
  | .alt a b, k => fun c =>
    match a.run k c with
    | some found => some found
    | none => b.run k c
  | .repeated greed least most? body, k =>
    let once : Rest → Rest := match greed with
      | .possessive => fun k c => (body.run some c).bind k
      | _ => body.run
    times once least (optionally greed body.run (most?.map (· - least)) k)
  | .group none body, k => body.run k
  | .group (some index) body, k => fun c => body.run (fun d => k (d.capture index c)) c
  | .atomic body, k => fun c => (body.run some c).bind k
  | .again index d, k => fun c => (c.groups.lookup index).bind fun text => (c.over? d text).bind k
  | .ahead negated body, k => fun c =>
    match body.run some c, negated with
    | some found, false => k { c with groups := found.groups }
    | none, true => k c
    | _, _ => none
  | .behind negated width _ body, k => fun c =>
    match (c.back? width).bind (body.run some), negated with
    | some found, false => k { c with groups := found.groups }
    | none, true => k c
    | _, _ => none
  | .ifGroup index yes no, k => fun c =>
    if (c.groups.lookup index).isSome then yes.run k c else no.run k c

structure Found where
  start : Cursor
  stop : Cursor

/-- The first match at `before` and `after` or later. One that is empty and at the first place does not
count where `nonEmpty` holds. -/
def Regex.searchFrom (r : Regex) : (nonEmpty : Bool) → (before after : List Char) → (position : Nat) →
    Option Found
  | nonEmpty, before, after, position =>
    let c : Cursor := ⟨before, after, position, []⟩
    let accepted : Rest := fun d => if nonEmpty && d.position == position then none else some d
    match r.root.run accepted c with
    | some d => some ⟨c, d⟩
    | none =>
      match after with
      | [] => none
      | x :: rest => r.searchFrom false (x :: before) rest (position + 1)
  termination_by structural _ _ after => after

def Regex.occursIn (r : Regex) (text : List Char) : Bool :=
  (r.searchFrom false [] text 0).isSome

end XmlBinding.Pattern
