import XmlBinding.Json.Basic

/-!
This module contains the reader of JSON text. Not-a-number and the infinities are accepted as numbers; a
fault is reported with its cause and its place.
-/

namespace XmlBinding.Json

open Text

inductive Cause
  | byteOrderMark
  | value
  | propertyName
  | colon
  | comma
  | extraData
  | unterminatedString
  | controlCharacter
  | escape
  | unicodeEscape
  deriving DecidableEq

def Cause.message : Cause → String
  | .byteOrderMark => "Unexpected UTF-8 BOM (decode using utf-8-sig)"
  | .value => "Expecting value"
  | .propertyName => "Expecting property name enclosed in double quotes"
  | .colon => "Expecting ':' delimiter"
  | .comma => "Expecting ',' delimiter"
  | .extraData => "Extra data"
  | .unterminatedString => "Unterminated string starting at"
  | .controlCharacter => "Invalid control character at"
  | .escape => "Invalid \\escape"
  | .unicodeEscape => "Invalid \\uXXXX escape"

/-- A fault at a position of the text, or an integer that is too long to be read. -/
inductive Stop
  | fault (cause : Cause) (position : Nat)
  | integer (e : Number.Integer.ReadError)
  deriving DecidableEq

structure Rest where
  chars : List Char
  position : Nat

def isGap (c : Char) : Bool :=
  c == ' ' || c == '\t' || c == '\n' || c == '\r'

def Rest.drop (r : Rest) (n : Nat) : Rest :=
  ⟨r.chars.drop n, r.position + n⟩

def Rest.skipGaps (r : Rest) : Rest :=
  r.drop (r.chars.takeWhile isGap).length

def quad? (a b c d : Char) : Option Nat := do
  let a ← hexValue? a
  let b ← hexValue? b
  let c ← hexValue? c
  let d ← hexValue? d
  some (((a * 16 + b) * 16 + c) * 16 + d)

def simpleEscape? (c : Char) : Option Char :=
  if c == '"' || c == '\\' || c == '/' then some c
  else if c == 'b' then some '\x08'
  else if c == 'f' then some '\x0c'
  else if c == 'n' then some '\n'
  else if c == 'r' then some '\r'
  else if c == 't' then some '\t'
  else none

/-- Reads to the closing quote of the string that opened at `start`. -/
def string (start : Nat) : (position : Nat) → List Char → Except Stop (List Char × Rest)
  | _, [] => .error (.fault .unterminatedString start)
  | position, '"' :: cs => .ok ([], ⟨cs, position + 1⟩)
  | _, ['\\'] => .error (.fault .unterminatedString start)
  | position, '\\' :: 'u' :: a :: b :: c :: d :: '\\' :: 'u' :: e :: f :: g :: h :: cs =>
    match quad? a b c d, quad? e f g h with
    | none, _ => .error (.fault .unicodeEscape (position + 1))
    | some high, low? =>
      if 0xD800 ≤ high && high < 0xDC00 && !cs.isEmpty then
        match low? with
        | none => .error (.fault .unicodeEscape (position + 7))
        | some low =>
          if 0xDC00 ≤ low && low < 0xE000 then do
            let (rest, r) ← string start (position + 12) cs
            .ok (Char.ofNat (0x10000 + (high - 0xD800) * 0x400 + (low - 0xDC00)) :: rest, r)
          -- Half of a surrogate pair alone becomes the replacement character, and the second escape is read again.
          else do
            let (rest, r) ← string start (position + 6) ('\\' :: 'u' :: e :: f :: g :: h :: cs)
            .ok ('\uFFFD' :: rest, r)
      else do
        let (rest, r) ← string start (position + 6) ('\\' :: 'u' :: e :: f :: g :: h :: cs)
        .ok ((if 0xD800 ≤ high && high < 0xE000 then '\uFFFD' else Char.ofNat high) :: rest, r)
  | position, '\\' :: 'u' :: a :: b :: c :: d :: x :: cs =>
    match quad? a b c d with
    | none => .error (.fault .unicodeEscape (position + 1))
    | some n => do
      let (rest, r) ← string start (position + 6) (x :: cs)
      .ok ((if 0xD800 ≤ n && n < 0xE000 then '\uFFFD' else Char.ofNat n) :: rest, r)
  | position, '\\' :: 'u' :: _ => .error (.fault .unicodeEscape (position + 1))
  | position, '\\' :: c :: cs =>
    match simpleEscape? c with
    | none => .error (.fault .escape position)
    | some c => do
      let (rest, r) ← string start (position + 2) cs
      .ok (c :: rest, r)
  | position, c :: cs =>
    if c.toNat < 0x20 then
      .error (.fault .controlCharacter position)
    else do
      let (rest, r) ← string start (position + 1) cs
      .ok (c :: rest, r)

/-- The characters of an integer without its sign: a zero alone, or digits that start with another. -/
def wholeDigits : List Char → List Char
  | '0' :: _ => ['0']
  | cs => cs.takeWhile Char.isDigit

def fractionPart : List Char → List Char
  | '.' :: cs =>
    let ds := cs.takeWhile Char.isDigit
    if ds.isEmpty then [] else '.' :: ds
  | _ => []

def exponentPart : List Char → List Char
  | e :: cs =>
    if e == 'e' || e == 'E' then
      let signs := match cs with
        | c :: _ => if c == '+' || c == '-' then [c] else []
        | [] => []
      let ds := (cs.drop signs.length).takeWhile Char.isDigit
      if ds.isEmpty then [] else e :: signs ++ ds
    else
      []
  | [] => []

def number (r : Rest) : Except Stop (Json × Rest) :=
  let minus := if r.chars.head? == some '-' then ['-'] else []
  let afterMinus := r.chars.drop minus.length
  let whole := wholeDigits afterMinus
  if whole.isEmpty then
    .error (.fault .value r.position)
  else
    let afterWhole := afterMinus.drop whole.length
    let fraction := fractionPart afterWhole
    let exponent := exponentPart (afterWhole.drop fraction.length)
    let text := minus ++ whole ++ fraction ++ exponent
    let rest := r.drop text.length
    if fraction.isEmpty && exponent.isEmpty then
      match Number.Integer.read (String.ofList text) with
      | .ok n => .ok (.int n, rest)
      | .error e => .error (.integer e)
    else
      match Number.Numeral.read? text with
      | some n => .ok (.float (.ofNumeral n), rest)
      | none => .error (.fault .value r.position)

def constants : List (String × Json) :=
  [("null", .null), ("true", .bool true), ("false", .bool false), ("NaN", .float .nan),
    ("Infinity", .float (.infinite false)), ("-Infinity", .float (.infinite true))]

def constant? (r : Rest) : Option (Json × Rest) :=
  (constants.find? fun (word, _) => word.toList.isPrefixOf r.chars).map
    fun (word, v) => (v, r.drop word.length)

mutual

/-- Reads a value; `fuel` bounds the nesting, and the number of items of arrays and objects with it. -/
def value : (fuel : Nat) → Rest → Except Stop (Json × Rest)
  | 0, r => .error (.fault .value r.position)
  | fuel + 1, r =>
    match r.chars with
    | '"' :: _ => do
      let (s, r) ← string r.position (r.position + 1) (r.chars.drop 1)
      .ok (.str (String.ofList s), r)
    | '\x7b' :: _ => do
      let r := (r.drop 1).skipGaps
      if r.chars.head? == some '\x7d' then
        .ok (.obj [], r.drop 1)
      else
        let (members, r) ← members fuel r
        .ok (ofMembers members, r)
    | '[' :: _ => do
      let r := (r.drop 1).skipGaps
      if r.chars.head? == some ']' then
        .ok (.arr [], r.drop 1)
      else
        let (items, r) ← items fuel r
        .ok (.arr items, r)
    | _ =>
      match constant? r with
      | some found => .ok found
      | none => number r

def items : (fuel : Nat) → Rest → Except Stop (List Json × Rest)
  | 0, r => .error (.fault .value r.position)
  | fuel + 1, r => do
    let (item, r) ← value fuel r
    let r := r.skipGaps
    match r.chars with
    | ']' :: _ => .ok ([item], r.drop 1)
    | ',' :: _ => do
      let (rest, r) ← items fuel (r.drop 1).skipGaps
      .ok (item :: rest, r)
    | _ => .error (.fault .comma r.position)

def members : (fuel : Nat) → Rest → Except Stop (List (String × Json) × Rest)
  | 0, r => .error (.fault .value r.position)
  | fuel + 1, r =>
    match r.chars with
    | '"' :: _ => do
      let (name, r) ← string r.position (r.position + 1) (r.chars.drop 1)
      let r := r.skipGaps
      match r.chars with
      | ':' :: _ => do
        let (v, r) ← value fuel (r.drop 1).skipGaps
        let r := r.skipGaps
        match r.chars with
        | '\x7d' :: _ => .ok ([(String.ofList name, v)], r.drop 1)
        | ',' :: _ => do
          let (rest, r) ← members fuel (r.drop 1).skipGaps
          .ok ((String.ofList name, v) :: rest, r)
        | _ => .error (.fault .comma r.position)
      | _ => .error (.fault .colon r.position)
    | _ => .error (.fault .propertyName r.position)

end

def readChars (cs : List Char) : Except Stop Json :=
  if cs.head? == some '\uFEFF' then
    .error (.fault .byteOrderMark 0)
  else do
    let (v, r) ← value (cs.length + 1) (Rest.mk cs 0).skipGaps
    let r := r.skipGaps
    if r.chars.isEmpty then .ok v else .error (.fault .extraData r.position)

/-- Why a text is not JSON; a fault is placed by line, column and position. -/
inductive ReadError
  | malformed (cause : Cause) (line column position : Nat)
  | integer (e : Number.Integer.ReadError)
  deriving DecidableEq

def ReadError.message : ReadError → String
  | .malformed cause line column position =>
    s!"{cause.message}: line {line} column {column} (char {position})"
  | .integer e => e.message

def read (cs : List Char) : Except ReadError Json :=
  match readChars cs with
  | .ok v => .ok v
  | .error (.integer e) => .error (.integer e)
  | .error (.fault cause position) =>
    let before := lines (cs.take position)
    .error (.malformed cause before.length ((before.getLastD []).length + 1) position)

end XmlBinding.Json
