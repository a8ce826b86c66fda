import XmlBinding.Number.Decimal
import XmlBinding.Text.Quoted

/-!
This module contains binary floating-point numbers of 64 bits as exact fractions: reading a decimal rounds
to the nearest one, and writing gives the fewest digits that read back.
-/

namespace XmlBinding.Number

open Text

/-- A finite number is `± mantissa * 2 ^ exponent`; its mantissa has 53 bits, or fewer where the exponent
is the least one. -/
inductive Double
  | nan
  | infinite (negative : Bool)
  | finite (negative : Bool) (mantissa : Nat) (exponent : Int)
  deriving DecidableEq

namespace Double

def leastExponent : Int := -1074

def greatestExponent : Int := 971

/-- The integer next to `num / den`, the even one of two. -/
def roundHalfEven (num den : Nat) : Nat :=
  let q := num / den
  let r := num % den
  if den < 2 * r || (2 * r == den && q % 2 == 1) then q + 1 else q

/-- `num / den / base ^ e` as a fraction. -/
def scale (base num den : Nat) (e : Int) : Nat × Nat :=
  match e with
  | .ofNat e => (num, den * Nat.pow base e)
  | .negSucc e => (num * Nat.pow base (e + 1), den)

def ofFraction (negative : Bool) (num den : Nat) : Double :=
  if num == 0 then
    .finite negative 0 leastExponent
  else
    let low := max leastExponent ((num.log2 : Int) - den.log2 - 53)
    let (n, d) := scale 2 num den low
    let e := if Nat.pow 2 53 ≤ n / d then low + 1 else low
    let (n, d) := scale 2 num den e
    let m := roundHalfEven n d
    let (m, e) := if m == Nat.pow 2 53 then (Nat.pow 2 52, e + 1) else (m, e)
    if greatestExponent < e then .infinite negative else .finite negative m e

def ofNumeral (n : Numeral) : Double :=
  -- Beyond 400 places the answer is infinite or zero, so no power that large is computed.
  let magnitude := n.exponent + (Number.digits n.coefficient).length
  if n.coefficient == 0 || magnitude < -400 then
    .finite n.negative 0 leastExponent
  else if 400 < magnitude then
    .infinite n.negative
  else
    let (num, den) := scale 10 n.coefficient 1 (-n.exponent)
    ofFraction n.negative num den

/-- The powers of ten around a positive fraction: the greatest `p` with `10 ^ p ≤ num / den`. -/
def decimalExponent (num den : Nat) : Int :=
  go 4 (((num.log2 : Int) - den.log2 - 1) * 30103 / 100000 - 1)
where
  go : Nat → Int → Int
    | 0, p => p
    | fuel + 1, p =>
      let (n, d) := scale 10 num den (p + 1)
      if d ≤ n then go fuel (p + 1) else p

/-- The fewest decimal digits that lie between the neighbours of `mantissa * 2 ^ exponent`, as a
coefficient and a power of ten. -/
def shortest (mantissa : Nat) (exponent : Int) : Nat × Int :=
  -- The neighbour below a power of two is only half as far away as the one above.
  let isNarrow := mantissa == Nat.pow 2 52 && leastExponent < exponent
  let lower := if isNarrow then 4 * mantissa - 1 else 4 * mantissa - 2
  let (num, den) := scale 2 (4 * mantissa) 1 (2 - exponent)
  let (low, _) := scale 2 lower 1 (2 - exponent)
  let (high, _) := scale 2 (4 * mantissa + 2) 1 (2 - exponent)
  go num den low high (decimalExponent num den) 17 0
where
  inside (den low high c : Nat) (p : Int) : Bool :=
    let (n, d) := scale 10 c 1 (-p)
    if mantissa % 2 == 0 then
      low * d ≤ n * den && n * den ≤ high * d
    else
      low * d < n * den && n * den < high * d
  go (num den low high : Nat) (top : Int) : Nat → Nat → Nat × Int
    | 0, _ => (0, 0)
    | fuel + 1, n =>
      let p := top - n
      let (a, b) := scale 10 num den p
      let c := a / b
      match inside den low high c p, inside den low high (c + 1) p with
      -- Of two candidates of one length the nearer one wins.
      | true, true => if 2 * (a % b) ≤ b then (c, p) else (c + 1, p)
      | true, false => (c, p)
      | false, true => (c + 1, p)
      | false, false => go num den low high top fuel (n + 1)

/-- `c` without the zeros at its end, and one more in the exponent for each. -/
def dropZeros (c : Nat) (p : Int) : Nat × Int :=
  go (Number.digits c).length c p
where
  go : Nat → Nat → Int → Nat × Int
    | 0, c, p => (c, p)
    | fuel + 1, c, p => if c % 10 == 0 && c != 0 then go fuel (c / 10) (p + 1) else (c, p)

/-- Digits with the point after `place` of them, where that needs no more than three zeros in front and no
more than sixteen digits; else one digit before the point and an exponent of two digits at least. -/
def layout (ds : List Char) (place : Int) : List Char :=
  if -4 < place && place ≤ 16 then
    if place ≤ 0 then
      '0' :: '.' :: Decimal.zeros place.natAbs ++ ds
    else if ds.length ≤ place.natAbs then
      ds ++ Decimal.zeros (place.natAbs - ds.length) ++ ['.', '0']
    else
      ds.take place.natAbs ++ '.' :: ds.drop place.natAbs
  else
    let mantissa := if ds.length == 1 then ds else ds.take 1 ++ '.' :: ds.drop 1
    let es := Number.digits (place - 1).natAbs
    mantissa ++ 'e' :: (if place - 1 < 0 then '-' else '+') :: Decimal.zeros (2 - es.length) ++ es

def write : Double → String
  | .nan => "nan"
  | .infinite negative => if negative then "-inf" else "inf"
  | .finite negative mantissa exponent =>
    if mantissa == 0 then
      Decimal.minus negative ['0', '.', '0']
    else
      let (c, p) := shortest mantissa exponent
      let (c, p) := dropZeros c p
      let ds := Number.digits c
      Decimal.minus negative (layout ds (p + ds.length))

/-- Reads a number between blanks, with single underscores between digits. -/
def read? (s : String) : Option Double :=
  match dropUnderscores? (trim (plain s.toList)) with
  | none => none
  | some cs =>
    match Numeral.read? cs with
    | some n => some (ofNumeral n)
    | none =>
      match Decimal.special? (sign cs).1 (sign cs).2 with
      | some (.infinite negative) => some (.infinite negative)
      | some (.nan _ false 0) => if (sign cs).2.length == 3 then some .nan else none
      | _ => none

end Double

end XmlBinding.Number
