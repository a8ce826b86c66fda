import XmlBinding.Number.Numeral

/-!
This module contains calendar dates and times of day with the texts that are written for them. How texts are read
is left open.
-/

namespace XmlBinding.Calendar

open Text Number

structure Date where
  year : Nat
  month : Nat
  day : Nat
  deriving DecidableEq

/-- A time of day; `offset?` is its distance from Greenwich in minutes. -/
structure Time where
  hour : Nat
  minute : Nat
  second : Nat
  microsecond : Nat
  offset? : Option Int
  deriving DecidableEq

structure DateTime where
  date : Date
  time : Time
  deriving DecidableEq

/-- What takes texts for dates, times or both. A text that stands for none of them is refused. -/
abbrev Reader := String → Option DateTime

/-- A reader that refuses all texts. -/
def noReader : Reader :=
  fun _ => none

def padded (width n : Nat) : List Char :=
  let ds := digits n
  List.replicate (width - ds.length) '0' ++ ds

def Date.write (d : Date) : String :=
  String.ofList (padded 4 d.year ++ '-' :: padded 2 d.month ++ '-' :: padded 2 d.day)

def writeOffset (minutes : Int) : List Char :=
  (if minutes < 0 then '-' else '+') :: padded 2 (minutes.natAbs / 60) ++ ':' :: padded 2 (minutes.natAbs % 60)

def Time.write (t : Time) : String :=
  let fraction := if t.microsecond == 0 then [] else '.' :: padded 6 t.microsecond
  let zone := match t.offset? with
    | none => []
    | some minutes => writeOffset minutes
  String.ofList
    (padded 2 t.hour ++ ':' :: padded 2 t.minute ++ ':' :: padded 2 t.second ++ fraction ++ zone)

def DateTime.write (dt : DateTime) : String :=
  dt.date.write ++ "T" ++ dt.time.write

end XmlBinding.Calendar
