import XmlBinding.Codec.Table

/-!
This module contains the text form of values, in attributes and in elements without children.
-/

namespace XmlBinding.Codec

open Number Text

def readBool (text : String) : Except Fault Value :=
  if text == "true" || text == "1" then .ok (.bool true)
  else if text == "false" || text == "0" then .ok (.bool false)
  else .error (.notBoolean text)

def readCalendar (t : Table) (kind text : String) : Except Fault Calendar.DateTime :=
  match t.readDate? text with
  | some dt => .ok dt
  | none => .error (.notCalendar kind text)

def readScalar (t : Table) (text : String) : Scalar → Except Fault Value
  | .text | .any => .ok (.text text)
  | .bool => readBool text
  | .int => (Integer.read text).mapError .notInteger |>.map .int
  | .float =>
    match Double.read? text with
    | some x => .ok (.float x)
    | none => .error (.notFloat text)
  | .decimal =>
    match Decimal.read? text with
    | some d => .ok (.decimal d)
    | none => .error .notDecimal
  | .bytes => (Binary.Base64.read text.toList).mapError .notBase64 |>.map .bytes
  | .hex => (Binary.Hex.read text.toList).mapError .notHex |>.map .hex
  | .date => (readCalendar t "date" text).map fun dt => .date dt.date
  | .time => (readCalendar t "time" text).map fun dt => .time dt.time
  | .dateTime => (readCalendar t "datetime" text).map .dateTime

/-- Reads a text as a value. Texts are taken as they are; all other types pass over blanks at both ends. -/
def parseText (t : Table) : Hint → String → Except Fault Value
  | .scalar .text, s | .scalar .any, s => .ok (.text s)
  | .scalar scalar, s => readScalar t (strip s) scalar
  | .list item, s => (Value.list ·) <$> (wordsOf s).mapM (parseText t item)
  | .either _ _, _ => .error (.notCallable "types.UnionType")
  | .nothing, _ => .error (.notCallable "NoneType")
  | .named name, s =>
    match t.find? name with
    | some (.struct d) => d.ofFirst name (.text (strip s))
    | some (.sequence _) =>
      .ok (.sequence name ((strip s).toList.map fun c => .text (String.ofList [c])))
    | _ => .error (.undefined name)

def shownByte (q : Char) (b : UInt8) : List Char :=
  let c := Char.ofNat b.toNat
  if b.toNat < 0x80 then
    Quoted.escape q c
  else
    '\\' :: 'x' :: hexDigits 2 b.toNat

def shownBytes (bytes : List UInt8) : String :=
  let q := Quoted.mark (bytes.map fun b => Char.ofNat b.toNat)
  String.ofList ('b' :: q :: bytes.flatMap (shownByte q) ++ [q])

def shownDate (d : Calendar.Date) : String :=
  s!"{d.year}, {d.month}, {d.day}"

def shownTime (t : Calendar.Time) : String :=
  let seconds := if t.second != 0 || t.microsecond != 0 then s!", {t.second}" else ""
  let micros := if t.microsecond != 0 then s!", {t.microsecond}" else ""
  s!"{t.hour}, {t.minute}" ++ seconds ++ micros

/-- Integers with too many digits have no text. -/
def writeInteger (n : Int) : Except Fault String :=
  if Integer.isWritable n then .ok (Integer.write n) else .error .tooManyDigits

mutual

def shown (t : Table) : Value → Except Fault String
  | .nothing => .ok "None"
  | .bool b => .ok (if b then "True" else "False")
  | .int n => writeInteger n
  | .float x => .ok x.write
  | .decimal d => .ok ("Decimal('" ++ d.shown ++ "')")
  | .text s => .ok (quoted s)
  | .bytes bs | .hex bs => .ok (shownBytes bs)
  | .date d => .ok ("datetime.date(" ++ shownDate d ++ ")")
  | .time time => .ok ("datetime.time(" ++ shownTime time ++ ")")
  | .dateTime dt => .ok ("datetime.datetime(" ++ shownDate dt.date ++ ", " ++ shownTime dt.time ++ ")")
  | .list items | .sequence _ items => do
    let texts ← shownItems t items
    .ok ("[" ++ ", ".intercalate texts ++ "]")
  | .struct name fields => do
    let names : List String := match t.find? name with
      | some (.struct d) => d.fields.map (·.name)
      | _ => []
    let texts ← shownItems t fields
    let parts := (names.zip texts).map fun (n, v) => n ++ "=" ++ v
    .ok (name ++ "(" ++ ", ".intercalate parts ++ ")")

def shownItems (t : Table) : List Value → Except Fault (List String)
  | [] => .ok []
  | v :: vs => do
    let text ← shown t v
    let texts ← shownItems t vs
    .ok (text :: texts)

end

mutual

def formatText (t : Table) : Value → Except Fault String
  | .bool b => .ok (if b then "true" else "false")
  | .date d => .ok d.write
  | .time time => .ok time.write
  | .dateTime dt => .ok dt.write
  | .hex bs => .ok (String.ofList (Binary.Hex.write bs))
  | .bytes bs => .ok (String.ofList (Binary.Base64.write bs))
  | .decimal d => .ok d.write
  | .list items | .sequence _ items => do
    let texts ← formatItems t items
    .ok (" ".intercalate texts)
  | .nothing => .ok "None"
  | .int n => writeInteger n
  | .float x => .ok x.write
  | .text s => .ok s
  | .struct name fields => shown t (.struct name fields)

def formatItems (t : Table) : List Value → Except Fault (List String)
  | [] => .ok []
  | v :: vs => do
    let text ← formatText t v
    let texts ← formatItems t vs
    .ok (text :: texts)

end

end XmlBinding.Codec
