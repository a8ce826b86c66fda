import XmlBinding.Binary.Base64
import XmlBinding.Binary.Hex
import XmlBinding.Calendar
import XmlBinding.Number.Decimal
import XmlBinding.Number.Double
import XmlBinding.Number.Integer

/-!
This module contains the values that are read from elements and written to them.
-/

namespace XmlBinding.Codec

open Number

inductive Value
  | nothing
  | bool (b : Bool)
  | int (n : Int)
  | float (x : Double)
  | decimal (d : Decimal)
  | text (s : String)
  | bytes (bytes : List UInt8)
  /-- Bytes that are written in hexadecimal. -/
  | hex (bytes : List UInt8)
  | date (d : Calendar.Date)
  | time (t : Calendar.Time)
  | dateTime (dt : Calendar.DateTime)
  | list (items : List Value)
  | struct (name : String) (fields : List Value)
  | sequence (name : String) (items : List Value)
  deriving Inhabited

namespace Value

def isNothing : Value → Bool
  | .nothing => true
  | _ => false

def typeName : Value → String
  | .nothing => "NoneType"
  | .bool _ => "bool"
  | .int _ => "int"
  | .float _ => "float"
  | .decimal _ => "decimal.Decimal"
  | .text _ => "str"
  | .bytes _ => "bytes"
  | .hex _ => "HexBinary"
  | .date _ => "datetime.date"
  | .time _ => "datetime.time"
  | .dateTime _ => "datetime.datetime"
  | .list _ => "list"
  | .struct name _ => name
  | .sequence name _ => name

end Value

end XmlBinding.Codec
