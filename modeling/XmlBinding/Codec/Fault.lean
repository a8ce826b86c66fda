import XmlBinding.Codec.Value
import XmlBinding.Name.Tag

/-!
This module contains the faults of reading and writing values, and their wording.
-/

namespace XmlBinding.Codec

open Text

inductive Fault
  | undefined (name : String)
  | malformedTag (e : MalformedTag)
  | notBoolean (text : String)
  /-- A text is no date, time, or both; `kind` says what it should have been. -/
  | notCalendar (kind text : String)
  | notInteger (e : Number.Integer.ReadError)
  /-- An integer cannot be written. -/
  | tooManyDigits
  | notFloat (text : String)
  | notDecimal
  | notHex (e : Binary.Hex.ReadError)
  | notBase64 (e : Binary.Base64.ReadError)
  | notCallable (type : String)
  | notIterable (type : String)
  | notConstructible (type : String)
  | noField (type field : String)
  | noMember (type name : String)
  /-- An attribute cannot hold a value that is no text. -/
  | notText (type : String)
  | severalTypes
  deriving Inhabited

def Fault.message : Fault → String
  | .undefined name => "name " ++ quoted name ++ " is not defined"
  | .malformedTag e => e.message
  | .notBoolean text => "invalid boolean " ++ quoted text
  | .notCalendar kind text => "invalid " ++ kind ++ " " ++ quoted text
  | .notInteger e => e.message
  | .tooManyDigits => Number.Integer.tooLongToWrite
  | .notFloat text => "could not convert string to float: " ++ quoted text
  | .notDecimal => "[<class 'decimal.ConversionSyntax'>]"
  | .notHex e => e.message
  | .notBase64 e => e.message
  | .notCallable type => "'" ++ type ++ "' object is not callable"
  | .notIterable type => "'" ++ type ++ "' object is not iterable"
  | .notConstructible type => type ++ ".__init__() takes 1 positional argument but 2 were given"
  | .noField type field => type ++ ".__init__() got an unexpected keyword argument " ++ quoted field
  | .noMember type name => "'" ++ type ++ "' object has no attribute '" ++ name ++ "'"
  | .notText type => "cannot serialize a value of type " ++ type
  | .severalTypes => "too many values to unpack (expected 1)"

end XmlBinding.Codec
