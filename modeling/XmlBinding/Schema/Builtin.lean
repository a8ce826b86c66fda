import XmlBinding.Name.QName

/-!
This module contains the types that every schema can refer to without declaring them, and the expressions
that stand for them in generated code.
-/

namespace XmlBinding

inductive Builtin
  | anyType
  | anySimpleType
  | string
  | normalizedString
  | token
  | language
  | name
  | ncName
  | id
  | idRef
  | nmToken
  | anyUri
  | qName
  | boolean
  | decimal
  | float
  | double
  | integer
  | long
  | int
  | short
  | byte
  | nonNegativeInteger
  | positiveInteger
  | nonPositiveInteger
  | negativeInteger
  | unsignedLong
  | unsignedInt
  | unsignedShort
  | unsignedByte
  | dateTime
  | date
  | time
  | duration
  | base64Binary
  | hexBinary
  deriving DecidableEq

namespace Builtin

def namespaceUri : String := "http://www.w3.org/2001/XMLSchema"

def table : List (Builtin × String × String) :=
  [(anyType, "anyType", "ANY_TYPE"),
    (anySimpleType, "anySimpleType", "ANY_SIMPLE_TYPE"),
    (string, "string", "STRING"),
    (normalizedString, "normalizedString", "NORMALIZED_STRING"),
    (token, "token", "TOKEN"),
    (language, "language", "LANGUAGE"),
    (name, "Name", "NAME"),
    (ncName, "NCName", "NCNAME"),
    (id, "ID", "ID"),
    (idRef, "IDREF", "IDREF"),
    (nmToken, "NMTOKEN", "NMTOKEN"),
    (anyUri, "anyURI", "ANY_URI"),
    (qName, "QName", "QNAME"),
    (boolean, "boolean", "BOOLEAN"),
    (decimal, "decimal", "DECIMAL"),
    (float, "float", "FLOAT"),
    (double, "double", "DOUBLE"),
    (integer, "integer", "INTEGER"),
    (long, "long", "LONG"),
    (int, "int", "INT"),
    (short, "short", "SHORT"),
    (byte, "byte", "BYTE"),
    (nonNegativeInteger, "nonNegativeInteger", "NON_NEGATIVE_INTEGER"),
    (positiveInteger, "positiveInteger", "POSITIVE_INTEGER"),
    (nonPositiveInteger, "nonPositiveInteger", "NON_POSITIVE_INTEGER"),
    (negativeInteger, "negativeInteger", "NEGATIVE_INTEGER"),
    (unsignedLong, "unsignedLong", "UNSIGNED_LONG"),
    (unsignedInt, "unsignedInt", "UNSIGNED_INT"),
    (unsignedShort, "unsignedShort", "UNSIGNED_SHORT"),
    (unsignedByte, "unsignedByte", "UNSIGNED_BYTE"),
    (dateTime, "dateTime", "DATE_TIME"),
    (date, "date", "DATE"),
    (time, "time", "TIME"),
    (duration, "duration", "DURATION"),
    (base64Binary, "base64Binary", "BASE64_BINARY"),
    (hexBinary, "hexBinary", "HEX_BINARY")]

def words (b : Builtin) : String × String :=
  (table.lookup b).getD ("", "")

def localPart (b : Builtin) : String :=
  b.words.1

def qname (b : Builtin) : QName :=
  ⟨namespaceUri, b.localPart⟩

def ofLocalPart? (localPart : String) : Option Builtin :=
  (table.find? fun (_, l, _) => l == localPart).map (·.1)

def shown (b : Builtin) : String :=
  "<Builtin." ++ b.words.2 ++ ": '" ++ b.words.1 ++ "'>"

/-- All builtin types but the two at the root are direct restrictions of the simple one. -/
def base? : Builtin → Option Builtin
  | anyType => none
  | anySimpleType => some anyType
  | _ => some anySimpleType

end Builtin

end XmlBinding
