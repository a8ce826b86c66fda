import XmlBinding.Text.CharClass

/-!
This module contains the quoted form of a text: one line of printable characters between two quotation
marks, with everything else escaped.
-/

namespace XmlBinding.Text.Quoted

/-- Texts stand between single quotes, unless they hold a single quote and no double quote. -/
def mark (cs : List Char) : Char :=
  if cs.contains '\x27' && !cs.contains '"' then '"' else '\x27'

def escape (q c : Char) : List Char :=
  if c == q || c == '\\' then ['\\', c]
  else if c == '\n' then ['\\', 'n']
  else if c == '\r' then ['\\', 'r']
  else if c == '\t' then ['\\', 't']
  else if isPrintable c then [c]
  else if c.toNat < 0x100 then '\\' :: 'x' :: hexDigits 2 c.toNat
  else if c.toNat < 0x10000 then '\\' :: 'u' :: hexDigits 4 c.toNat
  else '\\' :: 'U' :: hexDigits 8 c.toNat

def write (cs : List Char) : List Char :=
  let q := mark cs
  q :: cs.flatMap (escape q) ++ [q]

end Quoted

def quoted (s : String) : String :=
  String.ofList (Quoted.write s.toList)

end XmlBinding.Text
