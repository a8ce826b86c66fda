import XmlBinding.Text.Quoted

/-!
This module contains the reading of quoted texts. Only the escapes that quoting writes are read.
-/

namespace XmlBinding.Text.Quoted

/-- The value of a run of hexadecimal digits of this length in front of a text, and the rest. -/
def hexRun? (width : Nat) (cs : List Char) : Option (Nat × List Char) :=
  let ds := cs.take width
  if ds.length == width then
    (ds.foldlM (fun n d => (hexValue? d).map (16 * n + ·)) 0).map fun n => (n, cs.drop width)
  else
    none

/-- One character of a quoted text and the rest; an escape is one character. -/
def readChar? : List Char → Option (Char × List Char)
  | [] => none
  | '\\' :: c :: cs =>
    if c == 'n' then some ('\n', cs)
    else if c == 'r' then some ('\r', cs)
    else if c == 't' then some ('\t', cs)
    else if c == 'x' then (hexRun? 2 cs).map fun (n, cs) => (Char.ofNat n, cs)
    else if c == 'u' then (hexRun? 4 cs).map fun (n, cs) => (Char.ofNat n, cs)
    else if c == 'U' then (hexRun? 8 cs).map fun (n, cs) => (Char.ofNat n, cs)
    else if c == '\\' || c == '\x27' || c == '"' then some (c, cs)
    else none
  | c :: cs => if c == '\\' || c == '\n' || c == '\r' then none else some (c, cs)

/-- Reads up to the mark `q`; `fuel` bounds the length. -/
def readTo? (q : Char) : (fuel : Nat) → List Char → Option (List Char × List Char)
  | 0, _ => none
  | fuel + 1, cs =>
    if cs.head? == some q then
      some ([], cs.drop 1)
    else
      match readChar? cs with
      | none => none
      | some (c, rest) => (readTo? q fuel rest).map fun (text, rest) => (c :: text, rest)

/-- The text in front that is quoted, and what follows it. -/
def readFront? : List Char → Option (List Char × List Char)
  | q :: cs => if q == '\x27' || q == '"' then readTo? q (cs.length + 1) cs else none
  | [] => none

def read? (cs : List Char) : Option (List Char) :=
  match readFront? cs with
  | some (text, []) => some text
  | _ => none

end XmlBinding.Text.Quoted
