import XmlBinding.Text.Blank

/-!
This module contains the layout of source text: indented lines, comment lines, and the clean-up of blanks.
-/

namespace XmlBinding.Render

open Text

def markLines (mark : List Char) (cs : List Char) : List Char :=
  unlines ((lines cs).map fun l => if isAllBlank l then l else mark ++ l)

def indent (width : Nat) (s : String) : String :=
  String.ofList (markLines (List.replicate width ' ') s.toList)

def comment (style s : String) : String :=
  String.ofList (markLines (style.toList ++ [' ']) s.toList)

/-- Lines without blanks at their ends, and with at most two empty ones in a row. So many came just before
the first. -/
def tidyLines : (empties : Nat) → List (List Char) → List (List Char)
  | _, [] => []
  | empties, l :: ls =>
    let l := trimEnd l
    if l.isEmpty then
      if empties < 2 then l :: tidyLines (empties + 1) ls else tidyLines (empties + 1) ls
    else
      l :: tidyLines 0 ls

def trimBreaks (cs : List Char) : List Char :=
  ((cs.dropWhile (· == '\n')).reverse.dropWhile (· == '\n')).reverse

/-- Text with tidy lines, no empty ones at its ends, and a line feed at its end. -/
def tidy (cs : List Char) : List Char :=
  trimBreaks (unlines (tidyLines 0 (lines cs))) ++ ['\n']

def formatCode (s : String) : String :=
  String.ofList (tidy s.toList)

end XmlBinding.Render
