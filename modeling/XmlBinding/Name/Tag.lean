import XmlBinding.Name.QName
import XmlBinding.Text.Blank
import XmlBinding.Text.Quoted

/-!
This module contains the tags that tie the fields of a class to the attributes and children of an element.
A tag is written `[namespace ]local[,flag...]`. A tag without a name stands for children of any name.
-/

namespace XmlBinding

open Text

structure Tag where
  space : String
  localPart : String
  flags : List String
  deriving DecidableEq

/-- The tag of a wildcard, and the local part that stands for any name. -/
def wildcardTag : String := ",any"

/-- The local name under which the items of a list class are written. -/
def itemName : String := "item"

/-- The name under which a class holds the tags of its constants. -/
def tagsName : String := "__xml_constants__"

/-- A tag whose name part has more than a namespace and a local part. -/
structure MalformedTag where
  text : String
  deriving DecidableEq

def MalformedTag.message (e : MalformedTag) : String :=
  "malformed xml tag " ++ quoted e.text ++ ": expected '[namespace ]local'"

namespace Tag

def read (text : String) : Except MalformedTag Tag :=
  let parts := pieces ',' text
  let flags := ((parts.drop 1).map strip).filter (!·.isEmpty)
  match wordsOf (parts.headD "") with
  | [] => .ok ⟨"", wildcardTag, flags⟩
  | [localPart] => .ok ⟨"", localPart, flags⟩
  | [space, localPart] => .ok ⟨space, localPart, flags⟩
  | _ => .error ⟨text⟩

def ofName (name : QName) : String :=
  if name.space.isEmpty then name.localPart else name.space ++ " " ++ name.localPart

def name (t : Tag) : QName :=
  ⟨t.space, t.localPart⟩

def isAttribute (t : Tag) : Bool :=
  t.flags.contains "attr"

def isWildcard (t : Tag) : Bool :=
  t.localPart == wildcardTag

end Tag

/-- What follows the last `sep`; all of the text where there is none. -/
def afterLast (sep : Char) : List Char → List Char
  | [] => []
  | c :: cs =>
    if cs.contains sep then afterLast sep cs
    else if c == sep then cs
    else c :: cs

def localName (clark : String) : String :=
  String.ofList (afterLast '\x7d' clark.toList)

/-- Whether an element called `clark` is meant by a namespace and a local part. Without a namespace only
local parts are compared. -/
def tagMatches (clark : String) (space localPart : String) : Bool :=
  if localPart == wildcardTag then true
  else if space.isEmpty then localName clark == localPart
  else clark == (QName.mk space localPart).clark

inductive TagMatch
  | any
  | localPart
  | exact
  deriving DecidableEq

structure ItemTag where
  space : String
  localPart : String
  deriving DecidableEq

namespace ItemTag

def matching (t : ItemTag) : TagMatch :=
  if t.localPart == wildcardTag then .any
  else if t.space.isEmpty then .localPart
  else .exact

/-- An empty text is the tag of a wildcard. -/
def read (text : String) : Except MalformedTag ItemTag :=
  (Tag.read (if text.isEmpty then wildcardTag else text)).map fun t => ⟨t.space, t.localPart⟩

def accepts (t : ItemTag) (clark : String) : Bool :=
  match t.matching with
  | .any => true
  | .localPart => localName clark == t.localPart
  | .exact => clark == (QName.mk t.space t.localPart).clark

end ItemTag

end XmlBinding
