import XmlBinding.Declaration.TypeExpr
import XmlBinding.Fault

/-!
This module contains the methods that list classes get: one writes the items of a list as children of an
element, the other reads them back.
-/

namespace XmlBinding

open Text

inductive Method
  | toXml
  /-- Reads the children that `tag` accepts as values of the type `item`. -/
  | fromXml (item : TypeExpr) (tag : ItemTag)
  deriving DecidableEq

namespace Method

def writeName : String := "to_xml"

def readName : String := "from_xml"

def name : Method → String
  | .toXml => writeName
  | .fromXml _ _ => readName

/-- Names that stand for constants, and so for no type. -/
def constants : List String :=
  ["None", "True", "False"]

/-- The first part of the dotted name inside a type expression. -/
def headName (t : TypeExpr) : String :=
  (pieces '.' t.rootName).headD ""

def reading (item : TypeExpr) (tag : ItemTag) : Except Fault Method :=
  if constants.contains (headName item) then
    .error (.constantName (headName item))
  else
    .ok (.fromXml item tag)

def skipLines (tag : ItemTag) : List String :=
  let clark := (QName.mk tag.space tag.localPart).clark
  match tag.matching with
  | .any => []
  | .localPart =>
    ["        if local_name(child.tag) != " ++ quoted tag.localPart ++ ":", "            continue"]
  | .exact => ["        if child.tag != " ++ quoted clark ++ ":", "            continue"]

def lines : Method → List String
  | .toXml =>
    ["def to_xml(self, tag):",
      "    element = ElementTree.Element(tag)",
      "    for item in self:",
      "        element.append(encode_value(item, " ++ quoted itemName ++ "))",
      "    return element"]
  | .fromXml item tag =>
    ["@classmethod",
      "def from_xml(cls, element):",
      "    items = cls()",
      "    for child in element:"]
      ++ skipLines tag
      ++ ["        items.append(decode_value(" ++ item.source ++ ", child))", "    return items"]

def source (m : Method) : String :=
  "\n".intercalate m.lines

end Method

end XmlBinding
