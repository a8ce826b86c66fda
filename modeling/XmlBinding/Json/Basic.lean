import XmlBinding.Entries
import XmlBinding.Number.Double
import XmlBinding.Number.Integer

/-!
This module contains JSON values and their form in messages. Integers are unbounded and told apart from
floating-point numbers; the members of an object keep their order.
-/

namespace XmlBinding

inductive Json
  | null
  | bool (b : Bool)
  | int (n : Int)
  | float (x : Number.Double)
  | str (s : String)
  | arr (items : List Json)
  | obj (members : List (String × Json))
  deriving Inhabited

namespace Json

/-- An object from members in reading order. -/
def ofMembers (members : List (String × Json)) : Json :=
  .obj (Entries.ofList members)

mutual

/-- The form in messages: words and quotes are those of the generated language. -/
def shown : Json → String
  | .null => "None"
  | .bool b => if b then "True" else "False"
  | .int n => Number.Integer.write n
  | .float x => x.write
  | .str s => Text.quoted s
  | .arr items => "[" ++ shownItems items ++ "]"
  | .obj members => "\x7b" ++ shownMembers members ++ "\x7d"

def shownItems : List Json → String
  | [] => ""
  | [item] => shown item
  | item :: items => shown item ++ ", " ++ shownItems items

def shownMembers : List (String × Json) → String
  | [] => ""
  | [(name, value)] => Text.quoted name ++ ": " ++ shown value
  | (name, value) :: members => Text.quoted name ++ ": " ++ shown value ++ ", " ++ shownMembers members

end

mutual

/-- Whether there is a form in messages: not if an integer in it is too long. -/
def isShowable : Json → Bool
  | .int n => Number.Integer.isWritable n
  | .arr items => areShowable items
  | .obj members => areMembersShowable members
  | _ => true

def areShowable : List Json → Bool
  | [] => true
  | item :: items => isShowable item && areShowable items

def areMembersShowable : List (String × Json) → Bool
  | [] => true
  | (_, value) :: members => isShowable value && areMembersShowable members

end

/-- The form in running text, where a string stands for itself. -/
def plain : Json → String
  | .str s => s
  | v => v.shown

def str? : Json → Option String
  | .str s => some s
  | _ => none

def strs? : Json → Option (List String)
  | .arr items => items.mapM str?
  | _ => none

end Json

end XmlBinding
