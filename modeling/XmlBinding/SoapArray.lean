import XmlBinding.Schema.Hierarchy
import XmlBinding.Text.Blank

/-!
This module contains what is special about arrays in the encoding of remote procedure calls. The type of
their items is only written in an annotation of one of their attributes, so the wildcard element that they
have or inherit gets its type from there.
-/

namespace XmlBinding

open Text

namespace SoapArray

def annotation : QName :=
  ⟨"http://schemas.xmlsoap.org/wsdl/", "arrayType"⟩

/-- Resolves `[namespace prefix:]local` in the scope of a declaration. -/
def resolve (namespaces : List (String × String)) (reference : String) : QName :=
  let find (nsPrefix : List Char) := (namespaces.lookup (String.ofList nsPrefix)).getD ""
  let cs := trim reference.toList
  let first := cs.takeWhile (· != ':')
  match cs.drop first.length with
  | [] => ⟨find [], String.ofList first⟩
  | _ :: rest => ⟨find first, String.ofList rest⟩

/-- Drops blanks around a name and one pair of brackets at its end. -/
def normalize (name : QName) : QName :=
  let cs := trim name.localPart.toList
  ⟨name.space, String.ofList (if [']', '['].isPrefixOf cs.reverse then cs.take (cs.length - 2) else cs)⟩

def annotated? (a : Attribute) : Option String :=
  (a.written.find? (·.name == annotation)).map (·.value)

/-- Records the annotation of the first attribute called `arrayType` as its fixed value. The name of the
item type comes with the changed attributes; `none` where there is no annotation. -/
def record? : List Member → Except Fault (Option (List Member × QName))
  | [] => .ok none
  | m :: ms =>
    if m.name.localPart == annotation.localPart then
      match m with
      | .element _ => .error (.noProperty "Element" "attrs")
      | .attribute a =>
        match annotated? a with
        | none => .ok none
        | some value =>
          .ok (some (.attribute { a with fixed := value } :: ms, resolve a.namespaces value))
    else
      (record? ms).map fun found => found.map fun (ms, name) => (m :: ms, name)

def itemType? (r : TypeRef) : Edit (Option QName) := do
  let s ← Edit.store
  match s.get r with
  | .complex t =>
    match record? (s.attributesOf t) with
    | .error e => Edit.fail e
    | .ok none => pure none
    | .ok (some (attributes, name)) =>
      Edit.change (·.setAttributes t attributes)
      pure (some name)
  | e => Edit.fail (.noProperty e.kindName "attributes")

inductive Search
  /-- The nearest type with a wildcard, and the first one that it has. -/
  | found (owner : TypeRef) (element : Element)
  | missing
  /-- A type that is not complex comes first. -/
  | broken (ancestor : TypeRef)
  deriving DecidableEq

def firstWildcard? : List Member → Except Fault (Option Element)
  | [] => .ok none
  | .attribute _ :: _ => .error (.noProperty "Attribute" "wildcard")
  | .element e :: ms => if e.isWildcard then .ok (some e) else firstWildcard? ms

def search (s : Store) : (fuel : Nat) → (r? : Option TypeRef) → Except Fault Search
  | _, none | _, some (.builtin .anyType) => .ok .missing
  -- Only bases that run in a circle use up the fuel.
  | 0, some _ => .error .endlessHierarchy
  | fuel + 1, some r =>
    match s.get r with
    | .complex t => do
      match ← firstWildcard? (s.elementsOf t) with
      | some e => .ok (.found r e)
      | none => search s fuel t.base?
    | _ => .ok (.broken r)

def findWildcard (s : Store) (r : TypeRef) : Except Fault Search :=
  search s s.walkLimit (some r)

/-- Puts `e` in the place of every wildcard, and tells whether there was one. -/
def replaceWildcards (e : Element) : List Member → List Member × Except Fault Bool
  | [] => ([], .ok false)
  -- What has been replaced before the fault stays.
  | .attribute a :: ms => (.attribute a :: ms, .error (.noProperty "Attribute" "wildcard"))
  | .element old :: ms =>
    let (rest, replaced) := replaceWildcards e ms
    if old.isWildcard then
      (.element e :: rest, replaced.map fun _ => true)
    else
      (.element old :: rest, replaced)

def arrayName (s : Store) (r : TypeRef) : Except Fault String :=
  match s.get r with
  | .builtin _ => .error (.noProperty "str" "local")
  | e => .ok e.name.localPart

/-- Gives the wildcard element of an array the type `item?`. -/
def overrideWildcard (r : TypeRef) (item? : Option TypeRef) : Edit Unit := do
  let s ← Edit.store
  match findWildcard s r, arrayName s r with
  | .error e, _ => Edit.fail e
  | .ok _, .error e => Edit.fail e
  | .ok (.broken ancestor), .ok array =>
    Edit.note (.brokenHierarchy array (s.get ancestor).kindName (s.nameOf ancestor).localPart)
  | .ok .missing, .ok array => Edit.note (.noWildcard array)
  | .ok (.found _ wildcard), .ok array =>
    match item? with
    | none => Edit.fail (.noProperty "NoneType" "name")
    | some item =>
      let previous := (wildcard.type?.map fun r => (s.nameOf r).localPart).getD ""
      Edit.note (.overriding array previous (s.nameOf item).localPart)
      let e := { wildcard with type? := some item }
      match s.get r with
      | .complex t =>
        match replaceWildcards e (s.elementsOf t) with
        | (elements, .ok true) => Edit.change (·.setElements t elements)
        -- The wildcard is inherited, so the array gets a copy of its own.
        | (elements, .ok false) => Edit.change (·.setElements t (elements ++ [.element e]))
        | (elements, .error fault) => do
          Edit.change (·.setElements t elements)
          Edit.fail fault
      | _ => pure ()

/-- Resolves the item type of a type that is an array. All other types are left as they are, and so is an
array with an item type that is not declared. -/
def resolveItems (find? : QName → Option TypeRef) (r : TypeRef) : Edit Unit := do
  match (← Edit.store).get r with
  | .complex _ =>
    match ← itemType? r with
    | none => pure ()
    | some name =>
      if name.localPart.isEmpty then
        pure ()
      else
        match find? (normalize name) with
        | none => Edit.note (.unknownItem (normalize name))
        | some item => overrideWildcard r (some item)
  | _ => pure ()

end SoapArray

end XmlBinding
