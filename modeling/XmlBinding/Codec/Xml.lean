/-!
This module contains elements of XML documents. Names are written in the form with braces.
-/

namespace XmlBinding

inductive Xml
  | element (tag : String) (attributes : List (String × String)) (text? : Option String)
    (children : List Xml)
  deriving Inhabited

namespace Xml

def tag : Xml → String
  | .element tag _ _ _ => tag

def attributes : Xml → List (String × String)
  | .element _ attributes _ _ => attributes

def text? : Xml → Option String
  | .element _ _ text? _ => text?

def children : Xml → List Xml
  | .element _ _ _ children => children

end Xml

end XmlBinding
