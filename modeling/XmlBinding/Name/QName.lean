/-!
This module contains names that are qualified by a namespace.
-/

namespace XmlBinding

/-- An empty `space` stands for no namespace. -/
structure QName where
  space : String
  localPart : String
  deriving DecidableEq

namespace QName

/-- The form in which the namespace stands in braces before the local part. -/
def clark (name : QName) : String :=
  if name.space.isEmpty then
    name.localPart
  else
    "\x7b" ++ name.space ++ "\x7d" ++ name.localPart

end QName

end XmlBinding
