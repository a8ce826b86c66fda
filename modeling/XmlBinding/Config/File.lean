import XmlBinding.Config.Mapping
import XmlBinding.Json.Reader

/-!
This module contains how a configuration is loaded: from the defaults, a file and further directives.
-/

namespace XmlBinding

open Text

/-- What the system finds under the name of a file. -/
inductive FileState
  | missing
  /-- The name cannot even be looked up. -/
  | unreachable (reason : String)
  | directory
  /-- The file is there and cannot be opened. -/
  | locked (reason : String)
  | content (bytes : List UInt8)
  deriving DecidableEq

/-- A file by its path, as messages show it, with its state. -/
structure ConfigFile where
  name : String
  state : FileState
  deriving DecidableEq

namespace ConfigFile

/-- The last part of a path. Empty parts do not count, nor do parts that are a point. -/
def lastPart (path : List Char) : List Char :=
  ((cutAt '/' path).filter fun part => !part.isEmpty && part != ['.']).getLast?.getD []

/-- The last part of a path from its last point on; a point at either end of the part does not count. -/
def suffix (path : List Char) : List Char :=
  let name := lastPart path
  let last := afterLast '.' name
  if last.isEmpty || last.length + 1 ≥ name.length then [] else '.' :: last

def isJson (f : ConfigFile) : Bool :=
  lower (suffix f.name.toList) == ['.', 'j', 's', 'o', 'n']

/-- Every way to end a line becomes a line feed. -/
def plainBreaks : List Char → List Char
  | '\r' :: '\n' :: cs => '\n' :: plainBreaks cs
  | '\r' :: cs => '\n' :: plainBreaks cs
  | c :: cs => c :: plainBreaks cs
  | [] => []

/-- A file has to be there and to have the right name before it is opened. -/
def bytes (f : ConfigFile) : Except LoadError (List UInt8) :=
  match f.state, f.isJson with
  | .missing, _ => .error (.config (.fileMissing f.name))
  | .unreachable reason, _ => .error (.system reason)
  | _, false => .error (.config (.fileSuffix f.name))
  | .directory, true =>
    .error (.config (.fileUnreadable f.name ("[Errno 21] Is a directory: " ++ quoted f.name)))
  | .locked reason, true => .error (.config (.fileUnreadable f.name reason))
  | .content bytes, true => .ok bytes

/-- The mapping that a file holds. -/
def mapping (f : ConfigFile) : Except LoadError (List (String × Json)) := do
  let bytes ← f.bytes
  let cs ← (Utf8.read bytes).mapError .encoding
  match Json.read (plainBreaks cs) with
  | .ok (.obj entries) => .ok entries
  | .ok _ => .error (.config (.fileNoMapping f.name))
  | .error (.integer e) => .error (.number e)
  | .error e => .error (.config (.fileMalformed f.name e.message))

def directives (f : ConfigFile) : Except LoadError (List Directive) := do
  let entries ← f.mapping
  Mapping.directives entries

end ConfigFile

namespace Config

/-- The configuration that comes from the defaults, if they are wanted, then a file, then `extra`. -/
def load (useDefaults : Bool) (file? : Option ConfigFile) (extra : List Directive) (cfg : Config) :
    Except LoadError Config := do
  let cfg := if useDefaults then (cfg.option Directive.defaults).1 else cfg
  let fromFile ← match file? with
    | some file => file.directives
    | none => .ok []
  let fromFile ← Directive.checked fromFile
  let extra ← Directive.checked extra
  .ok ((cfg.option fromFile).1.option extra).1

end Config

end XmlBinding
