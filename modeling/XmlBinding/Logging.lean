/-!
This module contains the levels and the names of loggers. All loggers of the program are below one of its
own, which gets its level and a handler when logging is set up.
-/

namespace XmlBinding.Logging

def rootName : String := "xsd_codegen"

/-- The level of loggers that none was set for. -/
def warning : Int := 30

/-- The state of the logger above all others; level zero stands for no level. -/
structure State where
  level : Int
  isConfigured : Bool
  deriving DecidableEq

namespace State

def initial : State :=
  ⟨0, false⟩

/-- Sets the level; the first time a handler is added, and messages are no longer passed on. -/
def setup (_ : State) (level : Int) : State :=
  ⟨level, true⟩

def handlers (s : State) : Nat :=
  if s.isConfigured then 1 else 0

def propagates (s : State) : Bool :=
  !s.isConfigured

/-- The level that counts for every logger. -/
def effectiveLevel (s : State) : Int :=
  if s.level == 0 then warning else s.level

end State

def loggerName (name : String) : String :=
  if name == rootName || (rootName ++ ".").toList.isPrefixOf name.toList then
    name
  else
    rootName ++ "." ++ name

def levelName (level : Int) : String :=
  if level == 50 then "CRITICAL"
  else if level == 40 then "ERROR"
  else if level == 30 then "WARNING"
  else if level == 20 then "INFO"
  else if level == 10 then "DEBUG"
  else if level == 0 then "NOTSET"
  else s!"Level {level}"

end XmlBinding.Logging
