import XmlBinding.Number.Integer
import XmlBinding.Text.Quoted

/-!
This module contains the reasons why a pattern or a replacement text is refused, and their wording.
-/

namespace XmlBinding.Pattern

open Text

inductive Greed
  | greedy
  | lazy
  | possessive
  deriving DecidableEq

inductive Cause
  | danglingEscape
  | badEscape (escape : String)
  | incompleteEscape (escape : String)
  | octalTooLarge (escape : String)
  | missingBrace
  | unknownCharacterName (name : String)
  | missingName (what : String)
  | unterminatedName (stop : Char)
  | badGroupName (name : String)
  | unknownGroupName (name : String)
  | redefinedGroupName (name : String) (index earlier : Nat)
  | openGroup
  | invalidGroup (index : Nat)
  | groupZero
  | groupInSameLookBehind
  | unterminatedSet
  | badRange (first last : String)
  | nothingToRepeat
  | multipleRepeat
  | repeatBoundsSwapped
  | unexpectedEnd
  | unknownExtension (text : String)
  | unterminatedComment
  | unterminatedGroup
  | unbalancedParenthesis
  | moreThanTwoBranches
  | globalFlagsNotAtStart
  | localeFlag
  | incompatibleFlags
  | unknownFlag
  | missingFlag
  | missingFlagEnd
  | missingColon
  | globalFlagOn
  | globalFlagOff
  | typeFlagOff
  | flagOnAndOff
  | missingAngle
  | variableWidthBehind
  | tooFarBehind
  | templateOperator (greed : Greed)
  deriving DecidableEq

def Cause.message : Cause → String
  | .danglingEscape => "bad escape (end of pattern)"
  | .badEscape escape => "bad escape " ++ escape
  | .incompleteEscape escape => "incomplete escape " ++ escape
  | .octalTooLarge escape => "octal escape value " ++ escape ++ " outside of range 0-0o377"
  | .missingBrace => "missing \x7b"
  | .unknownCharacterName name => "undefined character name " ++ quoted name
  | .missingName what => "missing " ++ what
  | .unterminatedName stop => "missing " ++ String.ofList [stop] ++ ", unterminated name"
  | .badGroupName name => "bad character in group name " ++ quoted name
  | .unknownGroupName name => "unknown group name " ++ quoted name
  | .redefinedGroupName name index earlier =>
    "redefinition of group name " ++ quoted name ++ s!" as group {index}; was group {earlier}"
  | .openGroup => "cannot refer to an open group"
  | .invalidGroup index => s!"invalid group reference {index}"
  | .groupZero => "bad group number"
  | .groupInSameLookBehind => "cannot refer to group defined in the same lookbehind subpattern"
  | .unterminatedSet => "unterminated character set"
  | .badRange first last => "bad character range " ++ first ++ "-" ++ last
  | .nothingToRepeat => "nothing to repeat"
  | .multipleRepeat => "multiple repeat"
  | .repeatBoundsSwapped => "min repeat greater than max repeat"
  | .unexpectedEnd => "unexpected end of pattern"
  | .unknownExtension text => "unknown extension ?" ++ text
  | .unterminatedComment => "missing ), unterminated comment"
  | .unterminatedGroup => "missing ), unterminated subpattern"
  | .unbalancedParenthesis => "unbalanced parenthesis"
  | .moreThanTwoBranches => "conditional backref with more than two branches"
  | .globalFlagsNotAtStart => "global flags not at the start of the expression"
  | .localeFlag => "bad inline flags: cannot use 'L' flag with a str pattern"
  | .incompatibleFlags => "bad inline flags: flags 'a', 'u' and 'L' are incompatible"
  | .unknownFlag => "unknown flag"
  | .missingFlag => "missing flag"
  | .missingFlagEnd => "missing -, : or )"
  | .missingColon => "missing :"
  | .globalFlagOn => "bad inline flags: cannot turn on global flag"
  | .globalFlagOff => "bad inline flags: cannot turn off global flag"
  | .typeFlagOff => "bad inline flags: cannot turn off flags 'a', 'u' and 'L'"
  | .flagOnAndOff => "bad inline flags: flag turned on and off"
  | .missingAngle => "missing <"
  | .variableWidthBehind => "look-behind requires fixed-width pattern"
  | .tooFarBehind => "looks too much behind"
  | .templateOperator .greedy => "internal: unsupported template operator MAX_REPEAT"
  | .templateOperator .lazy => "internal: unsupported template operator MIN_REPEAT"
  | .templateOperator .possessive => "internal: unsupported template operator POSSESSIVE_REPEAT"

structure Place where
  text : List Char
  position : Nat
  deriving DecidableEq

/-- Line and column are added where the text has more than one line. -/
def Place.message (p : Place) : String :=
  s!" at position {p.position}" ++
    if p.text.contains '\n' then
      let before := Text.lines (p.text.take p.position)
      s!" (line {before.length}, column {(before.getLastD []).length + 1})"
    else
      ""

/-- A malformed text, or one of the refusals that are not about form. -/
inductive Error
  | malformed (cause : Cause) (place? : Option Place)
  | repetitionTooLarge
  | numberTooLong (e : Number.Integer.ReadError)
  | flagConflict
  | noSuchGroup (name : String)
  deriving DecidableEq

def Error.message : Error → String
  | .malformed cause none => cause.message
  | .malformed cause (some place) => cause.message ++ place.message
  | .repetitionTooLarge => "the repetition number is too large"
  | .numberTooLong e => e.message
  | .flagConflict => "ASCII and UNICODE flags are incompatible"
  | .noSuchGroup name => "unknown group name " ++ quoted name

end XmlBinding.Pattern
