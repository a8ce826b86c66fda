import XmlBinding.Config.File
import XmlBinding.Proofs.Config.Chain
import XmlBinding.Proofs.Config.Ordinary
import XmlBinding.Proofs.Pattern.Removal

/-!
This module contains the configuration that comes from the defaults alone, and what it makes of names: all points,
underscores, hyphens and blanks go, and the first character of the rest gets a lower case.
-/

namespace XmlBinding.Config

open Text

def defaults : Config :=
  .built [] Directive.defaults

theorem load_defaults : load true none [] empty = .ok defaults :=
  rfl

theorem isRegular_defaults : defaults.IsRegular :=
  isRegular_built [] fun _ => Directive.isOrdinary_of_mem_defaults

/-! ### Separators -/

def isSeparator (c : Char) : Bool :=
  c == '.' || c == '_' || c == '-' || isBlank c

def separators : Pattern.CharTest :=
  ⟨[.code 46, .code 95, .code 32, .category .space false, .code 45], false, ⟨false, false⟩⟩

def separatorRule : NameRule :=
  .of .all "[._ \\s-]" ""

theorem regex_separatorRule : separatorRule.regex = .ok ⟨.char separators, 0, []⟩ := by
  decide +kernel

theorem holds_separators (c : Char) : separators.holds c = isSeparator c := by
  have hcode (d : Char) : (c.toNat == d.toNat) = (c == d) := by
    rw [Bool.eq_iff_iff]
    simp [Char.toNat_inj]
  have hspace : (c == ' ' || isBlank c) = isBlank c := by
    by_cases hc : c = ' '
    . rw [hc]
      rfl
    . simp [hc]
  have hholds : separators.holds c = (c == '.' || (c == '_' || (c == ' ' || (isBlank c || c == '-')))) := by
    rw [← hcode '.']
    rw [← hcode '_']
    rw [← hcode ' ']
    rw [← hcode '-']
    simp [Pattern.CharTest.holds, separators, Pattern.SetItem.holds, Pattern.Dialect.fold, Pattern.Dialect.variants,
      Pattern.Category.holds]
  rw [hholds]
  unfold isSeparator
  rw [← Bool.or_assoc (c == ' ')]
  rw [hspace]
  rw [Bool.or_comm (isBlank c)]
  simp only [Bool.or_assoc]

/-- The local part without its separators. -/
def bare (localPart : String) : List Char :=
  localPart.toList.filter fun c => !isSeparator c

theorem rewrite_separatorRule (name : String)
    : NameRule.rewrite name separatorRule = .ok (String.ofList (bare name)) := by
  unfold NameRule.rewrite
  rw [regex_separatorRule]
  dsimp only
  rw [show separatorRule.replacement.toList = [] from rfl]
  rw [Pattern.replace_char rfl]
  simp only [holds_separators]
  rfl

/-! ### Names -/

def bareName (localPart : String) : String :=
  if (bare localPart).isEmpty then "_" else String.ofList (lowerFirst (bare localPart))

theorem nameRules_defaults {slot : RuleSlot} (h : slot ≠ .all) : defaults.nameRules (some slot) = [separatorRule] := by
  cases slot with
  | all => exact absurd rfl h
  | _ => rfl

theorem privateName_defaults {slot : RuleSlot} (h : slot ≠ .all) (name : QName)
    : (defaults.privateName (some slot) name).result = .ok (bareName name.localPart) := by
  have hrewrite : (defaults.nameRules (some slot)).foldlM NameRule.rewrite name.localPart =
      .ok (String.ofList (bare name.localPart)) := by
    rw [nameRules_defaults h]
    rw [List.foldlM_cons]
    rw [rewrite_separatorRule]
    rfl
  rw [privateName_of_ok hrewrite]
  unfold bareName
  cases bare name.localPart with
  | nil => rfl
  | cons c cs => simp

end XmlBinding.Config
