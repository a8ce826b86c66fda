import XmlBinding.Generate.Code
import XmlBinding.Proofs.Config.Silent
import XmlBinding.Proofs.Generate.Alone

/-!
This module contains that the declarations of a schema and their code do not depend on where notices go.
-/

namespace XmlBinding.Generate

open Config

/-! ### One type -/

theorem struct_silent (cfg : Config) (s : Store) (t : ComplexType) : struct cfg.silent s t = struct cfg s t :=
  struct_congr (by funext slot name scope; exact memberName_silent cfg slot name scope)
    (by funext r?; exact typeExpr_silent cfg s r?) (keptMembers_silent cfg s t)

theorem simple_silent (cfg : Config) (s : Store) (t : SimpleType) : simple cfg.silent s t = simple cfg s t := by
  unfold simple
  simp only [typeExpr_silent]

theorem declaration?_silent (cfg : Config) (s : Store) (r? : Option TypeRef)
    : declaration? cfg.silent s r? = declaration? cfg s r? := by
  unfold declaration?
  simp only [struct_silent, simple_silent, typeName_silent]

theorem isExcluded_silent (cfg : Config) (s : Store) (r : TypeRef) : isExcluded cfg.silent s r = isExcluded cfg s r :=
  rfl

theorem process_silent (cfg : Config) (find? : QName → Option TypeRef) (r : TypeRef)
    : process cfg.silent find? r = process cfg find? r := by
  unfold process
  simp only [declaration?_silent]
  rfl

theorem draft_silent (cfg : Config) (find? : QName → Option TypeRef) (r : TypeRef)
    : draft cfg.silent find? r = draft cfg find? r := by
  unfold draft
  simp only [isExcluded_silent, process_silent]

/-! ### All types -/

theorem drafts_silent (cfg : Config) (find? : QName → Option TypeRef) (seen : List (String × String))
    (rs : List TypeRef)
    : drafts cfg.silent find? seen rs = drafts cfg find? seen rs := by
  induction rs generalizing seen with
  | nil => rfl
  | cons r rs ih =>
    rw [drafts]
    rw [drafts]
    simp only [draft_silent, ih]

theorem declarations_silent (cfg : Config) (schema : Schema)
    : declarations cfg.silent schema = declarations cfg schema := by
  unfold declarations
  rw [drafts_silent]

theorem code_silent (cfg : Config) (schema : Schema) : code cfg.silent schema = code cfg schema := by
  unfold code
  rw [declarations_silent]
  rfl

/-! ### Two runs -/

/-- Runs that differ in nothing but where notices go and at which level give the same names, declarations, code and
notices, and leave the same schema behind. Only what is delivered of the notices depends on the level. -/
theorem code_eq_of_silent_eq {cfg cfg' : Config} (hcfg : cfg.silent = cfg'.silent) {ds es : List Directive}
    (hds : ds.filterMap Directive.silent? = es.filterMap Directive.silent?) (schema : Schema)
    : let run := (cfg.option ds).1
      let loud := (cfg'.option es).1
      (∀ slot? name, run.privateName slot? name = loud.privateName slot? name) ∧
        (∀ name, run.typeName name = loud.typeName name) ∧
        (∀ slot name scope, run.memberName slot name scope = loud.memberName slot name scope) ∧
        (∀ s r, isExcluded run s r = isExcluded loud s r) ∧
        (∀ s t, run.keptMembers s t = loud.keptMembers s t) ∧
        declarations run schema = declarations loud schema ∧ code run schema = code loud schema ∧
        run.HearsStepwise ∧
        (loud.hasSink = true → loud.level = 5 → ∀ notices,
          run.delivered notices =
            if run.hasSink then
              (loud.delivered notices).filter fun n =>
                n.tier = .error ∨ n.tier = .info ∧ 0 < run.level ∨ n.tier = .debug ∧ 3 < run.level
            else
              []) := by
  intro run loud
  have hsilent : run.silent = loud.silent := by
    rw [silent_option]
    rw [silent_option]
    rw [hcfg]
    rw [hds]
  refine ⟨?_, ?_, ?_, ?_, ?_, ?_, ?_, run.hearsStepwise, ?_⟩
  . intro slot? name
    rw [← privateName_silent run]
    rw [hsilent]
    exact privateName_silent loud slot? name
  . intro name
    rw [← typeName_silent run]
    rw [hsilent]
    exact typeName_silent loud name
  . intro slot name scope
    rw [← memberName_silent run]
    rw [hsilent]
    exact memberName_silent loud slot name scope
  . intro s r
    rw [← isExcluded_silent run]
    rw [hsilent]
    exact isExcluded_silent loud s r
  . intro s t
    rw [← keptMembers_silent run]
    rw [hsilent]
    exact keptMembers_silent loud s t
  . rw [← declarations_silent run]
    rw [hsilent]
    exact declarations_silent loud schema
  . rw [← code_silent run]
    rw [hsilent]
    exact code_silent loud schema
  . intro hsink hlevel notices
    exact delivered_eq_filter hsink hlevel run notices

/-- The directives for arrays with a rule that cannot be used. At the end there is a sink for information. -/
def informedDirectives : List Directive :=
  .errorLog false 4 :: arrayDirectives ++ [.nameRule (.of .types "(" ""), .restore ⟨[.level 1, .sink true]⟩]

/-- The same directives with a sink for everything. -/
def loudDirectives : List Directive :=
  arrayDirectives ++ [.errorLog true 5, .nameRule (.of .types "(" ""), .restore ⟨[]⟩]

theorem code_eq_of_silent_eq_arrays
    : let run := Config.built [.duration] informedDirectives
      let loud := Config.built [.duration] loudDirectives
      let notices := (code run arrays).2.notices
      informedDirectives.filterMap Directive.silent? = loudDirectives.filterMap Directive.silent? ∧
        code run arrays = code loud arrays ∧
        (loud.delivered notices).map (·.tier) =
          [.info, .debug, .debug, .info, .debug, .debug, .info, .debug, .error, .info, .error] ∧
        (run.delivered notices).map (·.tier) = [.info, .info, .info, .error, .info, .error] := by
  intro run loud notices
  have hds : informedDirectives.filterMap Directive.silent? = loudDirectives.filterMap Directive.silent? := rfl
  obtain ⟨-, -, -, -, -, -, hcode, -, hdelivered⟩ := code_eq_of_silent_eq rfl hds arrays
  have hloud : (loud.delivered notices).map (·.tier) =
      [.info, .debug, .debug, .info, .debug, .debug, .info, .debug, .error, .info, .error] := by
    decide +kernel
  refine ⟨hds, hcode, hloud, ?_⟩
  have hrun (notices : List Notice) : (run.delivered notices).map (·.tier) =
      ((loud.delivered notices).map (·.tier)).filter fun t =>
        t = .error ∨ t = .info ∧ 0 < run.level ∨ t = .debug ∧ 3 < run.level := by
    rw [List.filter_map]
    exact congrArg (List.map (·.tier)) (hdelivered rfl rfl notices)
  rw [hrun]
  rw [hloud]
  rfl

end XmlBinding.Generate
