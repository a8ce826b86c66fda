import XmlBinding.Proofs.Generate.Faults
import XmlBinding.Proofs.Generate.Run

/-!
This module contains when rules for names make the computation of names fail. A pattern that cannot be used is only
told of, but a replacement text that does not go with its pattern fails for every name, whether or not the pattern
occurs in it. Without such a text all names exist and are not empty, and no run is ended by a rule.
-/

namespace XmlBinding

open Report

/-! ### Replacement texts -/

/-- What is wrong with a replacement text. One without backslashes stands for itself. -/
def Pattern.Regex.mistake? (r : Regex) (replacement : List Char) : Option Error :=
  if replacement.contains '\\' then
    match readPieces r replacement with
    | .error e => some e
    | .ok _ => none
  else
    none

theorem Pattern.Regex.replace_of_mistake?_eq_some {r : Regex} {replacement : List Char} {e : Error}
    (h : r.mistake? replacement = some e) (text : List Char)
    : r.replace replacement text = .error e := by
  unfold mistake? at h
  unfold replace
  split at h
  . next hbackslash =>
    rw [if_pos hbackslash]
    cases hpieces : readPieces r replacement with
    | error e' =>
      rw [hpieces] at h
      rw [← Option.some.inj h]
      rfl
    | ok pieces =>
      rw [hpieces] at h
      cases h
  . cases h

theorem Pattern.Regex.exists_replace {r : Regex} {replacement : List Char} (h : r.mistake? replacement = none)
    (text : List Char)
    : ∃ cs, r.replace replacement text = .ok cs := by
  unfold mistake? at h
  unfold replace
  split at h
  . next hbackslash =>
    rw [if_pos hbackslash]
    cases hpieces : readPieces r replacement with
    | error e =>
      rw [hpieces] at h
      cases h
    | ok pieces => exact ⟨_, rfl⟩
  . next hbackslash =>
    rw [if_neg hbackslash]
    exact ⟨_, rfl⟩

namespace NameRule

variable {rule : NameRule} {rules : List NameRule} {e : Pattern.Error}

/-- What is wrong with the replacement text of a rule whose pattern can be used. -/
def mistake? (rule : NameRule) : Option Pattern.Error :=
  match rule.regex with
  | .ok regex => regex.mistake? rule.replacement.toList
  | .error _ => none

theorem rewrite_of_mistake?_eq_some (h : rule.mistake? = some e) (name : String)
    : rewrite name rule = .error (.pattern e) := by
  unfold mistake? at h
  unfold rewrite
  cases hregex : rule.regex with
  | error _ =>
    rw [hregex] at h
    cases h
  | ok regex =>
    rw [hregex] at h
    dsimp only
    rw [Pattern.Regex.replace_of_mistake?_eq_some h]

theorem isUsable_of_mistake?_eq_none (h : rule.mistake? = none) : rule.IsUsable := by
  intro regex hregex text
  unfold mistake? at h
  rw [hregex] at h
  exact Pattern.Regex.exists_replace h text

theorem apply_of_regex_eq_error (h : rule.regex = .error e) (name : String)
    : rule.apply name = ⟨.ok name, [.invalidRule rule.pattern rule.slot.optionName e]⟩ := by
  rw [apply_eq]
  unfold rewrite complaint?
  rw [h]
  rfl

/-- The first mistake ends the chain, whatever the rules before it made of the name. -/
theorem foldlM_rewrite_of_mistake (h : rules.findSome? mistake? = some e) (name : String)
    : rules.foldlM rewrite name = .error (.pattern e) := by
  induction rules generalizing name with
  | nil => cases h
  | cons rule rules ih =>
    rw [List.findSome?_cons] at h
    rw [List.foldlM_cons]
    cases hrule : rule.mistake? with
    | some first =>
      rw [hrule] at h
      obtain rfl := Option.some.inj h
      rw [rewrite_of_mistake?_eq_some hrule]
      rfl
    | none =>
      rw [hrule] at h
      obtain ⟨next, hnext⟩ := (isUsable_of_mistake?_eq_none hrule).exists_rewrite name
      rw [hnext]
      exact ih h next

theorem isUsable_of_findSome?_eq_none (h : rules.findSome? mistake? = none) : ∀ rule ∈ rules, rule.IsUsable := by
  rw [List.findSome?_eq_none_iff] at h
  exact fun rule hrule => isUsable_of_mistake?_eq_none (h rule hrule)

end NameRule

/-! ### Letter case -/

namespace Text

theorem ne_nil_of_lookup {table : List (Nat × List Nat)} (h : table.all (fun entry => !entry.2.isEmpty) = true)
    {n : Nat} {image : List Nat} (hlookup : table.lookup n = some image)
    : image ≠ [] := by
  obtain ⟨before, after, rfl, -⟩ := List.lookup_eq_some_iff.mp hlookup
  rw [List.all_append] at h
  intro himage
  simp [himage] at h

theorem upperChar_ne_nil (c : Char) : upperChar c ≠ [] := by
  unfold upperChar
  split
  . simp
  . split
    . next image hlookup =>
      have himage : image ≠ [] := ne_nil_of_lookup (by decide +kernel) hlookup
      simpa using himage
    . split <;> simp

theorem lowerChar_ne_nil (c : Char) : lowerChar c ≠ [] := by
  unfold lowerChar
  split
  . simp
  . split
    . next image hlookup =>
      have himage : image ≠ [] := ne_nil_of_lookup (by decide) hlookup
      simpa using himage
    . split <;> simp

theorem upperFirst_ne_nil {cs : List Char} (h : cs ≠ []) : upperFirst cs ≠ [] := by
  cases cs with
  | nil => exact absurd rfl h
  | cons c cs => exact List.append_ne_nil_of_left_ne_nil (upperChar_ne_nil c) cs

theorem lowerFirst_ne_nil {cs : List Char} (h : cs ≠ []) : lowerFirst cs ≠ [] := by
  cases cs with
  | nil => exact absurd rfl h
  | cons c cs => exact List.append_ne_nil_of_left_ne_nil (lowerChar_ne_nil c) cs

end Text

/-! ### Names -/

namespace Config

open NameRule Text

variable {cfg : Config} {slot? : Option RuleSlot} {slot : RuleSlot} {e : Pattern.Error}

/-- The first mistake in the rules that a name runs through. -/
def mistake? (cfg : Config) (slot? : Option RuleSlot) : Option Pattern.Error :=
  (cfg.nameRules slot?).findSome? NameRule.mistake?

theorem privateName_of_mistake (h : cfg.mistake? slot? = some e) (name : QName)
    : (cfg.privateName slot? name).result = .error (.pattern e) := by
  obtain ⟨before, rule, after, s, -, -, -, hname⟩ := privateName_of_error (foldlM_rewrite_of_mistake h name.localPart)
  rw [hname]

/-- What is told of the rules whose patterns cannot be used comes first. -/
theorem exists_privateName_ne_empty (h : cfg.mistake? slot? = none) (name : QName)
    : ∃ s told, cfg.privateName slot? name = ⟨.ok s, (cfg.nameRules slot?).filterMap complaint? ++ told⟩ ∧
        s.toList ≠ [] := by
  obtain ⟨s, hs⟩ := exists_foldlM_rewrite (isUsable_of_findSome?_eq_none h) name.localPart
  refine ⟨_, _, privateName_of_ok hs, ?_⟩
  split
  . simp
  . next hne =>
    rw [String.toList_ofList]
    apply lowerFirst_ne_nil
    simpa using hne

theorem hasUsableRules_of_mistake?_eq_none (h : ∀ slot, cfg.mistake? (some slot) = none) : cfg.HasUsableRules :=
  fun slot rule hrule => isUsable_of_findSome?_eq_none (h slot) rule (List.mem_append_right _ hrule)

theorem typeName_of_mistake (h : cfg.mistake? (some .types) = some e) (name : QName)
    : (cfg.typeName name).result = .error (.pattern e) := by
  unfold typeName publicName
  rw [bind_assoc]
  rw [bind_of_error (privateName_of_mistake h name)]

theorem exists_typeName_ne_empty (h : cfg.mistake? (some .types) = none) (name : QName)
    : ∃ s told, cfg.typeName name = ⟨.ok s, (cfg.nameRules (some .types)).filterMap complaint? ++ told⟩ ∧
        s ≠ "" := by
  obtain ⟨s, told, hs, hne⟩ := exists_privateName_ne_empty h name
  have hupper : String.ofList (upperFirst s.toList) ≠ "" := by simpa using upperFirst_ne_nil hne
  refine ⟨_, told, bind_pure_of_ok (bind_pure_of_ok hs fun s => String.ofList (upperFirst s.toList)) _, ?_⟩
  unfold Identifier.escapeReserved
  split
  . simp
  . exact hupper

theorem memberName_of_mistake (h : cfg.mistake? (some slot) = some e) (name : QName)
    (scope : Scope)
    : (cfg.memberName slot name scope).result = .error (.pattern e) := by
  unfold memberName
  rw [bind_of_error (privateName_of_mistake h name)]

theorem exists_memberName_ne_empty (h : cfg.mistake? (some slot) = none) (name : QName)
    (scope : Scope)
    : ∃ s scope' told, cfg.memberName slot name scope =
        ⟨.ok (s, scope'), (cfg.nameRules (some slot)).filterMap complaint? ++ told⟩ ∧ s ≠ "" := by
  obtain ⟨s, told, hs, -⟩ := exists_privateName_ne_empty h name
  have hne : (scope.add "_" s).1 ≠ "" := by
    intro hempty
    apply scope.toList_add_ne_nil "_" s
    rw [hempty]
    rfl
  exact ⟨_, _, told, bind_pure_of_ok hs (scope.add "_"), hne⟩

end Config

/-! ### Runs -/

/-- The fault of a rule for names. -/
def Fault.isOfRule : Fault → Bool
  | .pattern _ => true
  | _ => false

def Report.SparesRules {α : Type} (r : Report α) : Prop :=
  r.FailsWith fun e => e.isOfRule = false

namespace Edit

variable {α β : Type} {s : Store}

theorem sparesRules_bind {edit : Edit α} {f : α → Edit β} (hedit : (edit s).2.SparesRules)
    (hf : ∀ a s', (f a s').2.SparesRules)
    : ((edit >>= f) s).2.SparesRules := by
  cases hs : edit s with
  | mk s' report =>
    obtain ⟨result, notices⟩ := report
    cases result with
    | error e =>
      rw [bind_of_error hs]
      rw [hs] at hedit
      exact failsWith_fail (hedit e rfl)
    | ok a =>
      rw [bind_of_ok hs]
      exact hf a s'

theorem sparesRules_recover {edit : Edit α} (hedit : (edit s).2.SparesRules) {f : Fault → Report α}
    (hf : ∀ e, (f e).SparesRules)
    : (edit.recover f s).2.SparesRules := by
  change ((edit s).2.recover f).SparesRules
  unfold Report.recover
  split
  . exact hedit
  . next e _ =>
    split
    . exact hf e
    . exact hedit

end Edit

/-- The steps do not fail as rules do. Ready-made steps never do. -/
structure Config.StepsSpareRules (cfg : Config) : Prop where
  types : ∀ step ∈ cfg.typeSteps, ∀ find? r? s, (Generate.runTypeStep find? r? step s).2.SparesRules
  declarations : ∀ step ∈ cfg.declarationSteps, ∀ d, (Generate.runDeclarationStep d step).SparesRules

theorem Filter.IsFault.isOfRule_eq {e : Fault} (h : Filter.IsFault e) : e.isOfRule = false := by
  cases h with
  | wrongKind store subject wanted => rfl
  | noVerdict => rfl

theorem SoapArray.IsWalkFault.isOfRule_eq {e : Fault} (h : SoapArray.IsWalkFault e) : e.isOfRule = false := by
  cases h with
  | noProperty owner property => rfl
  | endlessHierarchy => rfl

namespace Generate

variable {cfg : Config} {s : Store} {find? : QName → Option TypeRef}

theorem sparesRules_soapArrays (find? : QName → Option TypeRef) (r? : Option TypeRef) (s : Store)
    : (runTypeStep find? r? .soapArrays s).2.SparesRules := by
  cases r? with
  | none => exact failsWith_of_ok rfl _
  | some r =>
    apply Edit.sparesRules_bind
    . exact (SoapArray.resolves_resolveItems find? s r).fails.mono fun e he => he.isOfRule_eq
    . exact fun _ _ => failsWith_of_ok rfl _

theorem sparesRules_flatten (d : Declaration) : (runDeclarationStep d .flatten).SparesRules := by
  obtain ⟨d', notices, hflatten, -⟩ := d.flatten_eq
  exact failsWith_of_ok (congrArg Report.result hflatten) _

end Generate

theorem Config.HasUsableRules.sparesRules_typeExpr {cfg : Config} (h : cfg.HasUsableRules) (s : Store)
    (r? : Option TypeRef)
    : (cfg.typeExpr s r?).SparesRules := by
  unfold typeExpr
  split
  . split
    . exact failsWith_fail rfl
    . exact failsWith_of_ok rfl _
  . obtain ⟨name, hname⟩ := h.exists_typeName (s.get (r?.getD (.builtin .anyType))).name
    rw [bind_of_ok hname]
    exact failsWith_of_ok rfl _

namespace Generate

variable {cfg : Config} {s : Store} {find? : QName → Option TypeRef}

theorem sparesRules_declaration? (hcfg : cfg.HasUsableRules) (s : Store) (r? : Option TypeRef)
    : (declaration? cfg s r?).SparesRules := by
  have htypes := hcfg.sparesRules_typeExpr s
  unfold declaration?
  split
  . exact failsWith_fail rfl
  . split
    . exact failsWith_of_ok rfl _
    . next t _ =>
      have hstruct : (struct cfg s t).SparesRules :=
        failsWith_struct hcfg (fun _ _ => rfl) (fun e he => he.isOfRule_eq) (fun a _ => htypes a.type?)
          fun e _ => htypes e.type?
      refine hstruct.bind fun shape _ => ?_
      obtain ⟨name, hname⟩ := hcfg.exists_typeName t.name
      exact (failsWith_of_ok hname _).bind fun _ _ => failsWith_of_ok rfl _
    . next t _ =>
      have hsimple : (simple cfg s t).SparesRules := by
        unfold simple
        split
        . exact (htypes _).bind fun _ _ => failsWith_of_ok rfl _
        . exact htypes t.base?
      refine hsimple.bind fun type _ => ?_
      obtain ⟨name, hname⟩ := hcfg.exists_typeName t.name
      exact (failsWith_of_ok hname _).bind fun _ _ => failsWith_of_ok rfl _
    . exact failsWith_fail rfl

theorem sparesRules_preprocess {steps : List TypeStep}
    (h : ∀ step ∈ steps, ∀ find? r? s, (runTypeStep find? r? step s).2.SparesRules) (find? : QName → Option TypeRef)
    (r? : Option TypeRef) (s : Store)
    : (preprocess find? steps r? s).2.SparesRules := by
  induction steps generalizing r? s with
  | nil => exact failsWith_of_ok rfl _
  | cons step steps ih =>
    rw [List.forall_mem_cons] at h
    rw [preprocess]
    exact Edit.sparesRules_bind (h.1 find? r? s) (ih h.2)

theorem sparesRules_postprocess {steps : List DeclarationStep}
    (h : ∀ step ∈ steps, ∀ d, (runDeclarationStep d step).SparesRules) (d : Declaration)
    : (postprocess steps d).SparesRules := by
  induction steps generalizing d with
  | nil => exact failsWith_of_ok rfl _
  | cons step steps ih =>
    rw [List.forall_mem_cons] at h
    rw [postprocess]
    exact (h.1 d).bind fun d _ => ih h.2 d

theorem sparesRules_process (hcfg : cfg.HasUsableRules) (hsteps : cfg.StepsSpareRules) (r : TypeRef) (s : Store)
    : (process cfg find? r s).2.SparesRules := by
  rw [process_eq_bind]
  apply Edit.sparesRules_bind
  . exact sparesRules_preprocess hsteps.types find? (some r) s
  . intro r? s'
    change (finish cfg s' r?).SparesRules
    refine (sparesRules_declaration? hcfg s' r?).bind fun d? _ => ?_
    cases d? with
    | none => exact failsWith_of_ok rfl _
    | some d => exact (sparesRules_postprocess hsteps.declarations d).bind fun _ _ => failsWith_of_ok rfl _

theorem sparesRules_draft (hcfg : cfg.HasUsableRules) (hsteps : cfg.StepsSpareRules) (r : TypeRef) (s : Store)
    : (draft cfg find? r s).2.SparesRules := by
  unfold draft
  rw [Edit.store_bind]
  apply Edit.sparesRules_bind
  . change (isExcluded cfg s r).SparesRules
    unfold isExcluded
    split
    . exact failsWith_of_ok rfl _
    . next filter _ => exact (filter.failsWith_excludes _ s _).mono fun e he => he.isOfRule_eq
  . intro excluded s'
    split
    . exact failsWith_of_ok rfl _
    . exact Edit.sparesRules_recover (sparesRules_process hcfg hsteps r s') fun e => failsWith_of_ok rfl _

theorem sparesRules_drafts (hcfg : cfg.HasUsableRules) (hsteps : cfg.StepsSpareRules) (seen : List (String × String))
    (rs : List TypeRef) (s : Store)
    : (drafts cfg find? seen rs s).2.SparesRules := by
  induction rs generalizing seen s with
  | nil => exact failsWith_of_ok rfl _
  | cons r rs ih =>
    rw [drafts]
    rw [Edit.store_bind]
    apply Edit.sparesRules_bind (sparesRules_draft hcfg hsteps r s)
    intro d? s'
    split
    . exact ih seen s'
    . next d =>
      cases seen.lookup d.name with
      | some first => exact Edit.sparesRules_bind (failsWith_of_ok rfl _) fun _ => ih seen
      | none => exact Edit.sparesRules_bind (ih _ s') fun _ _ => failsWith_of_ok rfl _

theorem sparesRules_declarations (hcfg : cfg.HasUsableRules) (hsteps : cfg.StepsSpareRules) (schema : Schema)
    : (declarations cfg schema).2.SparesRules :=
  sparesRules_drafts hcfg hsteps [] _ schema.store

end Generate

namespace Config

open NameRule

/-- Names only fail because of a replacement text that does not go with its pattern, and then all of them do, with the
first such mistake. Else each of them is a text that is not empty. A rule with a pattern that cannot be used is told of
as information, and leaves the name as it is. No run is ended by a rule unless there is a mistake in one. -/
theorem names_unless_mistake (cfg : Config)
    : (∀ name,
        (cfg.mistake? (some .types) = none →
          ∃ s told, cfg.typeName name = ⟨.ok s, (cfg.nameRules (some .types)).filterMap complaint? ++ told⟩ ∧
            s ≠ "") ∧
        ∀ e, cfg.mistake? (some .types) = some e → (cfg.typeName name).result = .error (.pattern e)) ∧
      (∀ slot name scope,
        (cfg.mistake? (some slot) = none →
          ∃ s scope' told,
            cfg.memberName slot name scope =
              ⟨.ok (s, scope'), (cfg.nameRules (some slot)).filterMap complaint? ++ told⟩ ∧
            s ≠ "") ∧
        ∀ e, cfg.mistake? (some slot) = some e → (cfg.memberName slot name scope).result = .error (.pattern e)) ∧
      (∀ (rule : NameRule) e, rule.regex = .error e →
        rule.complaint? = some (.invalidRule rule.pattern rule.slot.optionName e) ∧
          (Notice.invalidRule rule.pattern rule.slot.optionName e).tier = .info ∧
          ∀ name, (rule.apply name).result = .ok name) ∧
      (cfg.StepsSpareRules → (∀ slot, cfg.mistake? (some slot) = none) →
        ∀ schema e, (Generate.declarations cfg schema).2.result ≠ .error (.pattern e)) := by
  refine ⟨?_, ?_, ?_, ?_⟩
  . exact fun name => ⟨fun h => exists_typeName_ne_empty h name, fun e h => typeName_of_mistake h name⟩
  . intro slot name scope
    exact ⟨fun h => exists_memberName_ne_empty h name scope, fun e h => memberName_of_mistake h name scope⟩
  . intro rule e h
    refine ⟨?_, rfl, ?_⟩
    . unfold complaint?
      rw [h]
    . intro name
      rw [apply_of_regex_eq_error h]
  . intro hsteps hrules schema e h
    have husable : cfg.HasUsableRules := hasUsableRules_of_mistake?_eq_none hrules
    cases Generate.sparesRules_declarations husable hsteps schema (.pattern e) h

/-- One simple type. -/
def letters : Schema :=
  { targetNamespace := ""
    store := ⟨[.simple ⟨⟨"", "abc"⟩, some (.builtin .string), [], none, none⟩], []⟩
    types := [(⟨"", "abc"⟩, .declared 0)] }

/-- A pattern that cannot be used, a replacement that refers to what its pattern matched, and both ready-made steps. -/
def swapping : List Directive :=
  [.nameRule (.of .all "(" "x"), .nameRule (.of .types "b" "\\g<0>c"), .typeStep .soapArrays, .declarationStep .flatten]

theorem names_unless_mistake_swapping
    : let cfg := (empty.option swapping).1
      let told := Notice.invalidRule "(" "replace_all_names" (.malformed .unterminatedGroup (some ⟨['('], 0⟩))
      (∃ s rest, cfg.typeName ⟨"", "abc"⟩ = ⟨.ok s, told :: rest⟩ ∧ s ≠ "") ∧
        (∃ s scope rest, cfg.memberName .elements ⟨"", ""⟩ .members = ⟨.ok (s, scope), told :: rest⟩ ∧ s ≠ "") ∧
        told.tier = .info ∧
        ∀ e, (Generate.declarations cfg letters).2.result ≠ .error (.pattern e) := by
  intro cfg told
  obtain ⟨htypes, hmembers, hunreadable, hruns⟩ := names_unless_mistake cfg
  have hrules : ∀ slot, cfg.mistake? (some slot) = none := by
    intro slot
    cases slot <;> decide +kernel
  have hsteps : cfg.StepsSpareRules := by
    refine ⟨?_, ?_⟩
    . intro step hstep
      obtain rfl := List.mem_singleton.mp hstep
      exact Generate.sparesRules_soapArrays
    . intro step hstep
      obtain rfl := List.mem_singleton.mp hstep
      exact Generate.sparesRules_flatten
  have hparen : (NameRule.of .all "(" "x").regex = .error (.malformed .unterminatedGroup (some ⟨['('], 0⟩)) := rfl
  have htypesTold : (cfg.nameRules (some .types)).filterMap complaint? = [told] := rfl
  have helementsTold : (cfg.nameRules (some .elements)).filterMap complaint? = [told] := rfl
  have htype := (htypes ⟨"", "abc"⟩).1 (hrules .types)
  have helement := (hmembers .elements ⟨"", ""⟩ .members).1 (hrules .elements)
  rw [htypesTold] at htype
  rw [helementsTold] at helement
  exact ⟨htype, helement, (hunreadable _ _ hparen).2.1, hruns hsteps hrules letters⟩

theorem not_names_missingGroup
    : let cfg := (empty.option [.nameRule (.of .all "a" "\\9")]).1
      let fault : Fault := .pattern (.malformed (.invalidGroup 9) (some ⟨['\\', '9'], 1⟩))
      (cfg.typeName ⟨"", "abc"⟩).result = .error fault ∧ (cfg.typeName ⟨"", "xyz"⟩).result = .error fault ∧
        (Generate.declarations cfg letters).2.result = .error fault := by
  intro cfg fault
  have hmistake : cfg.mistake? (some .types) =
      some (.malformed (.invalidGroup 9) (some ⟨['\\', '9'], 1⟩)) := by decide +kernel
  refine ⟨typeName_of_mistake hmistake _, typeName_of_mistake hmistake _, ?_⟩
  rfl

end Config

end XmlBinding
