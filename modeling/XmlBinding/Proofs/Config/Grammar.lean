import XmlBinding.Config.Mapping
import XmlBinding.Proofs.Entries
import XmlBinding.Proofs.Except

/-!
This module contains the grammar of mappings from option names to values. An entry of the grammar lists directives, and
nothing else comes of it unless the pattern of a rule is refused. An entry that is not in the grammar refuses the
mapping.
-/

namespace XmlBinding.Mapping

/-- The grammar of entries, with the directives that an entry lists. -/
inductive Lists : (name : String) → Json → List Directive → Prop
  | packageName (name : String) : Lists "package_name" (.str name) [.packageName name]
  | ignoreAttributes (names : List String) :
      Lists "ignore_attributes" (.arr (names.map .str)) [.ignoreAttributes names]
  | ignoreElements (names : List String) : Lists "ignore_elements" (.arr (names.map .str)) [.ignoreElements names]
  | onlyTypes (patterns : List String) : Lists "only_types" (.arr (patterns.map .str)) [.onlyTypes patterns]
  | rules (slot : RuleSlot) (rules : List (String × String)) :
      Lists slot.optionName (.arr (rules.map fun rule => .arr [.str rule.1, .str rule.2]))
        (rules.map fun rule => .nameRule (.of slot rule.1 rule.2))
  | soapArrays (on : Bool) : Lists "handle_soap_array_type" (.bool on) (if on then [.typeStep .soapArrays] else [])
  | sequences (on : Bool) : Lists "soap_array_as_sequence" (.bool on) (if on then [.declarationStep .flatten] else [])

def IsListed (entry : String × Json) : Prop :=
  ∃ ds, Lists entry.1 entry.2 ds

def IsName (name : String) : Prop :=
  ∃ value ds, Lists name value ds

variable {name : String} {value : Json} {ds : List Directive} {kind : OptionKind}

/-! ### Kinds of options -/

/-- The grammar of the values of an option. -/
inductive OptionKind.Takes : OptionKind → Json → List Directive → Prop
  | text {directive : String → Directive} (s : String) : Takes (.text directive) (.str s) [directive s]
  | texts {directive : List String → Directive} (ss : List String) :
      Takes (.texts directive) (.arr (ss.map .str)) [directive ss]
  | rules {slot : RuleSlot} (rules : List (String × String)) :
      Takes (.rules slot) (.arr (rules.map fun rule => .arr [.str rule.1, .str rule.2]))
        (rules.map fun rule => .nameRule (.of slot rule.1 rule.2))
  | flag {directive : Directive} (on : Bool) : Takes (.flag directive) (.bool on) (if on then [directive] else [])

theorem lookup_options_eq_some_iff : options.lookup name = some kind ↔ (name, kind) ∈ options :=
  Entries.lookup_eq_some_iff_mem (by decide)

theorem lists_iff : Lists name value ds ↔ ∃ kind, options.lookup name = some kind ∧ kind.Takes value ds := by
  constructor
  . intro h
    cases h with
    | packageName name => exact ⟨_, rfl, .text name⟩
    | ignoreAttributes names => exact ⟨_, rfl, .texts names⟩
    | ignoreElements names => exact ⟨_, rfl, .texts names⟩
    | onlyTypes patterns => exact ⟨_, rfl, .texts patterns⟩
    | rules slot rules => cases slot <;> exact ⟨_, rfl, .rules rules⟩
    | soapArrays on => exact ⟨_, rfl, .flag on⟩
    | sequences on => exact ⟨_, rfl, .flag on⟩
  . rintro ⟨kind, hkind, h⟩
    have hmem := lookup_options_eq_some_iff.mp hkind
    simp only [options, List.mem_cons, Prod.mk.injEq, List.not_mem_nil, or_false] at hmem
    obtain ⟨rfl, rfl⟩ | ⟨rfl, rfl⟩ | ⟨rfl, rfl⟩ | ⟨rfl, rfl⟩ | ⟨rfl, rfl⟩ | ⟨rfl, rfl⟩ | ⟨rfl, rfl⟩ | ⟨rfl, rfl⟩ |
      ⟨rfl, rfl⟩ | ⟨rfl, rfl⟩ := hmem
    . cases h with | text s => exact .packageName s
    . cases h with | texts ss => exact .ignoreAttributes ss
    . cases h with | texts ss => exact .ignoreElements ss
    . cases h with | texts ss => exact .onlyTypes ss
    . cases h with | rules rules => exact .rules .all rules
    . cases h with | rules rules => exact .rules .types rules
    . cases h with | rules rules => exact .rules .elements rules
    . cases h with | rules rules => exact .rules .attributes rules
    . cases h with | flag on => exact .soapArrays on
    . cases h with | flag on => exact .sequences on

/-! ### Values -/

theorem str?_eq_some_iff {s : String} : value.str? = some s ↔ value = .str s := by
  cases value <;> simp [Json.str?]

theorem rule?_eq_some_iff {rule : String × String} : rule? value = some rule ↔ value = .arr [.str rule.1, .str rule.2] := by
  unfold rule?
  split
  . simp [Prod.ext_iff]
  . next hother =>
    simp only [reduceCtorEq, false_iff]
    rintro rfl
    exact hother _ _ rfl

theorem strs?_eq_some_iff {ss : List String} : value.strs? = some ss ↔ value = .arr (ss.map .str) := by
  cases value with
  | arr items =>
    rw [Json.arr.injEq]
    exact mapM_eq_some_iff fun _ _ => str?_eq_some_iff
  | _ => simp [Json.strs?]

theorem rules?_eq_some_iff {rules : List (String × String)}
    : rules? value = some rules ↔ value = .arr (rules.map fun rule => .arr [.str rule.1, .str rule.2]) := by
  cases value with
  | arr items =>
    rw [Json.arr.injEq]
    exact mapM_eq_some_iff fun _ _ => rule?_eq_some_iff
  | _ => simp [rules?]

/-! ### Entries -/

theorem OptionKind.Takes.unique {ds' : List Directive} (h : kind.Takes value ds) (h' : kind.Takes value ds') : ds = ds' := by
  cases h with
  | text s => cases h' with | text s => rfl
  | texts ss =>
    generalize hvalue : Json.arr (ss.map .str) = value at h'
    cases h' with
    | texts ss' =>
      have hss := strs?_eq_some_iff.mpr hvalue.symm
      rw [strs?_eq_some_iff.mpr rfl] at hss
      rw [Option.some.inj hss]
  | rules rules =>
    generalize hvalue : Json.arr (rules.map fun rule => .arr [.str rule.1, .str rule.2]) = value at h'
    cases h' with
    | rules rules' =>
      have hrules := rules?_eq_some_iff.mpr hvalue.symm
      rw [rules?_eq_some_iff.mpr rfl] at hrules
      rw [Option.some.inj hrules]
  | flag on => cases h' with | flag on => rfl

/-- An entry lists its directives in one way only. -/
theorem Lists.unique {ds' : List Directive} (h : Lists name value ds) (h' : Lists name value ds') : ds = ds' := by
  obtain ⟨kind, hkind, h⟩ := lists_iff.mp h
  obtain ⟨kind', hkind', h'⟩ := lists_iff.mp h'
  rw [hkind] at hkind'
  cases hkind'
  exact h.unique h'

theorem entry_of_takes (hkind : options.lookup name = some kind) (h : kind.Takes value ds)
    : entry name value = Directive.made ds := by
  unfold entry
  rw [hkind]
  cases h with
  | text s => rfl
  | texts ss =>
    dsimp only
    rw [strs?_eq_some_iff.mpr rfl]
  | rules rules =>
    dsimp only
    rw [rules?_eq_some_iff.mpr rfl]
  | flag on => rfl

theorem exists_entry_of_not_takes (hkind : options.lookup name = some kind) (h : ∀ ds, ¬kind.Takes value ds)
    : ∃ reason, entry name value = .error (misshapen reason name value) := by
  unfold entry
  rw [hkind]
  cases kind with
  | text directive =>
    refine ⟨.notText, ?_⟩
    cases hs : value.str? with
    | none => rfl
    | some s =>
      obtain rfl := str?_eq_some_iff.mp hs
      exact absurd (.text s) (h _)
  | texts directive =>
    refine ⟨.notTexts, ?_⟩
    dsimp only
    cases hss : value.strs? with
    | none => rfl
    | some ss =>
      obtain rfl := strs?_eq_some_iff.mp hss
      exact absurd (.texts ss) (h _)
  | rules slot =>
    refine ⟨.notRules, ?_⟩
    dsimp only
    cases hrules : rules? value with
    | none => rfl
    | some rules =>
      obtain rfl := rules?_eq_some_iff.mp hrules
      exact absurd (.rules rules) (h _)
  | flag directive =>
    refine ⟨.notFlag, ?_⟩
    cases value with
    | bool on => exact absurd (.flag on) (h _)
    | _ => rfl

theorem exists_takes (kind : OptionKind) : ∃ value ds, kind.Takes value ds := by
  cases kind with
  | text directive => exact ⟨_, _, .text ""⟩
  | texts directive => exact ⟨_, _, .texts []⟩
  | rules slot => exact ⟨_, _, .rules []⟩
  | flag directive => exact ⟨_, _, .flag false⟩

/-- What may come of an entry. -/
inductive Outcome (name : String) (value : Json) : Except LoadError (List Directive) → Prop
  | listed {ds : List Directive} : Lists name value ds → (∀ d ∈ ds, d.isRule = true → d.refusal? = none) →
      Outcome name value (.ok ds)
  | refused {ds : List Directive} {d : Directive} {e : Pattern.Error} : Lists name value ds → d ∈ ds →
      d.isRule = true → d.refusal? = some e → Outcome name value (.error (.pattern e))
  | unknown : ¬IsName name → Outcome name value (.error (.config (.unknownOption name)))
  | misshapen {reason : String → Json → ConfigError} : IsName name → ¬IsListed (name, value) →
      Outcome name value (.error (misshapen reason name value))

theorem outcome_made (h : Lists name value ds) : Outcome name value (Directive.made ds) := by
  unfold Directive.made
  split
  . next e hfind =>
    obtain ⟨d, hd, he⟩ := List.exists_of_findSome?_eq_some hfind
    split at he
    . next hrule => exact .refused h hd hrule he
    . cases he
  . next hfind =>
    rw [List.findSome?_eq_none_iff] at hfind
    refine .listed h fun d hd hrule => ?_
    have hnone := hfind d hd
    rwa [if_pos hrule] at hnone

theorem outcome_entry (name : String) (value : Json) : Outcome name value (entry name value) := by
  cases hkind : options.lookup name with
  | none =>
    have hunknown : ¬IsName name := by
      rintro ⟨value, ds, h⟩
      obtain ⟨kind, hsome, -⟩ := lists_iff.mp h
      rw [hkind] at hsome
      cases hsome
    have hentry : entry name value = .error (.config (.unknownOption name)) := by
      unfold entry
      rw [hkind]
    rw [hentry]
    exact .unknown hunknown
  | some kind =>
    by_cases htakes : ∃ ds, kind.Takes value ds
    . obtain ⟨ds, htakes⟩ := htakes
      rw [entry_of_takes hkind htakes]
      exact outcome_made (lists_iff.mpr ⟨kind, hkind, htakes⟩)
    . obtain ⟨reason, hentry⟩ := exists_entry_of_not_takes hkind (not_exists.mp htakes)
      rw [hentry]
      apply Outcome.misshapen
      . obtain ⟨value, ds, h⟩ := exists_takes kind
        exact ⟨value, ds, lists_iff.mpr ⟨kind, hkind, h⟩⟩
      . rintro ⟨ds, h⟩
        obtain ⟨kind', hkind', h⟩ := lists_iff.mp h
        rw [hkind] at hkind'
        cases hkind'
        exact htakes ⟨ds, h⟩

theorem exists_made_eq_error {d : Directive} {e : Pattern.Error} (hd : d ∈ ds) (hrule : d.isRule = true)
    (h : d.refusal? = some e)
    : ∃ e, Directive.made ds = .error (.pattern e) := by
  unfold Directive.made
  split
  . exact ⟨_, rfl⟩
  . next hfind =>
    have hnone := List.findSome?_eq_none_iff.mp hfind d hd
    rw [if_pos hrule] at hnone
    rw [h] at hnone
    cases hnone

theorem entry_eq_made (h : Lists name value ds) : entry name value = Directive.made ds := by
  obtain ⟨kind, hkind, h⟩ := lists_iff.mp h
  exact entry_of_takes hkind h

theorem entry_eq_ok_iff
    : entry name value = .ok ds ↔ Lists name value ds ∧ ∀ d ∈ ds, d.isRule = true → d.refusal? = none := by
  constructor
  . intro h
    have houtcome := outcome_entry name value
    rw [h] at houtcome
    cases houtcome with
    | listed hlists hrules => exact ⟨hlists, hrules⟩
  . rintro ⟨hlists, hrules⟩
    rw [entry_eq_made hlists]
    unfold Directive.made
    have hfind : (ds.findSome? fun d => if d.isRule then d.refusal? else none) = none := by
      rw [List.findSome?_eq_none_iff]
      intro d hd
      split
      . next hrule => exact hrules d hd hrule
      . rfl
    rw [hfind]

/-! ### Mappings -/

theorem directives_eq_mapM (entries : List (String × Json))
    : directives entries = (entries.mapM fun e => entry e.1 e.2).map List.flatten := by
  induction entries with
  | nil => rfl
  | cons e entries ih =>
    rw [directives]
    rw [List.mapM_cons]
    rw [ih]
    cases entry e.1 e.2 with
    | error e => rfl
    | ok first => cases entries.mapM fun e => entry e.1 e.2 <;> rfl

theorem directives_eq_ok_iff {entries : List (String × Json)}
    : directives entries = .ok ds ↔
        ∃ parts, List.Forall₂ (fun e part => entry e.1 e.2 = .ok part) entries parts ∧ ds = parts.flatten := by
  rw [directives_eq_mapM]
  constructor
  . intro h
    cases hparts : entries.mapM fun e => entry e.1 e.2 with
    | error e =>
      rw [hparts] at h
      cases h
    | ok parts =>
      rw [hparts] at h
      cases h
      exact ⟨parts, mapM_eq_ok_iff.mp hparts, rfl⟩
  . rintro ⟨parts, hparts, rfl⟩
    rw [mapM_eq_ok_iff.mpr hparts]
    rfl

theorem exists_directives_eq_ok_iff {entries : List (String × Json)}
    : (∃ ds, directives entries = .ok ds) ↔ ∀ e ∈ entries, ∃ ds, entry e.1 e.2 = .ok ds := by
  rw [← exists_mapM_eq_ok_iff]
  simp only [directives_eq_ok_iff, mapM_eq_ok_iff]
  constructor
  . rintro ⟨_, parts, hparts, -⟩
    exact ⟨parts, hparts⟩
  . rintro ⟨parts, hparts⟩
    exact ⟨_, parts, hparts, rfl⟩

theorem directives_eq_error_iff {entries : List (String × Json)} {e : LoadError}
    : directives entries = .error e ↔
        ∃ before name value after, entries = before ++ (name, value) :: after ∧
          (∀ e ∈ before, ∃ ds, entry e.1 e.2 = .ok ds) ∧ entry name value = .error e := by
  have hmap : directives entries = .error e ↔ (entries.mapM fun e => entry e.1 e.2) = .error e := by
    rw [directives_eq_mapM]
    cases entries.mapM fun e => entry e.1 e.2 <;> simp [Except.map]
  rw [hmap]
  rw [mapM_eq_error_iff]
  constructor
  . rintro ⟨before, ⟨name, value⟩, after, heq, hbefore, he⟩
    exact ⟨before, name, value, after, heq, hbefore, he⟩
  . rintro ⟨before, name, value, after, heq, hbefore, he⟩
    exact ⟨before, (name, value), after, heq, hbefore, he⟩

end XmlBinding.Mapping
