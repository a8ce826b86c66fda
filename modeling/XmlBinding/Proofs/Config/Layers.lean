import XmlBinding.Proofs.Config.File
import XmlBinding.Proofs.Config.Snapshot

/-!
This module contains what mappings of option names to values mean. A mapping is taken if all of its entries are in the
grammar, and then changes a configuration as its entries do one after another. Defaults, a file and further directives
are layers that amount to one flat run.
-/

namespace XmlBinding

namespace Directive

theorem checked_eq_ok {ds : List Directive} (h : ∀ d ∈ ds, d.refusal? = none) : checked ds = .ok ds := by
  unfold checked
  rw [List.findSome?_eq_none_iff.mpr h]

end Directive

namespace Config

variable {f : ConfigFile} {extra ds : List Directive} {e : LoadError}

/-- The configuration after some directives, one after another. -/
def applyEach (cfg : Config) (ds : List Directive) : Config :=
  ds.foldl (fun cfg d => (d.apply cfg).1) cfg

theorem option_eq_applyEach (cfg : Config) (ds : List Directive) : (cfg.option ds).1 = cfg.applyEach ds := by
  induction ds generalizing cfg with
  | nil => rfl
  | cons d ds ih =>
    rw [option_cons]
    exact ih _

theorem applyEach_append (cfg : Config) (ds es : List Directive)
    : cfg.applyEach (ds ++ es) = (cfg.applyEach ds).applyEach es :=
  List.foldl_append

theorem applyEach_flatten (cfg : Config) (parts : List (List Directive))
    : cfg.applyEach parts.flatten = parts.foldl applyEach cfg :=
  List.foldl_flatten

theorem load_of_directives_eq_error (h : f.directives = .error e) (useDefaults : Bool) (cfg : Config)
    : load useDefaults (some f) extra cfg = .error e := by
  unfold load
  dsimp only
  rw [h]
  rfl

theorem load_of_directives_eq_ok (h : f.directives = .ok ds) (hds : ∀ d ∈ ds, d.refusal? = none)
    (hextra : ∀ d ∈ extra, d.refusal? = none) (cfg : Config)
    : load true (some f) extra cfg = .ok (cfg.applyEach (Directive.defaults ++ ds ++ extra)) := by
  unfold load
  dsimp only
  rw [h]
  dsimp only [bind, Except.bind]
  rw [Directive.checked_eq_ok hds]
  dsimp only
  rw [Directive.checked_eq_ok hextra]
  rw [applyEach_append]
  rw [applyEach_append]
  rw [← option_eq_applyEach]
  rw [← option_eq_applyEach]
  rw [← option_eq_applyEach]
  rfl

end Config

namespace Mapping

open Config (load)

variable {entries : List (String × Json)}

/-- The first entry that is not in the grammar. -/
def IsFirstUnlisted (entries : List (String × Json)) (name : String) (value : Json) : Prop :=
  ∃ before after, entries = before ++ (name, value) :: after ∧ (∀ entry ∈ before, IsListed entry) ∧
    ¬IsListed (name, value)

/-- No entry lists a directive with a pattern that is refused for another reason than its form. -/
def HasPatterns (entries : List (String × Json)) : Prop :=
  ∀ entry ∈ entries, ∀ ds, Lists entry.1 entry.2 ds → ∀ d ∈ ds, d.refusal? = none

theorem HasPatterns.exists_entry_eq_ok_iff (h : HasPatterns entries) {entry : String × Json} (hmem : entry ∈ entries)
    : (∃ ds, Mapping.entry entry.1 entry.2 = .ok ds) ↔ IsListed entry := by
  simp only [entry_eq_ok_iff]
  constructor
  . rintro ⟨ds, hlists, -⟩
    exact ⟨ds, hlists⟩
  . rintro ⟨ds, hlists⟩
    exact ⟨ds, hlists, fun d hd _ => h entry hmem ds hlists d hd⟩

/-- Where the patterns are no matter, an entry that is not taken is not in the grammar. -/
theorem HasPatterns.directives_eq_error_iff (h : HasPatterns entries) {e : LoadError}
    : directives entries = .error e ↔
        ∃ name value, IsFirstUnlisted entries name value ∧ entry name value = .error e := by
  rw [Mapping.directives_eq_error_iff]
  constructor
  . rintro ⟨before, name, value, after, rfl, hbefore, he⟩
    refine ⟨name, value, ⟨before, after, rfl, fun entry hmem => ?_, fun hlisted => ?_⟩, he⟩
    . exact (h.exists_entry_eq_ok_iff (List.mem_append_left _ hmem)).mp (hbefore entry hmem)
    . have hmem : (name, value) ∈ before ++ (name, value) :: after := List.mem_append_cons_self
      obtain ⟨ds, hds⟩ := (h.exists_entry_eq_ok_iff hmem).mpr hlisted
      rw [he] at hds
      cases hds
  . rintro ⟨name, value, ⟨before, after, rfl, hbefore, -⟩, he⟩
    refine ⟨before, name, value, after, rfl, fun entry hmem => ?_, he⟩
    exact (h.exists_entry_eq_ok_iff (List.mem_append_left _ hmem)).mpr (hbefore entry hmem)

/-- The message for an entry that is not in the grammar shows its value, unless it is the name that is not known. -/
theorem entry_of_not_isListed {name : String} {value : Json} (h : ¬IsListed (name, value))
    : ((∃ c, entry name value = .error (.config c)) ↔ (IsName name → value.isShowable = true)) ∧
        (entry name value = .error .unshowable ↔ IsName name ∧ value.isShowable = false) := by
  have houtcome := outcome_entry name value
  cases hentry : entry name value with
  | ok ds => exact absurd ⟨ds, (entry_eq_ok_iff.mp hentry).1⟩ h
  | error e =>
    rw [hentry] at houtcome
    cases houtcome with
    | refused hlists => exact absurd ⟨_, hlists⟩ h
    | unknown hname => simp [hname]
    | misshapen hname =>
      unfold misshapen
      cases value.isShowable <;> simp [hname]

/-- The first entry that is not in the grammar refuses the mapping, with an error of the configuration unless its value
is too long to be shown. -/
theorem HasPatterns.error_cases (h : HasPatterns entries)
    : ((∃ c, directives entries = .error (.config c)) ↔
          ∃ name value, IsFirstUnlisted entries name value ∧ (IsName name → value.isShowable = true)) ∧
        (directives entries = .error .unshowable ↔
          ∃ name value, IsFirstUnlisted entries name value ∧ IsName name ∧ value.isShowable = false) ∧
        ∀ e, directives entries = .error e → (∃ c, e = .config c) ∨ e = .unshowable := by
  have hunlisted {name : String} {value : Json} (hfirst : IsFirstUnlisted entries name value)
      : ¬IsListed (name, value) := by
    obtain ⟨-, -, -, -, hunlisted⟩ := hfirst
    exact hunlisted
  refine ⟨⟨?_, ?_⟩, ⟨?_, ?_⟩, ?_⟩
  . rintro ⟨c, hc⟩
    obtain ⟨name, value, hfirst, hentry⟩ := h.directives_eq_error_iff.mp hc
    exact ⟨name, value, hfirst, (entry_of_not_isListed (hunlisted hfirst)).1.mp ⟨c, hentry⟩⟩
  . rintro ⟨name, value, hfirst, hvalue⟩
    obtain ⟨c, hentry⟩ := (entry_of_not_isListed (hunlisted hfirst)).1.mpr hvalue
    exact ⟨c, h.directives_eq_error_iff.mpr ⟨name, value, hfirst, hentry⟩⟩
  . intro hunshowable
    obtain ⟨name, value, hfirst, hentry⟩ := h.directives_eq_error_iff.mp hunshowable
    exact ⟨name, value, hfirst, (entry_of_not_isListed (hunlisted hfirst)).2.mp hentry⟩
  . rintro ⟨name, value, hfirst, hvalue⟩
    have hentry := (entry_of_not_isListed (hunlisted hfirst)).2.mpr hvalue
    exact h.directives_eq_error_iff.mpr ⟨name, value, hfirst, hentry⟩
  . intro e he
    obtain ⟨name, value, hfirst, hentry⟩ := h.directives_eq_error_iff.mp he
    have hcases := entry_of_not_isListed (hunlisted hfirst)
    by_cases hvalue : IsName name → value.isShowable = true
    . obtain ⟨c, hc⟩ := hcases.1.mpr hvalue
      rw [hentry] at hc
      exact .inl ⟨c, Except.error.inj hc⟩
    . have hunshowable := hcases.2.mpr (by simpa using hvalue)
      rw [hentry] at hunshowable
      exact .inr (Except.error.inj hunshowable)

/-- Directives of a mapping are those that its entries list, in order. -/
theorem exists_parts_of_directives {ds : List Directive} (h : directives entries = .ok ds)
    : ∃ parts, List.Forall₂ (fun entry part => Lists entry.1 entry.2 part) entries parts ∧ ds = parts.flatten := by
  obtain ⟨parts, hparts, rfl⟩ := directives_eq_ok_iff.mp h
  exact ⟨parts, hparts.imp fun _ _ hentry => (entry_eq_ok_iff.mp hentry).1, rfl⟩

theorem HasPatterns.refusal?_eq_none (h : HasPatterns entries) {ds : List Directive} (hds : directives entries = .ok ds)
    : ∀ d ∈ ds, d.refusal? = none := by
  obtain ⟨parts, hparts, rfl⟩ := exists_parts_of_directives hds
  intro d hd
  obtain ⟨part, hpart, hd⟩ := List.mem_flatten.mp hd
  obtain ⟨entry, hmem, hlists⟩ := exists_mem_of_forall₂ hparts part hpart
  exact h entry hmem part hlists d hd

/-- A mapping is taken if and only if all of its entries are in the grammar, and ends in an error of the configuration
otherwise, unless the value to show is too long. It then means what its entries list, one after another, also as a
layer between the defaults and further directives. -/
theorem directives_meaning (hpatterns : HasPatterns entries)
    : ((∃ ds, directives entries = .ok ds) ↔ ∀ entry ∈ entries, IsListed entry) ∧
        ((∃ c, directives entries = .error (.config c)) ↔
          ∃ name value, IsFirstUnlisted entries name value ∧ (IsName name → value.isShowable = true)) ∧
        (directives entries = .error .unshowable ↔
          ∃ name value, IsFirstUnlisted entries name value ∧ IsName name ∧ value.isShowable = false) ∧
        (∀ e, directives entries = .error e → (∃ c, e = .config c) ∨ e = .unshowable) ∧
        (∀ ds, directives entries = .ok ds →
          ∃ parts, List.Forall₂ (fun entry part => Lists entry.1 entry.2 part) entries parts ∧
            ∀ cfg : Config, (cfg.option ds).1 = parts.foldl Config.applyEach cfg) ∧
        ∀ (f : ConfigFile) (extra : List Directive), (∀ d ∈ extra, d.refusal? = none) →
          (f.mapping = .ok entries →
            (load true (some f) extra .empty =
              (directives entries).map fun ds => Config.empty.applyEach (Directive.defaults ++ ds ++ extra)) ∧
            ∀ e, load true (some f) extra .empty = .error e → ∃ c, e = .config c) ∧
          ∀ e, f.mapping = .error e →
            load true (some f) extra .empty = .error e ∧ ((∃ c, e = .config c) ∨ f.Escapes) := by
  obtain ⟨hconfig, hunshowable, herror⟩ := hpatterns.error_cases
  refine ⟨?_, hconfig, hunshowable, herror, ?_, ?_⟩
  . rw [exists_directives_eq_ok_iff]
    exact forall₂_congr fun entry hmem => hpatterns.exists_entry_eq_ok_iff hmem
  . intro ds hds
    obtain ⟨parts, hparts, rfl⟩ := exists_parts_of_directives hds
    refine ⟨parts, hparts, fun cfg => ?_⟩
    rw [Config.option_eq_applyEach]
    exact Config.applyEach_flatten cfg parts
  . intro f extra hextra
    constructor
    . intro hmapping
      have hfile := ConfigFile.directives_of_mapping_eq_ok hmapping
      cases hdirectives : directives entries with
      | ok ds =>
        rw [hdirectives] at hfile
        rw [Config.load_of_directives_eq_ok hfile (hpatterns.refusal?_eq_none hdirectives) hextra]
        exact ⟨rfl, by simp⟩
      | error e =>
        rw [hdirectives] at hfile
        rw [Config.load_of_directives_eq_error hfile]
        refine ⟨rfl, fun e' he => ?_⟩
        cases he
        obtain hc | rfl := herror e hdirectives
        . exact hc
        -- What was read from a file can be shown.
        . obtain ⟨name, value, ⟨before, after, rfl, -⟩, -, hvalue⟩ := hunshowable.mp hdirectives
          have hshowable := ConfigFile.isShowable_of_mapping hmapping (name, value) List.mem_append_cons_self
          rw [hvalue] at hshowable
          cases hshowable
    . intro e hmapping
      have hfile := ConfigFile.directives_of_mapping_eq_error hmapping
      exact ⟨Config.load_of_directives_eq_error hfile true .empty, ConfigFile.mapping_error_cases hmapping⟩

/-- Rules in order, and a step that is not wanted. -/
def orders : List (String × Json) :=
  [("package_name", .str "orders"),
    ("replace_type_names", .arr [.arr [.str "Type$", .str ""], .arr [.str "^T", .str ""]]),
    ("handle_soap_array_type", .bool true), ("soap_array_as_sequence", .bool false)]

theorem directives_meaning_orders
    : HasPatterns orders ∧
        ∃ ds, directives orders = .ok ds ∧
          ∀ cfg : Config, (cfg.option ds).1 =
            [[.packageName "orders"], [.nameRule (.of .types "Type$" ""), .nameRule (.of .types "^T" "")],
              [.typeStep .soapArrays], []].foldl Config.applyEach cfg := by
  have hrules : Lists "replace_type_names" (.arr [.arr [.str "Type$", .str ""], .arr [.str "^T", .str ""]])
      [.nameRule (.of .types "Type$" ""), .nameRule (.of .types "^T" "")] :=
    .rules .types [("Type$", ""), ("^T", "")]
  have hlisted : List.Forall₂ (fun entry part => Lists entry.1 entry.2 part) orders
      [[.packageName "orders"], [.nameRule (.of .types "Type$" ""), .nameRule (.of .types "^T" "")],
        [.typeStep .soapArrays], []] :=
    .cons (.packageName "orders") (.cons hrules (.cons (.soapArrays true) (.cons (.sequences false) .nil)))
  have hunique : Relator.RightUnique fun (entry : String × Json) part => Lists entry.1 entry.2 part :=
    fun _ _ _ h h' => h.unique h'
  have hpatterns : HasPatterns orders := by
    intro entry hmem ds hlists
    simp only [orders, List.mem_cons, List.not_mem_nil, or_false] at hmem
    obtain rfl | rfl | rfl | rfl := hmem
    . rw [hlists.unique (.packageName "orders")]
      decide +kernel
    . rw [hlists.unique hrules]
      decide +kernel
    . rw [hlists.unique (.soapArrays true)]
      decide +kernel
    . rw [hlists.unique (.sequences false)]
      decide +kernel
  obtain ⟨haccepted, -, -, -, hmeaning, -⟩ := directives_meaning hpatterns
  have hentries : List.Forall₂ (fun part (entry : String × Json) => Lists entry.1 entry.2 part) _ orders := hlisted.flip
  obtain ⟨ds, hds⟩ := haccepted.mpr fun entry hmem => by
    obtain ⟨part, -, hlists⟩ := exists_mem_of_forall₂ hentries entry hmem
    exact ⟨part, hlists⟩
  obtain ⟨parts, hparts, hcfg⟩ := hmeaning ds hds
  obtain rfl := hunique.forall₂ hparts hlisted
  exact ⟨hpatterns, ds, hds, hcfg⟩

/-- The shortest integer that cannot be shown, and a file that cannot be read. -/
theorem not_directives_meaning_unshowable
    : let long : List (String × Json) := [("package_name", .int (10 ^ Number.Integer.digitLimit))]
      let file : ConfigFile := ⟨"c.json", .content [0xFF]⟩
      (∃ entry ∈ long, ¬IsListed entry) ∧ directives long = .error .unshowable ∧
        load true (some file) [] .empty = .error (.encoding ⟨.startByte, 0xFF, 0, 0⟩) := by
  intro long file
  have hunlisted : ¬IsListed ("package_name", .int (10 ^ Number.Integer.digitLimit)) := by
    rintro ⟨ds, h⟩
    obtain ⟨kind, hkind, h⟩ := lists_iff.mp h
    cases hkind
    cases h
  have hname : IsName "package_name" := ⟨_, _, .packageName ""⟩
  have hentry := (entry_of_not_isListed hunlisted).2.mpr ⟨hname, Number.Integer.isWritable_pow_digitLimit⟩
  have hfile : file.directives = .error (.encoding ⟨.startByte, 0xFF, 0, 0⟩) :=
    ConfigFile.directives_of_read_eq_error (by decide) rfl rfl
  refine ⟨⟨_, List.mem_singleton_self _, hunlisted⟩, ?_, ?_⟩
  . exact Mapping.directives_eq_error_iff.mpr ⟨[], _, _, [], rfl, List.forall_mem_nil _, hentry⟩
  . exact Config.load_of_directives_eq_error hfile true .empty

end Mapping

end XmlBinding
