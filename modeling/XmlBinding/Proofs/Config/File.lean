import XmlBinding.Config.File
import XmlBinding.Proofs.Config.Grammar
import XmlBinding.Proofs.Json.Reader
import XmlBinding.Proofs.Text.Utf8

/-!
This module contains when a configuration file ends in directives or in an error of the configuration. It does unless
the system cannot look up the file, or the file is not UTF-8, or has an integer that is too long, or a rule with a
pattern that is refused for another reason than its form.
-/

namespace XmlBinding.ConfigFile

open Text
open Mapping (Lists IsListed)
open Number.Integer (digitLimit)

variable {f : ConfigFile} {cs : List Char} {bytes : List UInt8} {entries : List (String × Json)} {e : LoadError}

/-- The file can be read, and these are its characters. -/
def Holds (f : ConfigFile) (cs : List Char) : Prop :=
  f.isJson = true ∧ f.state = .content (Utf8.encode cs)

/-- What keeps a file from ending in directives or in an error of the configuration. -/
inductive Escapes (f : ConfigFile) : Prop
  | unreachable {reason : String} : f.state = .unreachable reason → Escapes f
  | unencoded {bytes : List UInt8} : f.isJson = true → f.state = .content bytes → (∀ cs, bytes ≠ Utf8.encode cs) →
      Escapes f
  | integer {cs ds : List Char} : f.Holds cs → ds <:+: plainBreaks cs → (∀ d ∈ ds, d.isDigit = true) →
      digitLimit < ds.length → Json.read (plainBreaks cs) = .error (.integer (.tooManyDigits ds.length)) → Escapes f
  | pattern {cs : List Char} {before after : List (String × Json)} {name : String} {value : Json}
      {ds : List Directive} {d : Directive} {e : Pattern.Error} : f.Holds cs →
      Json.read (plainBreaks cs) = .ok (.obj (before ++ (name, value) :: after)) →
      (∀ entry ∈ before, ∃ ds, Lists entry.1 entry.2 ds ∧ ∀ d ∈ ds, d.isRule = true → d.refusal? = none) →
      Lists name value ds → d ∈ ds → d.isRule = true → d.refusal? = some e → Escapes f

/-! ### Bytes -/

theorem bytes_eq_ok_iff : f.bytes = .ok bytes ↔ f.isJson = true ∧ f.state = .content bytes := by
  unfold ConfigFile.bytes
  cases f.state <;> cases f.isJson <;> simp

theorem bytes_of_unreachable {reason : String} (h : f.state = .unreachable reason)
    : f.bytes = .error (.system reason) := by
  unfold ConfigFile.bytes
  rw [h]

theorem config_of_bytes_eq_error (h : f.bytes = .error e) (hreachable : ∀ reason, f.state ≠ .unreachable reason)
    : ∃ c, e = .config c := by
  unfold ConfigFile.bytes at h
  split at h
  . cases h
    exact ⟨_, rfl⟩
  . next hstate => exact absurd hstate (hreachable _)
  . cases h
    exact ⟨_, rfl⟩
  . cases h
    exact ⟨_, rfl⟩
  . cases h
    exact ⟨_, rfl⟩
  . cases h

/-! ### Mappings -/

theorem mapping_of_bytes_eq_error (h : f.bytes = .error e) : f.mapping = .error e := by
  unfold mapping
  rw [h]
  rfl

theorem mapping_of_read_eq_error {fault : Utf8.ReadError} (h : f.bytes = .ok bytes)
    (hread : Utf8.read bytes = .error fault)
    : f.mapping = .error (.encoding fault) := by
  unfold mapping
  rw [h]
  dsimp only [bind, Except.bind]
  rw [hread]
  rfl

theorem mapping_of_holds (h : f.Holds cs)
    : f.mapping =
        match Json.read (plainBreaks cs) with
        | .ok (.obj entries) => .ok entries
        | .ok _ => .error (.config (.fileNoMapping f.name))
        | .error (.integer e) => .error (.number e)
        | .error e => .error (.config (.fileMalformed f.name e.message)) := by
  have hbytes : f.bytes = .ok (Utf8.encode cs) := bytes_eq_ok_iff.mpr h
  have hread : Utf8.read (Utf8.encode cs) = .ok cs := Utf8.read_eq_ok_iff.mpr rfl
  unfold mapping
  rw [hbytes]
  dsimp only [bind, Except.bind]
  rw [hread]
  rfl

theorem mapping_eq_ok_iff
    : f.mapping = .ok entries ↔ ∃ cs, f.Holds cs ∧ Json.read (plainBreaks cs) = .ok (.obj entries) := by
  constructor
  . intro h
    cases hbytes : f.bytes with
    | error e =>
      rw [mapping_of_bytes_eq_error hbytes] at h
      cases h
    | ok bytes =>
      cases hread : Utf8.read bytes with
      | error fault =>
        rw [mapping_of_read_eq_error hbytes hread] at h
        cases h
      | ok cs =>
        obtain rfl := Utf8.read_eq_ok_iff.mp hread
        have hholds : f.Holds cs := bytes_eq_ok_iff.mp hbytes
        rw [mapping_of_holds hholds] at h
        refine ⟨cs, hholds, ?_⟩
        split at h
        . next hjson =>
          cases h
          exact hjson
        . cases h
        . cases h
        . cases h
  . rintro ⟨cs, hholds, hjson⟩
    rw [mapping_of_holds hholds]
    rw [hjson]

theorem isShowable_of_mapping (h : f.mapping = .ok entries) : ∀ entry ∈ entries, entry.2.isShowable = true := by
  obtain ⟨cs, -, hjson⟩ := mapping_eq_ok_iff.mp h
  exact Json.areMembersShowable_iff.mp (Json.isShowable_of_read hjson)

theorem mapping_error_cases (h : f.mapping = .error e) : (∃ c, e = .config c) ∨ f.Escapes := by
  by_cases hreachable : ∃ reason, f.state = .unreachable reason
  . obtain ⟨reason, hstate⟩ := hreachable
    exact .inr (.unreachable hstate)
  cases hbytes : f.bytes with
  | error e' =>
    rw [mapping_of_bytes_eq_error hbytes] at h
    cases h
    exact .inl (config_of_bytes_eq_error hbytes (not_exists.mp hreachable))
  | ok bytes =>
    obtain ⟨hname, hstate⟩ := bytes_eq_ok_iff.mp hbytes
    cases hread : Utf8.read bytes with
    | error fault =>
      refine .inr (.unencoded hname hstate fun cs hcs => ?_)
      rw [Utf8.read_eq_ok_iff.mpr hcs] at hread
      cases hread
    | ok cs =>
      obtain rfl := Utf8.read_eq_ok_iff.mp hread
      rw [mapping_of_holds ⟨hname, hstate⟩] at h
      split at h
      . cases h
      . cases h
        exact .inl ⟨_, rfl⟩
      . next hjson =>
        obtain ⟨ds, hds, hdigits, hlong, rfl⟩ := Json.exists_digits_of_read hjson
        exact .inr (.integer ⟨hname, hstate⟩ hds hdigits hlong hjson)
      . cases h
        exact .inl ⟨_, rfl⟩

/-! ### Directives -/

theorem directives_of_mapping_eq_error (h : f.mapping = .error e) : f.directives = .error e := by
  unfold directives
  rw [h]
  rfl

theorem directives_of_mapping_eq_ok (h : f.mapping = .ok entries) : f.directives = Mapping.directives entries := by
  unfold directives
  rw [h]
  rfl

theorem directives_of_read_eq_error {fault : Utf8.ReadError} (hname : f.isJson = true) (hstate : f.state = .content bytes)
    (hread : Utf8.read bytes = .error fault)
    : f.directives = .error (.encoding fault) :=
  directives_of_mapping_eq_error (mapping_of_read_eq_error (bytes_eq_ok_iff.mpr ⟨hname, hstate⟩) hread)

theorem directives_error_cases (h : f.directives = .error e) : (∃ c, e = .config c) ∨ f.Escapes := by
  cases hmapping : f.mapping with
  | error e' =>
    rw [directives_of_mapping_eq_error hmapping] at h
    cases h
    exact mapping_error_cases hmapping
  | ok entries =>
    rw [directives_of_mapping_eq_ok hmapping] at h
    obtain ⟨before, name, value, after, rfl, hbefore, hentry⟩ := Mapping.directives_eq_error_iff.mp h
    have hshowable : value.isShowable = true := isShowable_of_mapping hmapping _ List.mem_append_cons_self
    have houtcome := Mapping.outcome_entry name value
    rw [hentry] at houtcome
    cases houtcome with
    | refused hlists hd hrule hrefusal =>
      obtain ⟨cs, hholds, hjson⟩ := mapping_eq_ok_iff.mp hmapping
      refine .inr (.pattern hholds hjson (fun entry hmem => ?_) hlists hd hrule hrefusal)
      obtain ⟨ds, hds⟩ := hbefore entry hmem
      exact ⟨ds, Mapping.entry_eq_ok_iff.mp hds⟩
    | unknown hname => exact .inl ⟨_, rfl⟩
    | misshapen hname hlisted =>
      unfold Mapping.misshapen
      rw [hshowable]
      exact .inl ⟨_, rfl⟩

theorem Escapes.exists_error (h : f.Escapes) : ∃ e, f.directives = .error e ∧ ∀ c, e ≠ .config c := by
  cases h with
  | unreachable hstate =>
    exact ⟨_, directives_of_mapping_eq_error (mapping_of_bytes_eq_error (bytes_of_unreachable hstate)), by simp⟩
  | @unencoded bytes hname hstate hcs =>
    cases hread : Utf8.read bytes with
    | ok cs => exact absurd (Utf8.read_eq_ok_iff.mp hread) (hcs cs)
    | error fault => exact ⟨_, directives_of_read_eq_error hname hstate hread, by simp⟩
  | integer hholds _ _ _ hjson =>
    have hmapping := mapping_of_holds hholds
    rw [hjson] at hmapping
    exact ⟨_, directives_of_mapping_eq_error hmapping, by simp⟩
  | @pattern cs before after name value ds d e hholds hjson hbefore hlists hd hrule hrefusal =>
    have hmapping := mapping_eq_ok_iff.mpr ⟨cs, hholds, hjson⟩
    obtain ⟨e, hmade⟩ := Mapping.exists_made_eq_error hd hrule hrefusal
    refine ⟨.pattern e, ?_, by simp⟩
    rw [directives_of_mapping_eq_ok hmapping]
    refine Mapping.directives_eq_error_iff.mpr ⟨before, name, value, after, rfl, fun entry hmem => ?_, ?_⟩
    . obtain ⟨ds, hds⟩ := hbefore entry hmem
      exact ⟨ds, Mapping.entry_eq_ok_iff.mpr hds⟩
    . rw [Mapping.entry_eq_made hlists]
      exact hmade

theorem directives_eq_ok_iff {ds : List Directive}
    : f.directives = .ok ds ↔
        ∃ cs entries parts, f.Holds cs ∧ Json.read (plainBreaks cs) = .ok (.obj entries) ∧
          List.Forall₂
            (fun entry part => Lists entry.1 entry.2 part ∧ ∀ d ∈ part, d.isRule = true → d.refusal? = none)
            entries parts ∧
          ds = parts.flatten := by
  constructor
  . intro h
    cases hmapping : f.mapping with
    | error e =>
      rw [directives_of_mapping_eq_error hmapping] at h
      cases h
    | ok entries =>
      rw [directives_of_mapping_eq_ok hmapping] at h
      obtain ⟨cs, hholds, hjson⟩ := mapping_eq_ok_iff.mp hmapping
      obtain ⟨parts, hparts, rfl⟩ := Mapping.directives_eq_ok_iff.mp h
      exact ⟨cs, entries, parts, hholds, hjson, hparts.imp fun _ _ => Mapping.entry_eq_ok_iff.mp, rfl⟩
  . rintro ⟨cs, entries, parts, hholds, hjson, hparts, rfl⟩
    rw [directives_of_mapping_eq_ok (mapping_eq_ok_iff.mpr ⟨cs, hholds, hjson⟩)]
    exact Mapping.directives_eq_ok_iff.mpr ⟨parts, hparts.imp fun _ _ => Mapping.entry_eq_ok_iff.mpr, rfl⟩

/-- Every file ends in directives or in an error of the configuration but for what escapes. The directives are those
that the entries of the file list. -/
theorem directives_outcome_iff (f : ConfigFile)
    : (((∃ ds, f.directives = .ok ds) ∨ ∃ e, f.directives = .error (.config e)) ↔ ¬f.Escapes) ∧
        ∀ ds, f.directives = .ok ds ↔
          ∃ cs entries parts, f.Holds cs ∧ Json.read (plainBreaks cs) = .ok (.obj entries) ∧
            List.Forall₂
              (fun entry part => Lists entry.1 entry.2 part ∧ ∀ d ∈ part, d.isRule = true → d.refusal? = none)
              entries parts ∧
            ds = parts.flatten := by
  refine ⟨⟨?_, ?_⟩, fun ds => directives_eq_ok_iff⟩
  . intro h hescapes
    obtain ⟨e, he, hconfig⟩ := hescapes.exists_error
    rw [he] at h
    obtain ⟨ds, hds⟩ | ⟨c, hc⟩ := h
    . cases hds
    . exact hconfig c (Except.error.inj hc)
  . intro hescapes
    cases h : f.directives with
    | ok ds => exact .inl ⟨ds, rfl⟩
    | error e =>
      obtain ⟨c, rfl⟩ := (directives_error_cases h).resolve_right hescapes
      exact .inr ⟨c, rfl⟩

/-- A byte that starts no character. -/
theorem not_directives_outcome_unencoded
    : let f : ConfigFile := ⟨"c.json", .content [0xFF]⟩
      ¬((∃ ds, f.directives = .ok ds) ∨ ∃ e, f.directives = .error (.config e)) := by
  intro f
  have hdirectives : f.directives = .error (.encoding ⟨.startByte, 0xFF, 0, 0⟩) :=
    directives_of_read_eq_error (by decide) rfl rfl
  rw [hdirectives]
  simp

end XmlBinding.ConfigFile
