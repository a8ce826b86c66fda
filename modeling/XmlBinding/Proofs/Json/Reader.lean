import Mathlib.Data.List.TakeWhile
import XmlBinding.Json.Reader
import XmlBinding.Proofs.Entries
import XmlBinding.Proofs.Number.Numeral

/-!
This module contains what the reading of JSON can come to. A value that is read has a form in messages, since its
integers are not too long to be written if they are not too long to be read. An integer that is refused stands in the
text.
-/

namespace XmlBinding.Json

open Number.Integer (digitLimit)

variable {α β : Type} {P : α → Prop} {Q : β → Prop} {cs cs' : List Char} {r : Rest}

/-! ### Values in messages -/

theorem areShowable_iff {items : List Json} : areShowable items = true ↔ ∀ item ∈ items, item.isShowable = true := by
  induction items with
  | nil => simp [areShowable]
  | cons item items ih => simp [areShowable, ih]

theorem areMembersShowable_iff {members : List (String × Json)}
    : areMembersShowable members = true ↔ ∀ entry ∈ members, entry.2.isShowable = true := by
  induction members with
  | nil => simp [areMembersShowable]
  | cons entry members ih => simp [areMembersShowable, ih]

theorem isShowable_ofMembers {members : List (String × Json)} (h : ∀ entry ∈ members, entry.2.isShowable = true)
    : (ofMembers members).isShowable = true :=
  areMembersShowable_iff.mpr (Entries.forall_mem_ofList (P := fun v : Json => v.isShowable = true) h)

/-! ### Outcomes -/

/-- What reading at some characters may come to. -/
inductive Reads (P : α → Prop) (cs : List Char) : Except Stop (α × Rest) → Prop
  | ok {a : α} {r : Rest} : P a → r.chars <:+ cs → Reads P cs (.ok (a, r))
  | fault {cause : Cause} {position : Nat} : Reads P cs (.error (.fault cause position))
  | integer {ds : List Char} : ds <:+: cs → (∀ d ∈ ds, d.isDigit = true) → digitLimit < ds.length →
      Reads P cs (.error (.integer (.tooManyDigits ds.length)))

theorem Reads.of_suffix {x : Except Stop (α × Rest)} (h : Reads P cs x) (hcs : cs <:+ cs') : Reads P cs' x := by
  cases h with
  | ok ha hr => exact .ok ha (hr.trans hcs)
  | fault => exact .fault
  | integer hds hdigits hlong => exact .integer (hds.trans hcs.isInfix) hdigits hlong

theorem Reads.bind {x : Except Stop (α × Rest)} {f : α × Rest → Except Stop (β × Rest)} (h : Reads P cs x)
    (hf : ∀ a r, P a → r.chars <:+ cs → Reads Q r.chars (f (a, r)))
    : Reads Q cs (x >>= f) := by
  cases h with
  | ok ha hr => exact (hf _ _ ha hr).of_suffix hr
  | fault => exact .fault
  | integer hds hdigits hlong => exact .integer hds hdigits hlong

theorem Rest.drop_suffix (r : Rest) (n : Nat) : (r.drop n).chars <:+ r.chars :=
  List.drop_suffix n r.chars

theorem Rest.skipGaps_suffix (r : Rest) : r.skipGaps.chars <:+ r.chars :=
  r.drop_suffix _

/-! ### Strings and numbers -/

theorem Reads.cons_char {x : Except Stop (List Char × Rest)} (hcs : cs <:+ cs') (h : Reads (fun _ => True) cs x)
    (c : Char)
    : Reads (fun _ => True) cs' (do
        let (rest, r) ← x
        .ok (c :: rest, r)) := by
  refine Reads.of_suffix ?_ hcs
  apply h.bind
  intro rest r _ _
  exact .ok trivial List.suffix_rfl

theorem reads_string (start position : Nat) (cs : List Char)
    : Reads (fun _ => True) cs (string start position cs) := by
  fun_induction string start position cs with
  | case2 => exact .ok trivial (List.suffix_cons _ _)
  | case6 =>
    apply Reads.cons_char (List.drop_suffix 12 _)
    assumption
  | case7 | case8 | case10 =>
    apply Reads.cons_char (List.drop_suffix 6 _)
    assumption
  | case13 =>
    apply Reads.cons_char (List.drop_suffix 2 _)
    assumption
  | case15 =>
    apply Reads.cons_char (List.drop_suffix 1 _)
    assumption
  | _ => exact .fault

theorem isPrefix_wholeDigits (cs : List Char) : wholeDigits cs <+: cs := by
  unfold wholeDigits
  split
  . exact ⟨_, rfl⟩
  . exact List.takeWhile_prefix _

theorem isDigit_of_mem_wholeDigits {d : Char} (h : d ∈ wholeDigits cs) : d.isDigit = true := by
  unfold wholeDigits at h
  split at h
  . rw [List.mem_singleton.mp h]
    decide
  . exact List.mem_takeWhile_imp h

theorem reads_integer {ds : List Char} (hnil : ds ≠ []) (hdigits : ∀ d ∈ ds, d.isDigit = true) (hds : ds <:+: cs)
    (hr : r.chars <:+ cs) (negative : Bool)
    : Reads (fun v : Json => v.isShowable = true) cs
        (match Number.Integer.read (String.ofList (Number.signed negative ds)) with
        | .ok n => .ok (.int n, r)
        | .error e => .error (.integer e)) := by
  cases hread : Number.Integer.read (String.ofList (Number.signed negative ds)) with
  | ok n => exact .ok (Number.Integer.isWritable_of_read_signed hnil hdigits hread) hr
  | error e =>
    rw [Number.Integer.read_signed hnil hdigits] at hread
    split at hread
    . cases hread
    . next hlong =>
      cases hread
      exact .integer hds hdigits (Nat.lt_of_not_le hlong)

theorem reads_number (r : Rest) : Reads (fun v => v.isShowable = true) r.chars (number r) := by
  unfold number
  dsimp only
  generalize hminus : (if r.chars.head? == some '-' then ['-'] else []) = minus
  generalize hwhole : wholeDigits (r.chars.drop minus.length) = whole
  generalize fractionPart _ = fraction
  generalize exponentPart _ = exponent
  split
  . exact .fault
  split
  . next hne hplain =>
    rw [Bool.and_eq_true] at hplain
    rw [List.isEmpty_iff] at hplain
    rw [List.isEmpty_iff] at hplain
    obtain ⟨rfl, rfl⟩ := hplain
    rw [List.append_nil]
    rw [List.append_nil]
    have hsigned : minus ++ whole = Number.signed (r.chars.head? == some '-') whole := by
      rw [← hminus]
      unfold Number.signed
      split <;> rfl
    rw [hsigned]
    apply reads_integer
    . exact fun hnil => hne (List.isEmpty_iff.mpr hnil)
    . rw [← hwhole]
      exact fun d hd => isDigit_of_mem_wholeDigits hd
    . rw [← hwhole]
      exact (isPrefix_wholeDigits _).isInfix.trans (List.drop_suffix _ _).isInfix
    . exact r.drop_suffix _
  . split
    . exact .ok rfl (r.drop_suffix _)
    . exact .fault

/-! ### Values -/

theorem reads_constant {found : Json × Rest} (h : constant? r = some found)
    : Reads (fun v => v.isShowable = true) r.chars (.ok found) := by
  obtain ⟨⟨word, v⟩, hfind, rfl⟩ := Option.map_eq_some_iff.mp h
  have hconstants : ∀ constant ∈ constants, constant.2.isShowable = true := by decide
  exact .ok (hconstants _ (List.mem_of_find?_eq_some hfind)) (r.drop_suffix _)

/-- The bound on the nesting stops the reading with a fault. -/
theorem reads_all (fuel : Nat)
    : (∀ r, Reads (fun v => v.isShowable = true) r.chars (value fuel r)) ∧
        (∀ r, Reads (fun vs => ∀ v ∈ vs, v.isShowable = true) r.chars (items fuel r)) ∧
        ∀ r, Reads (fun entries => ∀ entry ∈ entries, entry.2.isShowable = true) r.chars (members fuel r) := by
  -- The three readers call each other, each time with less fuel.
  induction fuel with
  | zero =>
    refine ⟨fun r => ?_, fun r => ?_, fun r => ?_⟩
    . rw [value]
      exact .fault
    . rw [items]
      exact .fault
    . rw [members]
      exact .fault
  | succ fuel ih =>
    obtain ⟨hvalue, hitems, hmembers⟩ := ih
    have hstring (start position n : Nat) (r : Rest)
        : Reads (fun _ => True) r.chars (string start position (r.chars.drop n)) :=
      (reads_string start position _).of_suffix (r.drop_suffix n)
    refine ⟨fun r => ?_, fun r => ?_, fun r => ?_⟩
    . rw [value]
      split
      . apply (hstring _ _ 1 r).bind
        intro s rest _ _
        exact .ok rfl List.suffix_rfl
      . dsimp only
        refine Reads.of_suffix ?_ ((Rest.skipGaps_suffix _).trans (r.drop_suffix 1))
        split
        . exact .ok rfl (Rest.drop_suffix _ 1)
        . apply (hmembers _).bind
          intro entries rest hentries _
          exact .ok (isShowable_ofMembers hentries) List.suffix_rfl
      . dsimp only
        refine Reads.of_suffix ?_ ((Rest.skipGaps_suffix _).trans (r.drop_suffix 1))
        split
        . exact .ok rfl (Rest.drop_suffix _ 1)
        . apply (hitems _).bind
          intro vs rest hvs _
          exact .ok (areShowable_iff.mpr hvs) List.suffix_rfl
      . split
        . next hconstant => exact reads_constant hconstant
        . exact reads_number r
    . rw [items]
      apply (hvalue r).bind
      intro v rest hv _
      dsimp only
      refine Reads.of_suffix ?_ rest.skipGaps_suffix
      split
      . exact .ok (by simpa using hv) (Rest.drop_suffix _ 1)
      . refine Reads.of_suffix ?_ ((Rest.skipGaps_suffix _).trans (Rest.drop_suffix _ 1))
        apply (hitems _).bind
        intro vs rest hvs _
        exact .ok (List.forall_mem_cons.mpr ⟨hv, hvs⟩) List.suffix_rfl
      . exact .fault
    . rw [members]
      split
      . apply (hstring _ _ 1 r).bind
        intro name rest _ _
        dsimp only
        refine Reads.of_suffix ?_ rest.skipGaps_suffix
        split
        . refine Reads.of_suffix ?_ ((Rest.skipGaps_suffix _).trans (Rest.drop_suffix _ 1))
          apply (hvalue _).bind
          intro v rest hv _
          dsimp only
          refine Reads.of_suffix ?_ rest.skipGaps_suffix
          split
          . exact .ok (by simpa using hv) (Rest.drop_suffix _ 1)
          . refine Reads.of_suffix ?_ ((Rest.skipGaps_suffix _).trans (Rest.drop_suffix _ 1))
            apply (hmembers _).bind
            intro entries rest hentries _
            exact .ok (List.forall_mem_cons.mpr ⟨hv, hentries⟩) List.suffix_rfl
          . exact .fault
        . exact .fault
      . exact .fault

/-! ### Texts -/

/-- The whole text has to be read, so that nothing is left of it. -/
theorem reads_readChars (cs : List Char)
    : Reads (fun v => v.isShowable = true) cs ((readChars cs).map fun v => (v, ⟨[], 0⟩)) := by
  unfold readChars
  split
  . exact .fault
  have hfirst : Reads (fun v => v.isShowable = true) cs (value (cs.length + 1) (Rest.mk cs 0).skipGaps) :=
    ((reads_all _).1 _).of_suffix (Rest.mk cs 0).skipGaps_suffix
  cases hvalue : value (cs.length + 1) (Rest.mk cs 0).skipGaps with
  | ok found =>
    rw [hvalue] at hfirst
    cases hfirst with
    | @ok v r hv hr =>
      change Reads _ cs (Except.map _ (if r.skipGaps.chars.isEmpty then .ok v else _))
      split
      . exact .ok hv List.nil_suffix
      . exact .fault
  | error stop =>
    rw [hvalue] at hfirst
    cases hfirst with
    | fault => exact .fault
    | integer hds hdigits hlong => exact .integer hds hdigits hlong

theorem isShowable_of_read {v : Json} (h : read cs = .ok v) : v.isShowable = true := by
  have hreads := reads_readChars cs
  unfold read at h
  split at h
  . next hchars =>
    cases h
    rw [hchars] at hreads
    cases hreads with
    | ok hv hr => exact hv
  . cases h
  . cases h

/-- An integer is only refused for the number of its digits, which stand in the text. -/
theorem exists_digits_of_read {e : Number.Integer.ReadError} (h : read cs = .error (.integer e))
    : ∃ ds, ds <:+: cs ∧ (∀ d ∈ ds, d.isDigit = true) ∧ digitLimit < ds.length ∧ e = .tooManyDigits ds.length := by
  have hreads := reads_readChars cs
  unfold read at h
  split at h
  . cases h
  . next hchars =>
    cases h
    rw [hchars] at hreads
    cases hreads with
    | integer hds hdigits hlong => exact ⟨_, hds, hdigits, hlong, rfl⟩
  . cases h

end XmlBinding.Json
