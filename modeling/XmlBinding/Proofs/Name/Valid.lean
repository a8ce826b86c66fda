import XmlBinding.Proofs.Name.Identifier
import XmlBinding.Proofs.Text.Ascii
import XmlBinding.Text.LetterCase

/-!
This module contains which of the names that are given are identifiers, and that none of them is a reserved word.
Cleaning keeps all word characters, and some of these do not belong into an identifier.
-/

namespace XmlBinding

open Text

namespace Identifier

/-- Whether cleaning makes an identifier of a name: the word characters that stay have to belong there. -/
def isCleanable : List Char → Bool
  | [] => true
  | c :: cs =>
    (!isWord c || if isDigit c then isIdentifierContinue c else isIdentifierStart c)
      && cs.all fun c => !isWord c || isIdentifierContinue c

/-- Reserved words are identifiers, and neither an underscore nor a digit is at their end. -/
structure AreWords (reserved : List String) : Prop where
  isIdentifier : ∀ w ∈ reserved, isIdentifier w.toList = true
  ends : ∀ w ∈ reserved, w.toList.getLast?.all (fun c => c != '_' && !c.isDigit) = true

theorem areWords_memberReserved : AreWords memberReserved :=
  ⟨by decide, by decide⟩

theorem areWords_declarationReserved : AreWords declarationReserved :=
  ⟨by decide, by decide⟩

theorem AreWords.of_mem_getLast? {reserved : List String} (h : AreWords reserved) {w : String} (hw : w ∈ reserved)
    {c : Char} (hc : c ∈ w.toList.getLast?)
    : c ≠ '_' ∧ c.isDigit = false := by
  have hends := h.ends w hw
  rw [Option.mem_def.mp hc] at hends
  simpa using hends

/-! ### Characters -/

theorem isIdentifierContinue_of_isDigit {c : Char} (h : c.isDigit = true) : isIdentifierContinue c = true := by
  unfold isIdentifierContinue
  rw [if_pos (isAscii_of_isDigit h)]
  simp [Char.isAlphanum, h]

theorem isIdentifier_cons (c : Char) (cs : List Char)
    : isIdentifier (c :: cs) = (isIdentifierStart c && cs.all isIdentifierContinue) :=
  rfl

theorem isIdentifier_append {name suffix : List Char} (hname : name ≠ [])
    (hsuffix : suffix.all isIdentifierContinue = true)
    : isIdentifier (name ++ suffix) = isIdentifier name := by
  cases name with
  | nil => exact absurd rfl hname
  | cons c cs =>
    rw [List.cons_append]
    rw [isIdentifier_cons]
    rw [isIdentifier_cons]
    rw [List.all_append]
    rw [hsuffix]
    rw [Bool.and_true]

/-! ### Cleaning -/

theorem all_cleaned (cs : List Char)
    : (cs.map fun c => if isWord c then c else '_').all isIdentifierContinue =
        cs.all fun c => !isWord c || isIdentifierContinue c := by
  rw [List.all_map]
  congr 1
  funext c
  cases hc : isWord c with
  | true => simp [hc]
  | false =>
    have hunderscore : isIdentifierContinue '_' = true := by decide
    simp [hc, hunderscore]

theorem isCleanable_cons (c : Char) (cs : List Char)
    : isCleanable (c :: cs) =
        ((!isWord c || if isDigit c then isIdentifierContinue c else isIdentifierStart c)
          && cs.all fun c => !isWord c || isIdentifierContinue c) :=
  rfl

theorem isIdentifier_clean (name : String) : isIdentifier (clean name).toList = isCleanable name.toList := by
  have hunderscore : isIdentifierStart '_' = true := by decide
  unfold clean
  cases name.toList with
  | nil => decide
  | cons c cs =>
    rw [List.map_cons]
    dsimp only
    rw [String.toList_ofList]
    rw [isCleanable_cons]
    rw [← all_cleaned]
    cases hword : isWord c with
    | false =>
      have hdigit : isDigit '_' = false := by decide
      simp [hdigit, isIdentifier_cons, hunderscore]
    | true =>
      cases hdigit : isDigit c with
      | false => simp [hdigit, isIdentifier_cons]
      | true => simp [hdigit, isIdentifier_cons, hunderscore]

/-! ### ASCII -/

theorem isAscii_toLower {c : Char} (h : isAscii c = true) : isAscii c.toLower = true := by
  apply of_isAscii _ h
  decide

theorem isAscii_of_mem_lowerFirst {cs : List Char} (h : ∀ c ∈ cs, isAscii c = true)
    : ∀ c ∈ lowerFirst cs, isAscii c = true := by
  cases cs with
  | nil => exact h
  | cons c cs =>
    rw [List.forall_mem_cons] at h
    have hlower : lowerChar c = [c.toLower] := if_pos (of_decide_eq_true h.1)
    unfold lowerFirst
    dsimp only
    rw [hlower]
    rw [List.singleton_append]
    rw [List.forall_mem_cons]
    exact ⟨isAscii_toLower h.1, h.2⟩

theorem isWord_of_isAscii {c : Char} (h : isAscii c = true) : isWord c = isIdentifierContinue c := by
  unfold isWord isIdentifierContinue
  rw [if_pos h]
  rw [if_pos h]

theorem isIdentifierStart_of_isAscii {c : Char} (h : isAscii c = true)
    : isIdentifierStart c = (isIdentifierContinue c && !isDigit c) := by
  apply of_isAscii _ h
  decide

/-- All ASCII word characters belong into an identifier. -/
theorem isCleanable_of_isAscii {cs : List Char} (h : ∀ c ∈ cs, isAscii c = true) : isCleanable cs = true := by
  have hcontinue (c : Char) (hc : isAscii c = true) : (!isWord c || isIdentifierContinue c) = true := by
    rw [isWord_of_isAscii hc]
    simp
  cases cs with
  | nil => rfl
  | cons c cs =>
    rw [List.forall_mem_cons] at h
    rw [isCleanable_cons]
    rw [Bool.and_eq_true]
    refine ⟨?_, List.all_eq_true.mpr fun d hd => hcontinue d (h.2 d hd)⟩
    have hfirst := hcontinue c h.1
    rw [isIdentifierStart_of_isAscii h.1]
    cases hdigit : isDigit c with
    | true => simpa using hfirst
    | false => simpa using hfirst

/-! ### Reserved words -/

theorem isIdentifier_escapeReserved {reserved : List String} (h : AreWords reserved) (name : String)
    : isIdentifier (escapeReserved reserved "_" name).toList = isIdentifier name.toList := by
  unfold escapeReserved
  split
  . next hmem =>
    have hname := h.isIdentifier name (by simpa using hmem)
    have hne : name.toList ≠ [] := by
      intro hnil
      rw [hnil] at hname
      cases hname
    rw [String.toList_append]
    exact isIdentifier_append hne (by decide)
  . rfl

theorem escapeReserved_not_mem {reserved : List String} (h : AreWords reserved) (name : String)
    : escapeReserved reserved "_" name ∉ reserved := by
  unfold escapeReserved
  split
  . intro hmem
    have hlast : '_' ∈ (name ++ "_").toList.getLast? := by
      rw [String.toList_append]
      simp
    exact (h.of_mem_getLast? hmem hlast).1 rfl
  . next hnot => simpa using hnot

theorem toList_candidate_succ (base suffix : String) (n : Nat)
    : (candidate base suffix (n + 1)).toList = base.toList ++ (suffix.toList ++ Nat.toDigits 10 (n + 1)) := by
  have hdigits : (s!"{n + 1}" : String).toList = Nat.toDigits 10 (n + 1) := Nat.toList_repr
  unfold candidate
  rw [String.toList_append]
  rw [String.toList_append]
  rw [hdigits]
  rw [List.append_assoc]

theorem isIdentifier_candidate {base : String} (hbase : base.toList ≠ []) (n : Nat)
    : isIdentifier (candidate base "_" n).toList = isIdentifier base.toList := by
  cases n with
  | zero => rfl
  | succ n =>
    rw [toList_candidate_succ]
    apply isIdentifier_append hbase
    rw [List.all_append]
    rw [Bool.and_eq_true]
    refine ⟨by decide, ?_⟩
    rw [List.all_eq_true]
    intro c hc
    exact isIdentifierContinue_of_isDigit (Nat.isDigit_of_mem_toDigits (by decide) (by decide) hc)

theorem exists_isDigit_candidate_succ (base suffix : String) (n : Nat)
    : ∃ c ∈ (candidate base suffix (n + 1)).toList.getLast?, c.isDigit = true := by
  have hne : Nat.toDigits 10 (n + 1) ≠ [] := Nat.toDigits_ne_nil
  refine ⟨(Nat.toDigits 10 (n + 1)).getLast hne, ?_, ?_⟩
  . rw [toList_candidate_succ]
    rw [← List.append_assoc]
    rw [List.getLast?_append]
    rw [List.getLast?_eq_some_getLast hne]
    rfl
  . exact Nat.isDigit_of_mem_toDigits (by decide) (by decide) (List.getLast_mem hne)

theorem candidate_not_mem {reserved : List String} (h : AreWords reserved) {base : String} (hbase : base ∉ reserved)
    (n : Nat)
    : candidate base "_" n ∉ reserved := by
  cases n with
  | zero => exact hbase
  | succ n =>
    intro hmem
    obtain ⟨c, hlast, hdigit⟩ := exists_isDigit_candidate_succ base "_" n
    have hends := (h.of_mem_getLast? hmem hlast).2
    rw [hdigit] at hends
    cases hends

theorem exists_candidate_firstFree (used : List String) (base suffix : String) (fuel n : Nat)
    : ∃ k, firstFree used base suffix fuel n = candidate base suffix k := by
  induction fuel generalizing n with
  | zero => exact ⟨n, rfl⟩
  | succ fuel ih =>
    rw [firstFree]
    split
    . exact ih (n + 1)
    . exact ⟨n, rfl⟩

end Identifier

/-! ### Scopes -/

namespace Scope

open Identifier

theorem exists_candidate_add (s : Scope) (suffix name : String)
    : ∃ k, (s.add suffix name).1 = candidate (escapeReserved s.reserved suffix (clean name)) suffix k :=
  exists_candidate_firstFree _ _ _ _ _

theorem toList_add_ne_nil (s : Scope) (suffix name : String) : (s.add suffix name).1.toList ≠ [] := by
  obtain ⟨k, hk⟩ := s.exists_candidate_add suffix name
  rw [hk]
  apply toList_candidate_ne_nil
  apply toList_escapeReserved_ne_nil
  exact toList_clean_ne_nil name

theorem isIdentifier_add {s : Scope} (h : AreWords s.reserved) (name : String)
    : isIdentifier (s.add "_" name).1.toList = isCleanable name.toList := by
  obtain ⟨k, hk⟩ := s.exists_candidate_add "_" name
  rw [hk]
  rw [isIdentifier_candidate (toList_escapeReserved_ne_nil (toList_clean_ne_nil name) s.reserved "_")]
  rw [isIdentifier_escapeReserved h]
  exact isIdentifier_clean name

theorem add_not_mem {s : Scope} (h : AreWords s.reserved) (name : String) : (s.add "_" name).1 ∉ s.reserved := by
  obtain ⟨k, hk⟩ := s.exists_candidate_add "_" name
  rw [hk]
  exact candidate_not_mem h (escapeReserved_not_mem h _) k

end Scope

end XmlBinding
