import XmlBinding.Name.Identifier
import XmlBinding.Proofs.Name.Clark
import XmlBinding.Proofs.Text.Normalization

/-!
This module contains that no name which is given in a scope is empty, and what the form of a name keeps in which a
class or a module holds it.
-/

namespace XmlBinding

open Text

namespace Identifier

/-! ### Names that are given -/

theorem toList_append_ne_nil {name : String} (h : name.toList ≠ []) (text : String) : (name ++ text).toList ≠ [] := by
  rw [String.toList_append]
  exact List.append_ne_nil_of_left_ne_nil h text.toList

theorem toList_clean_ne_nil (name : String) : (clean name).toList ≠ [] := by
  unfold clean
  split
  . exact List.cons_ne_nil _ _
  . rw [String.toList_ofList]
    split
    . exact List.cons_ne_nil _ _
    . exact List.cons_ne_nil _ _

theorem toList_escapeReserved_ne_nil {name : String} (h : name.toList ≠ []) (reserved : List String) (suffix : String)
    : (escapeReserved reserved suffix name).toList ≠ [] := by
  unfold escapeReserved
  split
  . exact toList_append_ne_nil h suffix
  . exact h

theorem toList_candidate_ne_nil {base : String} (h : base.toList ≠ []) (suffix : String) (n : Nat)
    : (candidate base suffix n).toList ≠ [] := by
  cases n with
  | zero => exact h
  | succ n => exact toList_append_ne_nil (toList_append_ne_nil h suffix) _

/-! ### Normal forms -/

section

variable {name : String}

/-- Normal forms are the same whether or not ASCII is treated apart. -/
theorem normal_eq (name : String) : normal name = String.ofList (normalize name.toList) := by
  unfold normal
  split
  . next hascii =>
    rw [normalize_of_isAscii (List.all_eq_true.mp hascii)]
    rw [String.ofList_toList]
  . rfl

theorem toList_normal (name : String) : (normal name).toList = normalize name.toList := by
  rw [normal_eq]
  rw [String.toList_ofList]

theorem normal_of_isAscii (h : ∀ c ∈ name.toList, isAscii c = true) : normal name = name :=
  if_pos (List.all_eq_true.mpr h)

theorem getLast?_normal {c : Char} (h : name.toList.getLast? = some c) (hc : isAscii c = true)
    : (normal name).toList.getLast? = some c := by
  obtain ⟨cs, hcs⟩ := List.getLast?_eq_some_iff.mp h
  rw [toList_normal]
  rw [hcs]
  rw [normalize_append hc]
  exact List.getLast?_concat

end

/-! ### Names in a class -/

/-- The name starts with two underscores. Such names belong to a class, or they are special. -/
def IsUnderscored (name : String) : Prop :=
  ['_', '_'] <+: name.toList

/-- The name starts and ends with two underscores. Such names have a meaning for all classes. -/
def IsSpecial (name : String) : Prop :=
  IsUnderscored name ∧ ['_', '_'] <:+ name.toList

instance (name : String) : Decidable (IsUnderscored name) :=
  inferInstanceAs (Decidable (_ <+: _))

instance (name : String) : Decidable (IsSpecial name) :=
  inferInstanceAs (Decidable (_ ∧ _))

section

variable {name : String}

theorem isOwn_eq_true_iff : isOwn name.toList = true ↔ IsUnderscored name ∧ ¬IsSpecial name := by
  unfold isOwn IsSpecial IsUnderscored
  rw [Bool.and_eq_true]
  rw [Bool.not_eq_true']
  rw [← Bool.not_eq_true]
  rw [List.isPrefixOf_iff_prefix]
  rw [List.isSuffixOf_iff_suffix]
  tauto

theorem mangle_of_not_own (h : ¬isOwn name.toList = true) (className : String) : mangle className name = name := by
  unfold mangle
  split
  . rfl
  . rw [if_neg h]

/-- A class that puts its name in front of a name puts an underscore there first. -/
theorem mangle_eq_or (className name : String)
    : mangle className name = name ∨
        isOwn name.toList = true ∧ ∃ text, mangle className name = "_" ++ text ++ name := by
  unfold mangle
  split
  . exact .inl rfl
  . split
    . next hown => exact .inr ⟨hown, _, rfl⟩
    . exact .inl rfl

/-- The name that a class has for a member does not look like one with its namespace in braces. -/
theorem inClass_ne_clark (h : '\x7b' ∉ name.toList) (className : String) {n : QName} (hn : n.space ≠ "")
    : inClass className name ≠ n.clark := by
  intro heq
  have hclark := congrArg String.toList heq
  rw [QName.clark_of_space_ne hn] at hclark
  obtain hname | ⟨-, text, hname⟩ := mangle_eq_or (normal className) (normal name)
  . apply openingBrace_not_mem_normalize h
    rw [← toList_normal]
    rw [← hname]
    rw [show mangle (normal className) (normal name) = inClass className name from rfl]
    rw [hclark]
    simp
  . rw [show inClass className name = "_" ++ text ++ normal name from hname] at hclark
    simp at hclark

/-- A name that belongs to no class is held for what stands for it anywhere. -/
theorem inClass_eq_iff {held : String} (h : IsSpecial held ∨ held.toList.head? ≠ some '_') (className : String)
    : inClass className name = held ↔ normal name = held := by
  constructor
  . rintro rfl
    obtain hname | ⟨hown, text, hname⟩ := mangle_eq_or (normal className) (normal name)
    . exact hname.symm
    . obtain ⟨hunderscored, hnotSpecial⟩ := isOwn_eq_true_iff.mp hown
      unfold inClass at h
      rw [hname] at h
      rcases h with ⟨-, hend⟩ | hhead
      . have hsuffix : (normal name).toList <:+ ("_" ++ text ++ normal name).toList := by
          rw [String.toList_append]
          exact List.suffix_append _ _
        exact absurd ⟨hunderscored, List.suffix_of_suffix_length_le hend hsuffix hunderscored.length_le⟩ hnotSpecial
      . simp at hhead
  . rintro rfl
    apply mangle_of_not_own
    rw [isOwn_eq_true_iff]
    rintro ⟨hunderscored, hnotSpecial⟩
    refine h.elim hnotSpecial fun hhead => hhead ?_
    obtain ⟨rest, hrest⟩ := hunderscored
    rw [← hrest]
    rfl

end

end Identifier

end XmlBinding
