import XmlBinding.Name.Tag

/-!
This module contains what the form of a name with braces tells about the name. Braces may stand in the
namespace; the last closing one ends it, if there is none in the local part.
-/

namespace XmlBinding

theorem afterLast_of_not_mem {sep : Char} {cs : List Char} (h : sep ∉ cs) : afterLast sep cs = cs := by
  cases cs with
  | nil => rfl
  | cons c cs =>
    rw [List.mem_cons] at h
    rw [not_or] at h
    obtain ⟨hc, hcs⟩ := h
    rw [afterLast]
    rw [if_neg (by simpa using hcs)]
    rw [if_neg (by simpa using Ne.symm hc)]

theorem afterLast_append {sep : Char} {cs ds : List Char} (h : sep ∉ ds)
    : afterLast sep (cs ++ sep :: ds) = ds := by
  induction cs with
  | nil =>
    rw [List.nil_append]
    rw [afterLast]
    rw [if_neg (by simpa using h)]
    rw [if_pos (by simp)]
  | cons c cs ih =>
    rw [List.cons_append]
    rw [afterLast]
    rw [if_pos (by simp)]
    exact ih

namespace QName

variable {n m : QName}

theorem clark_of_space_eq (h : n.space = "") : n.clark = n.localPart := by
  simp [clark, h]

theorem clark_of_space_ne (h : n.space ≠ "")
    : n.clark.toList = ('\x7b' :: n.space.toList) ++ '\x7d' :: n.localPart.toList := by
  simp [clark, h]

theorem localName_clark (h : '\x7d' ∉ n.localPart.toList) : localName n.clark = n.localPart := by
  unfold localName
  by_cases hs : n.space = ""
  . rw [clark_of_space_eq hs]
    rw [afterLast_of_not_mem h]
    simp
  . rw [clark_of_space_ne hs]
    rw [afterLast_append h]
    simp

theorem space_ne_of_mem_clark (hn : '\x7d' ∉ n.localPart.toList) (h : '\x7d' ∈ n.clark.toList)
    : n.space ≠ "" := by
  intro hs
  rw [clark_of_space_eq hs] at h
  exact hn h

theorem closingBrace_mem_clark (h : n.space ≠ "") : '\x7d' ∈ n.clark.toList := by
  rw [clark_of_space_ne h]
  simp

theorem eq_of_clark_eq (hn : '\x7d' ∉ n.localPart.toList) (hm : '\x7d' ∉ m.localPart.toList)
    (h : n.clark = m.clark)
    : n = m := by
  have hlocal : n.localPart = m.localPart := by
    rw [← localName_clark hn]
    rw [← localName_clark hm]
    rw [h]
  have hspace : n.space = m.space := by
    by_cases hs : n.space = ""
    . by_cases hs' : m.space = ""
      . rw [hs]
        rw [hs']
      . have := closingBrace_mem_clark hs'
        rw [← h] at this
        exact absurd hs (space_ne_of_mem_clark hn this)
    . have hs' : m.space ≠ "" := by
        have := closingBrace_mem_clark hs
        rw [h] at this
        exact space_ne_of_mem_clark hm this
      have hlists := congrArg String.toList h
      rw [clark_of_space_ne hs] at hlists
      rw [clark_of_space_ne hs'] at hlists
      rw [hlocal] at hlists
      have := List.append_cancel_right hlists
      exact String.toList_injective (List.cons.inj this).2
  cases n
  cases m
  simp_all

end QName

theorem tagMatches_clark {n : QName} (h : '\x7d' ∉ n.localPart.toList)
    : tagMatches n.clark n.space n.localPart = true := by
  unfold tagMatches
  rw [QName.localName_clark h]
  simp

end XmlBinding
