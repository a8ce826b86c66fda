import Mathlib.Data.List.Nodup
import Mathlib.Data.List.Perm.Subperm
import Mathlib.Data.Nat.Find
import XmlBinding.Proofs.Name.Valid

/-!
This module contains that no name is given twice in one scope. The names that are tried for one request are all
different, so that one of them is free when one more is tried than there are names in use. What is given is the
first free one, also where it looks like a numbered form of another name.
-/

namespace XmlBinding

open Text

namespace Identifier

variable {used : List String} {base suffix : String} {n : Nat}

/-! ### Candidates -/

theorem toDigits_injective : Function.Injective (Nat.toDigits 10) := by
  intro m n h
  have := congrArg (fun digits => Nat.ofDigitChars 10 digits 0) h
  simpa using this

theorem candidate_succ_ne (base suffix : String) (n : Nat) : candidate base suffix (n + 1) ≠ base := by
  intro h
  have hlists := congrArg String.toList h
  rw [toList_candidate_succ] at hlists
  have hnil := List.append_right_eq_self.mp hlists
  exact Nat.toDigits_ne_nil (List.append_eq_nil_iff.mp hnil).2

theorem candidate_injective (base suffix : String) : Function.Injective (candidate base suffix) := by
  intro m n h
  cases m with
  | zero =>
    cases n with
    | zero => rfl
    | succ n => exact absurd h.symm (candidate_succ_ne base suffix n)
  | succ m =>
    cases n with
    | zero => exact absurd h (candidate_succ_ne base suffix m)
    | succ n =>
      have hlists := congrArg String.toList h
      rw [toList_candidate_succ] at hlists
      rw [toList_candidate_succ] at hlists
      exact toDigits_injective (List.append_cancel_left (List.append_cancel_left hlists))

/-- Candidates that are all in use are no more than there are names in use. -/
theorem le_length_of_taken (h : ∀ k < n, candidate base suffix k ∈ used) : n ≤ used.length := by
  have hnodup : ((List.range n).map (candidate base suffix)).Nodup :=
    List.nodup_range.map (candidate_injective base suffix)
  have hsubset : (List.range n).map (candidate base suffix) ⊆ used := by
    intro tried htried
    obtain ⟨k, hk, rfl⟩ := List.mem_map.mp htried
    exact h k (List.mem_range.mp hk)
  have hlength := (hnodup.subperm hsubset).length_le
  rw [List.length_map] at hlength
  rw [List.length_range] at hlength
  exact hlength

/-! ### The first free candidate -/

/-- The `n`-th candidate is the first one that is not in use. -/
structure IsFirstFree (used : List String) (base suffix : String) (n : Nat) : Prop where
  free : candidate base suffix n ∉ used
  taken : ∀ k < n, candidate base suffix k ∈ used

theorem IsFirstFree.le_length (h : IsFirstFree used base suffix n) : n ≤ used.length :=
  le_length_of_taken h.taken

theorem IsFirstFree.of_mem_iff (h : IsFirstFree used base suffix n) {names : List String}
    (hnames : ∀ name, name ∈ used ↔ name ∈ names)
    : IsFirstFree names base suffix n where
  free := (hnames _).not.mp h.free
  taken := fun k hk => (hnames _).mp (h.taken k hk)

theorem exists_isFirstFree (used : List String) (base suffix : String) : ∃ n, IsFirstFree used base suffix n := by
  have hfree : ∃ n, candidate base suffix n ∉ used := by
    by_contra htaken
    have hle : used.length + 1 ≤ used.length :=
      le_length_of_taken fun k _ => by_contra fun hk => htaken ⟨k, hk⟩
    omega
  exact ⟨Nat.find hfree, Nat.find_spec hfree, fun k hk => not_not.mp (Nat.find_min hfree hk)⟩

/-- The loop finds the first free candidate whatever the bound is on its rounds, once that is no smaller than the
number of candidates in use. -/
theorem IsFirstFree.firstFree_eq (h : IsFirstFree used base suffix n) {start fuel : Nat} (hstart : start ≤ n)
    (hfuel : n ≤ start + fuel)
    : firstFree used base suffix fuel start = candidate base suffix n := by
  induction fuel generalizing start with
  | zero =>
    obtain rfl : start = n := Nat.le_antisymm hstart hfuel
    rfl
  | succ fuel ih =>
    rw [firstFree]
    cases Nat.eq_or_lt_of_le hstart with
    | inl heq =>
      rw [heq]
      rw [if_neg (by simpa using h.free)]
    | inr hlt =>
      rw [if_pos (by simpa using h.taken start hlt)]
      exact ih hlt (by omega)

/-! ### Names that are given as they are -/

/-- The name is given only for what is cleaned to it: it is neither a reserved word nor one with an underscore added, and
it is not numbered. -/
structure IsUnaltered (reserved : List String) (name : String) : Prop where
  unreserved : name ∉ reserved
  unescaped : ∀ word ∈ reserved, word ++ "_" ≠ name
  unnumbered : ∀ c ∈ name.toList.getLast?, c.isDigit = false

instance (reserved : List String) (name : String) : Decidable (IsUnaltered reserved name) :=
  decidable_of_iff
    (name ∉ reserved ∧ (∀ word ∈ reserved, word ++ "_" ≠ name) ∧ name.toList.getLast?.all (!·.isDigit) = true)
    (by
      rw [Option.all_eq_true]
      simp only [Bool.not_eq_true']
      exact ⟨fun ⟨hreserved, hescaped, hnumbered⟩ => ⟨hreserved, hescaped, hnumbered⟩,
        fun h => ⟨h.unreserved, h.unescaped, h.unnumbered⟩⟩)

theorem IsUnaltered.escapeReserved_eq_iff {reserved : List String} {given : String} (h : IsUnaltered reserved given)
    {name : String}
    : escapeReserved reserved "_" name = given ↔ name = given := by
  unfold escapeReserved
  split
  . next hmem =>
    have hmem : name ∈ reserved := by simpa using hmem
    refine iff_of_false (h.unescaped name hmem) ?_
    rintro rfl
    exact h.unreserved hmem
  . exact Iff.rfl

theorem IsUnaltered.candidate_succ_ne {reserved : List String} {given : String} (h : IsUnaltered reserved given)
    (base suffix : String) (n : Nat)
    : candidate base suffix (n + 1) ≠ given := by
  rintro rfl
  obtain ⟨c, hlast, hdigit⟩ := exists_isDigit_candidate_succ base suffix n
  rw [h.unnumbered c hlast] at hdigit
  cases hdigit

/-- A name is given as it is if the name that it stands for would be. -/
theorem IsUnaltered.of_normal {reserved : List String} (hascii : ∀ word ∈ reserved, ∀ c ∈ word.toList, isAscii c = true)
    {name : String} (h : IsUnaltered reserved (normal name))
    : IsUnaltered reserved name where
  unreserved := by
    intro hmem
    apply h.unreserved
    rw [normal_of_isAscii (hascii name hmem)]
    exact hmem
  unescaped := by
    rintro word hword rfl
    apply h.unescaped word hword
    rw [normal_of_isAscii]
    rw [String.toList_append]
    rw [List.forall_mem_append]
    exact ⟨hascii word hword, List.all_eq_true.mp rfl⟩
  unnumbered := by
    intro c hc
    cases hdigit : c.isDigit with
    | false => rfl
    | true =>
      -- A digit at the end stays there.
      have hlast := getLast?_normal hc (isAscii_of_isDigit hdigit)
      exact hdigit.symm.trans (h.unnumbered c hlast)

/-! ### Names of word characters -/

/-- There are only word characters in the name, and no digit in front. -/
structure IsWordy (name : String) : Prop where
  words : ∀ c ∈ name.toList, isWord c = true
  start : ∀ c ∈ name.toList.head?, isDigit c = false

theorem isWord_of_isDigit {c : Char} (h : c.isDigit = true) : isWord c = true := by
  rw [isWord_of_isAscii (isAscii_of_isDigit h)]
  exact isIdentifierContinue_of_isDigit h

theorem words_underscore : ∀ c ∈ "_".toList, isWord c = true := by
  have hunderscore : isWord '_' = true := by decide
  simpa using hunderscore

theorem isWordy_clean (name : String) : IsWordy (clean name) := by
  have hunderscore : isWord '_' = true := by decide
  have hstart : isDigit '_' = false := by decide
  have hcleaned : ∀ c ∈ name.toList.map fun c => if isWord c then c else '_', isWord c = true := by
    intro c hc
    obtain ⟨d, -, rfl⟩ := List.mem_map.mp hc
    split
    . assumption
    . exact hunderscore
  unfold clean
  split
  . refine ⟨words_underscore, ?_⟩
    simpa using hstart
  . next c cs h =>
    rw [h] at hcleaned
    split
    . refine ⟨?_, by simpa using hstart⟩
      rw [String.toList_ofList]
      rw [List.forall_mem_cons]
      exact ⟨hunderscore, hcleaned⟩
    . next hdigit =>
      refine ⟨?_, by simpa using hdigit⟩
      rw [String.toList_ofList]
      exact hcleaned

theorem IsWordy.append {name : String} (h : IsWordy name) (hname : name.toList ≠ []) {text : String}
    (htext : ∀ c ∈ text.toList, isWord c = true)
    : IsWordy (name ++ text) where
  words := by
    rw [String.toList_append]
    rw [List.forall_mem_append]
    exact ⟨h.words, htext⟩
  start := by
    rw [String.toList_append]
    rw [List.head?_append_of_ne_nil _ hname]
    exact h.start

theorem isWordy_escapeReserved {name : String} (h : IsWordy name) (hname : name.toList ≠ []) (reserved : List String)
    : IsWordy (escapeReserved reserved "_" name) := by
  unfold escapeReserved
  split
  . exact h.append hname words_underscore
  . exact h

theorem isWordy_candidate (h : IsWordy base) (hbase : base.toList ≠ []) (n : Nat)
    : IsWordy (candidate base "_" n) := by
  cases n with
  | zero => exact h
  | succ n =>
    rw [candidate]
    rw [String.append_assoc]
    apply h.append hbase
    rw [String.toList_append]
    rw [List.forall_mem_append]
    refine ⟨words_underscore, ?_⟩
    intro c hc
    have hdigits : (s!"{n + 1}" : String).toList = Nat.toDigits 10 (n + 1) := Nat.toList_repr
    rw [hdigits] at hc
    exact isWord_of_isDigit (Nat.isDigit_of_mem_toDigits (by decide) (by decide) hc)

theorem IsWordy.openingBrace_not_mem {name : String} (h : IsWordy name) : '\x7b' ∉ name.toList := by
  have hbrace : isWord '\x7b' = false := by decide
  intro hmem
  rw [h.words _ hmem] at hbrace
  cases hbrace

end Identifier

/-! ### Scopes -/

/-- A name to give, and what to put after it where it is reserved or in use. -/
structure Request where
  name : String
  suffix : String

namespace Request

open Identifier

/-- The name itself, when no other name is given. -/
def base (reserved : List String) (r : Request) : String :=
  escapeReserved reserved r.suffix (clean r.name)

/-- What is given for a request when `earlier` names are in use: the first free candidate, which the loop finds after
no more rounds than there are names in use. -/
structure IsGiven (reserved earlier : List String) (r : Request) (given : String) (rounds : Nat) : Prop where
  isFirstFree : IsFirstFree earlier (r.base reserved) r.suffix rounds
  given_eq : given = candidate (r.base reserved) r.suffix rounds
  rounds_le : rounds ≤ earlier.length
  firstFree_eq : ∀ fuel, rounds ≤ fuel → firstFree earlier (r.base reserved) r.suffix fuel 0 = given

variable {reserved earlier : List String} {r : Request} {given : String} {rounds : Nat}

theorem isGiven_of_isFirstFree (h : IsFirstFree earlier (r.base reserved) r.suffix rounds)
    : r.IsGiven reserved earlier (candidate (r.base reserved) r.suffix rounds) rounds where
  isFirstFree := h
  given_eq := rfl
  rounds_le := h.le_length
  firstFree_eq := fun _ hfuel => h.firstFree_eq (Nat.zero_le rounds) (by omega)

theorem IsGiven.not_mem (h : r.IsGiven reserved earlier given rounds) : given ∉ earlier := by
  rw [h.given_eq]
  exact h.isFirstFree.free

theorem toList_base_ne_nil (reserved : List String) (r : Request) : (r.base reserved).toList ≠ [] :=
  toList_escapeReserved_ne_nil (toList_clean_ne_nil r.name) reserved r.suffix

/-- After an underscore a name is legal whatever else is given. -/
theorem IsGiven.legal (h : r.IsGiven reserved earlier given rounds) (hreserved : AreWords reserved)
    (hsuffix : r.suffix = "_")
    : given ∉ reserved ∧ IsWordy given := by
  have hbase := r.toList_base_ne_nil reserved
  have hclean := toList_clean_ne_nil r.name
  rw [h.given_eq]
  unfold base at hbase ⊢
  rw [hsuffix] at hbase ⊢
  exact ⟨candidate_not_mem hreserved (escapeReserved_not_mem hreserved _) rounds,
    isWordy_candidate (isWordy_escapeReserved (isWordy_clean r.name) hclean reserved) hbase rounds⟩

end Request

namespace Scope

open Identifier

/-- The names that are given one after another in one scope. -/
def addAll (s : Scope) : List Request → List String
  | [] => []
  | r :: requests =>
    let (given, s) := s.add r.suffix r.name
    given :: s.addAll requests

theorem addAll_cons (s : Scope) (r : Request) (requests : List Request)
    : s.addAll (r :: requests) = (s.add r.suffix r.name).1 :: (s.add r.suffix r.name).2.addAll requests :=
  rfl

theorem exists_isGiven_add (s : Scope) (r : Request) {earlier : List String}
    (hearlier : ∀ name, name ∈ s.used ↔ name ∈ earlier)
    : ∃ rounds, r.IsGiven s.reserved earlier (s.add r.suffix r.name).1 rounds := by
  obtain ⟨rounds, h⟩ := exists_isFirstFree s.used (r.base s.reserved) r.suffix
  have hgiven : (s.add r.suffix r.name).1 = candidate (r.base s.reserved) r.suffix rounds :=
    h.firstFree_eq (Nat.zero_le rounds) (by simpa using h.le_length)
  rw [hgiven]
  exact ⟨rounds, Request.isGiven_of_isFirstFree (h.of_mem_iff hearlier)⟩

theorem isWordy_add {reserved : List String} (h : AreWords reserved) (used : List String) (name : String)
    : IsWordy (Scope.add ⟨reserved, used⟩ "_" name).1 := by
  obtain ⟨rounds, hgiven⟩ := exists_isGiven_add ⟨reserved, used⟩ ⟨name, "_"⟩ fun _ => Iff.rfl
  exact (hgiven.legal h rfl).2

/-- One name more is tried than there are names in use, so no name is given twice. -/
theorem add_not_mem_used (s : Scope) (suffix name : String) : (s.add suffix name).1 ∉ s.used := by
  obtain ⟨rounds, h⟩ := s.exists_isGiven_add ⟨name, suffix⟩ fun _ => Iff.rfl
  exact h.not_mem

/-- A name that is given as it is is in use from the first time on that something is cleaned to it. -/
theorem mem_used_add_iff {s : Scope} {given : String} (h : IsUnaltered s.reserved given) (name : String)
    : given ∈ (s.add "_" name).2.used ↔ given ∈ s.used ∨ clean name = given := by
  have hused : (s.add "_" name).2.used = (s.add "_" name).1 :: s.used := rfl
  obtain ⟨rounds, hrounds⟩ := s.exists_isGiven_add ⟨name, "_"⟩ fun _ => Iff.rfl
  rw [hused]
  rw [List.mem_cons]
  rw [hrounds.given_eq]
  unfold Request.base
  dsimp only
  constructor
  . rintro (heq | hmem)
    . cases rounds with
      | zero => exact .inr (h.escapeReserved_eq_iff.mp heq.symm)
      | succ n => exact absurd heq.symm (h.candidate_succ_ne _ _ n)
    . exact .inl hmem
  . rintro (hmem | heq)
    . exact .inr hmem
    . have hbase := h.escapeReserved_eq_iff.mpr heq
      rw [hbase]
      cases rounds with
      | zero => exact .inl rfl
      | succ n =>
        -- The name itself is tried first, so it was in use.
        have htaken := hrounds.isFirstFree.taken 0 n.succ_pos
        exact .inr (by simpa [candidate, Request.base, hbase] using htaken)

/-- What an earlier run leaves in use is what it gave. -/
theorem addAll_append (s : Scope) (before after : List Request)
    : s.addAll (before ++ after) =
        s.addAll before ++ Scope.addAll ⟨s.reserved, (s.addAll before).reverse ++ s.used⟩ after := by
  induction before generalizing s with
  | nil => rfl
  | cons r before ih =>
    rw [List.cons_append]
    rw [addAll_cons]
    rw [addAll_cons]
    rw [ih]
    rw [List.reverse_cons]
    rw [List.append_assoc]
    rfl

theorem nodup_addAll (s : Scope) (requests : List Request)
    : (s.addAll requests).Nodup ∧ ∀ given ∈ s.addAll requests, given ∉ s.used := by
  induction requests generalizing s with
  | nil => exact ⟨List.nodup_nil, by simp [addAll]⟩
  | cons r requests ih =>
    obtain ⟨hnodup, hunused⟩ := ih (s.add r.suffix r.name).2
    have hused : (s.add r.suffix r.name).2.used = (s.add r.suffix r.name).1 :: s.used := rfl
    rw [hused] at hunused
    rw [addAll_cons]
    rw [List.nodup_cons]
    rw [List.forall_mem_cons]
    refine ⟨⟨?_, hnodup⟩, s.add_not_mem_used r.suffix r.name, ?_⟩
    . intro hmem
      exact hunused _ hmem List.mem_cons_self
    . intro given hgiven hmem
      exact hunused given hgiven (List.mem_cons_of_mem _ hmem)

theorem length_addAll (s : Scope) (requests : List Request) : (s.addAll requests).length = requests.length := by
  induction requests generalizing s with
  | nil => rfl
  | cons r requests ih =>
    rw [addAll_cons]
    rw [List.length_cons]
    rw [List.length_cons]
    rw [ih]

theorem toList_addAll_ne_nil (s : Scope) (requests : List Request)
    : ∀ given ∈ s.addAll requests, given.toList ≠ [] := by
  induction requests generalizing s with
  | nil => exact List.forall_mem_nil _
  | cons r requests ih =>
    rw [addAll_cons]
    rw [List.forall_mem_cons]
    exact ⟨s.toList_add_ne_nil r.suffix r.name, ih _⟩

theorem exists_isGiven_addAll (reserved : List String) (before : List Request) (r : Request) (after : List Request)
    : ∃ given later rounds, Scope.addAll ⟨reserved, []⟩ (before ++ r :: after) =
          Scope.addAll ⟨reserved, []⟩ before ++ given :: later
        ∧ r.IsGiven reserved (Scope.addAll ⟨reserved, []⟩ before) given rounds := by
  let s : Scope := ⟨reserved, (Scope.addAll ⟨reserved, []⟩ before).reverse ++ []⟩
  have hearlier (name : String) : name ∈ s.used ↔ name ∈ Scope.addAll ⟨reserved, []⟩ before := by simp [s]
  obtain ⟨rounds, h⟩ := s.exists_isGiven_add r hearlier
  exact ⟨_, _, rounds, addAll_append _ _ _, h⟩

/-- All names of one scope are different and not empty, and each is the first free candidate when it is given. Among the
usual reserved words no name with the usual suffix is reserved, and none has anything but word characters. -/
theorem addAll_fresh (reserved : List String) (requests : List Request)
    : let given := Scope.addAll ⟨reserved, []⟩ requests
      given.length = requests.length
        ∧ given.Nodup
        ∧ (∀ name ∈ given, name ≠ "")
        ∧ ∀ before r after, requests = before ++ r :: after →
            let earlier := Scope.addAll ⟨reserved, []⟩ before
            earlier.length = before.length ∧ ∃ name later rounds, given = earlier ++ name :: later
              ∧ r.IsGiven reserved earlier name rounds
              ∧ (reserved = memberReserved → r.suffix = "_" → name ∉ reserved ∧ IsWordy name) := by
  dsimp only
  refine ⟨length_addAll _ _, (nodup_addAll _ _).1, ?_, ?_⟩
  . intro name hname hempty
    apply toList_addAll_ne_nil ⟨reserved, []⟩ requests name hname
    rw [hempty]
    rfl
  . rintro before r after rfl
    obtain ⟨name, later, rounds, hgiven, h⟩ := exists_isGiven_addAll reserved before r after
    refine ⟨length_addAll _ _, name, later, rounds, hgiven, h, ?_⟩
    rintro rfl hsuffix
    exact h.legal areWords_memberReserved hsuffix

/-- The third name passes a numbered form of its own that was given as another name. -/
theorem addAll_fresh_total
    : Scope.addAll ⟨memberReserved, []⟩ [⟨"total", "_"⟩, ⟨"total_1", "_"⟩, ⟨"total", "_"⟩, ⟨"class", ""⟩] =
          ["total", "total_1", "total_2", "class"]
        ∧ ∃ rounds, Request.IsGiven memberReserved ["total", "total_1"] ⟨"total", "_"⟩ "total_2" rounds
          ∧ "total_2" ∉ memberReserved
          ∧ IsWordy "total_2" := by
  have hnames : Scope.addAll ⟨memberReserved, []⟩ [⟨"total", "_"⟩, ⟨"total_1", "_"⟩, ⟨"total", "_"⟩, ⟨"class", ""⟩] =
      ["total", "total_1", "total_2", "class"] := by decide
  refine ⟨hnames, ?_⟩
  obtain ⟨-, -, -, hgiven⟩ := addAll_fresh memberReserved
    [⟨"total", "_"⟩, ⟨"total_1", "_"⟩, ⟨"total", "_"⟩, ⟨"class", ""⟩]
  obtain ⟨-, name, later, rounds, hname, h, hlegal⟩ := hgiven [⟨"total", "_"⟩, ⟨"total_1", "_"⟩] ⟨"total", "_"⟩
    [⟨"class", ""⟩] rfl
  have hearlier : Scope.addAll ⟨memberReserved, []⟩ [⟨"total", "_"⟩, ⟨"total_1", "_"⟩] = ["total", "total_1"] := by
    decide
  rw [hnames] at hname
  rw [hearlier] at hname h
  change ["total", "total_1"] ++ ["total_2", "class"] = _ at hname
  obtain rfl : "total_2" = name := (List.cons.inj (List.append_cancel_left hname)).1
  exact ⟨rounds, h, hlegal rfl rfl⟩

end Scope

end XmlBinding
