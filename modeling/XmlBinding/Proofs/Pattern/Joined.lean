import XmlBinding.Proofs.Pattern.Nested

/-!
This module contains that patterns joined by bars are read as the alternatives that they are one by one, unless they
are patterns that cannot stand in one expression.
-/

namespace XmlBinding.Pattern

open Pattern.Frame

/-! ### A further alternative -/

/-- The alternatives of `a`, and `b?` after them. -/
inductive Appended (b? : Option Node) : Node → Node → Prop
  | done (a : Node) : b? = none → Appended b? a a
  | last (a b : Node) : b? = some b → Appended b? a (.alt a b)
  | alt {a a' : Node} (first : Node) : Appended b? a a' → Appended b? (.alt first a) (.alt first a')

namespace Appended

variable {b? : Option Node} {a a' : Node}

theorem isSome_run_alt (a b : Node) (k : Rest) (c : Cursor)
    : ((Node.alt a b).run k c).isSome ↔ (a.run k c).isSome ∨ (b.run k c).isSome := by
  simp only [Node.run]
  cases a.run k c with
  | none => simp
  | some found => simp

theorem isSome_run (h : Appended b? a a') (k : Rest) (c : Cursor)
    : (a'.run k c).isSome ↔ (a.run k c).isSome ∨ ∃ b ∈ b?, (b.run k c).isSome := by
  induction h with
  | done a hb => simp [hb]
  | last a b hb => simp [hb, isSome_run_alt]
  | alt first _ ih =>
    rw [isSome_run_alt, isSome_run_alt]
    rw [ih]
    exact or_assoc.symm

theorem flaw? (h : Appended b? a a') {plainOnly : Bool} (ha : a.flaw? plainOnly = none)
    (hb : ∀ b ∈ b?, b.flaw? plainOnly = none)
    : a'.flaw? plainOnly = none := by
  induction h with
  | done => exact ha
  | last a b heq =>
    simp only [Node.flaw?, ha]
    exact hb b heq
  | alt first _ ih =>
    simp only [Node.flaw?] at ha ⊢
    cases hfirst : first.flaw? plainOnly with
    | some cause =>
      rw [hfirst] at ha
      cases ha
    | none =>
      rw [hfirst] at ha
      exact ih ha

end Appended

/-! ### Whole patterns -/

/-- What is checked once a whole text is read. -/
structure AtEnd (root : Node) (t : Reading) : Prop where
  flags : (t.flags.contains .ascii && t.flags.contains .unicode) = false
  tokens : t.tokens = []
  conditions : t.conditions.find? (t.groups.length < ·.1) = none
  flaw : root.flaw? (t.flags.contains .template) = none

theorem run_readWhole_eq_ok_iff {s t : Reading} {r : Regex}
    : readWhole.run s = .ok (r, t) ↔
        s.tokens.head? ≠ some .dangling ∧
          ∃ root, (alternatives true [] (4 * s.tokens.length + 4) true).run s = .ok (root, t) ∧ AtEnd root t ∧
            r = ⟨root, t.groups.length, t.names⟩ := by
  constructor
  . intro h
    obtain ⟨_, u, hu, h⟩ := run_bind_eq_ok_iff.mp h
    rw [run_refuseDangling] at hu
    split at hu
    . cases hu
    next hhead =>
    cases hu
    obtain ⟨_, _, hget, h⟩ := run_bind_eq_ok_iff.mp h
    cases hget
    obtain ⟨root, u, hroot, h⟩ := run_bind_eq_ok_iff.mp h
    obtain ⟨_, _, hget, h⟩ := run_bind_eq_ok_iff.mp h
    cases hget
    dsimp only at h
    split at h
    . cases h
    next hflags =>
    split at h
    . cases h
    next htokens =>
    split at h
    . cases h
    next hconditions =>
    split at h
    . cases h
    next hflaw =>
    cases h
    exact ⟨hhead, root, hroot, ⟨by simpa using hflags, by simpa using htokens, hconditions, hflaw⟩, rfl⟩
  . rintro ⟨hhead, root, hroot, hend, rfl⟩
    refine run_bind_eq_ok_iff.mpr ⟨(), s, ?_, run_bind_eq_ok_iff.mpr ⟨s, s, rfl, ?_⟩⟩
    . rw [run_refuseDangling]
      rw [if_neg hhead]
    refine run_bind_eq_ok_iff.mpr ⟨root, t, hroot, run_bind_eq_ok_iff.mpr ⟨t, t, rfl, ?_⟩⟩
    dsimp only
    rw [if_neg (by rw [hend.flags]; decide)]
    rw [if_neg (by rw [hend.tokens]; decide)]
    rw [hend.conditions]
    dsimp only
    rw [hend.flaw]
    rfl

/-! ### Alternatives that go on -/

section Continues

variable {F : Frame} {s s' t t₁ u : Reading} {root node other : Node} {n n' : Nat} {flags : List Flag}
variable {first first' : Bool} {rest : List Token}

/-- One alternative, and another one behind a bar or the end. -/
theorem run_alternatives_eq_ok_iff
    : (alternatives true flags (n + 1) first).run s = .ok (root, t) ↔
        ∃ node t₁, (sequence (true && first) flags n []).run s = .ok (node, t₁) ∧
          (t₁.tokens.head? ≠ some (.plain '|') ∧ root = node ∧ t = t₁ ∨
            ∃ rest other, t₁.tokens = .plain '|' :: rest ∧ rest.head? ≠ some .dangling ∧
              (alternatives true t₁.flags n false).run (t₁.next (.plain '|') rest) = .ok (other, t) ∧
              root = .alt node other) := by
  rw [alternatives]
  constructor
  . intro h
    obtain ⟨node, t₁, hnode, h⟩ := run_bind_eq_ok_iff.mp h
    obtain ⟨bar, u, hbar, h⟩ := run_bind_eq_ok_iff.mp h
    refine ⟨node, t₁, hnode, ?_⟩
    by_cases hhead : t₁.tokens.head? = some (.plain '|')
    . obtain ⟨rest, hrest⟩ := List.head?_eq_some_iff.mp hhead
      rw [run_accept hrest] at hbar
      split at hbar
      . cases hbar
      next hdangling =>
      cases hbar
      obtain ⟨_, _, hget, h⟩ := run_bind_eq_ok_iff.mp h
      cases hget
      obtain ⟨other, u, hother, h⟩ := run_bind_eq_ok_iff.mp h
      cases h
      exact .inr ⟨rest, other, hrest, hdangling, hother, rfl⟩
    . rw [run_accept_of_ne hhead] at hbar
      cases hbar
      cases h
      exact .inl ⟨hhead, rfl, rfl⟩
  . rintro ⟨node, t₁, hnode, ⟨hhead, rfl, rfl⟩ | ⟨rest, other, hrest, hdangling, hother, rfl⟩⟩
    . exact run_bind_eq_ok_iff.mpr ⟨_, _, hnode, run_bind_eq_ok_iff.mpr ⟨false, _, run_accept_of_ne hhead, rfl⟩⟩
    . have hbar := run_accept hrest
      rw [if_neg hdangling] at hbar
      refine run_bind_eq_ok_iff.mpr ⟨node, t₁, hnode, run_bind_eq_ok_iff.mpr ⟨true, _, hbar, ?_⟩⟩
      refine run_bind_eq_ok_iff.mpr ⟨_, _, rfl, ?_⟩
      exact run_bind_eq_ok_iff.mpr ⟨other, t, hother, rfl⟩

/-- What the reader finds behind a pattern in a longer text, from the state `t` on: nothing, or another
alternative. -/
inductive Continues (t : Reading) (n : Nat) : List Token → Option Node → Reading → Prop
  | done : Continues t n [] none t
  | bar {rest : List Token} {b : Node} {u : Reading} :
    rest.head? ≠ some .dangling →
    (alternatives true [] n false).run (t.next (.plain '|') rest) = .ok (b, u) →
    Continues t n (.plain '|' :: rest) (some b) u

/-- An alternative that is read from `s` to `t` is read inside of the frame as well. -/
def SequenceFramed (F : Frame) (s t : Reading) (node : Node) : Prop :=
  ∀ s' n first, F.Agrees s s' → 3 * s'.tokens.length + 1 ≤ n →
    ∃ t', (sequence (true && first) [] n []).run s' = .ok (node.shift F.count, t') ∧ F.Agrees t t'

/-- Alternatives that are read from `s` to `t` are read inside of the frame as well, and what follows there goes with
them. -/
def AlternativesFramed (F : Frame) (s t : Reading) (root : Node) : Prop :=
  ∀ s' n first, F.Agrees s s' → 3 * s'.tokens.length + 2 ≤ n →
    ∃ t' m, F.Agrees t t' ∧ 3 * F.rest.length ≤ m + 1 ∧
      ∀ b? u, Continues t' m F.rest b? u →
        ∃ a, Appended b? (root.shift F.count) a ∧ (alternatives true [] n first).run s' = .ok (a, u)

theorem sequenceFramed_of_run (hfits : F.Fits s) (hn : 3 * s.tokens.length + 1 ≤ n)
    (hrun : (sequence (true && first) s.flags n []).run s = .ok (node, t))
    : s.Later t ∧ node.IsNumbered ∧ (F.Admits t → SequenceFramed F s t node) := by
  have hfollows (n' : Nat) (first' : Bool) (hn' : 3 * (s.tokens.length + F.rest.length) + 1 ≤ n')
      : F.Follows F.outlook s F.node (sequence (true && first) s.flags n [])
          (sequence (true && first') s.flags n' []) := by
    refine (F.follows_nested n).1 (fun _ h => h) ?_ (List.forall_mem_nil _) hn hn'
    by_cases hflags : s.flags = []
    . exact .inl hflags
    . exact .inr fun r hr hadmits => absurd (hadmits.of_later hr).flags hflags
  obtain ⟨hlater, hnumbered, -⟩ := hfollows _ true (Nat.le_refl _) hfits node t hrun
  refine ⟨hlater, hnumbered, fun hadmits s' n' first' hs' hn' => ?_⟩
  rw [hs'.length] at hn'
  obtain ⟨-, -, hframed⟩ := hfollows n' first' hn' hfits node t hrun
  rw [(hadmits.of_later hlater).flags] at hframed
  exact hframed s' hs' hadmits

/-- The pattern is over, so what follows is another alternative or nothing. -/
theorem SequenceFramed.alternativesFramed (h : SequenceFramed F s t node) (ht : t.tokens = [])
    : AlternativesFramed F s t node := by
  intro s' n first hs' hn
  obtain ⟨n, rfl⟩ := Nat.exists_eq_add_one_of_ne_zero (n := n) (by omega)
  obtain ⟨t', hnode, ht'⟩ := h s' n first hs' (by omega)
  have htokens : t'.tokens = F.rest := by
    rw [ht'.tokens, ht]
    rfl
  have hlength := hs'.length
  refine ⟨t', n, ht', by omega, fun b? u hcontinues => ?_⟩
  generalize F.rest = rest at hcontinues htokens
  cases hcontinues with
  | done =>
    refine ⟨_, .done _ rfl, run_alternatives_eq_ok_iff.mpr ⟨_, t', hnode, .inl ⟨?_, rfl, rfl⟩⟩⟩
    rw [htokens]
    nofun
  | bar hrest hb =>
    rw [← ht'.flags] at hb
    exact ⟨_, .last _ _ rfl, run_alternatives_eq_ok_iff.mpr ⟨_, t', hnode, .inr ⟨_, _, htokens, hrest, hb, rfl⟩⟩⟩

/-- The pattern goes on itself behind a bar. -/
theorem SequenceFramed.alternativesFramed_of_bar (h : SequenceFramed F s t₁ node)
    (ht₁ : t₁.tokens = .plain '|' :: rest) (hrest : rest.head? ≠ some .dangling)
    (hother : AlternativesFramed F (t₁.next (.plain '|') rest) t other) (hle : t₁.tokens.length ≤ s.tokens.length)
    : AlternativesFramed F s t (.alt node other) := by
  intro s' n first hs' hn
  obtain ⟨n, rfl⟩ := Nat.exists_eq_add_one_of_ne_zero (n := n) (by omega)
  obtain ⟨t₁', hnode, ht₁'⟩ := h s' n first hs' (by omega)
  have htokens : t₁'.tokens = .plain '|' :: (rest ++ F.rest) := by
    rw [ht₁'.tokens, ht₁]
    rfl
  have hfuel : 3 * (rest ++ F.rest).length + 2 ≤ n := by
    have hlength := hs'.length
    rw [ht₁, List.length_cons] at hle
    rw [List.length_append]
    omega
  obtain ⟨t', m, ht', hm, hcontinues⟩ := hother _ n false ht₁'.next hfuel
  refine ⟨t', m, ht', hm, fun b? u hb => ?_⟩
  obtain ⟨a, ha, hrun⟩ := hcontinues b? u hb
  rw [← ht₁'.flags] at hrun
  have hframed := run_alternatives_eq_ok_iff.mpr
    ⟨_, t₁', hnode, .inr ⟨_, a, htokens, head?_ne_dangling hrest, hrun, rfl⟩⟩
  exact ⟨_, .alt _ ha, hframed⟩

/-- The alternatives of a pattern, read where others may follow. -/
theorem alternativesFramed_of_run (hfits : F.Fits s) (hn : 3 * s.tokens.length + 2 ≤ n)
    (hrun : (alternatives true s.flags n first).run s = .ok (root, t))
    : s.Later t ∧ root.IsNumbered ∧ (F.Admits t → t.tokens = [] → AlternativesFramed F s t root) := by
  induction n generalizing s first root with
  | zero => omega
  | succ n ih =>
    obtain ⟨node, t₁, hnode, hrun⟩ := run_alternatives_eq_ok_iff.mp hrun
    obtain ⟨hlater, hnumbered, hframed⟩ := sequenceFramed_of_run hfits (by omega) hnode
    obtain ⟨-, rfl, rfl⟩ | ⟨rest, other, hrest, hdangling, hother, rfl⟩ := hrun
    . exact ⟨hlater, hnumbered, fun hadmits hend => (hframed hadmits).alternativesFramed hend⟩
    . have hnext := Reading.Later.next hrest hdangling
      have hle := hlater.length_le
      have hfuel : 3 * rest.length + 2 ≤ n := by
        rw [hrest, List.length_cons] at hle
        omega
      obtain ⟨hlater', hnumbered', hframed'⟩ := ih (hfits.of_later (hlater.trans hnext)) hfuel hother
      refine ⟨hlater.trans (hnext.trans hlater'), ⟨hnumbered, hnumbered'⟩, fun hadmits hend => ?_⟩
      have hadmits₁ := hadmits.of_later (hnext.trans hlater')
      exact (hframed hadmits₁).alternativesFramed_of_bar hrest hdangling (hframed' hadmits hend) hle

end Continues

/-! ### Patterns that can be joined -/

/-- A pattern that can be read on its own, with what the reader knows at its end. -/
structure Readable where
  pattern : String
  regex : Regex
  final : Reading
  read : readWhole.run (.ofText pattern.toList) = .ok (regex, final)

namespace Readable

variable (p : Readable)

/-- Something in the pattern means the group of a number. -/
def RefersByNumber : Prop :=
  refersByNumber (tokens p.pattern.toList) = true ∨ p.final.conditions ≠ []

/-- The pattern `q` means the same behind `p` and a bar. -/
structure CanPrecede (p q : Readable) : Prop where
  flags : p.final.flags = [] ∧ q.final.flags = []
  names : ∀ n ∈ p.regex.names, ∀ n' ∈ q.regex.names, n.1 ≠ n'.1
  numbers : p.regex.groupCount = 0 ∨ ¬q.RefersByNumber

instance (p : Readable) : Decidable p.RefersByNumber :=
  inferInstanceAs (Decidable (_ ∨ _))

instance (p q : Readable) : Decidable (p.CanPrecede q) :=
  decidable_of_iff
    ((p.final.flags = [] ∧ q.final.flags = []) ∧ (∀ n ∈ p.regex.names, ∀ n' ∈ q.regex.names, n.1 ≠ n'.1) ∧
      (p.regex.groupCount = 0 ∨ ¬q.RefersByNumber))
    ⟨fun h => ⟨h.1, h.2.1, h.2.2⟩, fun h => ⟨h.flags, h.names, h.numbers⟩⟩

def ofIsOk (pattern : String) (h : (readWhole.run (.ofText pattern.toList)).isOk = true) : Readable :=
  match hrun : readWhole.run (.ofText pattern.toList), h with
  | .ok (regex, final), _ => ⟨pattern, regex, final, hrun⟩

theorem head?_tokens : (tokens p.pattern.toList).head? ≠ some .dangling :=
  (run_readWhole_eq_ok_iff.mp p.read).1

theorem read_alternatives
    : (alternatives true [] (4 * (tokens p.pattern.toList).length + 4) true).run (.ofText p.pattern.toList) =
        .ok (p.regex.root, p.final) := by
  obtain ⟨-, root, hroot, -, hregex⟩ := run_readWhole_eq_ok_iff.mp p.read
  rw [hregex]
  exact hroot

theorem atEnd : AtEnd p.regex.root p.final := by
  obtain ⟨-, root, -, hend, hregex⟩ := run_readWhole_eq_ok_iff.mp p.read
  rw [hregex]
  exact hend

theorem groupCount_eq : p.regex.groupCount = p.final.groups.length := by
  obtain ⟨-, root, -, -, hregex⟩ := run_readWhole_eq_ok_iff.mp p.read
  rw [hregex]

theorem names_eq : p.regex.names = p.final.names := by
  obtain ⟨-, root, -, -, hregex⟩ := run_readWhole_eq_ok_iff.mp p.read
  rw [hregex]

theorem conditions_le : ∀ c ∈ p.final.conditions, c.1 ≤ p.final.groups.length := by
  have h := List.find?_eq_none.mp p.atEnd.conditions
  intro c hc
  simpa using h c hc

theorem later : (Reading.ofText p.pattern.toList).Later p.final := by
  have hfits : Frame.Fits ⟨[], [], [], fun _ h => nomatch h⟩ (.ofText p.pattern.toList) :=
    ⟨List.forall_mem_nil _, .inl rfl⟩
  refine (alternativesFramed_of_run hfits ?_ p.read_alternatives).1
  change 3 * (tokens p.pattern.toList).length + 2 ≤ _
  omega

theorem not_mem_tokens : .dangling ∉ tokens p.pattern.toList := by
  intro hmem
  have hend := (p.later.dangling ⟨p.head?_tokens, hmem⟩).2
  rw [p.atEnd.tokens] at hend
  cases hend

end Readable

theorem tokens_cons {c : Char} (hc : c ≠ '\\') (cs : List Char) : tokens (c :: cs) = .plain c :: tokens cs := by
  rw [tokens]
  . exact fun h => absurd h hc
  . exact fun _ _ h => absurd h hc

theorem tokens_append_bar {cs : List Char} (h : .dangling ∉ tokens cs) (ds : List Char)
    : tokens (cs ++ '|' :: ds) = tokens cs ++ .plain '|' :: tokens ds := by
  fun_induction tokens cs with
  | case1 => rfl
  | case2 => simp at h
  | case3 c cs ih =>
    rw [List.mem_cons, not_or] at h
    simp only [List.cons_append, tokens]
    rw [ih h.2]
  | case4 c cs hsingle hescape ih =>
    rw [List.mem_cons, not_or] at h
    have hne : c ≠ '\\' := by
      rintro rfl
      cases cs with
      | nil => exact hsingle rfl rfl
      | cons d cs => exact hescape d cs rfl rfl
    rw [List.cons_append]
    rw [tokens_cons hne]
    rw [ih h.2]
    rfl

/-- The tokens of further patterns, each behind a bar. -/
def following (ps : List Readable) : List Token :=
  ps.flatMap fun q => .plain '|' :: tokens q.pattern.toList

theorem tokens_joined (p : Readable) (ps : List Readable)
    : tokens ("|".intercalate ((p :: ps).map Readable.pattern)).toList =
        tokens p.pattern.toList ++ following ps := by
  induction ps generalizing p with
  | nil =>
    rw [List.map_singleton]
    rw [String.intercalate_singleton]
    exact (List.append_nil _).symm
  | cons q ps ih =>
    have ih := ih q
    rw [List.map_cons] at ih ⊢
    rw [List.map_cons]
    rw [String.intercalate_cons_cons]
    rw [String.toList_append, String.toList_append]
    rw [List.append_assoc]
    rw [show "|".toList = ['|'] from rfl]
    rw [List.singleton_append]
    rw [tokens_append_bar p.not_mem_tokens]
    rw [ih]
    rfl

/-- What stands around a pattern behind what is read up to `s` and before the patterns `ps`. -/
def frameOf (s : Reading) (ps : List Readable) : Frame where
  groups := s.groups
  names := s.names
  rest := following ps
  barred := by
    intro t ht
    cases ps with
    | nil => cases ht
    | cons q ps => exact (Option.some.inj ht).symm

/-- Nothing that was read up to a state changes what the patterns `ps` mean behind it. -/
structure Welcomes (s : Reading) (ps : List Readable) : Prop where
  flags : s.flags = [] ∧ ∀ p ∈ ps, p.final.flags = []
  behind : s.behindStart? = none
  conditions : ∀ c ∈ s.conditions, c.1 ≤ s.groups.length
  names : ∀ p ∈ ps, ∀ n ∈ p.regex.names, ∀ n' ∈ s.names, n.1 ≠ n'.1
  numbers : ∀ p ∈ ps, s.groups = [] ∨ ¬p.RefersByNumber

namespace Welcomes

variable {s t' : Reading} {p : Readable} {ps : List Readable}

theorem fits (h : Welcomes s (p :: ps)) : (frameOf s ps).Fits (.ofText p.pattern.toList) where
  numbered := List.forall_mem_nil _
  numbers := by
    refine (h.numbers p List.mem_cons_self).imp_right fun hnumbers => ?_
    exact Bool.eq_false_iff.mpr fun hrefers => hnumbers (.inl hrefers)

theorem admits (h : Welcomes s (p :: ps)) : (frameOf s ps).Admits p.final where
  flags := h.flags.2 p List.mem_cons_self
  conditions := by
    refine (h.numbers p List.mem_cons_self).imp_right fun hnumbers => ?_
    exact Decidable.of_not_not fun hconditions => hnumbers (.inr hconditions)
  names := by
    rw [← p.names_eq]
    exact h.names p List.mem_cons_self

theorem agrees (h : Welcomes s (p :: ps)) (hs : s.tokens = tokens p.pattern.toList ++ following ps)
    : (frameOf s ps).Agrees (.ofText p.pattern.toList) s where
  tokens := hs
  groups := (List.append_nil _).symm
  names := (List.append_nil _).symm
  behind := h.behind
  conditions := fun c hc => .inl (h.conditions c hc)
  flags := h.flags.1

/-- Behind a pattern that can precede them all, the others are as welcome as before it. -/
theorem tail (h : Welcomes s (p :: ps)) (hp : ∀ q ∈ ps, p.CanPrecede q) (ht : (frameOf s ps).Agrees p.final t')
    : Welcomes t' ps where
  flags := ⟨ht.flags, fun q hq => h.flags.2 q (List.mem_cons_of_mem _ hq)⟩
  behind := by
    rw [ht.behind]
    rw [p.later.behind]
    rfl
  conditions := by
    intro c' hc'
    have hlength := ht.length_groups
    obtain hle | ⟨c, hc, heq⟩ := ht.conditions c' hc'
    . omega
    . have hle := p.conditions_le c hc
      omega
  names := by
    intro q hq n hn n' hn'
    rw [ht.names] at hn'
    obtain hn' | hn' := List.mem_append.mp hn'
    . exact h.names q (List.mem_cons_of_mem _ hq) n hn n' hn'
    . obtain ⟨m, hm, rfl⟩ := List.mem_map.mp hn'
      rw [← p.names_eq] at hm
      exact ((hp q hq).names m hm n hn).symm
  numbers := by
    intro q hq
    rw [ht.groups]
    obtain hgroups | hnot := h.numbers q (List.mem_cons_of_mem _ hq)
    . refine (hp q hq).numbers.imp_left fun hcount => ?_
      rw [p.groupCount_eq] at hcount
      rw [List.eq_nil_of_length_eq_zero hcount]
      exact (List.append_nil _).trans hgroups
    . exact .inr hnot

end Welcomes

/-! ### Joined patterns -/

/-- The reader's result for patterns that stand behind one another: `root` matches where one of them does. -/
structure Alternation (ps : List Readable) (root : Node) (t : Reading) : Prop where
  tokens : t.tokens = []
  flags : t.flags = []
  conditions : ∀ c ∈ t.conditions, c.1 ≤ t.groups.length
  flaw : root.flaw? false = none
  matching : ∀ c : Cursor, c.groups = [] →
    ((root.run some c).isSome ↔ ∃ p ∈ ps, (p.regex.root.run some c).isSome)

theorem isSome_run_shift (n : Node) (k : Nat) {c : Cursor} (hc : c.groups = [])
    : ((n.shift k).run some c).isSome = (n.run some c).isSome := by
  have hshift : c.shift k = c := by
    obtain ⟨before, after, position, groups⟩ := c
    obtain rfl : groups = [] := hc
    rfl
  have hrun := n.carries_run (k := k) Rest.Shifts.some c
  rw [hshift] at hrun
  rw [hrun]
  exact Option.isSome_map

theorem Readable.flaw?_root (p : Readable) (h : p.final.flags = []) : p.regex.root.flaw? false = none := by
  have hflaw := p.atEnd.flaw
  rw [h] at hflaw
  exact hflaw

/-- One pattern is read, and what is found behind it goes with its alternatives. -/
theorem Welcomes.exists_continues {s : Reading} {p : Readable} {ps : List Readable} (h : Welcomes s (p :: ps))
    (hs : s.tokens = tokens p.pattern.toList ++ following ps) {n : Nat} (first : Bool)
    (hn : 3 * s.tokens.length + 2 ≤ n)
    : ∃ t' m, (frameOf s ps).Agrees p.final t' ∧ 3 * (following ps).length ≤ m + 1 ∧
        ∀ b? u, Continues t' m (following ps) b? u →
          ∃ a, Appended b? (p.regex.root.shift (frameOf s ps).count) a ∧
            (alternatives true [] n first).run s = .ok (a, u) := by
  have hfuel : 3 * (Reading.ofText p.pattern.toList).tokens.length + 2 ≤ 4 * (tokens p.pattern.toList).length + 4 := by
    change 3 * (tokens p.pattern.toList).length + 2 ≤ _
    omega
  obtain ⟨-, -, hframed⟩ := alternativesFramed_of_run h.fits hfuel p.read_alternatives
  exact hframed h.admits p.atEnd.tokens s n first (h.agrees hs) hn

theorem head?_tokens_append (q : Readable) (ps : List Readable)
    : (tokens q.pattern.toList ++ following ps).head? ≠ some .dangling :=
  head?_ne_dangling (F := frameOf (.ofText []) ps) q.head?_tokens

theorem exists_alternation {p : Readable} {ps : List Readable} (hps : (p :: ps).Pairwise Readable.CanPrecede)
    {s : Reading} (hs : s.tokens = tokens p.pattern.toList ++ following ps) (h : Welcomes s (p :: ps)) {n : Nat}
    (first : Bool) (hn : 3 * s.tokens.length + 2 ≤ n)
    : ∃ root t, (alternatives true [] n first).run s = .ok (root, t) ∧ Alternation (p :: ps) root t := by
  induction ps generalizing p s n first with
  | nil =>
    obtain ⟨t', m, ht', -, hcontinues⟩ := h.exists_continues hs first hn
    obtain ⟨a, ha, hrun⟩ := hcontinues none t' .done
    have hwelcomes := h.tail (fun q hq => absurd hq List.not_mem_nil) ht'
    refine ⟨a, t', hrun, ?_, ht'.flags, hwelcomes.conditions, ?_, ?_⟩
    . rw [ht'.tokens]
      rw [p.atEnd.tokens]
      rfl
    . refine ha.flaw? ?_ (fun b hb => nomatch hb)
      rw [Node.flaw?_shift]
      exact p.flaw?_root (h.flags.2 p List.mem_cons_self)
    . intro c hc
      rw [ha.isSome_run]
      rw [isSome_run_shift _ _ hc]
      simp
  | cons q ps ih =>
    obtain ⟨hp, hps⟩ := List.pairwise_cons.mp hps
    obtain ⟨t', m, ht', hm, hcontinues⟩ := h.exists_continues hs first hn
    have hwelcomes := h.tail hp ht'
    have hnext : Welcomes (t'.next (.plain '|') (tokens q.pattern.toList ++ following ps)) (q :: ps) :=
      ⟨hwelcomes.flags, hwelcomes.behind, hwelcomes.conditions, hwelcomes.names, hwelcomes.numbers⟩
    have hfuel : 3 * (tokens q.pattern.toList ++ following ps).length + 2 ≤ m := by
      have hlength : (following (q :: ps)).length = (tokens q.pattern.toList ++ following ps).length + 1 := rfl
      omega
    obtain ⟨b, u, hb, halternation⟩ := ih hps rfl hnext false hfuel
    obtain ⟨a, ha, hrun⟩ := hcontinues (some b) u (.bar (head?_tokens_append q ps) hb)
    refine ⟨a, u, hrun, halternation.tokens, halternation.flags, halternation.conditions, ?_, ?_⟩
    . refine ha.flaw? ?_ ?_
      . rw [Node.flaw?_shift]
        exact p.flaw?_root (h.flags.2 p List.mem_cons_self)
      . rintro _ ⟨⟩
        exact halternation.flaw
    . intro c hc
      rw [ha.isSome_run]
      rw [isSome_run_shift _ _ hc]
      simp [halternation.matching c hc]

theorem isSome_searchFrom_nil (r : Regex) (before : List Char) (position : Nat)
    : (r.searchFrom false before [] position).isSome ↔ (r.root.run some ⟨before, [], position, []⟩).isSome := by
  rw [Regex.searchFrom]
  simp only [Bool.false_and, Bool.false_eq_true, if_false]
  cases r.root.run some ⟨before, [], position, []⟩ <;> simp

theorem isSome_searchFrom_cons (r : Regex) (before : List Char) (x : Char) (rest : List Char) (position : Nat)
    : (r.searchFrom false before (x :: rest) position).isSome ↔
        (r.root.run some ⟨before, x :: rest, position, []⟩).isSome ∨
          (r.searchFrom false (x :: before) rest (position + 1)).isSome := by
  rw [Regex.searchFrom]
  simp only [Bool.false_and, Bool.false_eq_true, if_false]
  cases r.root.run some ⟨before, x :: rest, position, []⟩ <;> simp

section

variable {r : Regex} {ps : List Readable}

theorem isSome_searchFrom_iff
    (h : ∀ c : Cursor, c.groups = [] → ((r.root.run some c).isSome ↔ ∃ p ∈ ps, (p.regex.root.run some c).isSome))
    (before after : List Char) (position : Nat)
    : (r.searchFrom false before after position).isSome ↔
        ∃ p ∈ ps, (p.regex.searchFrom false before after position).isSome := by
  induction after generalizing before position with
  | nil =>
    simp only [isSome_searchFrom_nil]
    exact h _ rfl
  | cons x rest ih =>
    simp only [isSome_searchFrom_cons]
    rw [h _ rfl]
    rw [ih]
    simp only [and_or_left, exists_or]

/-- An expression that matches where one of several does occurs where one of them does. -/
theorem occursIn_iff
    (h : ∀ c : Cursor, c.groups = [] → ((r.root.run some c).isSome ↔ ∃ p ∈ ps, (p.regex.root.run some c).isSome))
    (text : List Char)
    : r.occursIn text = ps.any (·.regex.occursIn text) := by
  rw [Bool.eq_iff_iff]
  rw [List.any_eq_true]
  exact isSome_searchFrom_iff h [] text 0

end

theorem read_of_run {text : List Char} {r : Regex} {t : Reading} (h : readWhole.run (.ofText text) = .ok (r, t))
    : Regex.read text = .ok r := by
  unfold Regex.read
  rw [StateT.run'_eq]
  rw [h]
  rfl

theorem Alternation.atEnd {ps : List Readable} {root : Node} {t : Reading} (h : Alternation ps root t)
    : AtEnd root t where
  flags := by
    rw [h.flags]
    rfl
  tokens := h.tokens
  conditions := by
    rw [List.find?_eq_none]
    intro c hc
    simpa using h.conditions c hc
  flaw := by
    rw [h.flags]
    exact h.flaw

/-- More than one pattern can only be joined where none has flags for the whole expression. -/
theorem flags_eq_nil_of_pairwise {p q : Readable} {ps : List Readable}
    (h : (p :: q :: ps).Pairwise Readable.CanPrecede)
    : ∀ r ∈ p :: q :: ps, r.final.flags = [] := by
  have hp := (List.pairwise_cons.mp h).1
  intro r hr
  obtain rfl | hr := List.mem_cons.mp hr
  . exact (hp q List.mem_cons_self).flags.1
  . exact (hp r hr).flags.2

/-- Patterns joined by bars are read, and occur where one of them does. -/
theorem exists_read_joined {ps : List Readable} (hne : ps ≠ []) (hps : ps.Pairwise Readable.CanPrecede)
    : ∃ r, Regex.read ("|".intercalate (ps.map Readable.pattern)).toList = .ok r ∧
        ∀ text, r.occursIn text = ps.any (·.regex.occursIn text) := by
  match ps, hne, hps with
  | [p], _, _ =>
    refine ⟨p.regex, ?_, fun text => ?_⟩
    . rw [List.map_singleton]
      rw [String.intercalate_singleton]
      exact read_of_run p.read
    . rw [List.any_cons]
      exact (Bool.or_false _).symm
  | p :: q :: ps, _, hps =>
    have htokens := tokens_joined p (q :: ps)
    generalize ("|".intercalate ((p :: q :: ps).map Readable.pattern)).toList = text at htokens ⊢
    have hwelcomes : Welcomes (.ofText text) (p :: q :: ps) :=
      ⟨⟨rfl, flags_eq_nil_of_pairwise hps⟩, rfl, List.forall_mem_nil _, fun _ _ _ _ => List.forall_mem_nil _,
        fun _ _ => .inl rfl⟩
    have hfuel : 3 * (Reading.ofText text).tokens.length + 2 ≤ 4 * (Reading.ofText text).tokens.length + 4 := by omega
    obtain ⟨root, t, hrun, halternation⟩ := exists_alternation hps htokens hwelcomes true hfuel
    have hhead : (tokens text).head? ≠ some .dangling := by
      rw [htokens]
      exact head?_tokens_append p (q :: ps)
    have hread := run_readWhole_eq_ok_iff.mpr ⟨hhead, root, hrun, halternation.atEnd, rfl⟩
    exact ⟨_, read_of_run hread, occursIn_iff halternation.matching⟩

end XmlBinding.Pattern
