import XmlBinding.Pattern.Reader
import XmlBinding.Proofs.Except
import XmlBinding.Proofs.Pattern.Shift

/-!
This module contains how the reading of a pattern compares with its reading inside of a longer text, where other
groups and names were read before it and where an alternative may follow.
-/

namespace XmlBinding.Pattern

variable {α β : Type}

theorem run_bind_eq_ok_iff {m : ReadM α} {f : α → ReadM β} {s u : Reading} {y : β}
    : (m >>= f).run s = .ok (y, u) ↔ ∃ x t, m.run s = .ok (x, t) ∧ (f x).run t = .ok (y, u) := by
  rw [StateT.run_bind]
  rw [bind_eq_ok_iff]
  rw [Prod.exists]

/-! ### One state of a reading after another -/

namespace Reading

/-- There is a backslash without a character after it, and something before it. -/
def EndsDangling (r : Reading) : Prop :=
  r.tokens.head? ≠ some .dangling ∧ .dangling ∈ r.tokens

/-- What every step of the reader preserves. -/
structure Later (s t : Reading) : Prop where
  tokens : t.tokens <:+ s.tokens
  names : s.names <+: t.names
  numbered : (∀ n ∈ s.names, 0 < n.2) → ∀ n ∈ t.names, 0 < n.2
  conditions : s.conditions <+: t.conditions
  flags : s.flags <+: t.flags
  behind : t.behindStart? = s.behindStart?
  dangling : s.EndsDangling → t.EndsDangling

namespace Later

variable {s t u : Reading}

theorem refl (s : Reading) : s.Later s :=
  ⟨List.suffix_rfl, List.prefix_rfl, id, List.prefix_rfl, List.prefix_rfl, rfl, id⟩

theorem trans (h : s.Later t) (h' : t.Later u) : s.Later u :=
  ⟨h'.tokens.trans h.tokens, h.names.trans h'.names, h'.numbered ∘ h.numbered, h.conditions.trans h'.conditions,
    h.flags.trans h'.flags, h'.behind.trans h.behind, h'.dangling ∘ h.dangling⟩

theorem length_le (h : s.Later t) : t.tokens.length ≤ s.tokens.length :=
  h.tokens.length_le

end Later

end Reading

/-! ### Frames -/

/-- Whether a character of an escape and what follows it refer to a group by number. Three octal digits stand for
a character. -/
def isGroupNumber (c : Char) (rest : List Token) : Bool :=
  '1' ≤ c && c ≤ '9' &&
    match rest with
    | .plain d :: .plain e :: _ => !(isOctal c && isOctal d && isOctal e)
    | _ => true

def refersByNumber : List Token → Bool
  | [] => false
  | .escaped c :: rest => isGroupNumber c rest || refersByNumber rest
  | _ :: rest => refersByNumber rest

/-- What stands around a pattern in a longer text: the groups and names before it, and what follows it. -/
structure Frame where
  groups : List (Option (Nat × Nat))
  names : List (String × Nat)
  rest : List Token
  barred : ∀ t, rest.head? = some t → t = .plain '|'

namespace Frame

variable (F : Frame) {s t u s' : Reading}

/-- The number of groups before the pattern. -/
def count : Nat :=
  F.groups.length

theorem count_eq_zero (h : F.groups = []) : F.count = 0 :=
  congrArg List.length h

/-- A number of the pattern counts on from the groups before it. -/
theorem add_count_sub_one {index : Nat} (h : 0 < index)
    : index + F.count - 1 = F.groups.length + (index - 1) := by
  unfold count
  omega

/-- The pattern, from this state on, can stand behind the groups of the frame. -/
structure Fits (s : Reading) : Prop where
  numbered : ∀ n ∈ s.names, 0 < n.2
  numbers : F.groups = [] ∨ refersByNumber s.tokens = false

/-- What the reader knows of the pattern does not clash with the frame. -/
structure Admits (s : Reading) : Prop where
  flags : s.flags = []
  conditions : F.groups = [] ∨ s.conditions = []
  names : ∀ n ∈ s.names, ∀ n' ∈ F.names, n.1 ≠ n'.1

/-- The state `s'` inside of the frame comes from the state `s`. -/
structure Agrees (s s' : Reading) : Prop where
  tokens : s'.tokens = s.tokens ++ F.rest
  groups : s'.groups = F.groups ++ s.groups
  names : s'.names = F.names ++ s.names.map fun n => (n.1, n.2 + F.count)
  behind : s'.behindStart? = s.behindStart?.map (· + F.count)
  conditions : ∀ c' ∈ s'.conditions, c'.1 ≤ F.count ∨ ∃ c ∈ s.conditions, c'.1 = c.1 + F.count
  flags : s'.flags = []

variable {F}

theorem refersByNumber_of_suffix {ts us : List Token} (h : us <:+ ts) (hts : refersByNumber ts = false)
    : refersByNumber us = false := by
  induction ts with
  | nil =>
    rw [List.suffix_nil.mp h]
    rfl
  | cons t ts ih =>
    obtain rfl | h := List.suffix_cons_iff.mp h
    . exact hts
    . refine ih h ?_
      cases t with
      | escaped c => exact (Bool.or_eq_false_iff.mp hts).2
      | plain c => exact hts
      | dangling => exact hts

theorem Fits.of_later (h : F.Fits s) (hst : s.Later t) : F.Fits t :=
  ⟨hst.numbered h.numbered, h.numbers.imp_right (refersByNumber_of_suffix hst.tokens)⟩

theorem Admits.of_later (h : F.Admits t) (hst : s.Later t) : F.Admits s where
  flags := List.prefix_nil.mp (h.flags ▸ hst.flags)
  conditions := h.conditions.imp_right fun ht : t.conditions = [] => List.prefix_nil.mp (ht ▸ hst.conditions)
  names := fun n hn => h.names n (hst.names.subset hn)

theorem exists_agrees (F : Frame) (s : Reading) : ∃ s', F.Agrees s s' :=
  ⟨⟨[], s.tokens ++ F.rest, 0, F.groups ++ s.groups, F.names ++ s.names.map fun n => (n.1, n.2 + F.count),
    s.behindStart?.map (· + F.count), [], []⟩, rfl, rfl, rfl, rfl, by simp, rfl⟩

theorem Agrees.length (h : F.Agrees s s') : s'.tokens.length = s.tokens.length + F.rest.length := by
  rw [h.tokens]
  rw [List.length_append]

end Frame

/-! ### Readings that follow one another -/

/-- What is expected of the state at the end of a reading; it then holds of all states before. -/
structure Outlook where
  holds : Reading → Prop
  early : ∀ {s t : Reading}, s.Later t → holds t → holds s
  of_behind : ∀ {s : Reading} {start? : Option Nat}, holds { s with behindStart? := start? } → holds s

namespace Outlook

def any : Outlook :=
  ⟨fun _ => True, fun _ _ => trivial, fun _ => trivial⟩

/-- More of the pattern is still to come. -/
def inside (o : Outlook) : Outlook where
  holds r := o.holds r ∧ r.tokens ≠ []
  early := by
    rintro s t hst ⟨hholds, htokens⟩
    refine ⟨o.early hst hholds, fun hs => htokens ?_⟩
    exact List.suffix_nil.mp (hs ▸ hst.tokens)
  of_behind h := ⟨o.of_behind h.1, h.2⟩

end Outlook

/-- How a result changes where groups stand in front, and what holds of it and the state that comes with it. -/
structure Renumbering (α : Type) where
  move : α → α
  valid : α → Reading → Prop

def Renumbering.same {α : Type} : Renumbering α :=
  ⟨id, fun _ _ => True⟩

namespace Frame

/-- Nodes, with their groups behind those of the frame. -/
def node (F : Frame) : Renumbering Node :=
  ⟨Node.shift F.count, fun n _ => n.IsNumbered⟩

def nodes (F : Frame) : Renumbering (List Node) :=
  ⟨List.map (Node.shift F.count), fun ns _ => ∀ n ∈ ns, n.IsNumbered⟩

/-- Numbers of groups. -/
def number (F : Frame) : Renumbering Nat :=
  ⟨(· + F.count), fun index _ => 0 < index⟩

def outlook (F : Frame) : Outlook :=
  ⟨F.Admits, fun hst ht => ht.of_later hst, fun h => ⟨h.flags, h.conditions, h.names⟩⟩

/-- Where `m` reads something from `s` on, and `o` holds at its end, `m'` reads the same inside of the frame. -/
def Follows (F : Frame) (o : Outlook) (s : Reading) (v : Renumbering α) (m m' : ReadM α) : Prop :=
  F.Fits s → ∀ x t, m.run s = .ok (x, t) →
    s.Later t ∧ v.valid x t ∧
      ∀ s', F.Agrees s s' → o.holds t → ∃ t', m'.run s' = .ok (v.move x, t') ∧ F.Agrees t t'

namespace Follows

variable {F : Frame} {o o' : Outlook} {s t : Reading} {v : Renumbering α} {w : Renumbering β} {m m' : ReadM α}

theorem pure {x y : α} (hx : v.valid x s) (hy : y = v.move x) : F.Follows o s v (pure x) (pure y) := by
  rintro - _ _ hrun
  cases hrun
  refine ⟨.refl s, hx, fun s' hs _ => ⟨s', ?_, hs⟩⟩
  rw [hy]
  rfl

theorem pure_same (x : α) : F.Follows o s .same (Pure.pure x) (Pure.pure x) :=
  pure trivial rfl

theorem bind {f f' : α → ReadM β} (hm : F.Follows o s v m m')
    (hf : ∀ x t, m.run s = .ok (x, t) → s.Later t → v.valid x t → F.Follows o t w (f x) (f' (v.move x)))
    : F.Follows o s w (m >>= f) (m' >>= f') := by
  intro hfits y u hrun
  obtain ⟨x, t, hx, hy⟩ := run_bind_eq_ok_iff.mp hrun
  obtain ⟨hst, hvalid, hm⟩ := hm hfits x t hx
  obtain ⟨htu, hvalid', hf⟩ := hf x t hx hst hvalid (hfits.of_later hst) y u hy
  refine ⟨hst.trans htu, hvalid', fun s' hs hu => ?_⟩
  obtain ⟨t', hx', ht⟩ := hm s' hs (o.early htu hu)
  obtain ⟨u', hy', hu⟩ := hf t' ht hu
  exact ⟨u', run_bind_eq_ok_iff.mpr ⟨_, t', hx', hy'⟩, hu⟩

theorem of_error (h : ∀ x t, m.run s ≠ .ok (x, t)) : F.Follows o s v m m' :=
  fun _ x t hrun => absurd hrun (h x t)

theorem throw (e : Error) : F.Follows o s v (throw e) m' :=
  of_error fun _ _ h => nomatch h

theorem fail (cause : Cause) (offset : Nat) : F.Follows o s v (fail cause offset) m' :=
  of_error fun _ _ h => nomatch h

theorem fail_bind (cause : Cause) (offset : Nat) {f : β → ReadM α}
    : F.Follows o s v (Pattern.fail cause offset >>= f) m' :=
  of_error fun _ _ h => nomatch h

theorem ite {c : Prop} [Decidable c] {n n' : ReadM α} (hm : c → F.Follows o s v m m')
    (hn : ¬c → F.Follows o s v n n')
    : F.Follows o s v (if c then m else n) (if c then m' else n') := by
  by_cases hc : c
  . rw [if_pos hc, if_pos hc]
    exact hm hc
  . rw [if_neg hc, if_neg hc]
    exact hn hc

/-- What comes after a choice is shown once. -/
theorem ite_bind {c : Prop} [Decidable c] {n n' : ReadM α} {f f' : α → ReadM β} (hm : c → F.Follows o s v m m')
    (hn : ¬c → F.Follows o s v n n')
    (hf : ∀ x t, s.Later t → v.valid x t → F.Follows o t w (f x) (f' (v.move x)))
    : F.Follows o s w (if c then m >>= f else n >>= f) (if c then m' >>= f' else n' >>= f') :=
  .ite (fun hc => (hm hc).bind fun x t _ => hf x t) fun hc => (hn hc).bind fun x t _ => hf x t

/-- What is expected of the end may be used at the start. -/
theorem of_outlook {n' : ReadM α} (hn : F.Follows o s v m n') (h : o.holds s → F.Follows o s v m m')
    : F.Follows o s v m m' := by
  intro hfits x t hrun
  obtain ⟨hst, hvalid, -⟩ := hn hfits x t hrun
  exact ⟨hst, hvalid, fun s' hs ht => (h (o.early hst ht) hfits x t hrun).2.2 s' hs ht⟩

/-- What the end is known to be may be used for what is read inside of the frame. -/
theorem of_end {n' : ReadM α} (hn : F.Follows o s v m n')
    (h : ∀ x t, m.run s = .ok (x, t) → o.holds t → m' = n')
    : F.Follows o s v m m' := by
  intro hfits x t hrun
  obtain ⟨hst, hvalid, hn⟩ := hn hfits x t hrun
  refine ⟨hst, hvalid, fun s' hs ht => ?_⟩
  rw [h x t hrun ht]
  exact hn s' hs ht

theorem of_not_holds {n' : ReadM α} (hn : F.Follows o' s v m n') (h : ¬o.holds s) : F.Follows o s v m m' := by
  intro hfits x t hrun
  obtain ⟨hst, hvalid, -⟩ := hn hfits x t hrun
  exact ⟨hst, hvalid, fun s' _ ht => absurd (o.early hst ht) h⟩

theorem of_fits (h : F.Fits s → F.Follows o s v m m') : F.Follows o s v m m' :=
  fun hfits => h hfits hfits

theorem get_bind {f f' : Reading → ReadM α} (h : ∀ s', F.Agrees s s' → F.Follows o s v (f s) (f' s'))
    : F.Follows o s v (get >>= f) (get >>= f') := by
  intro hfits x t hrun
  obtain ⟨s₀, hs₀⟩ := F.exists_agrees s
  obtain ⟨hst, hvalid, -⟩ := h s₀ hs₀ hfits x t hrun
  exact ⟨hst, hvalid, fun s' hs ht => (h s' hs hfits x t hrun).2.2 s' hs ht⟩

theorem set {u u' : Reading} (hu : s.Later u) (h : o.holds u → F.Agrees u u')
    : F.Follows o s .same (set u : ReadM Unit) (set u' : ReadM Unit) := by
  rintro - _ _ hrun
  cases hrun
  exact ⟨hu, trivial, fun s' _ ho => ⟨u', rfl, h ho⟩⟩

theorem modify {f f' : Reading → Reading} (hf : s.Later (f s))
    (h : ∀ s', F.Agrees s s' → o.holds (f s) → F.Agrees (f s) (f' s'))
    : F.Follows o s .same (modify f : ReadM Unit) (modify f' : ReadM Unit) := by
  rintro - _ _ hrun
  cases hrun
  exact ⟨hf, trivial, fun s' hs ho => ⟨f' s', rfl, h s' hs ho⟩⟩

end Follows

end Frame

/-! ### Tokens -/

namespace Reading

/-- The state behind the first token, where that is `t`. -/
def next (s : Reading) (t : Token) (rest : List Token) : Reading :=
  { s with tokens := rest, position := s.position + t.text.length }

theorem Later.next {s : Reading} {t : Token} {rest : List Token} (hs : s.tokens = t :: rest)
    (hrest : rest.head? ≠ some .dangling)
    : s.Later (s.next t rest) where
  tokens := hs ▸ List.suffix_cons t rest
  names := List.prefix_rfl
  numbered := id
  conditions := List.prefix_rfl
  flags := List.prefix_rfl
  behind := rfl
  dangling := by
    rintro ⟨hhead, hmem⟩
    rw [hs] at hhead hmem
    refine ⟨hrest, (List.mem_cons.mp hmem).resolve_left fun ht => hhead ?_⟩
    rw [ht]
    rfl

end Reading

theorem run_refuseDangling (s : Reading)
    : refuseDangling.run s =
        if s.tokens.head? = some .dangling then .error (s.error .danglingEscape 0) else .ok ((), s) := by
  change (if (s.tokens.head? == some .dangling) = true then fail .danglingEscape 0 else pure () : ReadM Unit).run s = _
  simp only [beq_iff_eq]
  split <;> rfl

theorem run_advance_of_nil {s : Reading} (hs : s.tokens = []) : advance.run s = .ok ((), s) := by
  obtain ⟨text, tokens, position, groups, names, behind, conditions, flags⟩ := s
  obtain rfl : tokens = [] := hs
  rfl

theorem run_advance {s : Reading} {t : Token} {rest : List Token} (hs : s.tokens = t :: rest)
    : advance.run s =
        if rest.head? = some .dangling then .error ((s.next t rest).error .danglingEscape 0)
        else .ok ((), s.next t rest) := by
  obtain ⟨text, tokens, position, groups, names, behind, conditions, flags⟩ := s
  obtain rfl : tokens = t :: rest := hs
  exact run_refuseDangling _

theorem run_accept_of_ne {s : Reading} {c : Char} (hs : s.tokens.head? ≠ some (.plain c))
    : (accept c).run s = .ok (false, s) := by
  refine run_bind_eq_ok_iff.mpr ⟨s.tokens.head?, s, rfl, ?_⟩
  rw [if_neg (by simpa using hs)]
  rfl

theorem run_accept {s : Reading} {c : Char} {rest : List Token} (hs : s.tokens = .plain c :: rest)
    : (accept c).run s =
        if rest.head? = some .dangling then .error ((s.next (.plain c) rest).error .danglingEscape 0)
        else .ok (true, s.next (.plain c) rest) := by
  have hrun : (accept c).run s = (advance.run s).map fun (_, u) => (true, u) := by
    unfold accept
    rw [StateT.run_bind]
    change (if (s.tokens.head? == some (.plain c)) = true then _ else _ : ReadM Bool).run s = _
    rw [if_pos (by simp [hs])]
    rw [StateT.run_bind]
    exact bind_ok_eq_map
  rw [hrun]
  rw [run_advance hs]
  split <;> rfl

namespace Frame

variable {F : Frame} {o : Outlook} {s s' u : Reading} {v : Renumbering α} {t : Token} {rest : List Token}

theorem head?_ne_dangling (hrest : rest.head? ≠ some .dangling) : (rest ++ F.rest).head? ≠ some .dangling := by
  cases rest with
  | cons t rest => exact hrest
  | nil =>
    intro h
    cases F.barred _ h

theorem Agrees.next (h : F.Agrees s s') : F.Agrees (s.next t rest) (s'.next t (rest ++ F.rest)) :=
  ⟨rfl, h.groups, h.names, h.behind, h.conditions, h.flags⟩

namespace Follows

theorem advance_bind {f f' : Unit → ReadM α} (hs : s.tokens = t :: rest)
    (h : ∀ u, u.tokens = rest → s.Later u → F.Follows o u v (f ()) (f' ()))
    : F.Follows o s v (advance >>= f) (advance >>= f') := by
  intro hfits y z hrun
  obtain ⟨_, u, hu, hy⟩ := run_bind_eq_ok_iff.mp hrun
  rw [run_advance hs] at hu
  by_cases hrest : rest.head? = some .dangling
  . rw [if_pos hrest] at hu
    cases hu
  rw [if_neg hrest] at hu
  cases hu
  have hlater := Reading.Later.next hs hrest
  obtain ⟨hz, hvalid, h⟩ := h _ rfl hlater (hfits.of_later hlater) y z hy
  refine ⟨hlater.trans hz, hvalid, fun s' hs' ho => ?_⟩
  obtain ⟨z', hy', hz'⟩ := h _ hs'.next ho
  refine ⟨z', run_bind_eq_ok_iff.mpr ⟨(), _, ?_, hy'⟩, hz'⟩
  have htokens : s'.tokens = t :: (rest ++ F.rest) := by
    rw [hs'.tokens, hs]
    rfl
  rw [run_advance htokens]
  rw [if_neg (head?_ne_dangling hrest)]

theorem peek_bind {f f' : Option Token → ReadM α}
    (hnone : s.tokens = [] → F.Follows o s v (f none) (f' F.rest.head?))
    (hsome : ∀ t rest, s.tokens = t :: rest → F.Follows o s v (f (some t)) (f' (some t)))
    : F.Follows o s v (peek >>= f) (peek >>= f') := by
  have hpeek (f : Option Token → ReadM α) : (peek >>= f) = get >>= fun r => f r.tokens.head? := by
    simp only [peek, bind_assoc, pure_bind]
  rw [hpeek f]
  rw [hpeek f']
  refine get_bind fun s' hs' => ?_
  rw [hs'.tokens]
  cases htokens : s.tokens with
  | nil => exact hnone htokens
  | cons t rest => exact hsome t rest htokens

theorem take_bind {f f' : Option Token → ReadM α}
    (hnone : s.tokens = [] → ∀ m', F.Follows o s v (f none) m')
    (hsome : ∀ t rest u, s.tokens = t :: rest → u.tokens = rest → s.Later u →
      F.Follows o u v (f (some t)) (f' (some t)))
    : F.Follows o s v (take >>= f) (take >>= f') := by
  have htake (f : Option Token → ReadM α) : (take >>= f) = peek >>= fun t => advance >>= fun _ => f t := by
    simp only [take, bind_assoc, pure_bind]
  rw [htake f]
  rw [htake f']
  refine peek_bind (fun hs => ?_) fun t rest hs => ?_
  . intro hfits x u hrun
    obtain ⟨_, s₁, hs₁, hx⟩ := run_bind_eq_ok_iff.mp hrun
    rw [run_advance_of_nil hs] at hs₁
    cases hs₁
    exact hnone hs _ hfits x u hx
  . exact advance_bind hs fun u hu hlater => hsome t rest u hs hu hlater

theorem accept_bind {c : Char} {f f' : Bool → ReadM α} (hc : c ≠ '|' ∨ ∀ r, o.holds r → r.tokens ≠ [])
    (htrue : ∀ rest u, s.tokens = .plain c :: rest → u.tokens = rest → s.Later u →
      F.Follows o u v (f true) (f' true))
    (hfalse : F.Follows o s v (f false) (f' false))
    : F.Follows o s v (accept c >>= f) (accept c >>= f') := by
  have haccept (f : Bool → ReadM α) : (accept c >>= f) =
      peek >>= fun t => if t = some (.plain c) then advance >>= fun _ => f true else f false := by
    simp only [accept, bind_assoc, beq_iff_eq]
    congr
    funext t
    split <;> simp only [bind_assoc, pure_bind]
  rw [haccept f]
  rw [haccept f']
  refine peek_bind (fun hs => ?_) fun t rest hs => ?_
  . rw [if_neg (by simp)]
    obtain hc | ho := hc
    . rw [if_neg fun h => hc (Token.plain.inj (F.barred _ h))]
      exact hfalse
    . exact hfalse.of_outlook fun h => absurd hs (ho s h)
  . refine ite (fun ht => ?_) fun _ => hfalse
    obtain rfl := Option.some.inj ht
    exact advance_bind hs fun u hu hlater => htrue rest u hs hu hlater

theorem accept {c : Char} (hc : c ≠ '|' ∨ ∀ r, o.holds r → r.tokens ≠ [])
    : F.Follows o s .same (accept c) (accept c) := by
  rw [← bind_pure (Pattern.accept c)]
  exact accept_bind hc (fun _ _ _ _ _ => .pure_same _) (.pure_same _)

end Follows

end Frame

end XmlBinding.Pattern
