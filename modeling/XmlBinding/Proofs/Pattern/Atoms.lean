import XmlBinding.Proofs.Pattern.Frame

/-!
This module contains that names, escaped characters, sets, repetitions and flags are read alike wherever a pattern
stands.
-/

namespace XmlBinding.Pattern.Frame

open Text

variable {α : Type} {F : Frame} {o : Outlook} {s : Reading} {v : Renumbering α} {n n' : Nat}

namespace Follows

theorem get_fail {cause : Cause} {offset : Reading → Nat} {m' : ReadM α}
    : F.Follows o s v (do Pattern.fail cause (offset (← MonadState.get))) m' :=
  of_error fun _ _ h => nomatch h

end Follows

/-! ### Runs of characters -/

theorem run_takeWhile_of_not {p : Char → Bool} (h : ∀ c, s.tokens.head? = some (.plain c) → p c = false) (n : Nat)
    : (takeWhile p n).run s = .ok ([], s) := by
  cases n with
  | zero => rfl
  | succ n =>
    obtain ⟨text, tokens, position, groups, names, behind, conditions, flags⟩ := s
    cases tokens with
    | nil => rfl
    | cons t rest =>
      cases t with
      | escaped c | dangling => rfl
      | plain c =>
        change StateT.run (if p c = true then _ else _) _ = _
        rw [if_neg (by simp [h c rfl])]
        rfl

theorem follows_takeWhile_of_nil {p : Char → Bool} (hp : p '|' = false) (hs : s.tokens = [])
    : F.Follows o s .same (takeWhile p n) (takeWhile p n') := by
  intro _ x t hrun
  rw [run_takeWhile_of_not (by simp [hs])] at hrun
  cases hrun
  refine ⟨.refl s, trivial, fun s' hs' _ => ⟨s', run_takeWhile_of_not (fun c hc => ?_) n', hs'⟩⟩
  rw [hs'.tokens, hs] at hc
  obtain rfl := Token.plain.inj (F.barred _ hc)
  exact hp

/-- A run ends alike where both bounds are the same or none counts. -/
theorem follows_takeWhile {p : Char → Bool} (hp : p '|' = false)
    (hn : n = n' ∨ s.tokens.length ≤ n ∧ s.tokens.length ≤ n')
    : F.Follows o s .same (takeWhile p n) (takeWhile p n') := by
  induction n generalizing s n' with
  | zero =>
    obtain rfl | ⟨hs, -⟩ := hn
    . exact .pure_same _
    . exact follows_takeWhile_of_nil hp (List.eq_nil_of_length_eq_zero (Nat.le_zero.mp hs))
  | succ n ih =>
    cases n' with
    | zero =>
      obtain ⟨-, hs⟩ := hn.resolve_left (by omega)
      exact follows_takeWhile_of_nil hp (List.eq_nil_of_length_eq_zero (Nat.le_zero.mp hs))
    | succ n' =>
      by_cases hs : s.tokens = []
      . exact follows_takeWhile_of_nil hp hs
      . refine .peek_bind (fun h => absurd h hs) fun t rest hs => ?_
        cases t with
        | escaped c => exact .pure_same _
        | dangling => exact .pure_same _
        | plain c =>
          refine .ite (fun _ => ?_) fun _ => .pure_same _
          refine .advance_bind hs fun u hu _ => ?_
          rw [hs, List.length_cons] at hn
          rw [← hu] at hn
          exact (ih (by omega)).bind fun cs _ _ _ _ => .pure_same _

theorem follows_takeName_go {stop : Char} {what : String} {name : List Char} (hn : s.tokens.length < n)
    (hn' : s.tokens.length < n')
    : F.Follows o s .same (takeName.go stop what n name) (takeName.go stop what n' name) := by
  induction n generalizing s n' name with
  | zero => omega
  | succ n ih =>
    cases n' with
    | zero => omega
    | succ n' =>
      refine .take_bind (fun _ _ => ?_) fun t rest u hs hu _ => ?_
      . dsimp only
        split
        . exact .fail _ _
        . exact .fail _ _
      . rw [hs, List.length_cons] at hn hn'
        rw [← hu] at hn hn'
        refine .ite (fun _ => .ite (fun _ => .fail _ _) fun _ => .pure_same _) fun _ => ?_
        exact ih (by omega) (by omega)

/-- The fuel for a name is the number of tokens and one. -/
theorem follows_takeName_bind {stop : Char} {what : String} {f f' : List Char → ReadM α}
    (h : ∀ name t, s.Later t → F.Follows o t v (f name) (f' name))
    : F.Follows o s v (do f (← takeName stop what ((← get).tokens.length + 1)))
        (do f' (← takeName stop what ((← get).tokens.length + 1))) := by
  refine .get_bind fun s' hs' => ?_
  rw [hs'.length]
  exact (follows_takeName_go (by omega) (by omega)).bind fun name t _ ht _ => h name t ht

/-! ### Escaped characters -/

theorem follows_badEscape {escape : List Char} {m' : ReadM α} : F.Follows o s v (badEscape escape) m' :=
  .fail _ _

theorem follows_hexEscape (lead : Char) (width : Nat)
    : F.Follows o s .same (hexEscape lead width) (hexEscape lead width) := by
  refine (follows_takeWhile (by decide) (.inl rfl)).bind fun ds t _ _ _ => ?_
  exact .ite (fun _ => .fail _ _) fun _ => .ite (fun _ => follows_badEscape) fun _ => .pure_same _

theorem follows_namedEscape : F.Follows o s .same namedEscape namedEscape := by
  refine .accept_bind (.inl (by decide)) (fun _ u _ _ _ => ?_) (.fail _ _)
  exact follows_takeName_bind fun _ _ _ => .fail _ _

theorem follows_octalCode (escape : List Char) : F.Follows o s .same (octalCode escape) (octalCode escape) :=
  .ite (fun _ => .fail _ _) fun _ => .pure_same _

theorem follows_codeEscape {c : Char} {read : ReadM Nat} (h : codeEscape? c = some read)
    : F.Follows o s .same read read := by
  unfold codeEscape? at h
  split at h
  . obtain rfl := Option.some.inj h
    exact follows_hexEscape 'x' 2
  split at h
  . obtain rfl := Option.some.inj h
    exact follows_hexEscape 'u' 4
  split at h
  . obtain rfl := Option.some.inj h
    exact follows_hexEscape 'U' 8
  split at h
  . obtain rfl := Option.some.inj h
    exact follows_namedEscape
  . cases h

theorem follows_selfEscape (c : Char) : F.Follows o s .same (selfEscape c) (selfEscape c) :=
  .ite (fun _ => follows_badEscape) fun _ => .pure_same _

/-! ### Sets -/

theorem follows_setEscape (c : Char) : F.Follows o s .same (setEscape c) (setEscape c) := by
  unfold setEscape
  split
  . exact .pure_same _
  . exact .pure_same _
  next read hread => exact (follows_codeEscape hread).bind fun _ _ _ _ _ => .pure_same _
  . refine .ite (fun _ => ?_) fun _ => .ite (fun _ => follows_badEscape) fun _ => ?_
    . refine (follows_takeWhile (by decide) (.inl rfl)).bind fun ds t _ _ _ => ?_
      exact (follows_octalCode _).bind fun _ _ _ _ _ => .pure_same _
    . exact (follows_selfEscape c).bind fun _ _ _ _ _ => .pure_same _

theorem follows_setItem (t : Token) : F.Follows o s .same (setItem t) (setItem t) := by
  cases t with
  | plain c => exact .pure_same _
  | escaped c => exact follows_setEscape c
  | dangling => exact .fail _ _

theorem follows_setItems_go {start start' : Nat} {items : List SetItem} (hn : s.tokens.length < n)
    (hn' : s.tokens.length < n')
    : F.Follows o s .same (setItems.go start n items) (setItems.go start' n' items) := by
  induction n generalizing s n' items with
  | zero => omega
  | succ n ih =>
    cases n' with
    | zero => omega
    | succ n' =>
      refine .take_bind (fun _ _ => .get_fail) fun first rest u hs hu _ => ?_
      rw [hs, List.length_cons] at hn hn'
      rw [← hu] at hn hn'
      refine .ite (fun _ => .pure_same _) fun _ => ?_
      refine (follows_setItem first).bind fun item t _ ht _ => ?_
      have hlength := ht.length_le
      refine .accept_bind (.inl (by decide)) (fun rest₁ u₁ _ hu₁ hlater₁ => ?_) (ih (by omega) (by omega))
      refine .take_bind (fun _ _ => .get_fail) fun last rest₂ u₂ _ hu₂ hlater₂ => ?_
      refine .ite (fun _ => .pure_same _) fun _ => ?_
      refine (follows_setItem last).bind fun other t' _ ht' _ => ?_
      have hlength₁ := hlater₁.length_le
      have hlength₂ := hlater₂.length_le
      have hlength' := ht'.length_le
      dsimp only [Renumbering.same, id]
      split
      . exact .ite (fun _ => .fail _ _) fun _ => ih (by omega) (by omega)
      . exact .fail _ _

theorem follows_readSet (flags : List Flag) : F.Follows o s F.node (readSet flags) (readSet flags) := by
  refine .get_bind fun s' _ => ?_
  refine (Follows.accept (.inl (by decide))).bind fun negated t _ _ _ => ?_
  refine .get_bind fun t' ht' => ?_
  rw [ht'.length]
  exact (follows_setItems_go (by omega) (by omega)).bind fun _ _ _ _ _ => .pure trivial rfl

/-! ### Repetitions -/

theorem follows_repetitionBound (ds : List Char)
    : F.Follows o s .same (repetitionBound ds) (repetitionBound ds) := by
  unfold repetitionBound
  split
  . exact .throw _
  . exact .ite (fun _ => .throw _) fun _ => .pure_same _

/-- The digits before and after the comma between braces, and whether the braces are closed. -/
def braceParts (count : Nat) : ReadM (List Char × List Char × Bool) := do
  let low ← takeWhile Char.isDigit count
  let high ← if ← accept ',' then takeWhile Char.isDigit count else pure low
  return (low, high, ← accept '\x7d')

def boundsOf (start : Nat) (low high : List Char) : ReadM (Option Bounds) := do
  let least ← if low.isEmpty then pure 0 else repetitionBound low
  if high.isEmpty then
    return some ⟨least, none⟩
  else
    let most ← repetitionBound high
    if most < least then
      fail .repeatBoundsSwapped ((← get).position - start)
    else
      return some ⟨least, some most⟩

theorem braceBounds?_eq
    : braceBounds? = do
        let before ← get
        if before.tokens.head? == some (.plain '\x7d') then
          return none
        else
          let (low, high, closed) ← braceParts before.tokens.length
          if closed then
            boundsOf before.position low high
          else
            set before
            return none := by
  unfold braceBounds? braceParts boundsOf
  simp only [bind_assoc, pure_bind]
  congr
  funext before
  split
  . rfl
  . congr
    funext low
    congr
    funext comma
    cases comma with
    | true => simp only [if_true, bind_assoc, pure_bind]
    | false => simp only [Bool.false_eq_true, if_false, bind_assoc, pure_bind]

theorem follows_braceParts (hn : s.tokens.length ≤ n) (hn' : s.tokens.length ≤ n')
    : F.Follows o s .same (braceParts n) (braceParts n') := by
  refine (follows_takeWhile (by decide) (.inr ⟨hn, hn'⟩)).bind fun low t _ ht _ => ?_
  refine (Follows.accept (.inl (by decide))).bind fun comma u _ hu _ => ?_
  have hlength := (ht.trans hu).length_le
  refine .ite_bind (fun _ => follows_takeWhile (by decide) (.inr ⟨by omega, by omega⟩)) (fun _ => .pure_same _) ?_
  intro high r _ _
  exact (Follows.accept (.inl (by decide))).bind fun _ _ _ _ _ => .pure_same _

theorem follows_boundsOf {start start' : Nat} (low high : List Char)
    : F.Follows o s .same (boundsOf start low high) (boundsOf start' low high) := by
  refine .ite_bind (fun _ => .pure_same _) (fun _ => follows_repetitionBound low) fun least t _ _ => ?_
  refine .ite (fun _ => .pure_same _) fun _ => ?_
  refine (follows_repetitionBound high).bind fun most u _ _ _ => ?_
  exact .ite (fun _ => .get_fail) fun _ => .pure_same _

/-- A next token other than the bar between alternatives is the same inside of the frame. -/
theorem head?_eq_iff {s' : Reading} (h : F.Agrees s s') {c : Char} (hc : c ≠ '|')
    : s'.tokens.head? = some (.plain c) ↔ s.tokens.head? = some (.plain c) := by
  rw [h.tokens]
  cases s.tokens with
  | cons t rest => rfl
  | nil =>
    refine ⟨fun hhead => absurd (Token.plain.inj (F.barred _ hhead)) hc, fun hhead => ?_⟩
    cases hhead

theorem follows_braceBounds? : F.Follows o s .same braceBounds? braceBounds? := by
  rw [braceBounds?_eq]
  refine .get_bind fun before hbefore => ?_
  simp only [beq_iff_eq, head?_eq_iff hbefore (c := '\x7d') (by decide)]
  refine .ite (fun _ => .pure_same _) fun _ => ?_
  -- Where the brace stands for itself the reader goes back, so this is no sequence of steps.
  intro hfits b? t hrun
  obtain ⟨⟨low, high, closed⟩, u, hparts, hrun⟩ := run_bind_eq_ok_iff.mp hrun
  have hn : s.tokens.length ≤ before.tokens.length := by
    rw [hbefore.length]
    omega
  obtain ⟨hu, -, hfollows⟩ := follows_braceParts (o := .any) (Nat.le_refl _) hn hfits _ u hparts
  cases closed with
  | true =>
    have hbounds
        : F.Follows o u .same (boundsOf s.position low high) (boundsOf before.position low high) :=
      follows_boundsOf low high
    obtain ⟨ht, -, hbounds⟩ := hbounds (hfits.of_later hu) b? t hrun
    refine ⟨hu.trans ht, trivial, fun s' hs' ho => ?_⟩
    obtain ⟨u', hparts', hu'⟩ := hfollows s' hs' trivial
    obtain ⟨t', hrun', ht'⟩ := hbounds u' hu' ho
    exact ⟨t', run_bind_eq_ok_iff.mpr ⟨_, u', hparts', hrun'⟩, ht'⟩
  | false =>
    cases hrun
    refine ⟨.refl s, trivial, fun s' hs' _ => ?_⟩
    obtain ⟨u', hparts', -⟩ := hfollows s' hs' trivial
    exact ⟨before, run_bind_eq_ok_iff.mpr ⟨_, u', hparts', rfl⟩, hbefore⟩

theorem follows_bounds? (c : Char) : F.Follows o s .same (bounds? c) (bounds? c) :=
  .ite (fun _ => .pure_same _) fun _ => .ite (fun _ => .pure_same _) fun _ => .ite (fun _ => .pure_same _) fun _ =>
    follows_braceBounds?

theorem follows_readGreed : F.Follows o s .same readGreed readGreed :=
  .accept_bind (.inl (by decide)) (fun _ _ _ _ _ => .pure_same _)
    (.accept_bind (.inl (by decide)) (fun _ _ _ _ _ => .pure_same _) (.pure_same _))

theorem follows_repeatLast {start start' : Nat} (b : Bounds) {items : List Node}
    (hitems : ∀ item ∈ items, item.IsNumbered)
    : F.Follows o s F.nodes (repeatLast start b items) (repeatLast start' b (F.nodes.move items)) := by
  refine .get_bind fun s' _ => ?_
  cases items with
  | nil => exact .fail _ _
  | cons item items =>
    obtain ⟨hitem, hitems⟩ := List.forall_mem_cons.mp hitems
    have hgreed : F.Follows o s F.nodes (do return .repeated (← readGreed) b.least b.most? item :: items)
        (do return .repeated (← readGreed) b.least b.most? (item.shift F.count) :: items.map (Node.shift F.count)) :=
      follows_readGreed.bind fun greed _ _ _ _ => .pure (List.forall_mem_cons.mpr ⟨hitem, hitems⟩) rfl
    cases item with
    | anchor => exact .fail _ _
    | repeated => exact .fail _ _
    | empty | char | seq | alt | group | atomic | again | ahead | behind | ifGroup => exact hgreed

/-! ### Flags -/

theorem follows_takeFlag_bind {missing : Cause} {stops : List Char} {f f' : Char ⊕ Flag → ReadM α}
    (h : ∀ x u, u.tokens.length < s.tokens.length → F.Follows o u v (f x) (f' x))
    : F.Follows o s v (takeFlag missing stops >>= f) (takeFlag missing stops >>= f') := by
  unfold takeFlag
  simp only [bind_assoc]
  refine .take_bind (fun _ _ => .fail_bind _ _) fun t rest u hs hu _ => ?_
  have hlength : u.tokens.length < s.tokens.length := by
    rw [hs, hu, List.length_cons]
    omega
  cases t with
  | escaped c => exact .fail_bind _ _
  | dangling => exact .fail_bind _ _
  | plain c =>
    dsimp only
    split
    . simp only [pure_bind]
      exact h _ u hlength
    . split
      . simp only [pure_bind]
        exact h _ u hlength
      . exact .fail_bind _ _

theorem follows_flagsOff {f : Flag} {off : List Flag} (hn : s.tokens.length < n) (hn' : s.tokens.length < n')
    : F.Follows o s .same (flagsOff n f off) (flagsOff n' f off) := by
  induction n generalizing s n' f off with
  | zero => omega
  | succ n ih =>
    cases n' with
    | zero => omega
    | succ n' =>
      unfold flagsOff
      refine .ite (fun _ => .fail _ _) fun _ => ?_
      refine follows_takeFlag_bind fun x u hu => ?_
      cases x with
      | inl c => exact .pure_same _
      | inr g => exact ih (by omega) (by omega)

/-- At least one flag is turned on. -/
theorem follows_flagsOn {f : Flag} {on : List Flag} (hn : s.tokens.length < n) (hn' : s.tokens.length < n')
    : F.Follows o s ⟨id, fun p _ => p.1 ≠ []⟩ (flagsOn n f on) (flagsOn n' f on) := by
  induction n generalizing s n' f on with
  | zero => omega
  | succ n ih =>
    cases n' with
    | zero => omega
    | succ n' =>
      unfold flagsOn
      refine .ite (fun _ => .fail _ _) fun _ => .ite (fun _ => .fail _ _) fun _ => ?_
      refine follows_takeFlag_bind fun x u hu => ?_
      cases x with
      | inl c => exact .pure (by simp) rfl
      | inr g => exact ih (by omega) (by omega)

def flagsInside (on off : List Flag) : ReadM FlagChange :=
  if off.contains .template then
    fail .globalFlagOff 1
  else if on.any off.contains then
    fail .flagOnAndOff 1
  else
    return .inside on off

/-- What is read once the flags to turn on are known. -/
def flagsAfter (fuel : Nat) (on : List Flag) (stop : Char) : ReadM FlagChange := do
  if stop == ')' then
    modify fun r => { r with flags := r.flags ++ on }
    return .whole
  else if on.contains .template then
    fail .globalFlagOn 1
  else
    let off ←
      if stop == '-' then
        match ← takeFlag .missingFlag [] with
        | .inl _ => pure []
        | .inr f => flagsOff fuel f []
      else
        pure []
    flagsInside on off

/-- Where flags are for the whole expression there is at least one. -/
def changes : Renumbering FlagChange :=
  ⟨id, fun change r => change = .whole → r.flags ≠ []⟩

theorem follows_flagsInside (on off : List Flag) : F.Follows o s changes (flagsInside on off) (flagsInside on off) :=
  .ite (fun _ => .fail _ _) fun _ => .ite (fun _ => .fail _ _) fun _ => .pure (fun h => nomatch h) rfl

theorem follows_flagsAfter (ho : ∀ r, o.holds r → r.flags = []) {on : List Flag} {stop : Char}
    (hon : stop = ')' → on ≠ []) (hn : s.tokens.length ≤ n) (hn' : s.tokens.length ≤ n')
    : F.Follows o s changes (flagsAfter n on stop) (flagsAfter n' on stop) := by
  refine .ite (fun hstop => ?_) fun _ => .ite (fun _ => .fail _ _) fun _ => ?_
  . have hflags : s.flags ++ on ≠ [] := fun h => hon (beq_iff_eq.mp hstop) (List.append_eq_nil_iff.mp h).2
    have hlater : s.Later { s with flags := s.flags ++ on } :=
      ⟨List.suffix_rfl, List.prefix_rfl, id, List.prefix_rfl, List.prefix_append _ _, rfl, id⟩
    refine (Follows.modify hlater fun s' _ h => absurd (ho _ h) hflags).bind fun _ t ht _ _ => ?_
    cases ht
    exact .pure (fun _ => hflags) rfl
  . refine .ite (fun _ => ?_) fun _ => (Follows.pure_same _).bind fun off _ _ _ _ => follows_flagsInside on off
    refine follows_takeFlag_bind fun x u hu => ?_
    cases x with
    | inl c => exact (Follows.pure_same _).bind fun off _ _ _ _ => follows_flagsInside on off
    | inr f => exact (follows_flagsOff (by omega) (by omega)).bind fun off _ _ _ _ => follows_flagsInside on off

theorem follows_readFlags (ho : ∀ r, o.holds r → r.flags = []) (c : Char)
    : F.Follows o s changes (readFlags c) (readFlags c) := by
  refine .get_bind fun s' hs' => ?_
  rw [hs'.length]
  cases Flag.ofChar? c with
  | none =>
    simp only [pure_bind]
    exact follows_flagsAfter ho (fun h => absurd h (by decide)) (by omega) (by omega)
  | some f =>
    refine (follows_flagsOn (by omega) (by omega)).bind fun p t _ ht hp => ?_
    have hlength := ht.length_le
    exact follows_flagsAfter ho (fun _ => hp) (by omega) (by omega)

end XmlBinding.Pattern.Frame
