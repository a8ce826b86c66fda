import XmlBinding.Proofs.Pattern.Groups

/-!
This module contains that sequences, and alternatives in groups, are read alike wherever a pattern stands. The fuel of
the reader lasts for three steps a token: a parenthesis takes that many, anything else fewer.
-/

namespace XmlBinding.Pattern.Frame

variable {α : Type} {F : Frame} {o : Outlook} {s s' t : Reading} {v : Renumbering α} {n n' : Nat}

/-! ### Sequences of items -/

theorem foldl_seq {k : Nat} (items : List Node) (node : Node)
    : (items.map (Node.shift k)).foldl (fun acc item => .seq item acc) (node.shift k) =
        (items.foldl (fun acc item => .seq item acc) node).shift k := by
  induction items generalizing node with
  | nil => rfl
  | cons item items ih => exact ih (.seq item node)

theorem isNumbered_foldl_seq {items : List Node} {node : Node} (hnode : node.IsNumbered)
    (h : ∀ item ∈ items, item.IsNumbered)
    : (items.foldl (fun acc item => .seq item acc) node).IsNumbered := by
  induction items generalizing node with
  | nil => exact hnode
  | cons item items ih =>
    rw [List.forall_mem_cons] at h
    exact ih ⟨h.1, hnode⟩ h.2

theorem follows_seqOf {items : List Node} (h : ∀ item ∈ items, item.IsNumbered)
    : F.Follows o s F.node (pure (seqOf items)) (pure (seqOf (F.nodes.move items))) := by
  cases items with
  | nil => exact .pure trivial rfl
  | cons item items =>
    obtain ⟨hitem, hitems⟩ := List.forall_mem_cons.mp h
    exact .pure (isNumbered_foldl_seq hitem hitems) (foldl_seq items item)

theorem shift_plainNode (flags : List Flag) (c : Char) (k : Nat)
    : (plainNode flags c).shift k = plainNode flags c := by
  unfold plainNode
  split
  . rfl
  . split
    . rfl
    . split <;> rfl

theorem isNumbered_plainNode (flags : List Flag) (c : Char) : (plainNode flags c).IsNumbered := by
  unfold plainNode
  split
  . trivial
  . split
    . trivial
    . split <;> trivial

/-! ### Look-behinds -/

/-- Reads `m` as what stands in a look-behind. -/
def lookingBehind (m : ReadM α) : ReadM α := do
  let outer := (← get).behindStart?
  if outer.isNone then
    modify fun r => { r with behindStart? := some r.groups.length }
  let x ← m
  if outer.isNone then
    modify fun r => { r with behindStart? := none }
  return x

theorem Agrees.behind_some (h : F.Agrees s s')
    : F.Agrees { s with behindStart? := some s.groups.length } { s' with behindStart? := some s'.groups.length } :=
  ⟨h.tokens, h.groups, h.names, congrArg some h.length_groups, h.conditions, h.flags⟩

theorem Agrees.behind_none (h : F.Agrees s s')
    : F.Agrees { s with behindStart? := none } { s' with behindStart? := none } :=
  ⟨h.tokens, h.groups, h.names, rfl, h.conditions, h.flags⟩

theorem run_lookingBehind_of_some {m : ReadM α} {start : Nat} (hs : s.behindStart? = some start)
    : (lookingBehind m).run s = m.run s := by
  simp [lookingBehind, hs]

theorem run_lookingBehind_of_none {m : ReadM α} (hs : s.behindStart? = none)
    : (lookingBehind m).run s = (do
        let (x, t) ← m.run { s with behindStart? := some s.groups.length }
        return (x, { t with behindStart? := none })) := by
  simp [lookingBehind, hs]

theorem follows_lookingBehind {m m' : ReadM α}
    (hv : ∀ x t start?, v.valid x t → v.valid x { t with behindStart? := start? })
    (h : ∀ start?, F.Follows o { s with behindStart? := start? } v m m')
    : F.Follows o s v (lookingBehind m) (lookingBehind m') := by
  intro hfits x t hrun
  cases hs : s.behindStart? with
  | some start =>
    rw [run_lookingBehind_of_some hs] at hrun
    have hm : F.Follows o s v m m' := by
      have h := h (some start)
      rwa [← hs] at h
    obtain ⟨hst, hvalid, hm⟩ := hm hfits x t hrun
    refine ⟨hst, hvalid, fun s' hs' ht => ?_⟩
    have hbehind : s'.behindStart? = some (start + F.count) := by
      rw [hs'.behind, hs]
      rfl
    rw [run_lookingBehind_of_some hbehind]
    exact hm s' hs' ht
  | none =>
    rw [run_lookingBehind_of_none hs] at hrun
    obtain ⟨⟨y, u⟩, hy, hrun⟩ := bind_eq_ok_iff.mp hrun
    cases hrun
    obtain ⟨hu, hvalid, hm⟩ := h (some s.groups.length) ⟨hfits.numbered, hfits.numbers⟩ x u hy
    refine ⟨?_, hv x u none hvalid, fun s' hs' ht => ?_⟩
    . exact ⟨hu.tokens, hu.names, hu.numbered, hu.conditions, hu.flags, hs.symm, hu.dangling⟩
    obtain ⟨u', hy', hu'⟩ := hm _ hs'.behind_some (o.of_behind ht)
    refine ⟨{ u' with behindStart? := none }, ?_, hu'.behind_none⟩
    rw [run_lookingBehind_of_none (by rw [hs'.behind, hs]; rfl)]
    exact bind_eq_ok_iff.mpr ⟨_, hy', rfl⟩

/-! ### Sequences, alternatives and groups -/

/-- Comments to the end of a line are read alike unless the pattern ends within one. They need a flag, which only
holds in a group, or in a pattern that the frame does not admit. -/
def SequenceFollows (F : Frame) (n : Nat) : Prop :=
  ∀ ⦃o : Outlook⦄ ⦃s : Reading⦄ ⦃n' : Nat⦄ ⦃flags : List Flag⦄ ⦃atStart atStart' : Bool⦄ ⦃items : List Node⦄,
    (∀ r, o.holds r → F.Admits r) →
    (flags = [] ∨ ∀ r, s.Later r → o.holds r → r.tokens ≠ []) →
    (∀ item ∈ items, item.IsNumbered) →
    3 * s.tokens.length + 1 ≤ n → 3 * (s.tokens.length + F.rest.length) + 1 ≤ n' →
    F.Follows o s F.node (sequence atStart flags n items) (sequence atStart' flags n' (F.nodes.move items))

def AlternativesFollow (F : Frame) (n : Nat) : Prop :=
  ∀ ⦃o : Outlook⦄ ⦃s : Reading⦄ ⦃n' : Nat⦄ ⦃flags : List Flag⦄ ⦃first first' : Bool⦄,
    (∀ r, o.holds r → F.Admits r) →
    3 * s.tokens.length + 2 ≤ n → 3 * (s.tokens.length + F.rest.length) + 2 ≤ n' →
    F.Follows o.inside s F.node (alternatives false flags n first) (alternatives false flags n' first')

def GroupFollows (F : Frame) (n : Nat) : Prop :=
  ∀ ⦃o : Outlook⦄ ⦃s : Reading⦄ ⦃n' : Nat⦄ ⦃flags : List Flag⦄ ⦃start start' : Nat⦄ ⦃opening : Opening⦄,
    (∀ r, o.holds r → F.Admits r) →
    F.opened.valid opening s →
    3 * s.tokens.length + 3 ≤ n → 3 * (s.tokens.length + F.rest.length) + 3 ≤ n' →
    F.Follows o s F.node (inGroup flags start n opening) (inGroup flags start' n' (F.opened.move opening))

/-- The sequence goes on alike from any later state. -/
theorem SequenceFollows.of_later (h : F.SequenceFollows n) {flags : List Flag} {atStart atStart' : Bool}
    {items : List Node} (ho : ∀ r, o.holds r → F.Admits r)
    (hverbose : flags = [] ∨ ∀ r, s.Later r → o.holds r → r.tokens ≠ [])
    (hn : 3 * s.tokens.length + 1 ≤ n) (hn' : 3 * (s.tokens.length + F.rest.length) + 1 ≤ n') (hst : s.Later t)
    (hitems : ∀ item ∈ items, item.IsNumbered)
    : F.Follows o t F.node (sequence atStart flags n items) (sequence atStart' flags n' (F.nodes.move items)) := by
  have hlength := hst.length_le
  exact h ho (hverbose.imp_right fun h r hr => h r (hst.trans hr)) hitems (by omega) (by omega)

/-- What is read once it is known what a parenthesis opens. -/
def afterOpening (atStart : Bool) (flags : List Flag) (start n : Nat) (items : List Node) : Opening → ReadM Node
  | .wholeFlags => do
      let r ← get
      if atStart && items.isEmpty then
        sequence atStart r.flags n items
      else
        fail .globalFlagsNotAtStart (r.position - start)
  | .nothing => sequence atStart flags n items
  | .done node => sequence atStart flags n (node :: items)
  | o => do sequence atStart flags n ((← inGroup flags start n o) :: items)

theorem follows_afterOpening (hsequence : F.SequenceFollows n) (hgroup : F.GroupFollows n) {flags : List Flag}
    {atStart atStart' : Bool} {start start' : Nat} {items : List Node} {opening : Opening}
    (ho : ∀ r, o.holds r → F.Admits r) (hverbose : flags = [] ∨ ∀ r, s.Later r → o.holds r → r.tokens ≠ [])
    (hitems : ∀ item ∈ items, item.IsNumbered) (hopening : F.opened.valid opening s)
    (hn : 3 * s.tokens.length + 3 ≤ n) (hn' : 3 * (s.tokens.length + F.rest.length) + 3 ≤ n')
    : F.Follows o s F.node (afterOpening atStart flags start n items opening)
        (afterOpening atStart' flags start' n' (F.nodes.move items) (F.opened.move opening)) := by
  cases opening with
  | wholeFlags =>
    -- The frame does not admit a pattern with such flags, so only the reading on its own counts.
    have hlost : ¬o.holds s := fun h => hopening (ho s h).flags
    refine .get_bind fun s' _ => ?_
    have hsame
        : F.Follows o s F.node
            (if atStart && items.isEmpty then sequence atStart s.flags n items
              else fail .globalFlagsNotAtStart (s.position - start))
            (if atStart && items.isEmpty then sequence atStart' s.flags n' (F.nodes.move items)
              else fail .globalFlagsNotAtStart (s.position - start)) := by
      refine .ite (fun _ => ?_) fun _ => .fail _ _
      exact hsequence ho (.inr fun r hr h => absurd (o.early hr h) hlost) hitems (by omega) (by omega)
    exact hsame.of_not_holds hlost
  | nothing => exact hsequence ho hverbose hitems (by omega) (by omega)
  | done node => exact hsequence ho hverbose (List.forall_mem_cons.mpr ⟨hopening, hitems⟩) (by omega) (by omega)
  | capture | plainGroup | atomicGroup | lookAround | condition =>
    refine (hgroup ho hopening hn hn').bind fun node t _ ht hnode => ?_
    exact hsequence.of_later ho hverbose (by omega) (by omega) ht (List.forall_mem_cons.mpr ⟨hnode, hitems⟩)

theorem SequenceFollows.succ (hsequence : F.SequenceFollows n) (hgroup : F.GroupFollows n)
    : F.SequenceFollows (n + 1) := by
  intro o s n' flags atStart atStart' items ho hverbose hitems hn hn'
  obtain ⟨n', rfl⟩ := Nat.exists_eq_add_one_of_ne_zero (n := n') (by omega)
  have hdone : F.Follows o s F.node (pure (seqOf items)) (pure (seqOf (F.nodes.move items))) := follows_seqOf hitems
  refine .of_fits fun hfits => ?_
  rw [sequence, sequence]
  refine .get_bind fun s' _ => ?_
  refine .peek_bind (fun hs => ?_) fun t rest hs => ?_
  . -- The pattern ends where the frame goes on with the next alternative, or ends as well.
    cases hrest : F.rest.head? with
    | none => exact hdone
    | some t =>
      obtain rfl := F.barred t hrest
      exact hdone
  rw [hs, List.length_cons] at hn hn'
  have hnext {items' : List Node} {u t : Reading} (hu : u.tokens = rest) (hlater : s.Later u) (ht : u.Later t)
      (hitems' : ∀ item ∈ items', item.IsNumbered)
      : F.Follows o t F.node (sequence atStart flags n items')
          (sequence atStart' flags n' (F.nodes.move items')) := by
    rw [← hu] at hn hn'
    refine hsequence.of_later ho ?_ (by omega) (by omega) ht hitems'
    exact hverbose.imp_right fun h r hr => h r (hlater.trans hr)
  have hcons {node : Node} {u t : Reading} (hu : u.tokens = rest) (hlater : s.Later u) (ht : u.Later t)
      (hnode : node.IsNumbered)
      : F.Follows o t F.node (sequence atStart flags n (node :: items))
          (sequence atStart' flags n' (node.shift F.count :: F.nodes.move items)) :=
    hnext hu hlater ht (List.forall_mem_cons.mpr ⟨hnode, hitems⟩)
  cases t with
  | dangling => exact hdone
  | escaped c =>
    refine .advance_bind hs fun u hu hlater => ?_
    have hnumber : F.groups = [] ∨ isGroupNumber c u.tokens = false := by
      refine hfits.numbers.imp_right fun h => ?_
      rw [hs] at h
      rw [hu]
      exact (Bool.or_eq_false_iff.mp h).1
    exact (follows_nodeEscape flags hnumber).bind fun node t _ ht hnode => hcons hu hlater ht hnode
  | plain c =>
    dsimp only
    refine .ite (fun _ => hdone) fun _ => ?_
    refine .advance_bind hs fun u hu hlater => ?_
    refine .ite (fun _ => hnext hu hlater (.refl u) hitems) fun _ => ?_
    refine .ite (fun hline => ?_) fun _ => ?_
    . -- A comment to the end of the line.
      refine .get_bind fun u' hu' => ?_
      rw [hu'.length]
      have hmore (r : Reading) (hr : u.Later r) : o.holds r → r.tokens ≠ [] := by
        refine hverbose.resolve_left (fun h => ?_) r (hlater.trans hr)
        rw [h] at hline
        cases hline
      refine (follows_skipLine hmore (by omega) (by omega)).bind fun _ t _ ht _ => ?_
      exact hnext hu hlater ht hitems
    refine .ite (fun _ => ?_) fun _ => .ite (fun _ => ?_) fun _ => .ite (fun _ => ?_) fun _ => ?_
    . exact (follows_readSet flags).bind fun node t _ ht hnode => hcons hu hlater ht hnode
    . refine (follows_bounds? c).bind fun b? t _ ht _ => ?_
      cases b? with
      | none => exact hcons hu hlater ht trivial
      | some b =>
        refine (follows_repeatLast b hitems).bind fun items' u' _ hu' hitems' => ?_
        exact hnext hu hlater (ht.trans hu') hitems'
    . refine (follows_opening ho flags).bind fun opening t _ ht hopening => ?_
      have hlength := ht.length_le
      rw [hu] at hlength
      refine follows_afterOpening hsequence hgroup ho ?_ hitems hopening (by omega) (by omega)
      exact hverbose.imp_right fun h r hr => h r (hlater.trans (ht.trans hr))
    . have hplain := hcons hu hlater (.refl u) (isNumbered_plainNode flags c)
      rwa [shift_plainNode] at hplain

theorem AlternativesFollow.succ (hsequence : F.SequenceFollows n) (halternatives : F.AlternativesFollow n)
    : F.AlternativesFollow (n + 1) := by
  intro o s n' flags first first' ho hn hn'
  obtain ⟨n', rfl⟩ := Nat.exists_eq_add_one_of_ne_zero (n := n') (by omega)
  have ho' (r : Reading) (hr : o.inside.holds r) : F.Admits r := ho r hr.1
  rw [alternatives, alternatives]
  have hbranch
      : F.Follows o.inside s F.node (sequence (false && first) flags n []) (sequence (false && first') flags n' []) :=
    hsequence ho' (.inr fun r _ hr => hr.2) (List.forall_mem_nil _) (by omega) (by omega)
  refine hbranch.bind fun node t _ ht hnode => ?_
  have hlength := ht.length_le
  refine .accept_bind (.inr fun r hr => hr.2) (fun rest u hs hu _ => ?_) (.pure hnode rfl)
  have hulength : u.tokens.length < t.tokens.length := by
    rw [hs, hu, List.length_cons]
    omega
  refine .get_bind fun u' _ => ?_
  exact (halternatives ho (by omega) (by omega)).bind fun other _ _ _ hother => .pure ⟨hnode, hother⟩ rfl

def nodePair (F : Frame) : Renumbering (Node × Node) :=
  ⟨Prod.map (Node.shift F.count) (Node.shift F.count), fun p _ => p.1.IsNumbered ∧ p.2.IsNumbered⟩

/-- Reads the branches of a condition; the second may be missing. -/
def branches (branch : ReadM Node) : ReadM (Node × Node) := do
  let yes ← branch
  let no ←
    if ← accept '|' then
      let no ← branch
      if (← peek) == some (.plain '|') then
        fail .moreThanTwoBranches 0
      pure no
    else
      pure .empty
  return (yes, no)

theorem follows_branches (ho : ∀ r, o.holds r → r.tokens ≠ []) {branch branch' : ReadM Node}
    (h : ∀ t, s.Later t → F.Follows o t F.node branch branch')
    : F.Follows o s F.nodePair (branches branch) (branches branch') := by
  refine (h s (.refl s)).bind fun yes t _ ht hyes => ?_
  refine .accept_bind (.inr ho) (fun rest u _ _ hu => ?_) ?_
  . refine (h u (ht.trans hu)).bind fun no r _ _ hno => ?_
    refine .peek_bind (fun hr => ?_) fun t rest _ => ?_
    . have hpair : F.Follows o r F.nodePair (pure (yes, no)) (pure (yes.shift F.count, no.shift F.count)) :=
        .pure ⟨hyes, hno⟩ rfl
      exact hpair.of_not_holds fun h => ho r h hr
    . exact .ite (fun _ => .fail_bind _ _) fun _ => .pure ⟨hyes, hno⟩ rfl
  . exact .pure ⟨hyes, trivial⟩ rfl

theorem inGroup_behind (flags : List Flag) (start n : Nat) (negated : Bool)
    : inGroup flags start (n + 1) (.lookAround true negated) = (do
        let body ← lookingBehind (alternatives false flags n true)
        endGroup start
        let r ← get
        return .behind negated (body.width r.groups).1 (body.width r.groups).2 body) := by
  rw [inGroup.eq_def]
  simp only [lookingBehind, bind_assoc]
  congr
  funext r
  split <;> simp only [bind_assoc, pure_bind]

theorem inGroup_condition (flags : List Flag) (start n index : Nat)
    : inGroup flags start (n + 1) (.condition index) = (do
        let p ← branches (sequence false flags n [])
        endGroup start
        return .ifGroup index p.1 p.2) := by
  rw [inGroup.eq_def]
  simp only [branches, bind_assoc]
  congr
  funext yes
  congr
  funext bar
  cases bar with
  | false => simp only [Bool.false_eq_true, if_false, pure_bind]
  | true =>
    simp only [if_true, bind_assoc, pure_bind]
    congr
    funext no
    congr
    funext next?
    split <;> simp only [bind_assoc, pure_bind]

theorem GroupFollows.succ (hsequence : F.SequenceFollows n) (halternatives : F.AlternativesFollow n)
    : F.GroupFollows (n + 1) := by
  intro o s n' flags start start' opening ho hopening hn hn'
  obtain ⟨n', rfl⟩ := Nat.exists_eq_add_one_of_ne_zero (n := n') (by omega)
  have hbody {t : Reading} (flags : List Flag) (ht : t.tokens.length ≤ s.tokens.length)
      : F.Follows o.inside t F.node (alternatives false flags n true) (alternatives false flags n' true) :=
    halternatives ho (by omega) (by omega)
  cases opening with
  | done node => exact .pure hopening rfl
  | nothing => exact .pure trivial rfl
  | wholeFlags => exact .pure trivial rfl
  | capture name? =>
    refine (follows_openGroup ho name?).bind fun index t _ ht hindex => ?_
    refine (hbody flags ht.length_le).bind_endGroup fun body _ u hnumbered _ => ?_
    exact (follows_closeGroup hindex hnumbered).bind fun _ _ _ _ _ => .pure hnumbered rfl
  | plainGroup flags =>
    exact (hbody flags (Nat.le_refl _)).bind_endGroup fun body _ u hnumbered _ => .pure hnumbered rfl
  | atomicGroup =>
    exact (hbody flags (Nat.le_refl _)).bind_endGroup fun body _ u hnumbered _ => .pure hnumbered rfl
  | lookAround behind negated =>
    cases behind with
    | false => exact (hbody flags (Nat.le_refl _)).bind_endGroup fun body _ u hnumbered _ => .pure hnumbered rfl
    | true =>
      rw [inGroup_behind]
      simp only [opened]
      rw [inGroup_behind]
      have hlook := follows_lookingBehind (s := s) (fun _ _ _ h => h) fun start? =>
        hbody (t := { s with behindStart? := start? }) flags (Nat.le_refl _)
      refine hlook.bind_endGroup fun body _ r hnumbered _ => .get_bind fun r' hr' => ?_
      have hwidth := Node.width_shift hnumbered F.groups r.groups
      rw [← hr'.groups] at hwidth
      refine .pure hnumbered ?_
      simp only [node, Node.shift, count, hwidth]
  | condition index =>
    rw [inGroup_condition]
    simp only [opened]
    rw [inGroup_condition]
    have ho' (r : Reading) (hr : o.inside.holds r) : F.Admits r := ho r hr.1
    have hbranch (t : Reading) (ht : s.Later t)
        : F.Follows o.inside t F.node (sequence false flags n []) (sequence false flags n' []) := by
      have hlength := ht.length_le
      exact hsequence ho' (.inr fun r _ hr => hr.2) (List.forall_mem_nil _) (by omega) (by omega)
    have hbranches := follows_branches (o := o.inside) (fun r hr => hr.2) hbranch
    exact hbranches.bind_endGroup fun p _ u hnumbered _ => .pure hnumbered rfl

theorem follows_nested (F : Frame) (n : Nat)
    : F.SequenceFollows n ∧ F.AlternativesFollow n ∧ F.GroupFollows n := by
  induction n with
  | zero =>
    refine ⟨?_, ?_, ?_⟩
    . intro _ _ _ _ _ _ _ _ _ _ hn
      omega
    . intro _ _ _ _ _ _ _ hn
      omega
    . intro _ _ _ _ _ _ _ _ _ hn
      omega
  | succ n ih =>
    obtain ⟨hsequence, halternatives, hgroup⟩ := ih
    exact ⟨.succ hsequence hgroup, .succ hsequence halternatives, .succ hsequence halternatives⟩

end XmlBinding.Pattern.Frame
