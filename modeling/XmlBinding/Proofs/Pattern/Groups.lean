import XmlBinding.Proofs.Pattern.Atoms

/-!
This module contains that references to groups, and what opens and closes a group, are read alike wherever a pattern
stands, but for the numbers of the groups.
-/

namespace XmlBinding.Pattern.Frame

open Text

variable {α β : Type} {F : Frame} {o : Outlook} {s s' t : Reading} {v : Renumbering α} {w : Renumbering β} {n n' : Nat}
variable {index : Nat}

/-! ### References -/

theorem Agrees.getElem? (h : F.Agrees s s') (hindex : 0 < index)
    : s'.groups[index + F.count - 1]? = s.groups[index - 1]? := by
  rw [h.groups]
  rw [F.add_count_sub_one hindex]
  rw [List.getElem?_append_right (Nat.le_add_right _ _)]
  rw [Nat.add_sub_cancel_left]

theorem Agrees.length_groups (h : F.Agrees s s') : s'.groups.length = s.groups.length + F.count := by
  rw [h.groups]
  rw [List.length_append]
  exact Nat.add_comm _ _

theorem follows_isClosed (hindex : 0 < index)
    : F.Follows o s .same (isClosed index) (isClosed (index + F.count)) := by
  refine .get_bind fun s' hs' => ?_
  rw [hs'.getElem? hindex]
  exact .pure_same _

theorem follows_checkBehind (hindex : 0 < index)
    : F.Follows o s .same (checkBehind index) (checkBehind (index + F.count)) := by
  refine .get_bind fun s' hs' => ?_
  rw [hs'.behind]
  cases s.behindStart? with
  | none => exact .pure_same _
  | some start =>
    simp only [Option.map_some, Nat.add_lt_add_iff_right]
    refine (follows_isClosed hindex).bind fun closed t _ _ _ => ?_
    exact .ite (fun _ => .fail_bind _ _) fun _ => .ite (fun _ => .fail _ _) fun _ => .pure_same _

theorem foldl_digits_pos {ds : List Char} {a : Nat} (ha : 0 < a)
    : 0 < ds.foldl (fun n d => 10 * n + (d.toNat - 48)) a := by
  induction ds generalizing a with
  | nil => exact ha
  | cons d ds ih =>
    have hd : 0 < 10 * a + (d.toNat - 48) := by omega
    exact ih hd

theorem ofDigits_pos {c : Char} (hc : '1' ≤ c) (ds : List Char) : 0 < Number.ofDigits (c :: ds) := by
  have hc : 49 ≤ c.toNat := hc
  have hfirst : 0 < 10 * 0 + (c.toNat - 48) := by omega
  rw [Number.ofDigits]
  rw [List.foldl_cons]
  exact foldl_digits_pos hfirst

theorem run_takeWhile_one {p : Char → Bool} {c : Char} {rest : List Token} {cs : List Char}
    (hs : s.tokens = .plain c :: rest) (hc : p c = true) (hrun : (takeWhile p 1).run s = .ok (cs, t))
    : cs = [c] ∧ t.tokens = rest := by
  obtain ⟨head?, u, hhead, hrun⟩ := run_bind_eq_ok_iff.mp hrun
  cases hhead
  rw [hs] at hrun
  dsimp only [List.head?_cons] at hrun
  rw [if_pos hc] at hrun
  obtain ⟨_, u, hu, hrun⟩ := run_bind_eq_ok_iff.mp hrun
  rw [run_advance hs] at hu
  split at hu
  . cases hu
  . cases hu
    cases hrun
    exact ⟨rfl, rfl⟩

theorem isDigit_of_isOctal {c : Char} (h : isOctal c = true) : c.isDigit = true := by
  unfold isOctal at h
  rw [Bool.and_eq_true, decide_eq_true_iff, decide_eq_true_iff] at h
  rw [Char.isDigit_iff_toNat]
  have hhigh : c.toNat ≤ '7'.toNat := h.2
  exact ⟨h.1, Nat.le_trans hhigh (by decide)⟩

/-- Where no third octal digit follows, the escape refers to a group. -/
theorem isGroupNumber_of_runs {c : Char} {second third : List Char} {t u : Reading} (hc : '1' ≤ c) (hc' : c ≤ '9')
    (hsecond : (takeWhile Char.isDigit 1).run s = .ok (second, t))
    (hthird : (isOctal c && second.any isOctal && second != []) = true →
      (takeWhile isOctal 1).run t = .ok (third, u))
    (h : (isOctal c && second.any isOctal && second != []) = true → third = [])
    : isGroupNumber c s.tokens = true := by
  unfold isGroupNumber
  simp only [hc, hc', decide_true, Bool.true_and]
  split
  next d e rest htokens =>
    rw [Bool.not_eq_true', Bool.eq_false_iff]
    intro hoctal
    rw [Bool.and_eq_true, Bool.and_eq_true] at hoctal
    obtain ⟨⟨hc, hd⟩, he⟩ := hoctal
    obtain ⟨rfl, ht⟩ := run_takeWhile_one htokens (isDigit_of_isOctal hd) hsecond
    have hoctals : (isOctal c && [d].any isOctal && [d] != []) = true := by simp [hc, hd]
    obtain ⟨rfl, -⟩ := run_takeWhile_one ht he (hthird hoctals)
    cases h hoctals
  . rfl

/-- What an escape stands for once its digits are read. -/
def digitsNode (flags : List Flag) (c : Char) (second third : List Char) : ReadM Node := do
  let escape := '\\' :: c :: second ++ third
  if third != [] then
    return codeNode flags (← octalCode escape)
  else
    let index := Number.ofDigits (c :: second)
    if (← get).groups.length < index then
      fail (.invalidGroup index) (escape.length - 1)
    else if ← isClosed index then
      checkBehind index
      return .again index (dialectOf flags)
    else
      fail .openGroup escape.length

theorem follows_digitsNode (flags : List Flag) {c : Char} (hc : '1' ≤ c) (second : List Char) {third : List Char}
    (h : third = [] → F.groups = [])
    : F.Follows o s F.node (digitsNode flags c second third) (digitsNode flags c second third) := by
  refine .ite (fun _ => ?_) fun hthird => ?_
  . exact (follows_octalCode _).bind fun _ _ _ _ _ => .pure trivial rfl
  . have hcount := F.count_eq_zero (h (by simpa using hthird))
    have hindex := ofDigits_pos hc second
    have hclosed := follows_isClosed (F := F) (o := o) (s := s) hindex
    rw [hcount] at hclosed
    refine .get_bind fun s' hs' => ?_
    rw [hs'.length_groups]
    rw [hcount]
    refine .ite (fun _ => .fail _ _) fun _ => ?_
    refine hclosed.bind fun closed t _ _ _ => .ite (fun _ => ?_) fun _ => .fail _ _
    have hbehind := follows_checkBehind (F := F) (o := o) (s := t) hindex
    rw [hcount] at hbehind
    refine hbehind.bind fun _ _ _ _ _ => .pure hindex ?_
    simp only [node, Node.shift, hcount, Nat.add_zero]

theorem follows_digitEscape (flags : List Flag) {c : Char} (hc : '1' ≤ c) (hc' : c ≤ '9')
    (hnumber : F.groups = [] ∨ isGroupNumber c s.tokens = false)
    : F.Follows o s F.node (digitEscape flags c) (digitEscape flags c) := by
  refine (follows_takeWhile (by decide) (.inl rfl)).bind fun second t hsecond _ _ => ?_
  have hgroups (third : List Char) (u : Reading)
      (hthird : (isOctal c && second.any isOctal && second != []) = true →
        (takeWhile isOctal 1).run t = .ok (third, u))
      (h : (isOctal c && second.any isOctal && second != []) = true → third = [])
      : F.groups = [] := by
    refine hnumber.resolve_right fun hnot => ?_
    rw [isGroupNumber_of_runs hc hc' hsecond hthird h] at hnot
    cases hnot
  refine .ite (fun hoctals => ?_) fun hoctals => ?_
  . refine (follows_takeWhile (by decide) (.inl rfl)).bind fun third u hthird _ _ => ?_
    exact follows_digitsNode flags hc second fun h => hgroups third u (fun _ => hthird) fun _ => h
  . refine (Follows.pure_same []).bind fun third u _ _ _ => ?_
    exact follows_digitsNode flags hc second fun _ =>
      hgroups third u (fun h => absurd h hoctals) fun h => absurd h hoctals

theorem follows_nodeEscape (flags : List Flag) {c : Char}
    (hnumber : F.groups = [] ∨ isGroupNumber c s.tokens = false)
    : F.Follows o s F.node (nodeEscape flags c) (nodeEscape flags c) := by
  unfold nodeEscape
  split
  . exact .pure trivial rfl
  . exact .pure trivial rfl
  . exact .pure trivial rfl
  next read hread => exact (follows_codeEscape hread).bind fun _ _ _ _ _ => .pure trivial rfl
  . refine .ite (fun _ => ?_) fun hzero => .ite (fun hdigit => ?_) fun _ => ?_
    . exact (follows_takeWhile (by decide) (.inl rfl)).bind fun _ _ _ _ _ => .pure trivial rfl
    . obtain ⟨hlow, hhigh⟩ := Char.isDigit_iff_toNat.mp hdigit
      have hne : c.toNat ≠ '0'.toNat := fun h => hzero (by simpa using Char.toNat_inj.mp h)
      have hone : '1'.toNat ≤ c.toNat := Nat.lt_of_le_of_ne hlow (Ne.symm hne)
      exact follows_digitEscape flags hone hhigh hnumber
    . exact (follows_selfEscape c).bind fun _ _ _ _ _ => .pure trivial rfl

/-! ### Names and conditions -/

theorem lookup_renumbered (names : List (String × Nat)) (k : Nat) (name : String)
    : (names.map fun n => (n.1, n.2 + k)).lookup name = (names.lookup name).map (· + k) := by
  induction names with
  | nil => rfl
  | cons n names ih =>
    rw [List.map_cons]
    rw [List.lookup_cons, List.lookup_cons]
    rw [ih]
    cases name == n.1 <;> rfl

theorem mem_of_lookup {names : List (String × Nat)} {name : String} {index : Nat}
    (h : names.lookup name = some index)
    : (name, index) ∈ names := by
  obtain ⟨before, after, rfl, -⟩ := List.lookup_eq_some_iff.mp h
  simp

theorem lookup_frame (hs : F.Admits s) {name : String} {index : Nat} (hname : (name, index) ∈ s.names)
    : F.names.lookup name = none := by
  rw [List.lookup_eq_none_iff]
  intro n hn
  rw [bne_iff_ne]
  exact hs.names (name, index) hname n hn

/-- A name of the pattern is none of the frame's, which would not admit it. -/
theorem Agrees.lookup (h : F.Agrees s s') (hs : F.Admits s) {name : String} {index : Nat}
    (hname : s.names.lookup name = some index)
    : s'.names.lookup name = some (index + F.count) := by
  rw [h.names]
  rw [List.lookup_append]
  rw [lookup_frame hs (mem_of_lookup hname)]
  rw [lookup_renumbered]
  rw [hname]
  rfl

theorem follows_checkGroupName (name : List Char)
    : F.Follows o s .same (checkGroupName name) (checkGroupName name) :=
  .ite (fun _ => .fail _ _) fun _ => .pure_same _

theorem follows_groupNamed (ho : ∀ r, o.holds r → F.Admits r) (name : List Char)
    : F.Follows o s F.number (groupNamed name) (groupNamed name) := by
  refine .of_fits fun hfits => ?_
  refine .get_bind fun s' hs' => ?_
  cases hname : s.names.lookup (String.ofList name) with
  | none => exact .fail _ _
  | some index =>
    have hindex := hfits.numbered _ (mem_of_lookup hname)
    refine .of_outlook (.pure hindex rfl) fun hs => ?_
    rw [hs'.lookup (ho s hs) hname]
    exact .pure hindex rfl

theorem follows_namedAgain (ho : ∀ r, o.holds r → F.Admits r) (flags : List Flag)
    : F.Follows o s F.node (namedAgain flags) (namedAgain flags) := by
  refine follows_takeName_bind fun name t _ => ?_
  refine (follows_checkGroupName name).bind fun _ _ _ _ _ => ?_
  refine (follows_groupNamed ho name).bind fun index _ _ _ hindex => ?_
  refine (follows_isClosed hindex).bind fun closed _ _ _ _ => .ite (fun _ => ?_) fun _ => .fail _ _
  exact (follows_checkBehind hindex).bind fun _ _ _ _ _ => .pure hindex rfl

/-- Records that a condition refers to a group by number, if none did before. -/
def recordCondition (n offset : Nat) : ReadM Nat := do
  let r ← get
  if !r.conditions.any (·.1 == n) then
    set { r with conditions := r.conditions ++ [(n, r.position - offset)] }
  return n

theorem recordCondition_bind {n offset : Nat} (f : Nat → ReadM α)
    : recordCondition n offset >>= f = (do
        let r ← get
        if !r.conditions.any (·.1 == n) then
          set { r with conditions := r.conditions ++ [(n, r.position - offset)] }
          pure n >>= f
        else
          pure n >>= f) := by
  unfold recordCondition
  simp only [bind_assoc]
  congr
  funext r
  split <;> simp only [bind_assoc, pure_bind]

theorem run_recordCondition (s : Reading) (n offset : Nat)
    : ∃ conditions, (recordCondition n offset).run s = .ok (n, { s with conditions }) ∧
        s.conditions <+: conditions ∧ (∃ c ∈ conditions, c.1 = n) ∧
        ∀ c ∈ conditions, c ∈ s.conditions ∨ c.1 = n := by
  by_cases h : s.conditions.any (·.1 == n) = true
  . refine ⟨s.conditions, ?_, List.prefix_rfl, ?_, fun c hc => .inl hc⟩
    . unfold recordCondition
      rw [StateT.run_bind]
      change (if (!s.conditions.any (·.1 == n)) = true then _ else _ : ReadM Nat).run s = _
      rw [if_neg (by simp [h])]
      rfl
    . simpa using h
  . refine ⟨s.conditions ++ [(n, s.position - offset)], ?_, List.prefix_append _ _, ?_, ?_⟩
    . unfold recordCondition
      rw [StateT.run_bind]
      change (if (!s.conditions.any (·.1 == n)) = true then _ else _ : ReadM Nat).run s = _
      rw [if_pos (by simp [h])]
      rfl
    . exact ⟨_, List.mem_append_right _ (List.mem_singleton_self _), rfl⟩
    . intro c hc
      obtain hc | hc := List.mem_append.mp hc
      . exact .inl hc
      . rw [List.mem_singleton.mp hc]
        exact .inr rfl

/-- A condition by number is only admitted where no groups stand before the pattern. -/
theorem follows_recordCondition (ho : ∀ r, o.holds r → F.Admits r) {offset : Nat} (hn : 0 < n)
    : F.Follows o s F.number (recordCondition n offset) (recordCondition n offset) := by
  intro _ x t hrun
  obtain ⟨conditions, hrun₁, hprefix, ⟨c, hc, hcn⟩, -⟩ := run_recordCondition s n offset
  rw [hrun] at hrun₁
  cases hrun₁
  refine ⟨?_, hn, fun s' hs' ht => ?_⟩
  . exact ⟨List.suffix_rfl, List.prefix_rfl, id, hprefix, List.prefix_rfl, rfl, id⟩
  . obtain ⟨conditions', hrun', -, -, hmem⟩ := run_recordCondition s' n offset
    have hgroups : F.groups = [] :=
      (ho _ ht).conditions.resolve_right fun h : conditions = [] => List.not_mem_nil (h ▸ hc)
    have hcount := F.count_eq_zero hgroups
    have hmove : F.number.move n = n := by
      simp only [number, hcount, Nat.add_zero]
    rw [hmove]
    refine ⟨_, hrun', hs'.tokens, hs'.groups, hs'.names, hs'.behind, fun c' hc' => ?_, hs'.flags⟩
    . obtain hc' | hc' := hmem c' hc'
      . refine (hs'.conditions c' hc').imp_right fun ⟨d, hd, heq⟩ => ⟨d, hprefix.subset hd, heq⟩
      . refine .inr ⟨c, hc, ?_⟩
        rw [hc']
        rw [hcn]
        rw [hcount]
        rfl

theorem follows_conditionGroup (ho : ∀ r, o.holds r → F.Admits r)
    : F.Follows o s F.number conditionGroup conditionGroup := by
  refine follows_takeName_bind fun name t _ => ?_
  have hcheck {index : Nat} (u : Reading) (hindex : 0 < index)
      : F.Follows o u F.number (do checkBehind index; return index)
          (do checkBehind (index + F.count); return index + F.count) :=
    (follows_checkBehind hindex).bind fun _ _ _ _ _ => .pure hindex rfl
  dsimp only
  refine .ite (fun _ => (follows_groupNamed ho name).bind fun index u _ _ hindex => hcheck u hindex) fun _ => ?_
  cases Number.Integer.read (String.ofList name) with
  | error e => exact .fail_bind _ _
  | ok n =>
    dsimp only
    refine .ite (fun _ => .fail_bind _ _) fun hn => .ite (fun _ => .fail_bind _ _) fun hzero => ?_
    refine .ite (fun _ => .fail_bind _ _) fun _ => ?_
    have hpos : 0 < n.toNat := by
      have hzero : n ≠ 0 := by simpa using hzero
      omega
    rw [← recordCondition_bind]
    exact (follows_recordCondition ho hpos).bind fun index u _ _ hindex => hcheck u hindex

/-! ### Groups open and close -/

theorem Agrees.openGroup (h : F.Agrees s s') (news : List (String × Nat))
    : F.Agrees { s with groups := s.groups ++ [none], names := s.names ++ news }
        { s' with
          groups := s'.groups ++ [none],
          names := s'.names ++ news.map fun n => (n.1, n.2 + F.count) } where
  tokens := h.tokens
  groups := by
    rw [h.groups]
    exact List.append_assoc _ _ _
  names := by
    rw [h.names]
    rw [List.map_append]
    exact List.append_assoc _ _ _
  behind := h.behind
  conditions := h.conditions
  flags := h.flags

theorem follows_openGroup (ho : ∀ r, o.holds r → F.Admits r) (name? : Option (List Char))
    : F.Follows o s F.number (openGroup name?) (openGroup name?) := by
  refine .get_bind fun s' hs' => ?_
  have hindex : s'.groups.length + 1 = F.number.move (s.groups.length + 1) := by
    rw [hs'.length_groups]
    exact Nat.add_right_comm _ _ _
  dsimp only
  rw [hindex]
  cases name? with
  | none =>
    refine (Follows.set ?_ fun _ => ?_).bind fun _ _ _ _ _ => .pure (Nat.succ_pos _) rfl
    . exact ⟨List.suffix_rfl, List.prefix_rfl, id, List.prefix_rfl, List.prefix_rfl, rfl, id⟩
    . have hopen := hs'.openGroup []
      simpa only [List.append_nil, List.map_nil] using hopen
  | some name =>
    dsimp only
    cases hname : s.names.lookup (String.ofList name) with
    | some earlier => exact .fail _ _
    | none =>
      have hnumbered (h : ∀ n ∈ s.names, 0 < n.2)
          : ∀ n ∈ s.names ++ [(String.ofList name, s.groups.length + 1)], 0 < n.2 := by
        rw [List.forall_mem_append, List.forall_mem_singleton]
        exact ⟨h, Nat.succ_pos _⟩
      have hopen
          : F.Follows o s F.number
              (do
                set { s with
                  groups := s.groups ++ [none], names := s.names ++ [(String.ofList name, s.groups.length + 1)] }
                return s.groups.length + 1)
              (do
                set { s' with
                  groups := s'.groups ++ [none],
                  names := s'.names ++ [(String.ofList name, F.number.move (s.groups.length + 1))] }
                return F.number.move (s.groups.length + 1)) := by
        refine (Follows.set ?_ fun _ => hs'.openGroup _).bind fun _ _ _ _ _ => .pure (Nat.succ_pos _) rfl
        exact ⟨List.suffix_rfl, List.prefix_append _ _, hnumbered, List.prefix_rfl, List.prefix_rfl, rfl, id⟩
      refine hopen.of_end fun x t hrun ht => ?_
      cases hrun
      have hframe := lookup_frame (ho _ ht) (List.mem_append_right _ (List.mem_singleton_self _))
      rw [hs'.names]
      rw [List.lookup_append]
      rw [hframe]
      rw [lookup_renumbered]
      rw [hname]
      rfl

theorem follows_closeGroup {index : Nat} (hindex : 0 < index) {body : Node} (hbody : body.IsNumbered)
    : F.Follows o s .same (closeGroup index body) (closeGroup (index + F.count) (body.shift F.count)) := by
  refine .modify ?_ fun s' hs' _ => ?_
  . exact ⟨List.suffix_rfl, List.prefix_rfl, id, List.prefix_rfl, List.prefix_rfl, rfl, id⟩
  . refine ⟨hs'.tokens, ?_, hs'.names, hs'.behind, hs'.conditions, hs'.flags⟩
    dsimp only
    rw [F.add_count_sub_one hindex]
    rw [hs'.groups]
    rw [count, Node.width_shift hbody]
    rw [List.set_append_right _ _ (Nat.le_add_right _ _)]
    rw [Nat.add_sub_cancel_left]

theorem follows_endGroup {start start' : Nat} : F.Follows o s .same (endGroup start) (endGroup start') := by
  refine .accept_bind (.inl (by decide)) (fun _ _ _ _ _ => .pure_same _) ?_
  exact .get_fail

/-- A group only ends where something is left to read. -/
theorem tokens_ne_nil_of_endGroup {start : Nat} {f : Unit → ReadM α} {x : α}
    (h : (endGroup start >>= f).run s = .ok (x, t))
    : s.tokens ≠ [] := by
  intro hs
  obtain ⟨_, u, hu, -⟩ := run_bind_eq_ok_iff.mp h
  obtain ⟨closed, r, hr, hu⟩ := run_bind_eq_ok_iff.mp hu
  obtain ⟨head?, q, hq, hr⟩ := run_bind_eq_ok_iff.mp hr
  cases hq
  rw [hs] at hr
  cases hr
  cases hu

/-- A reading inside of a group, and what follows it up to the end of the group. -/
theorem Follows.bind_inside {m m' : ReadM α} {f f' : α → ReadM β} (hm : F.Follows o.inside s v m m')
    (hf : ∀ x t, s.Later t → v.valid x t → F.Follows o t w (f x) (f' (v.move x)))
    (hend : ∀ x t y u, (f x).run t = .ok (y, u) → t.tokens ≠ [])
    : F.Follows o s w (m >>= f) (m' >>= f') := by
  intro hfits y u hrun
  obtain ⟨x, t, hx, hy⟩ := run_bind_eq_ok_iff.mp hrun
  obtain ⟨hst, hvalid, hm⟩ := hm hfits x t hx
  obtain ⟨htu, hvalid', hf⟩ := hf x t hst hvalid (hfits.of_later hst) y u hy
  refine ⟨hst.trans htu, hvalid', fun s' hs hu => ?_⟩
  obtain ⟨t', hx', ht⟩ := hm s' hs ⟨o.early htu hu, hend x t y u hy⟩
  obtain ⟨u', hy', hu⟩ := hf t' ht hu
  exact ⟨u', run_bind_eq_ok_iff.mpr ⟨_, t', hx', hy'⟩, hu⟩

theorem Follows.bind_endGroup {start start' : Nat} {m m' : ReadM α} {f f' : α → ReadM β}
    (hm : F.Follows o.inside s v m m')
    (hf : ∀ x t u, v.valid x t → t.Later u → F.Follows o u w (f x) (f' (v.move x)))
    : F.Follows o s w (m >>= fun x => endGroup start >>= fun _ => f x)
        (m' >>= fun x => endGroup start' >>= fun _ => f' x) := by
  refine hm.bind_inside (fun x t _ hvalid => ?_) fun _ _ _ _ => tokens_ne_nil_of_endGroup
  exact follows_endGroup.bind fun _ u _ htu _ => hf x t u hvalid htu

/-! ### What follows a parenthesis -/

theorem follows_skipComment {start start' : Nat} (hn : s.tokens.length < n) (hn' : s.tokens.length < n')
    : F.Follows o s .same (skipComment start n) (skipComment start' n') := by
  induction n generalizing s n' with
  | zero => omega
  | succ n ih =>
    cases n' with
    | zero => omega
    | succ n' =>
      refine .peek_bind (fun _ => .get_fail) fun t rest hs => ?_
      refine .advance_bind hs fun u hu _ => ?_
      rw [hs, List.length_cons] at hn hn'
      rw [← hu] at hn hn'
      exact .ite (fun _ => ih (by omega) (by omega)) fun _ => .pure_same _

/-- The rest of a line is skipped alike where more has to follow it. -/
theorem follows_skipLine (ho : ∀ r, s.Later r → o.holds r → r.tokens ≠ []) (hn : s.tokens.length < n)
    (hn' : s.tokens.length < n')
    : F.Follows o s .same (skipLine n) (skipLine n') := by
  induction n generalizing s n' with
  | zero => omega
  | succ n ih =>
    cases n' with
    | zero => omega
    | succ n' =>
      refine .take_bind (fun hs m' => ?_) fun t rest u hs hu hlater => ?_
      . have hdone : F.Follows o s .same (pure () : ReadM Unit) (pure ()) := .pure_same ()
        exact .of_not_holds hdone fun h => ho s (.refl s) h hs
      . rw [hs, List.length_cons] at hn hn'
        rw [← hu] at hn hn'
        exact .ite (fun _ => ih (fun r hr => ho r (hlater.trans hr)) (by omega) (by omega)) fun _ => .pure_same _

/-- How what opens a group changes where groups stand in front. -/
def opened (F : Frame) : Renumbering Opening where
  move
    | .done node => .done (node.shift F.count)
    | .condition index => .condition (index + F.count)
    | o => o
  valid
    | .done node, _ => node.IsNumbered
    | .wholeFlags, r => r.flags ≠ []
    | _, _ => True

theorem follows_namedOpening (ho : ∀ r, o.holds r → F.Admits r) (flags : List Flag)
    : F.Follows o s F.opened (namedOpening flags) (namedOpening flags) := by
  refine .accept_bind (.inl (by decide)) (fun rest u _ _ _ => ?_) ?_
  . refine follows_takeName_bind fun name t _ => ?_
    exact (follows_checkGroupName name).bind fun _ _ _ _ _ => .pure trivial rfl
  . refine .accept_bind (.inl (by decide)) (fun rest u _ _ _ => ?_) ?_
    . exact (follows_namedAgain ho flags).bind fun node _ _ _ hnode => .pure hnode rfl
    . exact .take_bind (fun _ _ => .fail _ _) fun _ _ _ _ _ _ => .fail _ _

theorem follows_behindOpening : F.Follows o s F.opened behindOpening behindOpening := by
  refine .take_bind (fun _ _ => .fail _ _) fun t rest u _ _ _ => ?_
  split
  . exact .fail _ _
  . exact .pure trivial rfl
  . exact .pure trivial rfl
  . exact .fail _ _

theorem follows_opening (ho : ∀ r, o.holds r → F.Admits r) (flags : List Flag) {start start' : Nat}
    : F.Follows o s F.opened (opening flags start) (opening flags start') := by
  refine (Follows.accept (.inl (by decide))).bind fun question _ _ _ _ => .ite (fun _ => .pure trivial rfl) fun _ => ?_
  refine .take_bind (fun _ _ => .fail _ _) fun t rest u _ _ _ => ?_
  split
  . exact .fail _ _
  . exact follows_namedOpening ho flags
  . exact .pure trivial rfl
  . refine .get_bind fun u' hu' => ?_
    rw [hu'.length]
    exact (follows_skipComment (by omega) (by omega)).bind fun _ _ _ _ _ => .pure trivial rfl
  . exact .pure trivial rfl
  . exact .pure trivial rfl
  . exact follows_behindOpening
  . exact (follows_conditionGroup ho).bind fun index _ _ _ _ => .pure trivial rfl
  . exact .pure trivial rfl
  . split
    . refine .ite (fun _ => ?_) fun _ => .fail _ _
      refine (follows_readFlags (fun r h => (ho r h).flags) _).bind fun change r _ _ hchange => ?_
      cases change with
      | whole => exact .pure (hchange rfl) rfl
      | inside on off => exact .pure trivial rfl
    . exact .fail _ _

end XmlBinding.Pattern.Frame
