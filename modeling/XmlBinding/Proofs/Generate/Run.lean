import XmlBinding.Proofs.Entries
import XmlBinding.Proofs.Generate.Process
import XmlBinding.Proofs.SoapArray.Altered

/-!
This module contains what is known of a run over the types of any schema, whether that is in order or not. Each
declaration is the one of some type, in a store in which at most some arrays were resolved, and each type has its name
among the declarations or was given up.
-/

namespace XmlBinding

open SoapArray Report

namespace Generate

variable {cfg : Config} {find? : QName → Option TypeRef} {s : Store} {r : TypeRef}

/-! ### One type -/

theorem resolves_preprocess {steps : List TypeStep} (hsteps : ∀ step ∈ steps, step = .soapArrays)
    (find? : QName → Option TypeRef) (s : Store) (r : TypeRef)
    : Resolves find? s (preprocess find? steps (some r) s) ∧
        ∀ r?, (preprocess find? steps (some r) s).2.result = .ok r? → r? = some r := by
  induction steps generalizing s with
  | nil => exact ⟨resolves_of_ok (.refl find? s), fun r? h => (Except.ok.inj h).symm⟩
  | cons step steps ih =>
    rw [List.forall_mem_cons] at hsteps
    obtain ⟨rfl, hsteps⟩ := hsteps
    have hstep : Resolves find? s (runTypeStep find? (some r) .soapArrays s) :=
      (resolves_resolveItems find? s r).bind fun _ s' _ _ => resolves_of_ok (.refl find? s')
    have hsame : ∀ r?, (runTypeStep find? (some r) .soapArrays s).2.result = .ok r? → r? = some r := by
      intro r? h
      obtain ⟨_, -, h⟩ := Edit.result_bind_eq_ok_iff.mp h
      exact (Except.ok.inj h).symm
    rw [preprocess]
    refine ⟨hstep.bind ?_, ?_⟩
    . intro r? s' notices h
      rw [hsame r? (by rw [h])]
      exact (ih hsteps s').1
    . intro r? h
      obtain ⟨r'?, hr', h⟩ := Edit.result_bind_eq_ok_iff.mp h
      rw [hsame r'? hr'] at h
      exact (ih hsteps _).2 r? h

/-- What becomes of a type in the store that its steps left. -/
inductive Outcome (cfg : Config) (s : Store) (r : TypeRef) : Option Declaration → Prop
  | excluded : (isExcluded cfg s r).result = .ok true → Outcome cfg s r none
  | finished {d? : Option Declaration} : (finish cfg s (some r)).result = .ok d? → Outcome cfg s r d?
  | givenUp {e : Fault} : (finish cfg s (some r)).result = .error e → e.isRecoverable = true → Outcome cfg s r none

theorem process_outcome (hcfg : cfg.IsRegular) (find? : QName → Option TypeRef) (s : Store) (r : TypeRef)
    : let edited := process cfg find? r s
      Alters find? s edited.1 ∧
        (∀ d?, edited.2.result = .ok d? → Outcome cfg edited.1 r d?) ∧
        ∀ e, edited.2.result = .error e → e.isRecoverable = true → Outcome cfg edited.1 r none := by
  intro edited
  obtain ⟨hresolves, hsame⟩ := resolves_preprocess hcfg.typeSteps find? s r
  cases hpreprocess : preprocess find? cfg.typeSteps (some r) s with
  | mk s' report =>
    obtain ⟨result, notices⟩ := report
    rw [hpreprocess] at hresolves hsame
    cases result with
    | error fault =>
      have hedited : edited = (s', ⟨.error fault, notices⟩) := by
        change process cfg find? r s = _
        rw [process_eq_bind]
        exact Edit.bind_of_error hpreprocess _
      rw [hedited]
      refine ⟨hresolves.alters, ?_, ?_⟩
      . intro d? h
        cases h
      -- The steps only fail for good.
      . intro e he hrecoverable
        obtain rfl := Except.error.inj he
        rw [(hresolves.fails fault rfl).isRecoverable_eq] at hrecoverable
        cases hrecoverable
    | ok r? =>
      obtain rfl := hsame r? rfl
      have hedited := process_of_preprocess hpreprocess
      change edited = _ at hedited
      rw [hedited]
      exact ⟨hresolves.alters, fun d? h => .finished h, fun e he hrecoverable => .givenUp he hrecoverable⟩

theorem draft_outcome (hcfg : cfg.IsRegular) (find? : QName → Option TypeRef) (s : Store) (r : TypeRef)
    : Alters find? s (draft cfg find? r s).1 ∧
        ∀ d?, (draft cfg find? r s).2.result = .ok d? → Outcome cfg (draft cfg find? r s).1 r d? := by
  obtain ⟨halters, hdone, hfailed⟩ := process_outcome hcfg find? s r
  unfold draft
  rw [Edit.store_bind]
  cases hexcluded : isExcluded cfg s r with
  | mk result notices =>
    have hread : (Edit.ofReport fun s => isExcluded cfg s r) s = (s, ⟨result, notices⟩) := by
      rw [← hexcluded]
      rfl
    cases result with
    | error fault =>
      rw [Edit.bind_of_error hread]
      refine ⟨.refl find? s, ?_⟩
      intro d? h
      cases h
    | ok excluded =>
      rw [Edit.bind_of_ok hread]
      cases excluded with
      | true =>
        refine ⟨.refl find? s, ?_⟩
        intro d? h
        rw [← Except.ok.inj h]
        exact .excluded (congrArg Report.result hexcluded)
      | false =>
        refine ⟨halters, ?_⟩
        intro d? h
        change (Report.recover (process cfg find? r s).2 _).result = .ok d? at h
        unfold Report.recover at h
        split at h
        . exact hdone d? h
        . next fault hfault =>
          split at h
          . next hrecoverable =>
            rw [← Except.ok.inj h]
            exact hfailed fault hfault hrecoverable
          . exact hdone d? h

/-! ### All types -/

/-- A type was excluded, or it was declared with one of the names, or there was no declaration for it. -/
inductive IsSettled (cfg : Config) (s : Store) (names : List String) (r : TypeRef) : Prop
  | excluded : (isExcluded cfg s r).result = .ok true → IsSettled cfg s names r
  | named {d : Declaration} : (finish cfg s (some r)).result = .ok (some d) → d.name ∈ names → IsSettled cfg s names r
  | undeclared : (finish cfg s (some r)).result = .ok none → IsSettled cfg s names r
  | givenUp {e : Fault} : (finish cfg s (some r)).result = .error e → e.isRecoverable = true →
      IsSettled cfg s names r

theorem IsSettled.mono {names names' : List String} (h : IsSettled cfg s names r) (hnames : names ⊆ names')
    : IsSettled cfg s names' r := by
  cases h with
  | excluded h => exact .excluded h
  | named h hname => exact .named h (hnames hname)
  | undeclared h => exact .undeclared h
  | givenUp h hrecoverable => exact .givenUp h hrecoverable

theorem Outcome.isSettled {names : List String} {d? : Option Declaration} (h : Outcome cfg s r d?)
    (hname : ∀ d ∈ d?, d.name ∈ names)
    : IsSettled cfg s names r := by
  cases h with
  | excluded h => exact .excluded h
  | finished h =>
    cases d? with
    | none => exact .undeclared h
    | some d => exact .named h (hname d rfl)
  | givenUp h hrecoverable => exact .givenUp h hrecoverable

/-- The declarations are those of the types, apart from those whose names are among `taken` or stand earlier. -/
structure IsDrafted (cfg : Config) (find? : QName → Option TypeRef) (s : Store) (taken : List String)
    (rs : List TypeRef) (ds : List Declaration) : Prop where
  sound : ∀ d ∈ ds, ∃ r ∈ rs, ∃ s', Alters find? s s' ∧ (finish cfg s' (some r)).result = .ok (some d)
  complete : ∀ r ∈ rs, ∃ s', Alters find? s s' ∧ IsSettled cfg s' (taken ++ ds.map (·.name)) r
  nodup : (taken ++ ds.map (·.name)).Nodup

variable {s' : Store} {taken : List String} {rs : List TypeRef} {ds : List Declaration}

theorem isDrafted_nil (h : taken.Nodup) : IsDrafted cfg find? s taken [] [] where
  sound := by simp
  complete := by simp
  nodup := by simpa using h

/-- One type more comes to nothing new, because it has no declaration or one with a name that is taken. -/
theorem IsDrafted.cons_of_taken (h : IsDrafted cfg find? s' taken rs ds) (hs : Alters find? s s')
    {d? : Option Declaration} (hr : Outcome cfg s' r d?) (hname : ∀ d ∈ d?, d.name ∈ taken)
    : IsDrafted cfg find? s taken (r :: rs) ds where
  sound := by
    intro d hd
    obtain ⟨r', hr', s'', hs'', hfinish⟩ := h.sound d hd
    exact ⟨r', List.mem_cons_of_mem r hr', s'', hs.trans hs'', hfinish⟩
  complete := by
    rw [List.forall_mem_cons]
    constructor
    . exact ⟨s', hs, hr.isSettled fun d hd => List.mem_append_left _ (hname d hd)⟩
    . intro r' hr'
      obtain ⟨s'', hs'', hsettled⟩ := h.complete r' hr'
      exact ⟨s'', hs.trans hs'', hsettled⟩
  nodup := h.nodup

theorem IsDrafted.cons_of_free {d : Declaration} (h : IsDrafted cfg find? s' (d.name :: taken) rs ds)
    (hs : Alters find? s s') (hr : Outcome cfg s' r (some d))
    : IsDrafted cfg find? s taken (r :: rs) (d :: ds) where
  sound := by
    rw [List.forall_mem_cons]
    constructor
    . cases hr with
      | finished hfinish => exact ⟨r, List.mem_cons_self, s', hs, hfinish⟩
    . intro d' hd'
      obtain ⟨r', hr', s'', hs'', hfinish⟩ := h.sound d' hd'
      exact ⟨r', List.mem_cons_of_mem r hr', s'', hs.trans hs'', hfinish⟩
  complete := by
    have hnames : (d.name :: taken) ++ ds.map (·.name) ⊆ taken ++ (d :: ds).map (·.name) := by
      intro name hname
      simp only [List.cons_append, List.mem_cons, List.mem_append, List.map_cons] at hname ⊢
      tauto
    rw [List.forall_mem_cons]
    constructor
    . refine ⟨s', hs, hr.isSettled ?_⟩
      intro d' hd'
      rw [← Option.some.inj hd']
      simp
    . intro r' hr'
      obtain ⟨s'', hs'', hsettled⟩ := h.complete r' hr'
      exact ⟨s'', hs.trans hs'', hsettled.mono hnames⟩
  nodup := by
    rw [List.map_cons]
    rw [List.perm_middle.nodup_iff]
    exact h.nodup

theorem isDrafted_drafts (hcfg : cfg.IsRegular) (find? : QName → Option TypeRef) (rs : List TypeRef)
    {seen : List (String × String)} (hseen : (seen.map (·.1)).Nodup)
    (h : (drafts cfg find? seen rs s).2.result = .ok ds)
    : IsDrafted cfg find? s (seen.map (·.1)) rs ds := by
  induction rs generalizing seen s ds with
  | nil =>
    obtain rfl := Except.ok.inj h
    exact isDrafted_nil hseen
  | cons r rs ih =>
    rw [drafts] at h
    rw [Edit.store_bind] at h
    obtain ⟨d?, hdraft, h⟩ := Edit.result_bind_eq_ok_iff.mp h
    obtain ⟨halters, houtcome⟩ := draft_outcome hcfg find? s r
    have houtcome := houtcome d? hdraft
    cases d? with
    | none => exact (ih hseen h).cons_of_taken halters houtcome (by simp)
    | some d =>
      cases hlookup : seen.lookup d.name with
      | some first =>
        dsimp only at h
        rw [hlookup] at h
        obtain ⟨_, -, h⟩ := Edit.result_bind_eq_ok_iff.mp h
        have htaken : d.name ∈ seen.map (·.1) := by
          by_contra hnot
          rw [Entries.lookup_eq_none_iff_not_mem.mpr hnot] at hlookup
          cases hlookup
        refine (ih hseen h).cons_of_taken halters houtcome ?_
        intro d' hd'
        rw [← Option.some.inj hd']
        exact htaken
      | none =>
        dsimp only at h
        rw [hlookup] at h
        obtain ⟨rest, hrest, h⟩ := Edit.result_bind_eq_ok_iff.mp h
        obtain rfl := Except.ok.inj h
        have hfree := Entries.lookup_eq_none_iff_not_mem.mp hlookup
        have hnodup : (((d.name, (s.nameOf r).localPart) :: seen).map (·.1)).Nodup := List.nodup_cons.mpr ⟨hfree, hseen⟩
        exact (ih hnodup hrest).cons_of_free halters houtcome

/-- The declarations of a schema have different names, each of them is the one of some type, and each type has its name
among them or comes to nothing. -/
theorem isDrafted_declarations (hcfg : cfg.IsRegular) {schema : Schema}
    (h : (declarations cfg schema).2.result = .ok ds)
    : IsDrafted cfg schema.findType? schema.store [] (schema.types.map (·.2)) ds := by
  have hnone : (([] : List (String × String)).map (·.1)).Nodup := List.nodup_nil
  exact isDrafted_drafts hcfg schema.findType? _ hnone h

end Generate

end XmlBinding
