import XmlBinding.Generate.Drafts
import XmlBinding.Proofs.Generate.Declared
import XmlBinding.Proofs.SoapArray.Resolve

/-!
This module contains what becomes of one type after any others passed the steps. Its declaration, or the fault
for which there is none, is the one that it has in the store as it was at first.
-/

namespace XmlBinding

namespace Notice

def isNotGenerated : Notice → Bool
  | .notGenerated .. => true
  | _ => false

def isNameTaken : Notice → Bool
  | .nameTaken .. => true
  | _ => false

def isNotFlattened : Notice → Bool
  | .notFlattened .. => true
  | _ => false

end Notice

/-- Which errors there are: those of types that fail, those of names that are taken, and else only that a
declaration is not flattened. -/
structure Notice.ErrorsAre (notices failed taken : List Notice) : Prop where
  failed : notices.filter (·.isNotGenerated) = failed
  taken : notices.filter (·.isNameTaken) = taken
  others : ∀ n ∈ notices, n.tier = .error →
    n.isNotGenerated = true ∨ n.isNameTaken = true ∨ n.isNotFlattened = true

namespace Notice

variable {notices notices' failed failed' taken taken' : List Notice}

theorem ErrorsAre.append (h : ErrorsAre notices failed taken) (h' : ErrorsAre notices' failed' taken')
    : ErrorsAre (notices ++ notices') (failed ++ failed') (taken ++ taken') where
  failed := by
    rw [List.filter_append]
    rw [h.failed]
    rw [h'.failed]
  taken := by
    rw [List.filter_append]
    rw [h.taken]
    rw [h'.taken]
  others := by
    rw [List.forall_mem_append]
    exact ⟨h.others, h'.others⟩

theorem errorsAre_of_forall (h : ∀ n ∈ notices, n.tier = .error → n.isNotFlattened = true)
    : ErrorsAre notices [] [] where
  failed := by
    rw [List.filter_eq_nil_iff]
    intro n hn
    have := h n hn
    cases n <;> simp_all [isNotGenerated, isNotFlattened, tier]
  taken := by
    rw [List.filter_eq_nil_iff]
    intro n hn
    have := h n hn
    cases n <;> simp_all [isNameTaken, isNotFlattened, tier]
  others n hn herror := .inr (.inr (h n hn herror))

theorem errorsAre_of_errors_eq_nil (h : errors notices = []) : ErrorsAre notices [] [] := by
  apply errorsAre_of_forall
  intro n hn herror
  have : n ∈ errors notices := List.mem_filter.mpr ⟨hn, by simp [herror]⟩
  rw [h] at this
  cases this

theorem errorsAre_nil : ErrorsAre [] [] [] :=
  errorsAre_of_errors_eq_nil rfl

theorem errorsAre_notGenerated (type : String) (fault : Fault)
    : ErrorsAre [.notGenerated type fault] [.notGenerated type fault] [] :=
  ⟨rfl, rfl, by simp [isNotGenerated]⟩

theorem errorsAre_nameTaken (first second name : String)
    : ErrorsAre [.nameTaken first second name] [] [.nameTaken first second name] :=
  ⟨rfl, rfl, by simp [isNameTaken]⟩

theorem errorsAre_notFlattened (declaration : String) (fault : Fault)
    : ErrorsAre [.notFlattened declaration fault] [] [] :=
  ⟨rfl, rfl, by simp [isNotFlattened]⟩

end Notice

open Notice

/-! ### Declarations -/

theorem Declaration.flatten_eq (d : Declaration)
    : ∃ d' notices, d.flatten = ⟨.ok d', notices⟩ ∧ ErrorsAre notices [] [] := by
  unfold Declaration.flatten
  split
  . exact ⟨d, [], rfl, errorsAre_nil⟩
  . next f item _ =>
    have hflattening : ErrorsAre [.flattening d.name] [] [] := errorsAre_of_errors_eq_nil rfl
    cases hmethods : listMethods f item with
    | error e => exact ⟨d, _, rfl, hflattening.append (errorsAre_notFlattened d.name e)⟩
    | ok methods => exact ⟨_, _, rfl, hflattening⟩

namespace Generate

variable {cfg : Config} {find? : QName → Option TypeRef} {s s' : Store} {r : TypeRef}

theorem postprocess_eq {steps : List DeclarationStep} (h : ∀ step ∈ steps, step = .flatten) (d : Declaration)
    : ∃ d' notices, postprocess steps d = ⟨.ok d', notices⟩ ∧ ErrorsAre notices [] [] := by
  induction steps generalizing d with
  | nil => exact ⟨d, [], rfl, errorsAre_nil⟩
  | cons step steps ih =>
    rw [List.forall_mem_cons] at h
    obtain ⟨rfl, hsteps⟩ := h
    obtain ⟨flat, notices, hflat, herrors⟩ := d.flatten_eq
    obtain ⟨d', notices', hd', herrors'⟩ := ih hsteps flat
    refine ⟨d', notices ++ notices', ?_, herrors.append herrors'⟩
    have hstep : (runDeclarationStep d .flatten).result = .ok flat := congrArg Report.result hflat
    rw [postprocess]
    rw [Report.bind_of_ok hstep]
    rw [hd']
    rw [show (runDeclarationStep d .flatten).notices = notices from congrArg Report.notices hflat]

def finishDeclared (cfg : Config) : Option Declaration → Report (Option Declaration)
  | none => pure none
  | some d => do
    let d ← postprocess cfg.declarationSteps d
    pure (some d)

def finish (cfg : Config) (s : Store) (r? : Option TypeRef) : Report (Option Declaration) :=
  declaration? cfg s r? >>= finishDeclared cfg

theorem process_eq_bind (cfg : Config) (find? : QName → Option TypeRef) (r : TypeRef)
    : process cfg find? r =
        preprocess find? cfg.typeSteps (some r) >>= fun r? => Edit.ofReport fun s => finish cfg s r? := by
  unfold process
  congr 1
  funext r?
  have hread := Edit.ofReport_bind_ofReport (fun s => declaration? cfg s r?) fun d? _ => finishDeclared cfg d?
  refine Eq.trans ?_ hread
  congr 1
  funext d?
  cases d? with
  | none => rfl
  | some d => exact Edit.ofReport_bind_ofReport _ fun d _ => pure (some d)

theorem process_of_preprocess {r? : Option TypeRef} {notices : List Notice}
    (h : preprocess find? cfg.typeSteps (some r) s = (s', ⟨.ok r?, notices⟩))
    : process cfg find? r s =
        (s', ⟨(finish cfg s' r?).result, notices ++ (finish cfg s' r?).notices⟩) := by
  rw [process_eq_bind]
  rw [Edit.bind_of_ok h]
  rfl

/-- Under a regular configuration a fault only concerns the declaration at hand, and errors are only those of
flattening. -/
theorem finish_eq (h : cfg.IsRegular) (hs : s.IsRegular) (r : TypeRef)
    : ErrorsAre (finish cfg s (some r)).notices [] [] ∧
        ∀ e, (finish cfg s (some r)).result = .error e → e.isRecoverable = true := by
  have hdeclaration := isCalm_declaration? h hs r
  have herrors := errorsAre_of_errors_eq_nil hdeclaration.errors
  unfold finish
  cases hd : (declaration? cfg s (some r)).result with
  | error e =>
    rw [Report.bind_of_error hd]
    refine ⟨herrors, ?_⟩
    intro e' he'
    rw [← Except.error.inj he']
    exact hdeclaration.recoverable e hd
  | ok d? =>
    rw [Report.bind_of_ok hd]
    cases d? with
    | none => exact ⟨herrors.append errorsAre_nil, by simp [finishDeclared, pure]⟩
    | some d =>
      obtain ⟨d', notices, hd', herrors'⟩ := postprocess_eq h.declarationSteps d
      have hresult : (postprocess cfg.declarationSteps d).result = .ok d' := congrArg Report.result hd'
      rw [finishDeclared]
      rw [Report.bind_of_ok hresult]
      rw [hd']
      exact ⟨herrors.append (herrors'.append errorsAre_nil), by simp [pure]⟩

theorem finish_congr (h : cfg.IsRegular) (hs : s.IsRegular) (hnodes : s'.nodes = s.nodes)
    (hmembers : ∀ t, s.get r = .complex t → s'.membersAt t.members = s.membersAt t.members)
    : finish cfg s' (some r) = finish cfg s (some r) := by
  unfold finish
  rw [declaration?_congr h hs hnodes hmembers]

/-! ### Types -/

open SoapArray in
theorem preprocess_eq (hs : s.IsRegular) {steps : List TypeStep} (hsteps : ∀ step ∈ steps, step = .soapArrays)
    (hp : IsPartlyResolved find? s s') (r : TypeRef)
    : ∃ notices, errors notices = [] ∧
        preprocess find? steps (some r) s' =
          (if steps.isEmpty then s' else settle find? s s' r, ⟨.ok (some r), notices⟩) := by
  induction steps generalizing s' with
  | nil => exact ⟨[], rfl, rfl⟩
  | cons step steps ih =>
    rw [List.forall_mem_cons] at hsteps
    obtain ⟨rfl, hsteps⟩ := hsteps
    obtain ⟨notices, herrors, hresolve⟩ := hp.resolveItems hs r
    obtain ⟨notices', herrors', hrest⟩ := ih hsteps (hp.settle hs r)
    have hstep : runTypeStep find? (some r) .soapArrays s' =
        (settle find? s s' r, ⟨.ok (some r), notices ++ []⟩) := by
      unfold runTypeStep
      dsimp only
      rw [Edit.bind_of_ok hresolve]
      rfl
    refine ⟨(notices ++ []) ++ notices', by simp [herrors, herrors'], ?_⟩
    rw [preprocess]
    rw [Edit.bind_of_ok hstep]
    rw [hrest]
    -- Resolving a type again changes nothing, so it does not matter how often the step stands there.
    rw [settle_settle]
    simp

/-- Some types of the store `s` passed the steps for types. -/
structure IsReached (cfg : Config) (find? : QName → Option TypeRef) (s s' : Store) : Prop where
  partly : SoapArray.IsPartlyResolved find? s s'
  same : cfg.typeSteps = [] → s' = s

def reach (cfg : Config) (find? : QName → Option TypeRef) (s s' : Store) (r : TypeRef) : Store :=
  if cfg.typeSteps.isEmpty then s' else SoapArray.settle find? s s' r

theorem isReached_self (cfg : Config) (find? : QName → Option TypeRef) (s : Store) : IsReached cfg find? s s :=
  ⟨.refl find? s, fun _ => rfl⟩

theorem IsReached.reach (h : IsReached cfg find? s s') (hs : s.IsRegular) (r : TypeRef)
    : IsReached cfg find? s (reach cfg find? s s' r) := by
  unfold Generate.reach
  split
  . exact h
  . next hsteps =>
    refine ⟨h.partly.settle hs r, ?_⟩
    intro hnil
    exact absurd (List.isEmpty_iff.mpr hnil) hsteps

/-- What is declared for a type does not depend on the types that were reached before it. -/
theorem IsReached.finish_reach (h : IsReached cfg find? s s') (hcfg : cfg.IsRegular) (hs : s.IsRegular)
    (r : TypeRef)
    : finish cfg (Generate.reach cfg find? s s' r) (some r) =
        finish cfg (Generate.reach cfg find? s s r) (some r) := by
  have hself := isReached_self cfg find? s
  -- Without steps nothing was written at all; with them, what the type had before is overwritten in both stores.
  by_cases hsteps : cfg.typeSteps = []
  . rw [h.same hsteps]
  . have hregular := (hself.reach hs r).partly
    apply finish_congr hcfg (hregular.isRegular hs)
    . exact (h.reach hs r).partly.nodes.trans hregular.nodes.symm
    . intro t hr
      rw [hregular.get_eq] at hr
      unfold Generate.reach
      rw [if_neg (by simpa using hsteps)]
      rw [if_neg (by simpa using hsteps)]
      rw [h.partly.membersAt_settle hr]
      rw [hself.partly.membersAt_settle hr]

theorem process_self (hcfg : cfg.IsRegular) (hs : s.IsRegular) (r : TypeRef)
    : (process cfg find? r s).2.result = (finish cfg (reach cfg find? s s r) (some r)).result := by
  obtain ⟨notices, -, hpreprocess⟩ := preprocess_eq hs hcfg.typeSteps (isReached_self cfg find? s).partly r
  rw [process_of_preprocess hpreprocess]
  rfl

theorem IsReached.process (h : IsReached cfg find? s s') (hcfg : cfg.IsRegular) (hs : s.IsRegular) (r : TypeRef)
    : ∃ notices, ErrorsAre notices [] [] ∧
        process cfg find? r s' =
          (Generate.reach cfg find? s s' r, ⟨(process cfg find? r s).2.result, notices⟩) := by
  obtain ⟨notices, herrors, hpreprocess⟩ := preprocess_eq hs hcfg.typeSteps h.partly r
  have hfinish := finish_eq hcfg ((h.reach hs r).partly.isRegular hs) r
  refine ⟨_, (errorsAre_of_errors_eq_nil herrors).append hfinish.1, ?_⟩
  rw [process_of_preprocess hpreprocess]
  rw [process_self hcfg hs r]
  rw [← h.finish_reach hcfg hs r]
  rfl

theorem isRecoverable_of_process (hcfg : cfg.IsRegular) (hs : s.IsRegular) {e : Fault}
    (h : (process cfg find? r s).2.result = .error e)
    : e.isRecoverable = true := by
  rw [process_self hcfg hs r] at h
  exact (finish_eq hcfg (((isReached_self cfg find? s).reach hs r).partly.isRegular hs) r).2 e h

/-! ### Types behind the filter -/

theorem isExcluded_congr (hcfg : cfg.IsRegular) (hs : s.IsRegular) (hnodes : s'.nodes = s.nodes) (r : TypeRef)
    : isExcluded cfg s' r = isExcluded cfg s r := by
  unfold isExcluded
  cases hfilter : cfg.typeFilter? with
  | none => rfl
  | some filter =>
    have hfor := hcfg.typeFilter filter hfilter
    dsimp only
    rw [Store.get_congr hnodes]
    rw [hfor.excludes_eq (hs.isType_get r)]
    rw [hfor.excludes_eq (hs.isType_get r)]

theorem exists_isExcluded (hcfg : cfg.IsRegular) (hs : s.IsRegular) (r : TypeRef)
    : ∃ excluded notices, isExcluded cfg s r = ⟨.ok excluded, notices⟩ ∧ ErrorsAre notices [] [] := by
  unfold isExcluded
  cases hfilter : cfg.typeFilter? with
  | none => exact ⟨false, [], rfl, errorsAre_nil⟩
  | some filter =>
    have hfor := hcfg.typeFilter filter hfilter
    obtain ⟨excluded, hexcluded⟩ := hfor.exists_excludes (hs.isType_get r) s (.type r)
    have hcalm := hfor.isCalm_excludes (hs.isType_get r) s (.type r)
    refine ⟨excluded, _, ?_, errorsAre_of_errors_eq_nil hcalm.errors⟩
    dsimp only
    rw [← hexcluded]

/-- What becomes of a type as if it were the only one: a declaration, nothing, or a fault. -/
def alone (cfg : Config) (find? : QName → Option TypeRef) (s : Store) (r : TypeRef) :
    Except Fault (Option Declaration) := do
  if ← (isExcluded cfg s r).result then
    .ok none
  else
    (process cfg find? r s).2.result

def draftAlone? (cfg : Config) (find? : QName → Option TypeRef) (s : Store) (r : TypeRef) : Option Declaration :=
  (alone cfg find? s r).toOption.join

def failureAlone? (cfg : Config) (find? : QName → Option TypeRef) (s : Store) (r : TypeRef) : Option Notice :=
  match alone cfg find? s r with
  | .error e => some (.notGenerated (s.nameOf r).localPart e)
  | .ok _ => none

def pass (cfg : Config) (find? : QName → Option TypeRef) (s s' : Store) (r : TypeRef) : Store :=
  if (isExcluded cfg s r).result.toOption = some true then s' else reach cfg find? s s' r

theorem IsReached.pass (h : IsReached cfg find? s s') (hs : s.IsRegular) (r : TypeRef)
    : IsReached cfg find? s (pass cfg find? s s' r) := by
  unfold Generate.pass
  split
  . exact h
  . exact h.reach hs r

theorem IsReached.draft (h : IsReached cfg find? s s') (hcfg : cfg.IsRegular) (hs : s.IsRegular) (r : TypeRef)
    : ∃ notices, ErrorsAre notices (failureAlone? cfg find? s r).toList [] ∧
        draft cfg find? r s' =
          (Generate.pass cfg find? s s' r, ⟨.ok (draftAlone? cfg find? s r), notices⟩) := by
  obtain ⟨excluded, before, hexcluded, hbefore⟩ := exists_isExcluded hcfg hs r
  have hread : (Edit.ofReport fun s => isExcluded cfg s r) s' = (s', ⟨.ok excluded, before⟩) := by
    rw [← hexcluded]
    rw [← isExcluded_congr hcfg hs h.partly.nodes]
    rfl
  have hname := Store.nameOf_congr h.partly.nodes r
  unfold Generate.draft
  rw [Edit.store_bind]
  rw [hname]
  rw [Edit.bind_of_ok hread]
  unfold failureAlone? draftAlone? alone Generate.pass
  rw [hexcluded]
  cases excluded with
  | true =>
    have hnote : ErrorsAre [.excluded (s.nameOf r).localPart] [] [] := errorsAre_of_errors_eq_nil rfl
    exact ⟨_, hbefore.append hnote, rfl⟩
  | false =>
    obtain ⟨notices, herrors, hprocess⟩ := h.process hcfg hs r
    cases hresult : (Generate.process cfg find? r s).2.result with
    | ok d? =>
      rw [hresult] at hprocess
      refine ⟨_, hbefore.append herrors, ?_⟩
      simp only [Bool.false_eq_true, if_false, Edit.recover_of_ok hprocess]
      rfl
    | error e =>
      -- The store keeps what was written before the fault, which is what a type without one leaves.
      have hrecoverable := isRecoverable_of_process hcfg hs hresult
      rw [hresult] at hprocess
      have htold := errorsAre_notGenerated (s.nameOf r).localPart e
      refine ⟨_, hbefore.append (herrors.append htold), ?_⟩
      simp only [Bool.false_eq_true, if_false, Edit.recover_of_error hprocess hrecoverable]
      rfl

end Generate

end XmlBinding
