import XmlBinding.Config.Directive
import XmlBinding.Proofs.Pattern.Joined

/-!
This module contains that a filter for types keeps what one of its patterns keeps, unless two of the patterns cannot
stand in one expression. The order of the patterns then makes no difference.
-/

namespace XmlBinding

open Pattern

theorem Filter.excludes_of_read {patterns : List String} {r : Regex}
    (h : Regex.read ("|".intercalate patterns).toList = .ok r) {e : Entity} (he : e.isType = true) (s : Store)
    (subject : Subject)
    : (ofPatterns patterns).excludes e s subject = pure !(r.occursIn e.name.localPart.toList) := by
  have haccepts : FilterKind.types.accepts e = true := he
  unfold excludes ofPatterns
  dsimp only
  rw [if_pos haccepts]
  rw [h]
  rfl

/-- What the filter for some patterns excludes has none of them in its name. -/
theorem Filter.excludes_ofPatterns {ps : List Readable} (hne : ps ≠ []) (hps : ps.Pairwise Readable.CanPrecede)
    {e : Entity} (he : e.isType = true) (s : Store) (subject : Subject)
    : (ofPatterns (ps.map Readable.pattern)).excludes e s subject =
        pure !(ps.any (·.regex.occursIn e.name.localPart.toList)) := by
  obtain ⟨r, hread, hoccurs⟩ := exists_read_joined hne hps
  rw [excludes_of_read hread he]
  rw [hoccurs]

namespace Config

theorem onlyTypes_keeps_any {ps : List Readable} (hne : ps ≠ []) (hps : ps.Pairwise Readable.CanPrecede) (cfg : Config)
    : (Directive.onlyTypes (ps.map Readable.pattern)).refusal? = none ∧
        ∃ f, (cfg.option [.onlyTypes (ps.map Readable.pattern)]).1.typeFilter? = some f ∧
          (∀ e s subject, e.isType = true →
            f.excludes e s subject = pure !(ps.any (·.regex.occursIn e.name.localPart.toList))) ∧
          ∀ qs : List Readable, qs.Perm ps → qs.Pairwise Readable.CanPrecede → ∀ e s subject, e.isType = true →
            (Filter.ofPatterns (qs.map Readable.pattern)).excludes e s subject = f.excludes e s subject := by
  refine ⟨?_, .ofPatterns (ps.map Readable.pattern), rfl, ?_, ?_⟩
  . obtain ⟨r, hread, -⟩ := exists_read_joined hne hps
    unfold Directive.refusal?
    dsimp only
    rw [hread]
  . intro e s subject he
    exact Filter.excludes_ofPatterns hne hps he s subject
  . intro qs hperm hqs e s subject he
    have hne' : qs ≠ [] := fun h => hne (List.nil_perm.mp (h ▸ hperm))
    rw [Filter.excludes_ofPatterns hne hps he s subject]
    rw [Filter.excludes_ofPatterns hne' hqs he s subject]
    rw [hperm.any_eq]

/-- Patterns with groups, a reference by name, a condition on a group of its own and alternatives. -/
def choices : List Readable :=
  [.ofIsOk "^(x|(?P<kind>y))(?(kind)z|w)$" (by decide +kernel), .ofIsOk "(?P<twice>[de])(?P=twice)" (by decide +kernel),
    .ofIsOk "Type$|\\.v\\d{2}" (by decide +kernel)]

def typeNamed (name : String) : Entity :=
  .simple ⟨⟨"", name⟩, none, [], none, none⟩

theorem onlyTypes_keeps_any_choices
    : choices ≠ [] ∧ choices.Pairwise Readable.CanPrecede ∧
        ∃ f, (empty.option [.onlyTypes (choices.map Readable.pattern)]).1.typeFilter? = some f ∧
          f.excludes (typeNamed "addee") .empty (.type (.declared 0)) = pure false ∧
          f.excludes (typeNamed "aded") .empty (.type (.declared 0)) = pure true := by
  have hne : choices ≠ [] := nofun
  have hpairwise : choices.Pairwise Readable.CanPrecede := by decide +kernel
  obtain ⟨-, f, hf, hexcludes, -⟩ := onlyTypes_keeps_any hne hpairwise empty
  refine ⟨hne, hpairwise, f, hf, ?_, ?_⟩
  . rw [hexcludes _ _ _ rfl]
    exact congrArg pure (by decide +kernel)
  . rw [hexcludes _ _ _ rfl]
    exact congrArg pure (by decide +kernel)

/-- With a group in front, a number means another group: the second pattern no longer matches, and the order of the
patterns matters. -/
theorem not_onlyTypes_keeps_any_numbered
    : ∃ first second, Regex.read "(a)\\1".toList = .ok first ∧ Regex.read "(b)\\1".toList = .ok second ∧
        second.occursIn "bb".toList = true ∧
        ∃ f, (empty.option [.onlyTypes ["(a)\\1", "(b)\\1"]]).1.typeFilter? = some f ∧
          f.excludes (typeNamed "bb") .empty (.type (.declared 0)) = pure true ∧
          (Filter.ofPatterns ["(b)\\1", "(a)\\1"]).excludes (typeNamed "bb") .empty (.type (.declared 0)) =
            pure false := by
  obtain ⟨first, hfirst, -⟩
      : ∃ r, Regex.read "(a)\\1".toList = .ok r ∧ r.groupCount = 1 := exists_of_toOption_map (by decide +kernel)
  obtain ⟨second, hsecond, hoccurs⟩
      : ∃ r, Regex.read "(b)\\1".toList = .ok r ∧ r.occursIn "bb".toList = true :=
    exists_of_toOption_map (by decide +kernel)
  obtain ⟨joined, hjoined, hmisses⟩
      : ∃ r, Regex.read ("|".intercalate ["(a)\\1", "(b)\\1"]).toList = .ok r ∧ r.occursIn "bb".toList = false :=
    exists_of_toOption_map (by decide +kernel)
  obtain ⟨swapped, hswapped, hmatches⟩
      : ∃ r, Regex.read ("|".intercalate ["(b)\\1", "(a)\\1"]).toList = .ok r ∧ r.occursIn "bb".toList = true :=
    exists_of_toOption_map (by decide +kernel)
  refine ⟨first, second, hfirst, hsecond, hoccurs, .ofPatterns ["(a)\\1", "(b)\\1"], rfl, ?_, ?_⟩
  . rw [Filter.excludes_of_read hjoined rfl]
    exact congrArg (fun occurs => pure !occurs) hmisses
  . rw [Filter.excludes_of_read hswapped rfl]
    exact congrArg (fun occurs => pure !occurs) hmatches

end Config

end XmlBinding
