import PlaybookAssist.Proofs.Document.Above
import PlaybookAssist.Proofs.Prompt.Chain

/-!
# Prompts on which a call fails

Where a suggestion may be asked for there is a prompt. A prompt is refused when it is malformed or a
mapping. It fails in another way when it is well-formed and still cannot be loaded, or when the way
along its last keys goes round, so that nobody ever gets to the task being written.

## Main definitions

- `Prompt.FailsWith` : a prompt fails and is not refused

## Main statements

- `Document.exists_prompt` : where there is a prompt
- `Prompt.refusal_of_parse` : a prompt that can be loaded is at most refused
- `Prompt.parse_failed_iff` : when parsing a prompt fails in another way
- `Prompt.failsWith_iff` : when parsing a prompt or judging its entries does
-/

namespace PlaybookAssist

/-- Where a suggestion may be asked for there is some text above. -/
theorem Document.exists_prompt {d : Document} {p : Position} (h : (d.checkTrigger p).isOk = true) :
    ∃ prompt, d.prompt p = .ok prompt := by
  obtain ⟨before, named, after, hstands⟩ := exists_standsBelow h
  exact ⟨_, hstands.prompt p.character⟩

/-- What is wrong with a document that is not malformed is nothing that a prompt is refused for. -/
theorem Failure.ofYaml?_ne_prompt {fault : Yaml.Fault} {f : Failure}
    (h : Failure.ofYaml? fault = some f) (refusal : PromptFault) : f ≠ .prompt refusal := by
  rintro rfl
  cases fault <;> cases h

namespace Prompt

variable {prompt : Text} {v : Value} {e f : Failure} {fault : Yaml.Fault}

/-- A prompt fails and is not refused. -/
inductive FailsWith (prompt : Text) : Failure → Prop where
  /-- It is not malformed, and still it cannot be loaded. -/
  | unloadable (fault : Yaml.Fault) (f : Failure) (hload : Yaml.load prompt = .error fault)
      (hfault : Failure.ofYaml? fault = some f) : FailsWith prompt f
  /-- The way from its last entry along the last keys goes round. -/
  | endless (entries : List Value) (last : Value) (hparse : Prompt.parse prompt = .ok (some entries))
      (hlast : entries.getLast? = some last) (hback : ComesBack last) : FailsWith prompt .endless

/-- A prompt that can be loaded is at most refused. -/
theorem refusal_of_parse (hload : Yaml.load prompt = .ok v) (h : Prompt.parse prompt = .error e) :
    ∃ refusal, e = .prompt refusal := by
  simp only [Prompt.parse, hload] at h
  split at h
  · cases h
  split at h <;> cases h
  exact ⟨_, rfl⟩

theorem parse_of_error (hload : Yaml.load prompt = .error fault) :
    Prompt.parse prompt = .error ((Failure.ofYaml? fault).getD (.prompt .malformed)) := by
  rw [Prompt.parse, hload]

/-- Parsing a prompt fails without a refusal exactly if it cannot be loaded and is not malformed. -/
theorem parse_failed_iff :
    (Prompt.parse prompt = .error f ∧ ∀ refusal, f ≠ .prompt refusal) ↔
      ∃ fault, Yaml.load prompt = .error fault ∧ Failure.ofYaml? fault = some f := by
  -- A refusal is made of a document, and every other failure of a prompt that gives none.
  constructor
  · rintro ⟨hparse, hother⟩
    cases hload : Yaml.load prompt with
    | ok v =>
      obtain ⟨refusal, hrefusal⟩ := refusal_of_parse hload hparse
      exact absurd hrefusal (hother refusal)
    -- What the text is not loaded for is what the prompt fails with, or it is malformed.
    | error fault =>
      refine ⟨fault, rfl, ?_⟩
      rw [parse_of_error hload] at hparse
      have hsame := Except.error.inj hparse
      cases hfault : Failure.ofYaml? fault with
      | none =>
        rw [hfault] at hsame
        exact absurd hsame.symm (hother .malformed)
      | some f' =>
        rw [hfault] at hsame
        rw [← hsame, Option.getD_some]
  · rintro ⟨fault, hload, hfault⟩
    refine ⟨?_, Failure.ofYaml?_ne_prompt hfault⟩
    rw [parse_of_error hload, hfault, Option.getD_some]

/-- A prompt fails and is not refused where parsing it does, or judging its entries. -/
theorem failsWith_iff : FailsWith prompt f ↔
    (Prompt.parse prompt = .error f ∧ ∀ refusal, f ≠ .prompt refusal) ∨
      ∃ entries, Prompt.parse prompt = .ok (some entries) ∧ awaitsBody entries = .error f := by
  rw [parse_failed_iff]
  constructor
  · intro h
    cases h with
    | unloadable fault _ hload hfault => exact Or.inl ⟨fault, hload, hfault⟩
    | endless entries last hparse hlast hback =>
      exact Or.inr ⟨entries, hparse, awaitsBody_eq_error_iff.mpr ⟨rfl, last, hlast, hback⟩⟩
  · rintro (⟨fault, hload, hfault⟩ | ⟨entries, hparse, hawaits⟩)
    · exact .unloadable fault f hload hfault
    · obtain ⟨rfl, last, hlast, hback⟩ := awaitsBody_eq_error_iff.mp hawaits
      exact .endless entries last hparse hlast hback

end Prompt

end PlaybookAssist
