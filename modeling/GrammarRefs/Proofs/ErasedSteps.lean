import GrammarRefs.Proofs.Construction
import GrammarRefs.Proofs.Erasure

/-! Building steps with all positions taken away. They succeed and fail as before, and build the
same grammar up to the positions. -/
namespace GrammarRefs

def BuildStep.unplaced : BuildStep → BuildStep
  | .defineRule head alts => .defineRule head.unplaced alts
  | .setArguments i dict => .setArguments i (dict.map Dict.unplaced)
  | .setReturns i dict => .setReturns i (dict.map Dict.unplaced)
  | .setScope i dict => .setScope i (dict.map Dict.unplaced)
  | .setModifiers i modifiers => .setModifiers i (modifiers.map Token.unplaced)
  | .setUsedScopes i names => .setUsedScopes i (names.map Token.unplaced)
  | .setMode i mode => .setMode i mode
  | .addAction i k snippet => .addAction i k snippet.unplaced
  | .addPredicate i k snippet => .addPredicate i k snippet.unplaced
  | .setNamedAction i name snippet => .setNamedAction i name snippet.unplaced
  | .addExceptionAction i snippet => .addExceptionAction i snippet.unplaced
  | .setFinallyAction i snippet => .setFinallyAction i snippet.unplaced
  | .addLabel i k label => .addLabel i k label.unplaced
  | .addTokenRef i k token => .addTokenRef i k token.unplaced
  | .addRuleRef i k token => .addRuleRef i k token.unplaced
  | .defineScope name scope => .defineScope name scope.unplaced
  | .raisePrintLevel level => .raisePrintLevel level

variable {g h : Grammar} {step : BuildStep} {i k : Nat} {r q : Rule} {f : Rule → Rule}
  {reply : Rule → BuildAnswer} {file file' : Alternative → Alternative} {e : BuildError}
  {answer : Except BuildError BuildAnswer}

theorem BuildStep.ChangesRule.unplaced (hs : step.ChangesRule i f reply) :
    ∃ f' reply', step.unplaced.ChangesRule i f' reply' ∧
      (∀ r, (f r).unplaced = f' r.unplaced) ∧ ∀ r, reply' r.unplaced = reply r := by
  cases hs with
  | arguments => exact ⟨_, _, .arguments .., fun _ => rfl, fun _ => rfl⟩
  | returns => exact ⟨_, _, .returns .., fun _ => rfl, fun _ => rfl⟩
  | scope => exact ⟨_, _, .scope .., fun _ => rfl, fun _ => rfl⟩
  | modifiers => exact ⟨_, _, .modifiers .., fun _ => rfl, fun _ => rfl⟩
  | usedScopes => exact ⟨_, _, .usedScopes .., fun _ => rfl, fun _ => rfl⟩
  | mode => exact ⟨_, _, .mode .., fun _ => rfl, fun _ => rfl⟩
  | namedAction =>
    refine ⟨_, _, .namedAction .., fun r => ?_, fun r => ?_⟩
    · simp only [Rule.unplaced, NameTable.map_insert]
      rfl
    · simp only [Rule.unplaced, NameTable.contains_map]
  | exceptionAction =>
    refine ⟨_, _, .exceptionAction .., fun r => ?_, fun _ => rfl⟩
    simp only [Rule.unplaced, List.map_append]
    rfl
  | finallyAction => exact ⟨_, _, .finallyAction .., fun _ => rfl, fun _ => rfl⟩

theorem BuildStep.Files.unplaced (hs : step.Files i k file) :
    ∃ file', step.unplaced.Files i k file' ∧ ∀ alt, (file alt).unplaced = file' alt.unplaced := by
  cases hs with
  | label =>
    refine ⟨_, .label .., fun alt => ?_⟩
    simp only [Alternative.addLabel, Alternative.unplaced, NameTable.map_extend]
    rfl
  | tokenRef =>
    refine ⟨_, .tokenRef .., fun alt => ?_⟩
    simp only [Alternative.addTokenRef, Alternative.unplaced, NameTable.map_extend]
    rfl
  | ruleRef =>
    refine ⟨_, .ruleRef .., fun alt => ?_⟩
    simp only [Alternative.addRuleRef, Alternative.unplaced, NameTable.map_extend]
    rfl

theorem BuildStep.Acts.unplaced (hs : step.Acts i k) : step.unplaced.Acts i k := by
  cases hs with
  | action => exact .action ..
  | predicate => exact .predicate ..

theorem Alternative.addAction_unplaced (alt : Alternative) (action : Action) :
    (alt.addAction action).unplaced = alt.unplaced.addAction action.unplaced := by
  simp only [unplaced, addAction, List.map_append]
  rfl

namespace Rule

theorem length_alternatives_unplaced :
    r.unplaced.alternatives.length = r.alternatives.length := List.length_map _

theorem hasAlternative_unplaced : r.unplaced.HasAlternative k ↔ r.HasAlternative k := by
  rw [HasAlternative, length_alternatives_unplaced, HasAlternative]

theorem fresh_unplaced (i : Nat) (head : Token) (alts : Nat) :
    (fresh i head alts).unplaced = fresh i head.unplaced alts := by
  simp only [fresh, unplaced, List.map_map]
  rfl

theorem altered_unplaced (hf : ∀ alt, (file alt).unplaced = file' alt.unplaced) :
    (r.altered k file).unplaced = r.unplaced.altered k file' := by
  have ha : (r.alternatives.modify (k - 1) file).map Alternative.unplaced =
      (r.alternatives.map Alternative.unplaced).modify (k - 1) file' := by
    apply List.ext_getElem?
    intro j
    simp only [List.getElem?_map, List.getElem?_modify]
    cases r.alternatives[j]? with
    | none => rfl
    | some alt =>
      by_cases hj : k - 1 = j
      · simp [hj, hf]
      · simp [hj]
  simp only [altered, unplaced, ha]

theorem altered_addAction_unplaced (action : Action) :
    (r.altered k (·.addAction action)).unplaced =
      r.unplaced.altered k (·.addAction action.unplaced) :=
  altered_unplaced fun alt => alt.addAction_unplaced action

theorem numbered_unplaced (snippet : Snippet) (n : Nat) :
    Rule.unplaced { r.altered k (·.addAction (snippet.numbered (some n))) with
      lastAction := some n } =
    { r.unplaced.altered k (·.addAction (snippet.unplaced.numbered (some n))) with
      lastAction := some n } :=
  congrArg (fun q : Rule => { q with lastAction := some n })
    (altered_addAction_unplaced (r := r) (k := k) (snippet.numbered (some n)))

end Rule

namespace Registry

variable {registry : Registry}

theorem length_actions_unplaced :
    registry.unplaced.actions.length = registry.actions.length := List.length_map _

theorem length_predicates_unplaced :
    registry.unplaced.predicates.length = registry.predicates.length := List.length_map _

theorem addAction_unplaced (snippet : Snippet) : (registry.addAction snippet).2.2.unplaced =
    (registry.unplaced.addAction snippet.unplaced).2.2 := by
  simp only [addAction, unplaced, List.map_append, List.length_map]
  rfl

theorem addPredicate_unplaced (snippet : Snippet) : (registry.addPredicate snippet).2.2.unplaced =
    (registry.unplaced.addPredicate snippet.unplaced).2.2 := by
  simp only [addPredicate, unplaced, List.map_append, List.length_map]
  rfl

end Registry

namespace Grammar

theorem length_rules_unplaced : g.unplaced.rules.length = g.rules.length := List.length_map _

theorem rule_unplaced (hr : g.rules[i]? = some r) : g.unplaced.rules[i]? = some r.unplaced := by
  rw [getElem?_rules_unplaced, hr, Option.map_some]

theorem withRule_unplaced : (g.withRule i q).unplaced = g.unplaced.withRule i q.unplaced := by
  simp only [withRule, unplaced, List.map_set]

theorem withRegistry_unplaced (registry : Registry) :
    Grammar.unplaced { g.withRule i q with registry } =
      { g.unplaced.withRule i q.unplaced with registry := registry.unplaced } :=
  congrArg (fun h : Grammar => { h with registry := registry.unplaced }) withRule_unplaced

theorem declaring_unplaced (head : Token) (alts : Nat) :
    (g.declaring head alts).unplaced = g.unplaced.declaring head.unplaced alts := by
  simp only [declaring, unplaced, List.map_append, List.length_map, ← Rule.fresh_unplaced]
  rfl

theorem defineScope_unplaced (name : String) (scope : Dict) :
    (g.defineScope name scope).unplaced = g.unplaced.defineScope name scope.unplaced := by
  simp only [defineScope, unplaced, NameTable.map_insert]
  rfl

theorem Refuses.unplaced (hf : g.Refuses step e) : g.unplaced.Refuses step.unplaced e := by
  cases hf with
  | noAlternative => exact .noAlternative _
  | noRuleToChange hs hi =>
    obtain ⟨_, _, hs, _⟩ := hs.unplaced
    exact .noRuleToChange hs (by rwa [length_rules_unplaced])
  | noRuleToFile hs hi =>
    obtain ⟨_, hs, _⟩ := hs.unplaced
    exact .noRuleToFile hs (by rwa [length_rules_unplaced])
  | noRuleToAct hs hi =>
    rw [← length_rules_unplaced]
    exact .noRuleToAct hs.unplaced (by rwa [length_rules_unplaced])
  | noAlternativeToFile hs hr hk =>
    obtain ⟨_, hs, _⟩ := hs.unplaced
    rw [← Rule.length_alternatives_unplaced]
    exact .noAlternativeToFile hs (rule_unplaced hr) (hk ∘ Rule.hasAlternative_unplaced.1)
  | noAlternativeToAct hs hr hk =>
    rw [← Rule.length_alternatives_unplaced]
    exact .noAlternativeToAct hs.unplaced (rule_unplaced hr) (hk ∘ Rule.hasAlternative_unplaced.1)

/-- Erased steps have the erased effects, and the same answers. -/
theorem Effect.unplaced (he : g.Effect step h answer) :
    g.unplaced.Effect step.unplaced h.unplaced answer := by
  cases he with
  | refused hf => exact .refused hf.unplaced
  | declared ha =>
    rw [declaring_unplaced, ← length_rules_unplaced]
    exact .declared ha
  | changed hs hr =>
    obtain ⟨f', reply', hs, hf, ha⟩ := hs.unplaced
    rw [withRule_unplaced, hf, ← ha]
    exact .changed hs (rule_unplaced hr)
  | filed hs hr hk =>
    obtain ⟨file', hs, hf⟩ := hs.unplaced
    rw [withRule_unplaced, Rule.altered_unplaced hf]
    exact .filed hs (rule_unplaced hr) (Rule.hasAlternative_unplaced.2 hk)
  | numbered hr hk hs hn =>
    rw [withRegistry_unplaced, Registry.addAction_unplaced, Rule.numbered_unplaced]
    rw [← Registry.length_actions_unplaced] at hn
    exact .numbered (rule_unplaced hr) (Rule.hasAlternative_unplaced.2 hk) hs hn
  | unnumbered hr hk hs =>
    rw [withRule_unplaced, Rule.altered_addAction_unplaced]
    exact .unnumbered (rule_unplaced hr) (Rule.hasAlternative_unplaced.2 hk) hs
  | predicate hr hk hn =>
    rw [withRegistry_unplaced, Registry.addPredicate_unplaced, Rule.altered_addAction_unplaced]
    rw [← Registry.length_predicates_unplaced] at hn
    exact .predicate (rule_unplaced hr) (Rule.hasAlternative_unplaced.2 hk) hn
  | scopeDefined =>
    rw [defineScope_unplaced]
    exact .scopeDefined
  | raised => exact .raised

theorem perform_unplaced (g : Grammar) (step : BuildStep) :
    g.unplaced.perform step.unplaced = ((g.perform step).1.unplaced, (g.perform step).2) :=
  perform_of_effect (effect_perform g step).unplaced

end Grammar
end GrammarRefs
