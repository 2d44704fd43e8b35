import GrammarRefs.Proofs.Construction

/-! What the steps of a run answer. The steps that fail leave no trace in the grammar. -/
namespace GrammarRefs

/-- A step with its answer. -/
abbrev Deed := BuildStep × Except BuildError BuildAnswer

/-- The rule and the alternative that a step edits. -/
def BuildStep.alternative? : BuildStep → Option (Nat × Nat)
  | .addAction i k _ | .addPredicate i k _ | .addLabel i k _ | .addTokenRef i k _
  | .addRuleRef i k _ => some (i, k)
  | _ => none

namespace Grammar

variable {g h : Grammar} {step : BuildStep} {i k : Nat} {r : Rule} {past : List Deed}
  {e : BuildError}

/-- The steps of a run in order, each with its answer. -/
def history (g : Grammar) (steps : List BuildStep) : List Deed := steps.zip (g.run steps).2

/-- The steps of a run that do not fail. -/
def successes (g : Grammar) (steps : List BuildStep) : List BuildStep :=
  ((g.history steps).filter (·.2.isOk)).map Prod.fst

theorem history_cons (g : Grammar) (step : BuildStep) (steps : List BuildStep) :
    g.history (step :: steps) =
      (step, (g.perform step).2) :: (g.perform step).1.history steps := rfl

theorem run_cons (g : Grammar) (step : BuildStep) (steps : List BuildStep) :
    g.run (step :: steps) = (((g.perform step).1.run steps).1,
      (g.perform step).2 :: ((g.perform step).1.run steps).2) := rfl

/-- What every step keeps, its answer being written down, holds at the end of a run. -/
theorem history_induct {motive : List Deed → Grammar → Prop}
    (hs : ∀ past g step h answer, motive past g → g.Effect step h answer →
      motive (past ++ [(step, answer)]) h)
    (steps : List BuildStep) (hg : motive past g) :
    motive (past ++ g.history steps) (g.run steps).1 := by
  induction steps generalizing past g with
  | nil =>
    rw [history, List.zip_nil_left, List.append_nil]
    exact hg
  | cons step steps ih =>
    have h := ih (hs past g step _ _ hg (effect_perform g step))
    rwa [List.append_assoc] at h

/-- What every step says of its answer is true of every answer of a run. -/
theorem forall_mem_history (invariant : Grammar → Prop) {property : Deed → Prop}
    (hs : ∀ g step h answer, invariant g → g.Effect step h answer →
      invariant h ∧ property (step, answer))
    (steps : List BuildStep) (hg : invariant g) : ∀ deed ∈ g.history steps, property deed := by
  induction steps generalizing g with
  | nil => simp [history]
  | cons step steps ih =>
    obtain ⟨hi, hp⟩ := hs g step _ _ hg (effect_perform g step)
    intro deed hm
    rcases List.mem_cons.1 hm with rfl | hm
    · exact hp
    · exact ih hi deed hm

theorem Effect.of_error (he : g.Effect step h (.error e)) : h = g ∧ g.Refuses step e := by
  cases he with
  | refused hf => exact ⟨rfl, hf⟩

theorem perform_of_error (he : (g.perform step).2 = .error e) :
    (g.perform step).1 = g ∧ g.Refuses step e := by
  have hp := effect_perform g step
  rw [he] at hp
  exact hp.of_error

/-- A step on an alternative of a declared rule is refused for one reason only. -/
theorem Refuses.of_alternative (hf : g.Refuses step e) (hs : step.alternative? = some (i, k))
    (hr : g.rules[i]? = some r) : ¬ r.HasAlternative k ∧
      e = .structural (.altOutOfRange r.name k r.alternatives.length) := by
  have hi := (List.getElem?_eq_some_iff.1 hr).1
  cases hf with
  | noAlternative => cases hs
  | noRuleToChange hc => cases hc <;> cases hs
  | noRuleToFile hf hl => cases hf <;> cases hs <;> omega
  | noRuleToAct ha hl => cases ha <;> cases hs <;> omega
  | noAlternativeToFile hf hq hk =>
    cases hf <;> cases hs <;> cases hr.symm.trans hq <;> exact ⟨hk, rfl⟩
  | noAlternativeToAct ha hq hk =>
    cases ha <;> cases hs <;> cases hr.symm.trans hq <;> exact ⟨hk, rfl⟩

/-- No step does anything to an alternative that is not there. -/
theorem Effect.fails_of_no_alternative {answer : Except BuildError BuildAnswer}
    (he : g.Effect step h answer) (hs : step.alternative? = some (i, k))
    (hr : g.rules[i]? = some r) (hk : ¬ r.HasAlternative k) : ∃ e, answer = .error e := by
  cases he with
  | refused => exact ⟨_, rfl⟩
  | declared | scopeDefined | raised => cases hs
  | changed hc => cases hc <;> cases hs
  | filed hf hq ha =>
    cases hf <;> cases hs <;> cases hr.symm.trans hq <;> exact absurd ha hk
  | numbered hq ha | unnumbered hq ha | predicate hq ha =>
    cases hs
    cases hr.symm.trans hq
    exact absurd ha hk

theorem perform_fails_iff (hs : step.alternative? = some (i, k)) (hr : g.rules[i]? = some r) :
    (∃ e, (g.perform step).2 = .error e) ↔ k = 0 ∨ r.alternatives.length < k := by
  have hk : ¬ r.HasAlternative k ↔ k = 0 ∨ r.alternatives.length < k := by
    rw [Rule.HasAlternative]
    omega
  rw [← hk]
  constructor
  · rintro ⟨e, he⟩
    exact ((perform_of_error he).2.of_alternative hs hr).1
  · exact (effect_perform g step).fails_of_no_alternative hs hr

theorem run_successes (g : Grammar) (steps : List BuildStep) :
    g.run (g.successes steps) = ((g.run steps).1, (g.run steps).2.filter (·.isOk)) := by
  induction steps generalizing g with
  | nil => rfl
  | cons step steps ih =>
    rw [successes, history_cons, List.filter_cons, run_cons]
    cases ha : (g.perform step).2 with
    | error e =>
      -- The rest runs from the grammar that the failing step has found.
      rw [(perform_of_error ha).1]
      exact ih g
    | ok answer =>
      change g.run (step :: (g.perform step).1.successes steps) = _
      rw [run_cons, ih, ha]
      rfl

/-- Without its failing steps a run gives the same answers and the same grammar. A step on an
alternative of a declared rule fails only for want of the alternative, and says so. -/
theorem failing_steps_leave_no_trace (g : Grammar) (steps : List BuildStep) :
    (g.run (g.successes steps)).1 = (g.run steps).1 ∧
    (g.run (g.successes steps)).2 = (g.run steps).2.filter (·.isOk) ∧
    ∀ step i k r, step.alternative? = some (i, k) → (g.run steps).1.rules[i]? = some r →
      ((∃ e, ((g.run steps).1.perform step).2 = .error e) ↔
        k = 0 ∨ r.alternatives.length < k) ∧
      ∀ e, ((g.run steps).1.perform step).2 = .error e →
        e = .structural (.altOutOfRange r.name k r.alternatives.length) := by
  have hr := run_successes g steps
  refine ⟨by rw [hr], by rw [hr], ?_⟩
  intro step i k r hs hi
  refine ⟨perform_fails_iff hs hi, ?_⟩
  intro e he
  exact ((perform_of_error he).2.of_alternative hs hi).2

/-- A run with each kind of failure: of its six steps two are left. -/
theorem failing_steps_leave_no_trace_in_lexer :
    let g := Grammar.empty "L" .lexer
    let steps : List BuildStep := [.defineRule ⟨"A", {}⟩ 0, .defineRule ⟨"A", {}⟩ 1,
      .addAction 0 2 { kind := .action, code := .nil }, .addPredicate 7 1
        { kind := .predicate, code := .nil }, .addLabel 7 1 ⟨⟨"x", {}⟩, ⟨"B", {}⟩, .token⟩,
      .addAction 0 1 { kind := .action, code := .nil }]
    g.successes steps = [.defineRule ⟨"A", {}⟩ 1,
      .addAction 0 1 { kind := .action, code := .nil }] ∧
    (g.run (g.successes steps)).1 = (g.run steps).1 ∧
    ((g.run steps).1.perform (.addRuleRef 0 5 ⟨"B", {}⟩)).2 =
      .error (.structural (.altOutOfRange "A" 5 1)) := by
  intro g steps
  have ht := failing_steps_leave_no_trace g steps
  refine ⟨rfl, ht.1, ?_⟩
  obtain ⟨hf, he⟩ := ht.2.2 (.addRuleRef 0 5 ⟨"B", {}⟩) 0 5 _ rfl rfl
  obtain ⟨e, hr⟩ := hf.2 (.inr (by decide))
  exact hr.trans (congrArg _ (he e hr))

end Grammar
end GrammarRefs
