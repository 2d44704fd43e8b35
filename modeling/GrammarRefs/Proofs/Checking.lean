import GrammarRefs.Proofs.Courses
import GrammarRefs.Proofs.Directives
import GrammarRefs.Proofs.Findings
import GrammarRefs.Proofs.Sites

/-! The check as a whole. It reports what each pass finds in the grammar that it was given, since no
pass reads what another one writes. -/
namespace GrammarRefs.Check

variable {g : Grammar} {directives : List Directive} {level : PrintLevel} {starts : Rule → Bool}

/-- All errors of a grammar that has a rule, pass by pass. -/
def errors (g : Grammar) : List Diagnostic :=
  duplicateRules g ++ (duplicateAttributes g ++ (undeclaredRefs g ++
    (conflictsOfLabels g ++ referenceFaults g)))

theorem errors_isError (g : Grammar) : ∀ d ∈ errors g, d.isError := by
  simp only [errors, List.forall_mem_append]
  exact ⟨ruleDuplicates_finds.errors g, attributeDuplicates_finds.errors g,
    undeclaredRules_finds.errors g, labelConflicts_finds.errors g,
    attributeReferences_finds.errors g⟩

/-- The grammar as if its start rules were these. -/
def remarked (starts : Rule → Bool) (g : Grammar) : Grammar :=
  { g with rules := g.rules.map fun r => { r with isStart := starts r } }

theorem rule?_remarked (n : String) : (remarked starts g).rule? n =
    (g.rule? n).map fun r => { r with isStart := starts r } := by
  simp only [Grammar.rule?, Grammar.ruleIndex?, remarked, List.getElem?_map]
  cases g.ruleIndex.get? n <;> rfl

theorem declares_remarked (n : String) : (remarked starts g).declares n = g.declares n := by
  rw [Grammar.declares, rule?_remarked, Option.isSome_map, Grammar.declares]

theorem alike_remarked (r : Rule) :
    Site.Alike ⟨remarked starts g, { r with isStart := starts r }⟩ ⟨g, r⟩ where
  kind := rfl
  scopes := rfl
  rules := by
    intro n
    rw [rule?_remarked, Option.map_map]
    rfl
  header := rfl
  firstLabel _ := rfl
  tokens _ := rfl
  ruleRefs _ := rfl

theorem faultsInRule_congr {h : Grammar} {q r : Rule} (hs : Site.Alike ⟨g, q⟩ ⟨h, r⟩)
    (ha : q.actions = r.actions) : faultsInRule g q = faultsInRule h r := by
  have hf : ∀ action, faultsOfReference ⟨g, q⟩ action = faultsOfReference ⟨h, r⟩ action := by
    intro action
    funext ref
    rw [faultsOfReference, hs.fault?, faultsOfReference]
  simp only [faultsInRule, ha, hf]

theorem conflictsOfLabels_remarked :
    conflictsOfLabels (remarked starts g) = conflictsOfLabels g := by
  have hc : ∀ r, conflictsInRule (remarked starts g) { r with isStart := starts r } =
      conflictsInRule g r := fun r => conflictsInRule_congr declares_remarked rfl
  rw [conflictsOfLabels, remarked, List.flatMap_map]
  exact congrArg (g.rules.flatMap ·) (funext hc)

theorem referenceFaults_remarked : referenceFaults (remarked starts g) = referenceFaults g := by
  have hf : ∀ r, faultsInRule (remarked starts g) { r with isStart := starts r } =
      faultsInRule g r := fun r => faultsInRule_congr (alike_remarked r) rfl
  rw [referenceFaults, remarked, List.flatMap_map]
  exact congrArg (g.rules.flatMap ·) (funext hf)

theorem errors_withPrintLevel : errors { g with printLevel := level } = errors g := by
  have hf : ∀ r, faultsInRule { g with printLevel := level } r = faultsInRule g r := by
    intro r
    refine faultsInRule_congr ?_ rfl
    exact ⟨rfl, rfl, fun _ => rfl, rfl, fun _ => rfl, fun _ => rfl, fun _ => rfl⟩
  have hr : referenceFaults { g with printLevel := level } = referenceFaults g :=
    congrArg (g.rules.flatMap ·) (funext hf)
  rw [errors, hr]
  rfl

theorem analyse_yields (g : Grammar) : analyse.Yields g (withStartRules g) (errors g) := by
  have hc : Course [labelConflicts, attributeReferences] (withStartRules g) (withStartRules g)
      (conflictsOfLabels g ++ referenceFaults g) := by
    have hl := labelConflicts_finds.yields (withStartRules g)
    have hr := attributeReferences_finds.yields (withStartRules g)
    rw [show conflictsOfLabels (withStartRules g) = _ from conflictsOfLabels_remarked] at hl
    rw [show referenceFaults (withStartRules g) = _ from referenceFaults_remarked] at hr
    exact .step hl (.single hr)
  have hm : markStartRules.Yields g (withStartRules g) [] := reports_pure _
  have hs := Course.step hm hc
  exact Course.chain (.step (ruleDuplicates_finds.yields g)
    (.step (attributeDuplicates_finds.yields g) (.step (undeclaredRules_finds.yields g) hs)))

theorem requireRule_yields (hg : g.rules ≠ []) : requireRule.Yields g g [] := by
  have he : requireRule g = pure (.accepted g) := by
    simp only [requireRule, List.isEmpty_eq_false_iff.2 hg, Bool.false_eq_true, if_false]
  rw [Pass.Yields, he]
  exact reports_pure _

theorem hasErrors_warnings :
    Diagnostics.hasErrors (directives.flatMap Directive.warnings) = false := by
  rw [Diagnostics.hasErrors, List.any_eq_false]
  intro w hw
  obtain ⟨d, _, hd⟩ := List.mem_flatMap.1 hw
  simp [Directive.isError_of_mem_warnings hd]

theorem decorate_yields (directives : List Directive) (g : Grammar) :
    (decorate directives).Yields g (directives.foldl Grammar.obeying g)
      (directives.flatMap Directive.warnings) := by
  rw [Pass.Yields, hasErrors_warnings]
  exact reports_decorate g directives

/-- The grammar that a check leaves. -/
def checked (directives : List Directive) (g : Grammar) : Grammar :=
  withStartRules (directives.foldl Grammar.obeying g)

theorem errors_obeying : errors (directives.foldl Grammar.obeying g) = errors g := by
  rw [g.foldl_obeying_eq, errors_withPrintLevel]

/-- Warnings come first. -/
theorem check_yields (hg : g.rules ≠ []) (directives : List Directive) :
    (check directives).Yields g (checked directives g)
      (directives.flatMap Directive.warnings ++ errors g) := by
  have ha := analyse_yields (directives.foldl Grammar.obeying g)
  rw [errors_obeying] at ha
  have hc := Course.step (requireRule_yields hg)
    (.step (decorate_yields directives g) (.single ha))
  exact hc.chain

theorem reports_check_of_no_rules (hg : g.rules = []) (directives : List Directive) :
    Reports (check directives g) .rejected [.error {} .noRule] := by
  intro log
  simp [check, Pass.chain, requireRule, hg, Verdict.andThen]
  rfl

end GrammarRefs.Check
