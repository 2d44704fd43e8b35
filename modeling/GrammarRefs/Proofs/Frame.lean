import GrammarRefs.Grammar.Build
import GrammarRefs.Proofs.Checking

/-! The passes of a check do not get in each other's way, and a check writes two things only. -/
namespace GrammarRefs

/-- What the pass reports when it is run alone. -/
def Pass.appended (pass : Pass) (g : Grammar) : List Diagnostic := ((pass g).run []).2

/-- The grammar without what a check writes: its start rules and its print level. -/
def Grammar.unmarked (g : Grammar) : Grammar :=
  { g with rules := g.rules.map ({ · with isStart := false }), printLevel := .quiet }

variable {g : Grammar} {pass : Pass} {v : Verdict Grammar} {xs : List Diagnostic}

theorem Reports.appended (h : Reports (pass g) v xs) : pass.appended g = xs := by
  rw [Pass.appended, h []]
  rfl

theorem Reports.run_eq_appended (h : Reports (pass g) v xs) (log : Diagnostics) :
    ((pass g).run log).2 = log ++ pass.appended g := by
  rw [h.appended, h log]

namespace Check

/-- The passes of a check that report anything, for a grammar that has a rule. -/
def reportingPasses (directives : List Directive) : List Pass := [
  decorate directives,
  ruleDuplicates,
  attributeDuplicates,
  undeclaredRules,
  labelConflicts,
  attributeReferences]

theorem unmarked_withStartRules : (withStartRules g).unmarked = g.unmarked := by
  simp only [Grammar.unmarked, withStartRules, List.map_map]
  rfl

theorem unmarked_checked (directives : List Directive) :
    (checked directives g).unmarked = g.unmarked := by
  rw [checked, unmarked_withStartRules, g.foldl_obeying_eq]
  rfl

/-- Each pass reports what it would report alone on the grammar as it was given, in the order of the
passes, and a check writes nothing but the start rules and the print level. -/
theorem check_appends_what_passes_append (directives : List Directive) (hg : g.rules ≠ [])
    (log : Diagnostics) :
    (∀ pass ∈ reportingPasses directives, ((pass g).run log).2 = log ++ pass.appended g) ∧
    ((check directives g).run log).2 =
      log ++ (reportingPasses directives).flatMap (·.appended g) ∧
    ∃ h, ((check directives g).run log).1.value? = some h ∧ h.unmarked = g.unmarked := by
  have hd := decorate_yields directives g
  have hr := ruleDuplicates_finds.yields g
  have ha := attributeDuplicates_finds.yields g
  have hu := undeclaredRules_finds.yields g
  have hl := labelConflicts_finds.yields g
  have hf := attributeReferences_finds.yields g
  have hc := check_yields hg directives log
  refine ⟨?_, ?_, checked directives g, ?_, unmarked_checked directives⟩
  · simp only [reportingPasses, List.forall_mem_cons, List.not_mem_nil, false_imp_iff, implies_true,
      and_true]
    exact ⟨hd.run_eq_appended log, hr.run_eq_appended log, ha.run_eq_appended log,
      hu.run_eq_appended log, hl.run_eq_appended log, hf.run_eq_appended log⟩
  · simp only [hc, reportingPasses, List.flatMap_cons, List.flatMap_nil, hd.appended, hr.appended,
      ha.appended, hu.appended, hl.appended, hf.appended, errors, List.append_nil]
  · rw [hc]
    simp only [Verdict.ofMark]
    split <;> rfl

/-- A rule that is declared twice and refers to one that is not declared. -/
theorem passes_append_for_flawed_grammar :
    let g := ((Grammar.empty "T" .parser).run [.defineRule ⟨"a", {}⟩ 1, .defineRule ⟨"a", {}⟩ 1,
      .addRuleRef 0 1 ⟨"b", {}⟩]).1
    ((check [{ path := ["trace"] }] g).run []).2 =
      (reportingPasses [{ path := ["trace"] }]).flatMap (·.appended g) := by
  have hg : ((Grammar.empty "T" .parser).run [.defineRule ⟨"a", {}⟩ 1, .defineRule ⟨"a", {}⟩ 1,
      .addRuleRef 0 1 ⟨"b", {}⟩]).1.rules ≠ [] := by
    decide
  exact (check_appends_what_passes_append _ hg []).2.1

end Check
end GrammarRefs
