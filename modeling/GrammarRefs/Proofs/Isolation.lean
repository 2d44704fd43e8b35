import GrammarRefs.Proofs.Answers
import GrammarRefs.Proofs.Checking

/-! What one rule is to the others. They see its header and never its body, and its arguments only
make a difference to what is said of a wrong reference. -/
namespace GrammarRefs

variable {g : Grammar} {q r body : Rule} {j k : Nat}

namespace Site

theorem alike_withRule (hq : g.rules[k]? = some q) (hb : body.header = q.header) (r : Rule) :
    Site.Alike ⟨g, r⟩ ⟨g.withRule k body, r⟩ where
  kind := rfl
  scopes := rfl
  rules n := (Grammar.rule?_withRule Rule.header hq hb n).symm
  header := rfl
  firstLabel _ := rfl
  tokens _ := rfl
  ruleRefs _ := rfl

theorem alikeAt_withRule (g : Grammar) (k : Nat) (body r : Rule) (x : String) :
    Site.AlikeAt x ⟨g, r⟩ ⟨g.withRule k body, r⟩ :=
  ⟨rfl, rfl, rfl, rfl, rfl, rfl⟩

/-- Of a rule that a name leads to, only the return values and the scope are asked for. -/
theorem accepts_withRule (hq : g.rules[k]? = some q) (body : Rule)
    (hr : body.returns = q.returns) (hs : body.scope = q.scope) (r : Rule) (ref : Reference) :
    Site.accepts ⟨g, r⟩ ref = Site.accepts ⟨g.withRule k body, r⟩ ref := by
  have hr := Grammar.rule?_withRule Rule.returns hq hr
  have hs := Grammar.rule?_withRule Rule.scope hq hs
  cases ref with
  | simple x => exact (alikeAt_withRule ..).accepts_simple
  | qualified x y =>
    refine (alikeAt_withRule ..).accepts_qualified (leads_of_firstLabel rfl rfl fun n => ?_)
    exact hasResult_eq _ _ (hr n).symm
  | dynamic x y =>
    refine (alikeAt_withRule ..).accepts_dynamic (leads_of_firstLabel rfl rfl fun n => ?_)
    exact hasDynamic_eq _ _ _ (hs n).symm

end Site

namespace Check

/-- The passes that go from rule to rule, with what they do at each. -/
def visits : List (Pass × (Grammar → Rule → Reporting Bool)) := [
  (undeclaredRules, fun g r => (inspectRuleRefs g r).marked),
  (labelConflicts, fun g r => (inspectLabels g r).marked),
  (attributeReferences, reportReferences)]

theorem inspectRuleRefs_withRule (hq : g.rules[k]? = some q) (body r : Rule) :
    inspectRuleRefs (g.withRule k body) r = inspectRuleRefs g r := by
  have hi : inspectRuleRef (g.withRule k body) = inspectRuleRef g := by
    funext ref
    rw [inspectRuleRef, Grammar.declares_withRule hq, inspectRuleRef]
  rw [inspectRuleRefs, hi, inspectRuleRefs]

theorem inspectLabels_withRule (hq : g.rules[k]? = some q) (body r : Rule) :
    inspectLabels (g.withRule k body) r = inspectLabels g r := by
  have hi : inspectLabel (g.withRule k body) = inspectLabel g := by
    funext name labels
    cases labels with
    | nil => rfl
    | cons => rw [inspectLabel, Grammar.declares_withRule hq, inspectLabel]
  rw [inspectLabels, hi, inspectLabels]

theorem reportReferences_withRule (hq : g.rules[k]? = some q) (hb : body.header = q.header)
    (r : Rule) : reportReferences (g.withRule k body) r = reportReferences g r := by
  have hi : inspectReference ⟨g.withRule k body, r⟩ = inspectReference ⟨g, r⟩ := by
    funext action ref
    rw [inspectReference, ← (Site.alike_withRule hq hb r).fault?, inspectReference]
  rw [reportReferences, reportReferences, hi]

theorem appended_of_visits {pass : Pass} {visit : Grammar → Rule → Reporting Bool}
    {found : Grammar → Rule → List Diagnostic} (hp : pass.Finds fun g => g.rules.flatMap (found g))
    (hv : ∀ g r, Concludes (visit g r) (found g r)) (g : Grammar) (log : Diagnostics) :
    ((pass g).run log).2 = log ++ g.rules.flatMap fun r => ((visit g r).run []).2 := by
  have hr : ∀ r, ((visit g r).run []).2 = found g r := by
    intro r
    rw [(hv g r).reports []]
    rfl
  simp only [hp.reports g log, hr]

/-- A pass reports what it reports at the rules, one after the other. -/
theorem visits_append : ∀ visit ∈ visits, ∀ (g : Grammar) log,
    ((visit.1 g).run log).2 = log ++ g.rules.flatMap fun r => ((visit.2 g r).run []).2 := by
  simp only [visits, List.forall_mem_cons, List.not_mem_nil, false_imp_iff, implies_true, and_true]
  exact ⟨appended_of_visits undeclaredRules_finds fun g r => (finds_inspectRuleRefs g r).marked,
    appended_of_visits labelConflicts_finds fun g r => (finds_inspectLabels g r).marked,
    appended_of_visits attributeReferences_finds concludes_reportReferences⟩

theorem visits_withRule (hq : g.rules[k]? = some q) (hb : body.header = q.header) (r : Rule) :
    ∀ visit ∈ visits, visit.2 g r = visit.2 (g.withRule k body) r := by
  simp only [visits, List.forall_mem_cons, List.not_mem_nil, false_imp_iff, implies_true, and_true]
  rw [inspectRuleRefs_withRule hq, inspectLabels_withRule hq, reportReferences_withRule hq hb]
  exact ⟨rfl, rfl, rfl⟩

/-- Of a rule only what it is declared with matters to another one. Whatever becomes of the body,
names stand for the same there, and a pass, which reports of one rule after the other, reports the
same of it. The arguments do not matter to which references are accepted there. -/
theorem bodies_are_isolated (hq : g.rules[k]? = some q) (hr : g.rules[j]? = some r) (hn : j ≠ k) :
    (∀ body : Rule, body.header = q.header → body.index = q.index →
      let h := g.withRule k body
      h.rules[j]? = some r ∧
      (∀ x y, (Site.resolve ⟨g, r⟩ x y).SameBy Rule.index (Site.resolve ⟨h, r⟩ x y)) ∧
      (∀ target y, Site.result? ⟨g, r⟩ target y = Site.result? ⟨h, r⟩ target y) ∧
      ∀ visit ∈ visits, visit.2 g r = visit.2 h r ∧
        ∀ log, ((visit.1 h).run log).2 =
          log ++ h.rules.flatMap fun p => ((visit.2 h p).run []).2) ∧
    ∀ arguments ref, Site.fault? ⟨g, r⟩ ref = none ↔
      Site.fault? ⟨g.withRule k { q with arguments }, r⟩ ref = none := by
  refine ⟨?_, ?_⟩
  · intro body hb hi h
    refine ⟨?_, ?_, fun _ _ => rfl, ?_⟩
    · rw [← hr]
      exact List.getElem?_set_ne hn.symm
    · intro x y
      exact (Site.alike_withRule hq hb r).resolve rfl
        (fun n => (Grammar.rule?_withRule Rule.index hq hi n).symm) x y
    · intro visit hv
      exact ⟨visits_withRule hq hb r visit hv, visits_append visit hv h⟩
  · intro arguments ref
    have ha := Site.accepts_withRule hq { q with arguments } rfl rfl r ref
    rw [Site.fault?_eq_none_iff_accepts, Site.fault?_eq_none_iff_accepts, ha]

/-- The rule that a label leads to, with a label and an action of its own and then with neither. -/
theorem bodies_are_isolated_of_labelled_rule :
    let label : Label := ⟨⟨"e", {}⟩, ⟨"b", {}⟩, .rule⟩
    let g := ((Grammar.empty "P" .parser).run [.defineRule ⟨"a", {}⟩ 1, .defineRule ⟨"b", {}⟩ 1,
      .setReturns 1 (some (.ofNames .returnValue ["v"])), .addRuleRef 0 1 ⟨"b", {}⟩,
      .addLabel 0 1 label, .addRuleRef 1 1 ⟨"c", {}⟩, .addLabel 1 1 label]).1
    g.rules.length = 2 ∧ ∀ q ∈ g.rules[1]?, ∀ r ∈ g.rules[0]?,
      let h := g.withRule 1 { q with alternatives := [] }
      (Site.resolve ⟨g, r⟩ "e" "v").SameBy Rule.index (Site.resolve ⟨h, r⟩ "e" "v") ∧
      (Site.resolve ⟨h, r⟩ "e" "v").qualified.isSome := by
  intro label g
  refine ⟨rfl, ?_⟩
  intro q hq r hr
  have hi := bodies_are_isolated hq hr (by decide)
  have hs := (hi.1 { q with alternatives := [] } rfl rfl).2.1 "e" "v"
  refine ⟨hs, ?_⟩
  rw [← hs.qualified]
  obtain rfl := Option.some.inj hr
  decide

end Check
end GrammarRefs
