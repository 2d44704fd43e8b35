import GrammarRefs.Proofs.Reordering
import GrammarRefs.Proofs.Sessions

/-! Checks that enumerate every table in an order of their own. They report the same, and leave the
same grammar. -/
namespace GrammarRefs

/-- The same verdict, on values that correspond. -/
inductive Verdict.Like {α : Type} (R : α → α → Prop) : Verdict α → Verdict α → Prop
  | accepted {a b : α} (h : R a b) : Like R (.accepted a) (.accepted b)
  | flawed {a b : α} (h : R a b) : Like R (.flawed a) (.flawed b)
  | rejected : Like R .rejected .rejected

namespace Check

/-- How the passes enumerate what they build for themselves: the table of the labels of a rule, and
the set of the names that it refers to. -/
structure Orders where
  labels : Rule → List (String × List Label)
  ruleNames : Rule → List String
  labels_perm : ∀ r, (labels r).Perm r.labels.entries
  ruleNames_perm : ∀ r, (ruleNames r).Perm r.ruleNames

def Orders.reversed : Orders where
  labels r := r.labels.entries.reverse
  ruleNames r := r.ruleNames.reverse
  labels_perm _ := List.reverse_perm _
  ruleNames_perm _ := List.reverse_perm _

def inspectLabelsIn (orders : Orders) (g : Grammar) (r : Rule) : Inspection Unit :=
  (sortByName Prod.fst (orders.labels r)).forM fun entry => inspectLabel g entry.1 entry.2

def labelConflictsIn (orders : Orders) : Pass :=
  .ofInspection fun g => g.rules.forM (inspectLabelsIn orders g)

def markStartRulesIn (orders : Orders) : Pass := fun g =>
  let referred := g.rules.flatMap fun r => (orders.ruleNames r).filter (· != r.name)
  return .accepted
    { g with rules := g.rules.map fun r => { r with isStart := !referred.contains r.name } }

def analyseIn (orders : Orders) : Pass := .chain [
  ruleDuplicates,
  attributeDuplicates,
  undeclaredRules,
  markStartRulesIn orders,
  labelConflictsIn orders,
  attributeReferences]

def checkIn (orders : Orders) (directives : List Directive) : Pass :=
  .chain [requireRule, decorate directives, analyseIn orders]

variable {g h : Grammar} {r q : Rule} {orders : Orders} {directives : List Directive}

theorem labelConflictsIn_eq (orders : Orders) : labelConflictsIn orders = labelConflicts := by
  have hl : ∀ r, sortByName Prod.fst (orders.labels r) = r.labels.sorted := by
    intro r
    have hp := orders.labels_perm r
    exact sortByName_eq_of_perm hp ((hp.map Prod.fst).nodup_iff.2 r.labels.nodup)
  have hi : inspectLabelsIn orders = inspectLabels := by
    funext g r
    rw [inspectLabelsIn, hl, inspectLabels]
  rw [labelConflictsIn, hi, labelConflicts]

theorem markStartRulesIn_eq (orders : Orders) : markStartRulesIn orders = markStartRules := by
  have hc : ∀ (g : Grammar) n,
      (g.rules.flatMap fun r => (orders.ruleNames r).filter (· != r.name)).contains n =
        (referredNames g).contains n := by
    intro g n
    rw [Bool.eq_iff_iff, List.contains_iff_mem, List.contains_iff_mem]
    simp only [referredNames, List.mem_flatMap, List.mem_filter, (orders.ruleNames_perm _).mem_iff]
  funext g
  simp only [markStartRulesIn, hc]
  rfl

theorem analyseIn_eq (orders : Orders) : analyseIn orders = analyse := by
  rw [analyseIn, labelConflictsIn_eq, markStartRulesIn_eq, analyse]

theorem checkIn_eq (orders : Orders) : checkIn orders = check := by
  funext directives
  rw [checkIn, analyseIn_eq, check]

theorem duplicateRules_reordered (hr : g.Reordered h) : duplicateRules g = duplicateRules h := by
  rw [duplicateRules, hr.map_rules fun _ _ => Rule.Reordered.head, duplicateRules]

/-- A global scope has the name that it is found under. -/
theorem sortedScopes_reordered (hg : g.Placed) (hr : g.Reordered h) :
    sortedScopes g = sortedScopes h := by
  refine sortByName_eq_of_perm (hr.scopes.map Prod.snd) ?_
  have hk : (g.scopes.entries.map (·.2)).map (·.name.getD "") = g.scopes.entries.map Prod.fst := by
    rw [List.map_map]
    refine List.map_congr_left fun e he => ?_
    rw [Function.comp, hg.scopes e.1 e.2 (NameTable.get?_eq_some_iff.2 he), Option.getD_some]
  rw [hk]
  exact g.scopes.nodup

theorem duplicateAttributes_reordered (hg : g.Placed) (hr : g.Reordered h) :
    duplicateAttributes g = duplicateAttributes h := by
  have hd : g.rules.flatMap duplicatesInRule = h.rules.flatMap duplicatesInRule := by
    refine flatMap_eq_of_forall₂ hr.rules fun r q hq => ?_
    rw [hq.rest]
    rfl
  rw [duplicateAttributes, hd, sortedScopes_reordered hg hr, duplicateAttributes]

theorem undeclaredRefs_reordered (hg : g.Tabled) (hr : g.Reordered h) :
    undeclaredRefs g = undeclaredRefs h := by
  refine flatMap_eq_of_forall₂ (forall₂_of_mem hr.rules hg.filed) fun r q hq => ?_
  refine flatMap_eq_of_forall₂ (forall₂_of_mem hq.2.alternatives hq.1) fun alt other ho => ?_
  rw [ho.2.sortedRuleRefs ho.1]
  simp only [hr.declares]

theorem conflictsOfLabels_reordered (hg : g.Tabled) (hr : g.Reordered h) :
    conflictsOfLabels g = conflictsOfLabels h := by
  refine flatMap_eq_of_forall₂ (forall₂_of_mem hr.rules hg.filed) fun r q hq => ?_
  exact conflictsInRule_congr hr.declares (hq.2.labels hq.1).sorted

/-- Scopes are looked up and not enumerated. -/
theorem fault?_withScopes {scopes : NameTable Dict} (hs : g.scopes.Reordered scopes) :
    Site.fault? ⟨{ g with scopes }, r⟩ = Site.fault? ⟨g, r⟩ := by
  funext ref
  cases ref with
  | simple x => rfl
  | qualified x y =>
    have ha : Site.hasAttributes ⟨{ g with scopes }, r⟩ = Site.hasAttributes ⟨g, r⟩ := by
      funext x
      simp only [Site.hasAttributes, hs.contains]
      rfl
    simp only [Site.fault?, Site.qualifiedFault?, ha]
    rfl
  | dynamic x y =>
    have hd : Site.dynamicScope? ⟨{ g with scopes }, r⟩ x.text =
        Site.dynamicScope? ⟨g, r⟩ x.text := by
      simp only [Site.dynamicScope?, hs.get?]
      rfl
    simp only [Site.fault?, Site.dynamicFault?, hd]

theorem alike_reordered (hr : g.Reordered h) (hq : r.Reordered q) :
    Site.Alike ⟨{ g with scopes := h.scopes }, r⟩ ⟨h, q⟩ where
  kind := hr.kind
  scopes := rfl
  rules := hr.header
  header := hq.header
  firstLabel := hq.firstLabel?
  tokens := hq.refersToToken
  ruleRefs := hq.refersToRule

theorem referenceFaults_reordered (hr : g.Reordered h) : referenceFaults g = referenceFaults h := by
  refine flatMap_eq_of_forall₂ hr.rules fun r q hq => ?_
  have hf : ∀ action, faultsOfReference ⟨{ g with scopes := h.scopes }, r⟩ action =
      faultsOfReference ⟨g, r⟩ action := by
    intro action
    funext ref
    rw [faultsOfReference, fault?_withScopes hr.scopes, faultsOfReference]
  have hs : faultsInRule { g with scopes := h.scopes } r = faultsInRule g r := by
    simp only [faultsInRule, hf]
  rw [← hs]
  exact faultsInRule_congr (alike_reordered hr hq) hq.actions

theorem errors_reordered (ht : g.Tabled) (hp : g.Placed) (hr : g.Reordered h) :
    errors g = errors h := by
  rw [errors, duplicateRules_reordered hr, duplicateAttributes_reordered hp hr,
    undeclaredRefs_reordered ht hr, conflictsOfLabels_reordered ht hr,
    referenceFaults_reordered hr, errors]

end Check

section Outcome

variable {g h : Grammar} {directives : List Directive}

theorem Grammar.Reordered.withStartRules (hr : g.Reordered h) :
    (Check.withStartRules g).Reordered (Check.withStartRules h) where
  rest := by
    rw [Check.withStartRules, Check.withStartRules, hr.rest]
  rules := by
    have hn : Check.referredNames g = Check.referredNames h := by
      refine flatMap_eq_of_forall₂ hr.rules fun r q hq => ?_
      rw [hq.ruleNames, hq.name]
    simp only [Check.withStartRules, List.forall₂_map_left_iff, List.forall₂_map_right_iff]
    refine hr.rules.imp fun r q hq => ⟨?_, hq.alternatives, hq.namedActions⟩
    rw [hn, hq.name, hq.rest]
  ruleIndex := hr.ruleIndex
  scopes := hr.scopes

theorem Grammar.Reordered.withPrintLevel (hr : g.Reordered h) (level : PrintLevel) :
    { g with printLevel := level }.Reordered { h with printLevel := level } := by
  refine ⟨?_, hr.rules, hr.ruleIndex, hr.scopes⟩
  rw [hr.rest]

theorem Grammar.Reordered.checked (hr : g.Reordered h) (directives : List Directive) :
    (Check.checked directives g).Reordered (Check.checked directives h) := by
  rw [Check.checked, Check.checked, g.foldl_obeying_eq, h.foldl_obeying_eq, hr.printLevel]
  exact (hr.withPrintLevel _).withStartRules

theorem Verdict.like_ofMark {α : Type} {R : α → α → Prop} {a b : α} (h : R a b) (flawed : Bool) :
    Like R (.ofMark flawed a) (.ofMark flawed b) := by
  cases flawed with
  | false => exact .accepted h
  | true => exact .flawed h

theorem Verdict.Like.printed {v w : Verdict Grammar} (h : v.Like Grammar.Reordered w) :
    Check.printed v = Check.printed w := by
  cases h with
  | accepted hr | flawed hr => exact hr.printout
  | rejected => rfl

end Outcome

namespace Check

variable {g h : Grammar} {pass other : Pass}

/-- The passes report the same on the two grammars, and leave what differs in the order of tables
alone. -/
def Agree (pass other : Pass) (g h : Grammar) : Prop :=
  ∀ log, ((other h).run log).2 = ((pass g).run log).2 ∧
    ((pass g).run log).1.Like Grammar.Reordered ((other h).run log).1

theorem agree_of_yields {g₁ h₁ : Grammar} {found : List Diagnostic} (hp : pass.Yields g g₁ found)
    (ho : other.Yields h h₁ found) (hr : g₁.Reordered h₁) : Agree pass other g h := by
  intro log
  rw [hp log, ho log]
  exact ⟨rfl, Verdict.like_ofMark hr _⟩

theorem agree_analyse (ht : g.Tabled) (hp : g.Placed) (hr : g.Reordered h) :
    Agree analyse analyse g h := by
  have ha := analyse_yields h
  rw [← errors_reordered ht hp hr] at ha
  exact agree_of_yields (analyse_yields g) ha hr.withStartRules

theorem agree_check (ht : g.Tabled) (hp : g.Placed) (hr : g.Reordered h)
    (directives : List Directive) : Agree (check directives) (check directives) g h := by
  by_cases hn : g.rules = []
  · have hl : h.rules = [] := by
      rw [← List.length_eq_zero_iff, ← hr.rules.length_eq, hn, List.length_nil]
    intro log
    rw [reports_check_of_no_rules hn directives log, reports_check_of_no_rules hl directives log]
    exact ⟨rfl, .rejected⟩
  · have hl : h.rules ≠ [] := by
      rwa [Ne, ← List.length_eq_zero_iff, ← hr.rules.length_eq, List.length_eq_zero_iff]
    have hc := check_yields hl directives
    rw [← errors_reordered ht hp hr] at hc
    exact agree_of_yields (check_yields hn directives) hc (hr.checked directives)

/-- In whatever order the tables of a grammar and those of the passes are enumerated, a check
reports and prints the same and leaves the same grammar, and so with all that is read off it. -/
theorem enumeration_order_is_not_observable (name : String) (kind : GrammarKind)
    (requests : List Request) (orders : Orders) :
    let g := ((Session.start name kind).run requests).1.grammar
    ∀ h, g.Reordered h →
      (∀ directives log,
        ((checkIn orders directives h).run log).2 = ((check directives g).run log).2 ∧
        ((check directives g).run log).1.Like Grammar.Reordered
          ((checkIn orders directives h).run log).1 ∧
        printed ((checkIn orders directives h).run log).1 =
          printed ((check directives g).run log).1) ∧
      (∀ log, ((analyseIn orders h).run log).2 = ((analyse g).run log).2 ∧
        ((analyse g).run log).1.Like Grammar.Reordered ((analyseIn orders h).run log).1) ∧
      List.Forall₂ (fun r q => q.actions = r.actions ∧ ∀ n, q.labels.get? n = r.labels.get? n)
        g.rules h.rules ∧
      ∀ level, h.render level = g.render level := by
  intro g h hr
  have ht : g.Tabled := Session.tabled_run requests (Grammar.tabled_empty name kind)
  have hp : g.Placed := Session.placed_run requests (Grammar.placed_empty name kind)
  rw [checkIn_eq, analyseIn_eq]
  refine ⟨?_, agree_analyse ht hp hr, ?_, fun level => (hr.render level).symm⟩
  · intro directives log
    have ha := agree_check ht hp hr directives log
    exact ⟨ha.1, ha.2, ha.2.printed.symm⟩
  · refine (forall₂_of_mem hr.rules ht.filed).imp fun r q hq => ⟨hq.2.actions.symm, fun n => ?_⟩
    exact ((hq.2.labels hq.1).get? n).symm

/-- Two labels that name rules and two references to rules that are not declared, read backwards.
One of the references comes after a check. -/
theorem enumeration_order_is_not_observable_backwards :
    let label (name : String) : Label := ⟨⟨name, {}⟩, ⟨"ID", {}⟩, .token⟩
    let requests : List Request := [.build (.defineRule ⟨"a", {}⟩ 1),
      .build (.defineRule ⟨"b", {}⟩ 1), .build (.addLabel 0 1 (label "b")),
      .build (.addLabel 0 1 (label "a")), .build (.addRuleRef 0 1 ⟨"d", {}⟩), .check [],
      .build (.addRuleRef 0 1 ⟨"c", {}⟩)]
    let g := ((Session.start "P" .parser).run requests).1.grammar
    g.reversed ≠ g ∧ (errors g).length = 4 ∧
      ((checkIn .reversed [] g.reversed).run []).2 = ((check [] g).run []).2 ∧
      g.reversed.render .alternatives = g.render .alternatives := by
  intro label requests g
  have h := enumeration_order_is_not_observable "P" .parser requests .reversed _
    g.reordered_reversed
  exact ⟨by decide +kernel, by decide +kernel, (h.1 [] []).1, h.2.2.2 .alternatives⟩

end Check
end GrammarRefs
