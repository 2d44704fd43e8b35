import GrammarRefs.Proofs.Checking
import GrammarRefs.Proofs.Resolution

/-! A check accepts the well-formed grammars and no others. -/
namespace GrammarRefs

variable {g : Grammar} {r : Rule} {action : Action} {what x : String} {dict : Dict}

theorem Rule.mem_actions : action ∈ r.actions ↔ r.HasAction action := by
  simp only [actions, List.mem_append, List.mem_flatMap, List.mem_map, Option.mem_toList]
  constructor
  · rintro (((⟨alt, ha, hm⟩ | ⟨⟨name, a⟩, he, rfl⟩) | hm) | hf)
    · exact .alternative ha hm
    · exact .named (NameTable.get?_eq_some_iff.1 (NameTable.mem_sorted.1 he))
    · exact .exception hm
    · exact .final hf
  · rintro (⟨ha, hm⟩ | @⟨name, _, hm⟩ | hm | hf)
    · exact .inl (.inl (.inl ⟨_, ha, hm⟩))
    · have hs : (name, action) ∈ r.namedActions.sorted :=
        NameTable.mem_sorted.2 (NameTable.get?_eq_some_iff.2 hm)
      exact .inl (.inl (.inr ⟨_, hs, rfl⟩))
    · exact .inl (.inr hm)
    · exact .inr hf

/-- All the definitions of one label. -/
def Rule.definitionsOf (r : Rule) (x : String) : List Label :=
  r.labelDefinitions.filter (·.name.text == x)

theorem Rule.mem_definitionsOf {label : Label} :
    label ∈ r.definitionsOf x ↔ label ∈ r.labelDefinitions ∧ label.name.text = x := by
  simp [definitionsOf]

theorem Rule.labels_iff {first : Label} :
    r.Labels x first ↔ ∃ later, r.definitionsOf x = first :: later := by
  rw [Labels, ← List.head?_filter, List.head?_eq_some_iff]
  rfl

/-- The table of all labels of a rule has the definitions of each label, in order. -/
theorem Rule.getD_get?_labels (hf : ∀ alt ∈ r.alternatives, alt.Filed) (x : String) :
    (r.labels.get? x).getD [] = r.definitionsOf x := by
  have he : ∀ e ∈ r.alternatives.flatMap (·.labels.entries), ∀ label ∈ e.2,
      label.name.text = e.1 := by
    intro e hm
    obtain ⟨alt, ha, hm⟩ := List.mem_flatMap.1 hm
    exact ((hf alt ha).labels e.1 e.2 (NameTable.get?_eq_some_iff.2 hm)).2
  rw [labels, NameTable.getD_get?_foldl_extend he, List.flatMap_assoc]
  rfl

theorem Rule.filed_labels (hf : ∀ alt ∈ r.alternatives, alt.Filed) :
    r.labels.Filed (·.name.text) := by
  refine NameTable.filed_foldl_extend NameTable.filed_empty ?_
  intro e hm
  obtain ⟨alt, ha, hm⟩ := List.mem_flatMap.1 hm
  exact (hf alt ha).labels e.1 e.2 (NameTable.get?_eq_some_iff.2 hm)

namespace Check

theorem duplicatesAfter_eq_nil_iff (seen : NameTable Token) (items : List Token) :
    duplicatesAfter what seen items = [] ↔
      (∀ item ∈ items, seen.get? item.text = none) ∧ (items.map (·.text)).Nodup := by
  induction items generalizing seen with
  | nil => simp [duplicatesAfter]
  | cons item rest ih =>
    cases hs : seen.get? item.text with
    | some first => simp [duplicatesAfter, hs]
    | none =>
      have hi : ∀ other : Token, (seen.insert item.text item).get? other.text = none ↔
          item.text ≠ other.text ∧ seen.get? other.text = none := by
        intro other
        rw [NameTable.get?_insert]
        split
        · next he => simp [he]
        · next he => exact ⟨fun hn => ⟨fun hc => he hc.symm, hn⟩, And.right⟩
      simp only [duplicatesAfter, hs, ih, hi, List.map_cons, List.nodup_cons, List.mem_map]
      -- The name of the item moves from those to come to those seen.
      constructor
      · rintro ⟨ha, hn⟩
        refine ⟨?_, ?_, hn⟩
        · intro other hm
          rcases List.mem_cons.1 hm with rfl | hm
          · exact hs
          · exact (ha other hm).2
        · rintro ⟨other, hm, he⟩
          exact (ha other hm).1 he.symm
      · rintro ⟨ha, hi, hn⟩
        refine ⟨?_, hn⟩
        intro other hm
        exact ⟨fun he => hi ⟨other, hm, he.symm⟩, ha other (by simp [hm])⟩

theorem duplicates_eq_nil_iff (items : List Token) :
    duplicates what items = [] ↔ (items.map (·.text)).Nodup := by
  rw [duplicates, duplicatesAfter_eq_nil_iff]
  exact and_iff_right fun _ _ => rfl

theorem duplicatesInDict_eq_nil_iff : duplicatesInDict what dict = [] ↔ dict.names.Nodup := by
  rw [duplicatesInDict, duplicates_eq_nil_iff, List.map_map]
  rfl

theorem duplicateRules_eq_nil_iff : duplicateRules g = [] ↔ (g.rules.map Rule.name).Nodup := by
  rw [duplicateRules, duplicates_eq_nil_iff, List.map_map]
  rfl

theorem duplicateAttributes_eq_nil_iff : duplicateAttributes g = [] ↔
    (∀ r ∈ g.rules, ∀ d, r.arguments = some d ∨ r.returns = some d ∨ r.scope = some d →
      d.names.Nodup) ∧
    ∀ name scope, (name, scope) ∈ g.scopes.entries → scope.names.Nodup := by
  have hr : ∀ r : Rule, duplicatesInRule r = [] ↔
      ∀ d, r.arguments = some d ∨ r.returns = some d ∨ r.scope = some d → d.names.Nodup := by
    intro r
    simp only [duplicatesInRule, List.append_eq_nil_iff, List.flatMap_eq_nil_iff,
      duplicatesInDict_eq_nil_iff, Option.mem_toList]
    constructor
    · rintro ⟨ha, hr, hs⟩ d (hd | hd | hd)
      · exact ha d hd
      · exact hr d hd
      · exact hs d hd
    · intro h
      exact ⟨fun d hd => h d (.inl hd), fun d hd => h d (.inr (.inl hd)),
        fun d hd => h d (.inr (.inr hd))⟩
  simp only [duplicateAttributes, List.append_eq_nil_iff, List.flatMap_eq_nil_iff, hr,
    duplicatesInDict_eq_nil_iff, sortedScopes, mem_sortByName, List.mem_map]
  refine and_congr_right fun _ => ⟨?_, ?_⟩
  · intro h name scope hm
    exact h scope ⟨(name, scope), hm, rfl⟩
  · rintro h _ ⟨⟨name, scope⟩, hm, rfl⟩
    exact h name scope hm

theorem undeclaredRefs_eq_nil_iff (hg : g.Tabled) : undeclaredRefs g = [] ↔
    ∀ r ∈ g.rules, ∀ t ∈ r.ruleMentions, ∃ target, g.Declares t.text target := by
  simp only [undeclaredRefs, List.flatMap_eq_nil_iff, sortedRuleRefs, mem_sortByName,
    Rule.ruleMentions, ← hg.declares_iff]
  refine forall₂_congr fun r _ => ⟨?_, ?_⟩
  · intro h t ht
    obtain ⟨alt, ha, ht⟩ := List.mem_flatMap.1 ht
    have hd := h alt ha t ht
    by_contra hn
    simp [hn] at hd
  · intro h alt ha t ht
    simp [h t (List.mem_flatMap.2 ⟨alt, ha, ht⟩)]

theorem conflictsOfLabel_eq_nil_iff {first : Label} {later : List Label} :
    conflictsOfLabel g x (first :: later) = [] ↔
      g.declares x = false ∧ ∀ label ∈ later, label.kind = first.kind := by
  simp only [conflictsOfLabel, List.append_eq_nil_iff, List.flatMap_eq_nil_iff, conflictsOfLater]
  simp

/-- What is reported for a rule, label by label; a name that labels nothing has no conflicts. -/
theorem conflictsInRule_eq_nil_iff (hf : ∀ alt ∈ r.alternatives, alt.Filed) :
    conflictsInRule g r = [] ↔ ∀ x, conflictsOfLabel g x (r.definitionsOf x) = [] := by
  simp only [conflictsInRule, List.flatMap_eq_nil_iff, NameTable.mem_sorted,
    (Rule.filed_labels hf).get?_eq_some_iff_getD, Rule.getD_get?_labels hf]
  constructor
  · intro h x
    by_cases hn : r.definitionsOf x = []
    · rw [hn]
      rfl
    · exact h (x, _) ⟨hn, rfl⟩
  · rintro h e ⟨_, he⟩
    rw [← he]
    exact h e.1

section Conflicts

variable (h : ∀ x, conflictsOfLabel g x (r.definitionsOf x) = []) {first label : Label}

include h

theorem kind_of_no_conflicts (hl : r.Labels x first) (hm : label ∈ r.definitionsOf x) :
    label.kind = first.kind := by
  have hc := h x
  obtain ⟨later, hf⟩ := Rule.labels_iff.1 hl
  rw [hf] at hc hm
  rcases List.mem_cons.1 hm with rfl | hm
  · rfl
  · exact (conflictsOfLabel_eq_nil_iff.1 hc).2 label hm

theorem declares_of_no_conflicts (hm : label ∈ r.labelDefinitions) :
    g.declares label.name.text = false := by
  have hc := h label.name.text
  have hd : label ∈ r.definitionsOf label.name.text := Rule.mem_definitionsOf.2 ⟨hm, rfl⟩
  cases hf : r.definitionsOf label.name.text with
  | nil =>
    rw [hf] at hd
    cases hd
  | cons first later =>
    rw [hf] at hc
    exact (conflictsOfLabel_eq_nil_iff.1 hc).1

end Conflicts

theorem no_conflicts (hk : ∀ x first, r.Labels x first →
      ∀ label ∈ r.definitionsOf x, label.kind = first.kind)
    (hd : ∀ label ∈ r.labelDefinitions, g.declares label.name.text = false) (x : String) :
    conflictsOfLabel g x (r.definitionsOf x) = [] := by
  cases hf : r.definitionsOf x with
  | nil => rfl
  | cons first later =>
    have hl : r.Labels x first := Rule.labels_iff.2 ⟨later, hf⟩
    obtain ⟨hm, hx⟩ := Rule.mem_definitionsOf.1 (by rw [hf]; exact List.mem_cons_self)
    refine conflictsOfLabel_eq_nil_iff.2 ⟨hx ▸ hd first hm, ?_⟩
    intro label hm
    exact hk x first hl label (by simp [hf, hm])

theorem conflictsOfLabels_eq_nil_iff (hg : g.Tabled) : conflictsOfLabels g = [] ↔
    (∀ r ∈ g.rules, ∀ x first, r.Labels x first →
      ∀ label ∈ r.labelDefinitions, label.name.text = x → label.kind = first.kind) ∧
    ∀ r ∈ g.rules, ∀ label ∈ r.labelDefinitions, ∀ target,
      ¬ g.Declares label.name.text target := by
  have hd : ∀ n, (∀ target, ¬ g.Declares n target) ↔ g.declares n = false := by
    intro n
    rw [← not_exists, ← hg.declares_iff, Bool.not_eq_true]
  simp only [conflictsOfLabels, List.flatMap_eq_nil_iff, hd]
  rw [← forall₂_and]
  refine forall₂_congr fun r hr => ?_
  rw [conflictsInRule_eq_nil_iff (hg.filed r hr)]
  constructor
  · intro h
    refine ⟨?_, fun label hm => declares_of_no_conflicts h hm⟩
    intro x first hl label hm hx
    exact kind_of_no_conflicts h hl (Rule.mem_definitionsOf.2 ⟨hm, hx⟩)
  · rintro ⟨hk, hd⟩
    refine no_conflicts ?_ hd
    intro x first hl label hm
    obtain ⟨hm, hx⟩ := Rule.mem_definitionsOf.1 hm
    exact hk x first hl label hm hx

theorem referenceFaults_eq_nil_iff (hg : g.Tabled) (hn : (g.rules.map Rule.name).Nodup) :
    referenceFaults g = [] ↔ ∀ r ∈ g.rules, ∀ action, r.HasAction action →
      ∀ ref ∈ action.references, Site.Resolves ⟨g, r⟩ ref := by
  simp only [referenceFaults, faultsInRule, faultsOfReference, List.flatMap_eq_nil_iff,
    List.map_eq_nil_iff, Option.toList_eq_nil_iff, Rule.mem_actions]
  refine forall₂_congr fun r hr => ?_
  simp only [Site.fault?_eq_none_iff (hg.legible hn hr)]

theorem errors_eq_nil_iff (hg : g.Tabled) : errors g = [] ↔ g.WellFormed := by
  simp only [errors, List.append_eq_nil_iff, duplicateRules_eq_nil_iff,
    duplicateAttributes_eq_nil_iff, undeclaredRefs_eq_nil_iff hg, conflictsOfLabels_eq_nil_iff hg]
  constructor
  · rintro ⟨hr, ⟨ha, hs⟩, hm, ⟨hk, hl⟩, hf⟩
    exact ⟨hr, ha, hs, hm, hk, hl, (referenceFaults_eq_nil_iff hg hr).1 hf⟩
  · intro h
    exact ⟨h.rules, ⟨h.attributes, h.scopes⟩, h.mentions, ⟨h.kinds, h.labels⟩,
      (referenceFaults_eq_nil_iff hg h.rules).2 h.references⟩

theorem analyse_accepts_iff (hg : g.Tabled) (log : Diagnostics) :
    (∃ g₁, ((analyse g).run log).1 = .accepted g₁) ↔ g.WellFormed := by
  rw [analyse_yields g log, ← errors_eq_nil_iff hg, hasErrors_of_errors (errors_isError g)]
  cases errors g <;> simp [Verdict.ofMark]

theorem analyse_of_wellFormed (hg : g.Tabled) (hw : g.WellFormed) (log : Diagnostics) :
    (analyse g).run log = (.accepted (withStartRules g), log) := by
  rw [analyse_yields g log, (errors_eq_nil_iff hg).2 hw, List.append_nil]
  rfl

/-- Nothing but the rules of the grammar decides, neither directives nor earlier diagnostics. -/
theorem check_accepts_iff_wellFormed (h : g.Reachable) (directives : List Directive)
    (log : Diagnostics) :
    (((check directives g).run log).1 = .rejected ↔ g.rules = []) ∧
    ((∃ g₁, ((check directives g).run log).1 = .accepted g₁) ↔ g.rules ≠ [] ∧ g.WellFormed) ∧
    ((∃ g₁, ((check directives g).run log).1 = .flawed g₁) ↔ g.rules ≠ [] ∧ ¬ g.WellFormed) := by
  by_cases hg : g.rules = []
  · rw [reports_check_of_no_rules hg directives log]
    simp [hg]
  -- Warnings come before the errors and do not count.
  · have hw := errors_eq_nil_iff (Grammar.tabled_reachable h)
    have he : Diagnostics.hasErrors (errors g) = true ↔ ¬ g.WellFormed := by
      rw [← hw, hasErrors_of_errors (errors_isError g)]
      simp
    rw [check_yields hg directives log, hasErrors_append, hasErrors_warnings, Bool.false_or]
    cases hb : Diagnostics.hasErrors (errors g) with
    | true =>
      have hn := he.1 hb
      simp [Verdict.ofMark, hg, hn]
    | false =>
      have hn : g.WellFormed := by
        by_contra hn
        simp [he.2 hn] at hb
      simp [Verdict.ofMark, hg, hn]

/-- A label of a rule, and a reference to what the rule returns. -/
theorem check_accepts_labelled_rule :
    let g := ((Grammar.empty "P" .parser).run [.defineRule ⟨"a", {}⟩ 1, .defineRule ⟨"b", {}⟩ 1,
      .setReturns 1 (some (.ofNames .returnValue ["v"])), .addRuleRef 0 1 ⟨"b", {}⟩,
      .addLabel 0 1 ⟨⟨"e", {}⟩, ⟨"b", {}⟩, .rule⟩,
      .addAction 0 1 ⟨.action, .leaf (.mark '$' false) {} (.leaf (.identifier "e") {}
        (.leaf (.mark '.' false) {} (.leaf (.identifier "v") {} .nil))), {}⟩]).1
    g.rules ≠ [] ∧ g.WellFormed :=
  (check_accepts_iff_wellFormed ⟨_, _, _, rfl⟩ [] []).2.1.1 ⟨_, rfl⟩

end Check
end GrammarRefs
