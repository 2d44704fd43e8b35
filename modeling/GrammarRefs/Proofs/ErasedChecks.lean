import GrammarRefs.Proofs.Checking
import GrammarRefs.Proofs.Erasure

/-! Resolution and checks with all positions taken away. Names stand for the same things, and the
same errors are found. -/
namespace GrammarRefs

section Lookup

variable {α β : Type}

theorem map_orElse (f : α → β) (a b : Option α) :
    (a <|> b).map f = (a.map f <|> b.map f) := by
  cases a <;> rfl

theorem Dict.bind_get?_unplaced (dict : Option Dict) (x : String) :
    (dict.map Dict.unplaced).bind (·.get? x) = (dict.bind (·.get? x)).map Attribute.unplaced := by
  cases dict <;> simp

end Lookup

theorem Predefined.get?_ruleScope_unplaced (kind : GrammarKind) (x : String) :
    ((ruleScope kind).get? x).map Attribute.unplaced = (ruleScope kind).get? x := by
  rw [← Dict.get?_unplaced, ruleScope_unplaced]

namespace Site

variable {s : Site} {target : Rule} {label : Label} {x y : String}

def unplaced (s : Site) : Site := ⟨s.grammar.unplaced, s.rule.unplaced⟩

@[simp] theorem name_unplaced : s.unplaced.rule.name = s.rule.name := rfl

@[simp] theorem kind_unplaced : s.unplaced.grammar.kind = s.grammar.kind := rfl

@[simp] theorem firstLabel?_unplaced :
    s.unplaced.rule.firstLabel? x = (s.rule.firstLabel? x).map Label.unplaced :=
  Rule.firstLabel?_unplaced

@[simp] theorem refersToToken_unplaced :
    s.unplaced.rule.refersToToken x = s.rule.refersToToken x := Rule.refersToToken_unplaced

@[simp] theorem refersToRule_unplaced :
    s.unplaced.rule.refersToRule x = s.rule.refersToRule x := Rule.refersToRule_unplaced

@[simp] theorem declared_unplaced :
    s.unplaced.grammar.rule? x = (s.grammar.rule? x).map Rule.unplaced := Grammar.rule?_unplaced

@[simp] theorem kind_label_unplaced : label.unplaced.kind = label.kind := rfl

@[simp] theorem element_label_unplaced : label.unplaced.element.text = label.element.text := rfl

theorem attribute?_unplaced :
    s.unplaced.attribute? x = (s.attribute? x).map Attribute.unplaced := by
  simp only [attribute?, map_orElse, ← Dict.bind_get?_unplaced, Predefined.get?_ruleScope_unplaced]
  rfl

theorem result?_unplaced :
    s.unplaced.result? target.unplaced y = (s.result? target y).map Attribute.unplaced := by
  simp only [result?, map_orElse, ← Dict.bind_get?_unplaced, Predefined.get?_ruleScope_unplaced]
  rfl

/-- What the target of a name offers, if there is one. -/
theorem bind_result?_unplaced (target : Option Rule) :
    (target.map Rule.unplaced).bind (s.unplaced.result? · y) =
      (target.bind (s.result? · y)).map Attribute.unplaced := by
  cases target with
  | none => rfl
  | some target => exact result?_unplaced

theorem labelScope_unplaced (kind : GrammarKind) (label : LabelKind) (y : String) :
    (Predefined.labelScope? kind label).bind (·.get? y) =
      ((Predefined.labelScope? kind label).bind (·.get? y)).map Attribute.unplaced := by
  rw [← Dict.bind_get?_unplaced, Predefined.labelScope?_unplaced]

theorem labelled?_unplaced :
    s.unplaced.labelled? label.unplaced y = (s.labelled? label y).map Attribute.unplaced := by
  simp only [labelled?, kind_label_unplaced, element_label_unplaced, declared_unplaced,
    bind_result?_unplaced, kind_unplaced]
  split
  · rfl
  · exact labelScope_unplaced ..

theorem qualified?_unplaced :
    s.unplaced.qualified? x y = (s.qualified? x y).map Attribute.unplaced := by
  simp only [qualified?, name_unplaced, firstLabel?_unplaced, refersToToken_unplaced,
    refersToRule_unplaced, declared_unplaced, bind_result?_unplaced, attribute?_unplaced,
    kind_unplaced]
  split
  · rfl
  · cases s.rule.firstLabel? x with
    | some label => exact labelled?_unplaced
    | none =>
      simp only [Option.map_none]
      split
      · rfl
      · split
        · exact labelScope_unplaced ..
        · rfl

theorem rule?_unplaced : s.unplaced.rule? x = (s.rule? x).map Rule.unplaced := by
  simp only [rule?, name_unplaced, firstLabel?_unplaced, declared_unplaced]
  split
  · rfl
  · cases s.rule.firstLabel? x with
    | none => rfl
    | some label =>
      simp only [Option.map_some, kind_label_unplaced, element_label_unplaced]
      rw [apply_ite (Option.map Rule.unplaced)]
      rfl

theorem referredRule?_unplaced :
    s.unplaced.referredRule? x = (s.referredRule? x).map Rule.unplaced := by
  simp only [referredRule?, name_unplaced, firstLabel?_unplaced, refersToRule_unplaced,
    declared_unplaced]
  split
  · rfl
  · cases s.rule.firstLabel? x with
    | none =>
      simp only [Option.map_none]
      split <;> rfl
    | some label =>
      simp only [Option.map_some, kind_label_unplaced, element_label_unplaced]
      rw [apply_ite (Option.map Rule.unplaced)]
      rfl

theorem dynamicScope?_unplaced :
    s.unplaced.dynamicScope? x = (s.dynamicScope? x).map Dict.unplaced := by
  have hs : s.unplaced.grammar.scopes.get? x = (s.grammar.scopes.get? x).map Dict.unplaced :=
    NameTable.get?_map
  have hr : ((s.rule? x).map Rule.unplaced).bind (·.scope) =
      ((s.rule? x).bind (·.scope)).map Dict.unplaced := by
    cases s.rule? x <;> rfl
  rw [dynamicScope?, rule?_unplaced, hs, hr, dynamicScope?, map_orElse]

theorem isTokenLabel_unplaced : s.unplaced.isTokenLabel x = s.isTokenLabel x := by
  rw [isTokenLabel, firstLabel?_unplaced, Option.any_map, isTokenLabel]
  rfl

theorem isListLabel_unplaced : s.unplaced.isListLabel x = s.isListLabel x := by
  rw [isListLabel, firstLabel?_unplaced, Option.any_map, isListLabel]
  rfl

theorem hasAttributes_unplaced : s.unplaced.hasAttributes x = s.hasAttributes x := by
  have hs : s.unplaced.rule.scope.isSome = s.rule.scope.isSome := Option.isSome_map
  have hc : s.unplaced.grammar.scopes.contains x = s.grammar.scopes.contains x :=
    NameTable.contains_map
  rw [hasAttributes, isTokenLabel_unplaced, name_unplaced, hs, hc, hasAttributes]

theorem simpleFault?_unplaced : s.unplaced.simpleFault? x = s.simpleFault? x := by
  simp only [simpleFault?, attribute?_unplaced, Option.isSome_map, isTokenLabel_unplaced,
    isListLabel_unplaced, refersToToken_unplaced, referredRule?_unplaced]

theorem qualifiedFault?_unplaced : s.unplaced.qualifiedFault? x y = s.qualifiedFault? x y := by
  simp only [qualifiedFault?, attribute?_unplaced, qualified?_unplaced, Option.isSome_map,
    isListLabel_unplaced, refersToToken_unplaced, referredRule?_unplaced, hasAttributes_unplaced]
  cases s.referredRule? x with
  | none => rfl
  | some target =>
    have ha : target.unplaced.arguments.any (·.contains y) = target.arguments.any (·.contains y) :=
      Option.any_map
    simp only [Option.map_some, ha]

theorem dynamicFault?_unplaced : s.unplaced.dynamicFault? x y = s.dynamicFault? x y := by
  simp only [dynamicFault?, dynamicScope?_unplaced]
  cases s.dynamicScope? x <;> rfl

theorem fault?_unplaced (ref : Reference) : s.unplaced.fault? ref.unplaced = s.fault? ref := by
  cases ref with
  | simple x => exact simpleFault?_unplaced
  | qualified x y => exact qualifiedFault?_unplaced
  | dynamic x y => exact dynamicFault?_unplaced

end Site

namespace Check

variable {g : Grammar} {what name : String}

theorem duplicatesAfter_unplaced (seen : NameTable Token) (items : List Token) :
    duplicatesAfter what (seen.map Token.unplaced) (items.map Token.unplaced) =
      (duplicatesAfter what seen items).map Diagnostic.unplaced := by
  induction items generalizing seen with
  | nil => rfl
  | cons item rest ih =>
    have hs : (seen.map Token.unplaced).get? item.unplaced.text =
        (seen.get? item.text).map Token.unplaced := NameTable.get?_map
    rw [List.map_cons, duplicatesAfter, duplicatesAfter, hs]
    cases seen.get? item.text with
    | none =>
      have hi := NameTable.map_insert (t := seen) (f := Token.unplaced) (n := item.text) item
      exact (congrArg (duplicatesAfter what · _) hi.symm).trans (ih _)
    | some first =>
      simp only [Option.map_some, List.map_cons, ih]
      rfl

theorem duplicates_unplaced (items : List Token) :
    duplicates what (items.map Token.unplaced) =
      (duplicates what items).map Diagnostic.unplaced :=
  duplicatesAfter_unplaced {} items

theorem duplicatesInDict_unplaced (dict : Dict) :
    duplicatesInDict what dict.unplaced =
      (duplicatesInDict what dict).map Diagnostic.unplaced := by
  rw [duplicatesInDict, duplicatesInDict, ← duplicates_unplaced, Dict.unplaced, List.map_map,
    List.map_map]
  rfl

theorem duplicatesInRule_unplaced (r : Rule) :
    duplicatesInRule r.unplaced = (duplicatesInRule r).map Diagnostic.unplaced := by
  have ho : ∀ what (dict : Option Dict),
      (dict.map Dict.unplaced).toList.flatMap (duplicatesInDict what) =
        (dict.toList.flatMap (duplicatesInDict what)).map Diagnostic.unplaced := by
    intro what dict
    cases dict <;> simp [duplicatesInDict_unplaced]
  simp only [duplicatesInRule, List.map_append, ← ho]
  rfl

theorem duplicateRules_unplaced :
    duplicateRules g.unplaced = (duplicateRules g).map Diagnostic.unplaced := by
  rw [duplicateRules, duplicateRules, ← duplicates_unplaced, Grammar.unplaced, List.map_map,
    List.map_map]
  rfl

theorem sortedScopes_unplaced : sortedScopes g.unplaced = (sortedScopes g).map Dict.unplaced := by
  have he : g.unplaced.scopes.entries.map (·.2) =
      (g.scopes.entries.map (·.2)).map Dict.unplaced := by
    rw [Grammar.unplaced, NameTable.map, List.map_map, List.map_map]
    rfl
  rw [sortedScopes, he]
  exact sortByName_map (fun _ => rfl) _

theorem duplicateAttributes_unplaced :
    duplicateAttributes g.unplaced = (duplicateAttributes g).map Diagnostic.unplaced := by
  simp only [duplicateAttributes, sortedScopes_unplaced, Grammar.rules_unplaced, List.flatMap_map,
    duplicatesInRule_unplaced, duplicatesInDict_unplaced, List.map_append, List.map_flatMap]

theorem sortedRuleRefs_unplaced (alt : Alternative) :
    sortedRuleRefs alt.unplaced = (sortedRuleRefs alt).map Token.unplaced := by
  have he : alt.unplaced.ruleRefs.entries.flatMap (·.2) =
      (alt.ruleRefs.entries.flatMap (·.2)).map Token.unplaced := by
    rw [List.map_flatMap]
    exact List.flatMap_map ..
  rw [sortedRuleRefs, he]
  exact sortByName_map (fun _ => rfl) _

theorem undeclaredRefs_unplaced :
    undeclaredRefs g.unplaced = (undeclaredRefs g).map Diagnostic.unplaced := by
  have hd : ∀ ref : Token,
      (if !g.unplaced.declares ref.unplaced.text then [undeclaredRule ref.unplaced] else []) =
        (if !g.declares ref.text then [undeclaredRule ref] else []).map Diagnostic.unplaced := by
    intro ref
    rw [Grammar.declares_unplaced, apply_ite (List.map Diagnostic.unplaced)]
    rfl
  have hr : ∀ r : Rule, r.unplaced.alternatives = r.alternatives.map Alternative.unplaced :=
    fun _ => rfl
  simp only [undeclaredRefs, Grammar.rules_unplaced, hr, List.flatMap_map, sortedRuleRefs_unplaced,
    hd, List.map_flatMap]

theorem conflictsOfLabel_unplaced (labels : List Label) :
    conflictsOfLabel g.unplaced name (labels.map Label.unplaced) =
      (conflictsOfLabel g name labels).map Diagnostic.unplaced := by
  have hl : ∀ first later : Label, conflictsOfLater name first.unplaced later.unplaced =
      (conflictsOfLater name first later).map Diagnostic.unplaced := by
    intro first later
    rw [conflictsOfLater, conflictsOfLater, apply_ite (List.map Diagnostic.unplaced)]
    rfl
  cases labels with
  | nil => rfl
  | cons first later =>
    have hf := apply_ite (List.map Diagnostic.unplaced) (g.declares name = true)
      [labelNamesRule first name] []
    simp only [List.map_cons, conflictsOfLabel, Grammar.declares_unplaced, List.map_append, hf,
      List.flatMap_map, hl, List.map_flatMap]
    rfl

theorem conflictsOfLabels_unplaced :
    conflictsOfLabels g.unplaced = (conflictsOfLabels g).map Diagnostic.unplaced := by
  simp only [conflictsOfLabels, conflictsInRule, Grammar.rules_unplaced, List.flatMap_map,
    Rule.labels_unplaced, NameTable.sorted_map, conflictsOfLabel_unplaced, List.map_flatMap]

theorem referenceFaults_unplaced :
    referenceFaults g.unplaced = (referenceFaults g).map Diagnostic.unplaced := by
  have hf : ∀ (s : Site) (action : Action) (ref : Reference),
      faultsOfReference s.unplaced action.unplaced ref.unplaced =
        (faultsOfReference s action ref).map Diagnostic.unplaced := by
    intro s action ref
    rw [faultsOfReference, Site.fault?_unplaced, faultsOfReference]
    cases s.fault? ref <;> rfl
  have hr : ∀ action : Action, action.unplaced.references =
      action.references.map Reference.unplaced := fun action => action.references_unplaced
  have hs : ∀ r, faultsInRule g.unplaced r.unplaced =
      (faultsInRule g r).map Diagnostic.unplaced := by
    intro r
    simp only [faultsInRule, Rule.actions_unplaced, List.flatMap_map, hr, List.map_flatMap]
    simp only [← hf]
    rfl
  simp only [referenceFaults, Grammar.rules_unplaced, List.flatMap_map, hs, List.map_flatMap]

theorem errors_unplaced : errors g.unplaced = (errors g).map Diagnostic.unplaced := by
  simp only [errors, List.map_append, duplicateRules_unplaced, duplicateAttributes_unplaced,
    undeclaredRefs_unplaced, conflictsOfLabels_unplaced, referenceFaults_unplaced]

theorem withStartRules_unplaced : (withStartRules g).unplaced = withStartRules g.unplaced := by
  have hr : referredNames g.unplaced = referredNames g := by
    simp only [referredNames, Grammar.rules_unplaced, List.flatMap_map, Rule.ruleNames_unplaced,
      Rule.name_unplaced]
  simp only [withStartRules, hr, Grammar.rules_unplaced, List.map_map]
  simp only [Grammar.unplaced, List.map_map]
  rfl

end Check
end GrammarRefs
