import GrammarRefs.Check
import GrammarRefs.Proofs.Reporting

/-! The diagnostics of each pass as a list that is computed from the grammar alone. -/
namespace GrammarRefs.Check

variable {g : Grammar} {what name : String}

def duplicatesAfter (what : String) (seen : NameTable Token) : List Token → List Diagnostic
  | [] => []
  | item :: rest =>
    match seen.get? item.text with
    | some first => duplicate what first item :: duplicatesAfter what seen rest
    | none => duplicatesAfter what (seen.insert item.text item) rest

def duplicates (what : String) (items : List Token) : List Diagnostic :=
  duplicatesAfter what {} items

def duplicatesInDict (what : String) (dict : Dict) : List Diagnostic :=
  duplicates what (dict.attributes.map (·.token))

def duplicatesInRule (r : Rule) : List Diagnostic :=
  r.arguments.toList.flatMap (duplicatesInDict "argument") ++
    (r.returns.toList.flatMap (duplicatesInDict "return value") ++
      r.scope.toList.flatMap (duplicatesInDict "scope attribute"))

def duplicateRules (g : Grammar) : List Diagnostic := duplicates "rule" (g.rules.map (·.head))

def duplicateAttributes (g : Grammar) : List Diagnostic :=
  g.rules.flatMap duplicatesInRule ++
    (sortedScopes g).flatMap (duplicatesInDict "scope attribute")

theorem finds_inspectItems (seen : NameTable Token) (items : List Token) :
    Finds (inspectItems what seen items) (duplicatesAfter what seen items) := by
  induction items generalizing seen with
  | nil => exact finds_pure
  | cons item rest ih =>
    cases hs : seen.get? item.text with
    | none =>
      simp only [inspectItems, duplicatesAfter, hs]
      exact ih _
    | some first =>
      simp only [inspectItems, duplicatesAfter, hs]
      exact (finds_fault (d := duplicate what first item) rfl).bind (ih seen)

theorem concludes_reportDuplicates (items : List Token) :
    Concludes (reportDuplicates what items) (duplicates what items) :=
  (finds_inspectItems {} items).marked

theorem finds_reportOptional (dict : Option Dict) :
    Finds (Inspection.join (reportOptional what dict))
      (dict.toList.flatMap (duplicatesInDict what)) := by
  cases dict with
  | none => exact finds_join ⟨by simp, reports_pure false⟩
  | some d =>
    rw [Option.toList_some, List.flatMap_singleton]
    exact finds_join (concludes_reportDuplicates _)

theorem ruleDuplicates_finds : ruleDuplicates.Finds duplicateRules := by
  refine ⟨fun g => (concludes_reportDuplicates _).errors, ?_⟩
  intro g
  exact (concludes_reportDuplicates _).reports.map (Verdict.ofMark · g)

theorem attributeDuplicates_finds : attributeDuplicates.Finds duplicateAttributes := by
  apply Pass.finds_ofInspection
  intro g
  have hr : ∀ r ∈ g.rules, Finds (inspectAttributes r) (duplicatesInRule r) := by
    intro r _
    exact (finds_reportOptional _).bind ((finds_reportOptional _).bind (finds_reportOptional _))
  exact (finds_forM hr).bind
    (finds_forM fun scope _ => finds_join (concludes_reportDuplicates _))

/-- References to rules that are not declared. -/
def undeclaredRefs (g : Grammar) : List Diagnostic :=
  g.rules.flatMap fun r => r.alternatives.flatMap fun alt => (sortedRuleRefs alt).flatMap fun ref =>
    if !g.declares ref.text then [undeclaredRule ref] else []

theorem finds_inspectRuleRefs (g : Grammar) (r : Rule) : Finds (inspectRuleRefs g r)
    (r.alternatives.flatMap fun alt => (sortedRuleRefs alt).flatMap fun ref =>
      if !g.declares ref.text then [undeclaredRule ref] else []) := by
  apply finds_forM
  intro alt _
  apply finds_forM
  intro ref _
  exact finds_ite (finds_fault rfl)

theorem undeclaredRules_finds : undeclaredRules.Finds undeclaredRefs :=
  Pass.finds_ofInspection fun g => finds_forM fun r _ => finds_inspectRuleRefs g r

def conflictsOfLater (name : String) (first later : Label) : List Diagnostic :=
  if later.kind != first.kind then [labelKindConflict name first later] else []

def conflictsOfLabel (g : Grammar) (name : String) : List Label → List Diagnostic
  | [] => []
  | first :: later =>
    (if g.declares name then [labelNamesRule first name] else []) ++
      later.flatMap (conflictsOfLater name first)

def conflictsInRule (g : Grammar) (r : Rule) : List Diagnostic :=
  r.labels.sorted.flatMap fun entry => conflictsOfLabel g entry.1 entry.2

def conflictsOfLabels (g : Grammar) : List Diagnostic := g.rules.flatMap (conflictsInRule g)

/-- Of the grammar, only what it declares matters. -/
theorem conflictsInRule_congr {h : Grammar} {q r : Rule} (hd : ∀ n, g.declares n = h.declares n)
    (hl : q.labels.sorted = r.labels.sorted) : conflictsInRule g q = conflictsInRule h r := by
  have hc : ∀ name labels, conflictsOfLabel g name labels = conflictsOfLabel h name labels := by
    intro name labels
    cases labels <;> simp only [conflictsOfLabel, hd]
  simp only [conflictsInRule, hl, hc]

theorem finds_inspectLabel (labels : List Label) :
    Finds (inspectLabel g name labels) (conflictsOfLabel g name labels) := by
  cases labels with
  | nil => exact finds_pure
  | cons first later =>
    have hl : Finds (later.forM (inspectLaterLabel name first))
        (later.flatMap (conflictsOfLater name first)) := by
      apply finds_forM
      intro label _
      exact finds_ite (finds_fault (d := labelKindConflict name first label) rfl)
    rw [inspectLabel, conflictsOfLabel]
    split
    · exact (finds_fault rfl).bind hl
    · exact hl

theorem finds_inspectLabels (g : Grammar) (r : Rule) :
    Finds (inspectLabels g r) (conflictsInRule g r) :=
  finds_forM fun entry _ => finds_inspectLabel entry.2

theorem labelConflicts_finds : labelConflicts.Finds conflictsOfLabels :=
  Pass.finds_ofInspection fun g => finds_forM fun r _ => finds_inspectLabels g r

def faultsOfReference (s : Site) (action : Action) (ref : Reference) : List Diagnostic :=
  (s.fault? ref).toList.map (.error action.pos)

def faultsInRule (g : Grammar) (r : Rule) : List Diagnostic :=
  r.actions.flatMap fun action =>
    action.references.flatMap (faultsOfReference { grammar := g, rule := r } action)

def referenceFaults (g : Grammar) : List Diagnostic := g.rules.flatMap (faultsInRule g)

theorem finds_inspectReference (s : Site) (action : Action) (ref : Reference) :
    Finds (inspectReference s action ref) (faultsOfReference s action ref) := by
  rw [inspectReference, faultsOfReference]
  cases s.fault? ref with
  | none => exact finds_pure
  | some fault => exact finds_fault rfl

theorem concludes_reportReferences (g : Grammar) (r : Rule) :
    Concludes (reportReferences g r) (faultsInRule g r) := by
  apply Finds.marked
  apply finds_forM
  intro action _
  apply finds_forM
  intro ref _
  exact finds_inspectReference _ action ref

theorem attributeReferences_finds : attributeReferences.Finds referenceFaults :=
  Pass.finds_ofInspection fun g =>
    finds_forM fun r _ => finds_join (concludes_reportReferences g r)

end GrammarRefs.Check
