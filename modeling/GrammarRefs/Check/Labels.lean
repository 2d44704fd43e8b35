import GrammarRefs.Check.Inspection

/-! Labels that are in the way of each other or of a rule. -/
namespace GrammarRefs.Check

def labelNamesRule (label : Label) (name : String) : Diagnostic :=
  .error label.name.pos (.labelNamesRule name)

def labelKindConflict (name : String) (first later : Label) : Diagnostic :=
  .error later.name.pos (.labelKindConflict name first.kind later.kind)
    [⟨first.name.pos, .previousDefinition name⟩]

def inspectLaterLabel (name : String) (first later : Label) : Inspection Unit := do
  if later.kind != first.kind then
    report (labelKindConflict name first later)
    Inspection.mark

/-- Later definitions are held against the first one, not against each other. -/
def inspectLabel (g : Grammar) (name : String) : List Label → Inspection Unit
  | [] => return
  | first :: later => do
    if g.declares name then Inspection.fault (labelNamesRule first name)
    later.forM (inspectLaterLabel name first)

/-- Labels come by name. -/
def inspectLabels (g : Grammar) (r : Rule) : Inspection Unit :=
  r.labels.sorted.forM fun entry => inspectLabel g entry.1 entry.2

def labelConflicts : Pass := .ofInspection fun g => g.rules.forM (inspectLabels g)

end GrammarRefs.Check
