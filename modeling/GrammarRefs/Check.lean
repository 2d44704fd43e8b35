import GrammarRefs.Check.Directive
import GrammarRefs.Check.Duplicates
import GrammarRefs.Check.Labels
import GrammarRefs.Check.References
import GrammarRefs.Check.Rules
import GrammarRefs.Printout

/-! The check of a whole grammar: every reference that its actions hold has to stand for
something. -/
namespace GrammarRefs.Check

/-- A grammar without rules cannot be checked any further. -/
def requireRule : Pass := fun g => do
  if g.rules.isEmpty then
    report (.error {} .noRule)
    return .rejected
  else return .accepted g

def analyse : Pass := .chain [
  ruleDuplicates,
  attributeDuplicates,
  undeclaredRules,
  markStartRules,
  labelConflicts,
  attributeReferences]

def check (directives : List Directive) : Pass :=
  .chain [requireRule, decorate directives, analyse]

/-- What the check prints: the grammar, unless there is none left. -/
def printed (v : Verdict Grammar) : String := (v.value?.map Grammar.printout).getD ""

end GrammarRefs.Check
