import GrammarRefs.Check.Inspection

/-! References from rule to rule: those to rules that are not declared, and the start rules, which
no other rule refers to. -/
namespace GrammarRefs.Check

def undeclaredRule (ref : Token) : Diagnostic := .error ref.pos (.unknownRule ref.text)

def inspectRuleRef (g : Grammar) (ref : Token) : Inspection Unit := do
  if !g.declares ref.text then Inspection.fault (undeclaredRule ref)

/-- The references of an alternative by name, those to one rule in the order of definition. -/
def sortedRuleRefs (alt : Alternative) : List Token :=
  sortByName (·.text) (alt.ruleRefs.entries.flatMap (·.2))

def inspectRuleRefs (g : Grammar) (r : Rule) : Inspection Unit :=
  r.alternatives.forM fun alt => (sortedRuleRefs alt).forM (inspectRuleRef g)

def undeclaredRules : Pass := .ofInspection fun g => g.rules.forM (inspectRuleRefs g)

/-- Names that a rule of another name refers to. -/
def referredNames (g : Grammar) : List String :=
  g.rules.flatMap fun r => r.ruleNames.filter (· != r.name)

/-- What was marked before does not matter. -/
def withStartRules (g : Grammar) : Grammar :=
  let referred := referredNames g
  { g with rules := g.rules.map fun r => { r with isStart := !referred.contains r.name } }

/-- Reports nothing. -/
def markStartRules : Pass := fun g => return .accepted (withStartRules g)

end GrammarRefs.Check
