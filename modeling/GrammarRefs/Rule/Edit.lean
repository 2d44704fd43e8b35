import GrammarRefs.Registry
import GrammarRefs.Rule

/-! Edits of one rule. An edit may number actions in the registry of the grammar. -/
namespace GrammarRefs

/-- What an edit has written when it fails stays written. -/
abbrev Editing := ExceptT StructuralFault (StateM (Rule × Registry))

namespace Rule

def change (f : Rule → Rule) : Editing Unit := modify fun (rule, registry) => (f rule, registry)

def requireAlternative (number : Nat) : Editing Unit := do
  let (rule, _) ← get
  if number = 0 ∨ rule.alternatives.length < number then
    throw (.altOutOfRange rule.name number rule.alternatives.length)

def changeAlternative (number : Nat) (f : Alternative → Alternative) : Editing Unit := do
  requireAlternative number
  change fun rule => { rule with alternatives := rule.alternatives.modify (number - 1) f }

/-- Actions of a lexer and forced actions get a number, and the rule keeps the last one. -/
def numberAction (snippet : Snippet) : Editing (Option Nat × Action) := do
  let (rule, registry) ← get
  if registry.lexer || snippet.isForced then
    let (index, action, registry) := registry.addAction snippet
    set ({ rule with lastAction := some index }, registry)
    return (some index, action)
  else return (none, snippet.numbered none)

/-- Predicates always get a number. -/
def numberPredicate (snippet : Snippet) : Editing (Nat × Action) := do
  let (rule, registry) ← get
  let (index, predicate, registry) := registry.addPredicate snippet
  set (rule, registry)
  return (index, predicate)

/-- The alternative is asked for before anything is numbered. -/
def addAction (number : Nat) (snippet : Snippet) : Editing (Option Nat) := do
  requireAlternative number
  let (index, action) ← numberAction snippet
  changeAlternative number (·.addAction action)
  return index

def addPredicate (number : Nat) (snippet : Snippet) : Editing Nat := do
  requireAlternative number
  let (index, predicate) ← numberPredicate snippet
  changeAlternative number (·.addAction predicate)
  return index

def addLabel (number : Nat) (label : Label) : Editing Unit :=
  changeAlternative number (·.addLabel label)

def addTokenRef (number : Nat) (token : Token) : Editing Unit :=
  changeAlternative number (·.addTokenRef token)

def addRuleRef (number : Nat) (token : Token) : Editing Unit :=
  changeAlternative number (·.addRuleRef token)

/-- Whether there was an action of that name, which is replaced. -/
def setNamedAction (name : String) (snippet : Snippet) : Editing Bool := do
  let (rule, _) ← get
  change fun rule =>
    { rule with namedActions := rule.namedActions.insert name (snippet.numbered none) }
  return rule.namedActions.contains name

end Rule
end GrammarRefs
