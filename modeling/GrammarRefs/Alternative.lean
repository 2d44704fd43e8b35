import GrammarRefs.Action
import GrammarRefs.Label
import GrammarRefs.NameTable

/-! Alternatives of a rule, with what their actions can refer to. -/
namespace GrammarRefs

/-- A label may be defined several times, as in `ids+=ID (',' ids+=ID)*`. -/
structure Alternative where
  /-- The index of the rule. -/
  owner : Nat
  /-- Alternatives count from 1. -/
  number : Nat
  actions : List Action := []
  labels : NameTable (List Label) := {}
  tokenRefs : NameTable (List Token) := {}
  ruleRefs : NameTable (List Token) := {}
deriving DecidableEq

namespace Alternative

def addAction (alt : Alternative) (action : Action) : Alternative :=
  { alt with actions := alt.actions ++ [action] }

def addLabel (alt : Alternative) (label : Label) : Alternative :=
  { alt with labels := alt.labels.extend label.name.text [label] }

def addTokenRef (alt : Alternative) (token : Token) : Alternative :=
  { alt with tokenRefs := alt.tokenRefs.extend token.text [token] }

def addRuleRef (alt : Alternative) (token : Token) : Alternative :=
  { alt with ruleRefs := alt.ruleRefs.extend token.text [token] }

end Alternative
end GrammarRefs
