import GrammarRefs.Predefined
import GrammarRefs.PrintLevel
import GrammarRefs.Registry
import GrammarRefs.Rule

/-! Grammars: rules that refer to each other by name, and global scopes. -/
namespace GrammarRefs

structure Grammar where
  name : String
  kind : GrammarKind
  rules : List Rule := []
  /-- Where the first rule of each name stands. -/
  ruleIndex : NameTable Nat := {}
  scopes : NameTable Dict := {}
  registry : Registry := { lexer := kind.isLexer }
  printLevel : PrintLevel := .quiet
deriving DecidableEq

namespace Grammar

def empty (name : String) (kind : GrammarKind) : Grammar := { name, kind }

def ruleIndex? (g : Grammar) (name : String) : Option Nat := g.ruleIndex.get? name

/-- A rule that is declared twice is kept twice; its name stands for the first. -/
def rule? (g : Grammar) (name : String) : Option Rule :=
  (g.ruleIndex? name).bind fun i => g.rules[i]?

def declares (g : Grammar) (name : String) : Bool := (g.rule? name).isSome

/-- The scope takes the name, and the place of an earlier one of that name. -/
def defineScope (g : Grammar) (name : String) (scope : Dict) : Grammar :=
  { g with scopes := g.scopes.insert name { scope with name := some name } }

def raisePrintLevel (g : Grammar) (level : PrintLevel) : Grammar :=
  { g with printLevel := g.printLevel.merge level }

end Grammar
end GrammarRefs
