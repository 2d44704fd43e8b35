import GrammarRefs.Dict
import GrammarRefs.GrammarKind
import GrammarRefs.Label

/-! Properties that can be used without a declaration, through a rule, a token or a label. They
depend on the kind of the grammar: a rule of a tree grammar has no `stop`, and a rule of a lexer has
a `type` and a `channel`. -/
namespace GrammarRefs.Predefined

def ruleProperties : List String := ["text", "start", "stop", "tree", "st"]

def treeRuleProperties : List String := ["text", "start", "tree", "st"]

def lexerRuleProperties : List String :=
  ["text", "type", "line", "index", "pos", "channel", "start", "stop", "int"]

def tokenProperties : List String :=
  ["text", "type", "line", "index", "pos", "channel", "tree", "int"]

/-- Properties of a rule, as in `$r.text` or `$text`. -/
def ruleScope : GrammarKind → Dict
  | .lexer => .ofNames .predefinedLexerRule lexerRuleProperties
  | .tree => .ofNames .predefinedTreeRule treeRuleProperties
  | .parser | .combined => .ofNames .predefinedRule ruleProperties

def tokenScope : Dict := .ofNames .predefinedToken tokenProperties

/-- Properties of what a label stands for. Lists have none. -/
def labelScope? : GrammarKind → LabelKind → Option Dict
  | _, .token => some tokenScope
  | kind, .rule => some (ruleScope kind)
  | .tree, .wildcardTree => some (ruleScope .tree)
  | .lexer, .lexerString => some (ruleScope .lexer)
  | _, _ => none

/-- A scope that belongs to one kind of grammar is not found from another. -/
def labelScopeIn? (kind asked : GrammarKind) (label : LabelKind) : Option Dict :=
  if asked = kind then labelScope? kind label else none

end GrammarRefs.Predefined
