import GrammarRefs.Token

/-! Labels: names given to an element of an alternative, so that actions can refer to it. -/
namespace GrammarRefs

/-- What a label stands for. -/
inductive LabelKind
  /-- As in `e=expr`. -/
  | rule
  /-- As in `es+=expr`. -/
  | ruleList
  /-- As in `id=ID`. -/
  | token
  /-- As in `ids+=ID`. -/
  | tokenList
  /-- As in `s='abc'` in a rule of a lexer. -/
  | lexerString
  /-- As in `t=.`. -/
  | wildcardTree
  /-- As in `ts+=.`. -/
  | wildcardTreeList
deriving DecidableEq

namespace LabelKind

def isList : LabelKind → Bool
  | .ruleList | .tokenList | .wildcardTreeList => true
  | _ => false

def display : LabelKind → String
  | .rule => "RULE_LABEL"
  | .ruleList => "RULE_LIST_LABEL"
  | .token => "TOKEN_LABEL"
  | .tokenList => "TOKEN_LIST_LABEL"
  | .lexerString => "LEXER_STRING_LABEL"
  | .wildcardTree => "WILDCARD_TREE_LABEL"
  | .wildcardTreeList => "WILDCARD_TREE_LIST_LABEL"

end LabelKind

/-- The element is the name of the rule or token that the label is bound to. -/
structure Label where
  name : Token
  element : Token
  kind : LabelKind
deriving DecidableEq

end GrammarRefs
