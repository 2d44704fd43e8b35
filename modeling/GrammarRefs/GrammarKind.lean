/-! Kinds of grammar. -/
namespace GrammarRefs

inductive GrammarKind
  | lexer
  | parser
  | tree
  | combined
deriving DecidableEq

namespace GrammarKind

def name : GrammarKind → String
  | .lexer => "lexer"
  | .parser => "parser"
  | .tree => "tree"
  | .combined => "combined"

def isLexer (kind : GrammarKind) : Bool := kind == .lexer

end GrammarKind

end GrammarRefs
