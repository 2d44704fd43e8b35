import GrammarRefs.Token

/-! Target code as a forest: leaves in a row, and groups between matching delimiters. -/
namespace GrammarRefs

inductive Delimiter
  | parenthesis
  | bracket
  | brace
deriving DecidableEq

/-- A mark is joint if another mark follows at once. Of literals only the place is kept. -/
inductive Leaf
  | identifier (name : String)
  | mark (char : Char) (joint : Bool)
  | literal
deriving DecidableEq

/-- Groups that are read from text have delimiters; others may have none. -/
inductive Code
  | nil
  | leaf (leaf : Leaf) (pos : Position) (rest : Code)
  | group (delimiter : Option Delimiter) (body rest : Code)
deriving DecidableEq

/-- The pieces of a text before its delimiters are matched. -/
inductive Lexeme
  | leaf (leaf : Leaf) (pos : Position)
  | opening (delimiter : Delimiter)
  | closing (delimiter : Delimiter)
deriving DecidableEq

namespace Code

/-- Code read from its end: the innermost group so far, and for each closing delimiter that still
lacks its opening one, what follows it. -/
structure Frames where
  inner : Code := .nil
  outer : List (Delimiter × Code) := []

def Frames.push (frames : Frames) : Lexeme → Option Frames
  | .leaf l pos => some { frames with inner := .leaf l pos frames.inner }
  | .closing delimiter => some { inner := .nil, outer := (delimiter, frames.inner) :: frames.outer }
  | .opening delimiter =>
    match frames.outer with
    | [] => none
    | (expected, rest) :: outer =>
      if delimiter = expected then
        some { inner := .group (some delimiter) frames.inner rest, outer }
      else none

def Frames.ofLexemes? : List Lexeme → Option Frames
  | [] => some {}
  | lexeme :: rest => (ofLexemes? rest).bind (·.push lexeme)

/-- Every delimiter needs its partner. -/
def ofLexemes? (lexemes : List Lexeme) : Option Code :=
  (Frames.ofLexemes? lexemes).bind fun frames =>
    if frames.outer.isEmpty then some frames.inner else none

end Code
end GrammarRefs
