/-! Positions in a grammar file, and names that stand at one. -/
namespace GrammarRefs

/-- Lines count from 1 and columns from 0, in characters. -/
structure Position where
  line : Nat := 1
  column : Nat := 0
deriving DecidableEq, Inhabited

namespace Position

/-- Both numbers are shown from 1. -/
def display (p : Position) : String := toString p.line ++ ":" ++ toString (p.column + 1)

/-- Only a line feed begins a new line. -/
def after (p : Position) (c : Char) : Position :=
  if c = '\n' then ⟨p.line + 1, 0⟩ else ⟨p.line, p.column + 1⟩

end Position

structure Token where
  text : String
  pos : Position := {}
deriving DecidableEq, Inhabited

namespace Token

def unplaced (t : Token) : Token := { t with pos := {} }

/-- Positions are not part of the identity of a token. -/
def same (a b : Token) : Bool := a.text == b.text

end Token
end GrammarRefs
