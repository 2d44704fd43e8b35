import GrammarRefs.Token

/-! Attributes: the named values that an action can refer to. -/
namespace GrammarRefs

/-- Predefined properties have no declared type. -/
structure Attribute where
  name : String
  type : Option String := none
  init : Option String := none
  pos : Position := {}
deriving DecidableEq

namespace Attribute

/-- The name, with the place of the declaration. -/
def token (a : Attribute) : Token := ⟨a.name, a.pos⟩

def unplaced (a : Attribute) : Attribute := { a with pos := {} }

/-- Equality up to position. -/
def same (a b : Attribute) : Bool := a.unplaced == b.unplaced

def display (a : Attribute) : String :=
  (a.type.map (· ++ " ")).getD "" ++ a.name ++ (a.init.map ("=" ++ ·)).getD ""

end Attribute
end GrammarRefs
