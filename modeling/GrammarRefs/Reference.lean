import GrammarRefs.Code

/-! References to attributes in target code: `$x`, `$x.y` and `$x::y`. -/
namespace GrammarRefs

inductive Reference
  | simple (x : Token)
  | qualified (x y : Token)
  | dynamic (x y : Token)
deriving DecidableEq

def Reference.spelling : Reference → String
  | .simple x => "$" ++ x.text
  | .qualified x y => "$" ++ x.text ++ "." ++ y.text
  | .dynamic x y => "$" ++ x.text ++ "::" ++ y.text

/-- References in the order of appearance, those in groups included. Blanks may stand anywhere in a
reference but between the colons of `$x::y`. -/
def Code.references : Code → List Reference
  | .leaf (.mark '$' _) _ (.leaf (.identifier x) px
      (.leaf (.mark '.' _) _ (.leaf (.identifier y) py rest))) =>
    .qualified ⟨x, px⟩ ⟨y, py⟩ :: rest.references
  | .leaf (.mark '$' _) _ (.leaf (.identifier x) px
      (.leaf (.mark ':' true) _ (.leaf (.mark ':' _) _ (.leaf (.identifier y) py rest)))) =>
    .dynamic ⟨x, px⟩ ⟨y, py⟩ :: rest.references
  | .leaf (.mark '$' _) _ (.leaf (.identifier x) px rest) => .simple ⟨x, px⟩ :: rest.references
  | .leaf _ _ rest => rest.references
  | .group _ body rest => body.references ++ rest.references
  | .nil => []

end GrammarRefs
