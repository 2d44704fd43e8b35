import GrammarRefs.Text.IdentifierContinue
import GrammarRefs.Text.IdentifierStart

/-! Identifiers at the front of a text. -/
namespace GrammarRefs.Code.Identifier

open Text

/-- The longest identifier, and the text after it. -/
def plain? : List Char → Option (List Char × List Char)
  | [] => none
  | c :: rest =>
    if startsIdentifier c then
      some (c :: rest.takeWhile continuesIdentifier, rest.dropWhile continuesIdentifier)
    else none

/-- Names that `r#` cannot stand before. -/
def neverRaw : List String := ["_", "super", "self", "Self", "crate"]

/-- A raw identifier keeps its `r#`. -/
def plainOrRaw? : List Char → Option (String × List Char)
  | 'r' :: '#' :: text => do
    let (name, rest) ← plain? text
    if String.ofList name ∈ neverRaw then none else some (String.ofList ('r' :: '#' :: name), rest)
  | text => (plain? text).map fun (name, rest) => (String.ofList name, rest)

/-- Beginnings that are kept for literals. -/
def literalLeads : List String :=
  ["r\"", "r#\"", "r##", "b\"", "b'", "br\"", "br#", "c\"", "cr\"", "cr#"]

def read? (text : List Char) : Option (String × List Char) :=
  if literalLeads.any (·.toList.isPrefixOf text) then none else plainOrRaw? text

/-- An identifier right after a literal belongs to it. -/
def dropSuffix (text : List Char) : List Char := ((plain? text).map (·.2)).getD text

end GrammarRefs.Code.Identifier
