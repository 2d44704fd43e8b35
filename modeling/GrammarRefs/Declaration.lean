import GrammarRefs.Declaration.Nesting
import GrammarRefs.Dict
import GrammarRefs.Text.Alphanumeric
import GrammarRefs.Text.WhiteSpace

/-! Declarations of attributes, such as `int x, List<String> names, boolean b = true`. -/
namespace GrammarRefs.Declaration

open Text

def isNameChar (c : Char) : Bool := isAlphanumeric c || c == '_'

/-- An empty text counts as none. -/
def nonempty? (text : List Char) : Option String :=
  if text.isEmpty then none else some (String.ofList text)

/-- The initial value is what follows the first `=` at the top, so it may hold more of them. -/
def cutInit (decl : List Char) : List Char × Option String :=
  match Nesting.cut? '=' decl with
  | some (head, value) => (head, nonempty? (trim value))
  | none => (decl, none)

/-- A text parted around its last run of name characters. -/
structure Parts where
  before : List Char
  name : List Char
  after : List Char
deriving DecidableEq

def Parts.ofText (text : List Char) : Parts where
  before := ((text.reverse.dropWhile (!isNameChar ·)).dropWhile isNameChar).reverse
  name := ((text.reverse.dropWhile (!isNameChar ·)).takeWhile isNameChar).reverse
  after := (text.reverse.takeWhile (!isNameChar ·)).reverse

/-- What stands around the name, such as `int` and `[]` in `int x[]`, is the type. -/
def read? (pos : Position) (decl : List Char) : Option Attribute :=
  let (head, init) := cutInit decl
  let parts := Parts.ofText head
  (nonempty? parts.name).map fun name =>
    { name, type := nonempty? (trim parts.before ++ trim parts.after), init, pos }

/-- The declarations between commas, without the white space around them and the empty ones. -/
def pieces (text : List Char) : List (List Char) :=
  ((Nesting.split ',' text).map trim).filter (!·.isEmpty)

def attributes (pos : Position) (text : List Char) : List Attribute :=
  (pieces text).filterMap (read? pos)

end Declaration

/-- All the attributes have the position of the list. -/
def Dict.ofDeclarations (kind : DictKind) (text : String) (pos : Position) : Dict :=
  .ofAttributes kind (Declaration.attributes pos text.toList)

end GrammarRefs
