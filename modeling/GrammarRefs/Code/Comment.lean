import GrammarRefs.Text.WhiteSpace

/-! Blanks and comments at the front of a text. Documentation is no blank: it stands for code of its
own. -/
namespace GrammarRefs.Code.Comment

/-- White space, and the two marks of writing direction. -/
def isBlank (c : Char) : Bool := Text.isWhiteSpace c || c == '\u200E' || c == '\u200F'

/-- The rest of a line, and the text from its line feed on. -/
def cutLine : List Char → List Char × List Char
  | [] => ([], [])
  | '\n' :: rest => ([], '\n' :: rest)
  | '\r' :: '\n' :: rest => ([], '\n' :: rest)
  | c :: rest => (c :: (cutLine rest).1, (cutLine rest).2)

/-- The inside of a block comment, and the text after its end; comments nest. -/
def cutBlock? (depth : Nat) : List Char → Option (List Char × List Char)
  | [] => none
  | '/' :: '*' :: rest =>
    (cutBlock? (depth + 1) rest).map fun (inside, after) => ('/' :: '*' :: inside, after)
  | '*' :: '/' :: rest =>
    match depth with
    | 0 => some ([], rest)
    | depth + 1 =>
      (cutBlock? depth rest).map fun (inside, after) => ('*' :: '/' :: inside, after)
  | c :: rest => (cutBlock? depth rest).map fun (inside, after) => (c :: inside, after)

/-- Documentation for what follows it, or for what it stands in. -/
inductive Documentation
  | outer
  | inner
deriving DecidableEq

/-- Begun by `///` and `//!`, but not by `////`. -/
def documentationLine? : List Char → Option Documentation
  | '/' :: '/' :: '/' :: '/' :: _ => none
  | '/' :: '/' :: '/' :: _ => some .outer
  | '/' :: '/' :: '!' :: _ => some .inner
  | _ => none

/-- Begun by `/**` and `/*!`, but neither by `/***` nor by `/**/`. -/
def documentationBlock? : List Char → Option Documentation
  | '/' :: '*' :: '*' :: '*' :: _ => none
  | '/' :: '*' :: '*' :: '/' :: _ => none
  | '/' :: '*' :: '*' :: _ => some .outer
  | '/' :: '*' :: '!' :: _ => some .inner
  | _ => none

def isDocumentation (text : List Char) : Bool :=
  (documentationLine? text).isSome || (documentationBlock? text).isSome

/-- The text after one blank or one comment. -/
def blank? (text : List Char) : Option (List Char) :=
  if isDocumentation text then none
  else match text with
    | '/' :: '/' :: rest => some (cutLine rest).2
    | '/' :: '*' :: rest => (cutBlock? 0 rest).map (·.2)
    | c :: rest => if isBlank c then some rest else none
    | [] => none

/-- A carriage return that no line feed follows. -/
def hasLoneReturn : List Char → Bool
  | [] => false
  | '\r' :: '\n' :: rest => hasLoneReturn rest
  | c :: rest => c == '\r' || hasLoneReturn rest

/-- The kind of the documentation, and the text after it. -/
def documentation? (text : List Char) : Option (Documentation × List Char) := do
  let (kind, content, rest) ←
    match documentationLine? text, documentationBlock? text with
    | some kind, _ => some (kind, cutLine (text.drop 3))
    | none, some kind => (cutBlock? 0 (text.drop 2)).map fun cut => (kind, cut)
    | none, none => none
  if hasLoneReturn content then none else some (kind, rest)

end GrammarRefs.Code.Comment
