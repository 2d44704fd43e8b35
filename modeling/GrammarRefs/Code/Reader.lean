import GrammarRefs.Code
import GrammarRefs.Code.Comment
import GrammarRefs.Code.Number
import GrammarRefs.Code.Quoted

/-! Target code read from text. -/
namespace GrammarRefs.Code

/-- The characters that stand as marks. -/
def marks : List Char := "~!@#$%^&*-=+|;:,<.>/?'".toList

/-- The slash of a comment is no mark. -/
def markChar? : List Char → Option (Char × List Char)
  | '/' :: '/' :: _ => none
  | '/' :: '*' :: _ => none
  | c :: rest => if c ∈ marks then some (c, rest) else none
  | [] => none

/-- An apostrophe is a mark only before an identifier that no apostrophe follows, and no `#` unless
the identifier is raw. The text is what comes after it. -/
def admitsApostrophe (text : List Char) : Bool :=
  match Identifier.plainOrRaw? text with
  | none => false
  | some (_, '\'' :: _) => false
  | some (_, '#' :: _) => ['r', '#'].isPrefixOf text
  | some _ => true

def mark? (text : List Char) : Option (Leaf × List Char) := do
  let (c, rest) ← markChar? text
  if c ≠ '\'' then some (.mark c (markChar? rest).isSome, rest)
  else if admitsApostrophe rest then some (.mark c true, rest)
  else none

/-- A text in parentheses that counts as one literal. -/
def errorLiteral : List Char := "(/*ERROR*/)".toList

def leaf? (text : List Char) : Option (Leaf × List Char) :=
  if errorLiteral.isPrefixOf text then some (.literal, text.drop errorLiteral.length)
  else
    (Quoted.read? text <|> Number.read? text).map (Leaf.literal, ·)
      <|> mark? text
      <|> (Identifier.read? text).map fun (name, rest) => (.identifier name, rest)

def delimiter? : Char → Option Lexeme
  | '(' => some (.opening .parenthesis)
  | '[' => some (.opening .bracket)
  | '{' => some (.opening .brace)
  | ')' => some (.closing .parenthesis)
  | ']' => some (.closing .bracket)
  | '}' => some (.closing .brace)
  | _ => none

/-- Documentation stands for `#[doc = "..."]`, with a `!` after the `#` for the inner kind. -/
def documentation (kind : Comment.Documentation) (pos : Position) : List Lexeme :=
  .leaf (.mark '#' false) pos ::
    (if kind = .inner then [.leaf (.mark '!' false) pos] else []) ++
    [.opening .bracket, .leaf (.identifier "doc") pos, .leaf (.mark '=' false) pos,
      .leaf .literal pos, .closing .bracket]

/-- The lexemes of the next blank, comment, delimiter or leaf, and the text after it. -/
def next? (pos : Position) (text : List Char) : Option (List Lexeme × List Char) :=
  (Comment.blank? text).map ([], ·)
    <|> ((Comment.documentation? text).map fun (kind, rest) => (documentation kind pos, rest))
    <|> ((leaf? text).map fun (l, rest) => ([.leaf l pos], rest))
    <|> match text with
      | [] => none
      | c :: rest => (delimiter? c).map fun lexeme => ([lexeme], rest)

/-- Walks over the text and begins a lexeme wherever the last one has been left behind. -/
def lexemesFrom (pos : Position) (skip : Nat) : List Char → Option (List Lexeme)
  | [] => some []
  | c :: rest =>
    match skip with
    | skip + 1 => lexemesFrom (pos.after c) skip rest
    | 0 => do
      let (found, left) ← next? pos (c :: rest)
      let more ← lexemesFrom (pos.after c) (rest.length - left.length) rest
      some (found ++ more)

/-- A byte order mark at the front takes a column and is nothing else. -/
def lexemes? : List Char → Option (List Lexeme)
  | '\uFEFF' :: text => lexemesFrom (({} : Position).after '\uFEFF') 0 text
  | text => lexemesFrom {} 0 text

/-- Stands for the lexer of the `proc_macro2` library, which reads the code of an action or refuses
it. -/
def ofText? (text : String) : Option Code := (lexemes? text.toList).bind ofLexemes?

end GrammarRefs.Code
