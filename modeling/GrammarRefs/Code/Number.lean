import GrammarRefs.Code.Identifier

/-! Numbers at the front of a text; each reader answers with the text after the number. -/
namespace GrammarRefs.Code.Number

open Text

def isDigitOrUnderscore (c : Char) : Bool := c.isDigit || c == '_'

def isExponentMark (c : Char) : Bool := c == 'e' || c == 'E'

/-- What follows the mark of an exponent: at most one sign before the first digit. -/
def exponent? (signed : Bool) : List Char → Option (List Char)
  | [] => none
  | c :: rest =>
    if c = '+' ∨ c = '-' then if signed then none else exponent? true rest
    else if c = '_' then exponent? signed rest
    else if c.isDigit then some (rest.dropWhile isDigitOrUnderscore)
    else none

/-- A range `1..2` and a member access `1.x` hold no point of a number. -/
def beginsRangeOrMember : List Char → Bool
  | [] => false
  | c :: _ => c == '.' || startsIdentifier c

/-- After the point an exponent that cannot be read ends the number before its mark. -/
def fraction (text : List Char) : List Char :=
  let rest := text.dropWhile isDigitOrUnderscore
  match rest with
  | c :: more => if isExponentMark c then (exponent? false more).getD rest else rest
  | [] => []

/-- A number with a point or an exponent. -/
def decimal? : List Char → Option (List Char)
  | [] => none
  | c :: text =>
    if c.isDigit then
      match text.dropWhile isDigitOrUnderscore with
      | [] => none
      | c :: rest =>
        if c = '.' then if beginsRangeOrMember rest then none else some (fraction rest)
        else if isExponentMark c then exponent? false rest
        else none
    else none

def isHexLetter (c : Char) : Bool := 'a' ≤ c && c ≤ 'f' || 'A' ≤ c && c ≤ 'F'

/-- A decimal digit that the base lacks spoils the number, a letter that it lacks ends it. -/
def digits? (base : Nat) (started : Bool) : List Char → Option (List Char)
  | [] => if started then some [] else none
  | c :: rest =>
    if c.isDigit then
      if c.toNat - '0'.toNat < base then digits? base true rest else none
    else if base = 16 ∧ isHexLetter c then digits? base true rest
    else if c = '_' then
      if started || base != 10 then digits? base started rest else none
    else if started then some (c :: rest)
    else none

def integer? : List Char → Option (List Char)
  | '0' :: 'x' :: text => digits? 16 false text
  | '0' :: 'o' :: text => digits? 8 false text
  | '0' :: 'b' :: text => digits? 2 false text
  | text => digits? 10 false text

/-- After its suffix a number may not run on. -/
def ended? (text : List Char) : Option (List Char) :=
  match Identifier.dropSuffix text with
  | [] => some []
  | c :: rest => if continuesIdentifier c then none else some (c :: rest)

def read? (text : List Char) : Option (List Char) :=
  (decimal? text).bind ended? <|> (integer? text).bind ended?

end GrammarRefs.Code.Number
