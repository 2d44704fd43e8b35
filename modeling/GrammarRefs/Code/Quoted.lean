import GrammarRefs.Code.Identifier

/-! Literals between quotation marks, read one character at a time by a finite automaton; raw
strings, which know no escapes, are read apart. -/
namespace GrammarRefs.Code.Quoted

/-- A character and a byte hold exactly one element, the strings any number. -/
inductive Kind
  | string
  | byteString
  | zeroEnded
  | character
  | byte
deriving DecidableEq

namespace Kind

def holdsOne : Kind → Bool
  | .character | .byte => true
  | _ => false

def ofBytes : Kind → Bool
  | .byteString | .byte => true
  | _ => false

def mark (kind : Kind) : Char := if kind.holdsOne then '\'' else '"'

/-- Bytes are written in ASCII, and no zero stands in a text that zero ends. -/
def allows (kind : Kind) (c : Char) : Bool :=
  if kind.ofBytes then decide (c.toNat < 128) else kind != .zeroEnded || c != '\x00'

def escapes (kind : Kind) : List Char :=
  ['n', 'r', 't', '\\', '\'', '"'] ++ if kind = .zeroEnded then [] else ['0']

/-- Text holds code points below 128 in this form, bytes all values; no zero before the end. -/
def allowsHex (kind : Kind) (high low : Nat) : Bool :=
  match kind with
  | .string | .character => decide (high < 8)
  | .byteString | .byte => true
  | .zeroEnded => high != 0 || low != 0

def allowsCodePoint (kind : Kind) (n : Nat) : Bool :=
  decide n.isValidChar && (kind != .zeroEnded || n != 0)

end Kind

inductive State
  /-- Between the elements of a string. -/
  | element
  /-- Before the only element. -/
  | only
  /-- Before the closing mark of an only element. -/
  | closing
  | closed
  /-- After a carriage return, which only a line feed may follow. -/
  | carriageReturn
  | backslash
  /-- After a backslash and a carriage return. -/
  | brokenLine
  /-- Blanks after a backslash at the end of a line. -/
  | indentation
  | hexHigh
  | hexLow (high : Nat)
  | openingBrace
  | codePoint (digits value : Nat)
deriving DecidableEq

def hexDigit? (c : Char) : Option Nat :=
  if c.isDigit then some (c.toNat - '0'.toNat)
  else if 'a' ≤ c ∧ c ≤ 'f' then some (c.toNat - 'a'.toNat + 10)
  else if 'A' ≤ c ∧ c ≤ 'F' then some (c.toNat - 'A'.toNat + 10)
  else none

def afterElement (kind : Kind) : State := if kind.holdsOne then .closing else .element

def stepElement (kind : Kind) (c : Char) : Option State :=
  if c = kind.mark then some .closed
  else if c = '\r' then some .carriageReturn
  else if c = '\\' then some .backslash
  else if kind.allows c then some .element
  else none

def stepBackslash (kind : Kind) (c : Char) : Option State :=
  if c = 'x' then some .hexHigh
  else if c = 'u' ∧ ¬ kind.ofBytes then some .openingBrace
  else if c ∈ kind.escapes then some (afterElement kind)
  else if c = '\n' ∧ ¬ kind.holdsOne then some .indentation
  else if c = '\r' ∧ ¬ kind.holdsOne then some .brokenLine
  else none

/-- At most six digits; underscores may stand after the first. -/
def stepCodePoint (kind : Kind) (digits value : Nat) (c : Char) : Option State :=
  match hexDigit? c with
  | some d => if digits < 6 then some (.codePoint (digits + 1) (16 * value + d)) else none
  | none =>
    if c = '_' ∧ 0 < digits then some (.codePoint digits value)
    else if c = '}' ∧ 0 < digits ∧ kind.allowsCodePoint value then some (afterElement kind)
    else none

def step (kind : Kind) : State → Char → Option State
  | .element, c => stepElement kind c
  | .only, c =>
    if c = '\\' then some .backslash else if kind.allows c then some .closing else none
  | .closing, c => if c = kind.mark then some .closed else none
  | .closed, _ => none
  | .carriageReturn, c => if c = '\n' then some .element else none
  | .backslash, c => stepBackslash kind c
  | .brokenLine, c => if c = '\n' then some .indentation else none
  | .indentation, c =>
    if c = ' ' ∨ c = '\t' ∨ c = '\n' then some .indentation
    else if c = '\r' then some .brokenLine
    else stepElement kind c
  | .hexHigh, c => (hexDigit? c).map .hexLow
  | .hexLow high, c =>
    (hexDigit? c).bind fun low => if kind.allowsHex high low then some (afterElement kind) else none
  | .openingBrace, c => if c = '{' then some (.codePoint 0 0) else none
  | .codePoint digits value, c => stepCodePoint kind digits value c

/-- The text after the closing mark. -/
def run (kind : Kind) : State → List Char → Option (List Char)
  | _, [] => none
  | s, c :: rest =>
    match step kind s c with
    | none => none
    | some .closed => some rest
    | some s => run kind s rest

def body? (kind : Kind) (text : List Char) : Option (List Char) :=
  run kind (if kind.holdsOne then .only else .element) text

/-- A raw string ends at a quotation mark with as many `#` as stand before its first one. -/
def rawBody? (kind : Kind) (hashes : List Char) : List Char → Option (List Char)
  | [] => none
  | '"' :: rest =>
    if hashes.isPrefixOf rest then some (rest.drop hashes.length) else rawBody? kind hashes rest
  | '\r' :: '\n' :: rest => rawBody? kind hashes rest
  | c :: rest => if c ≠ '\r' ∧ kind.allows c then rawBody? kind hashes rest else none

/-- At most 255 `#` stand before the first quotation mark. -/
def raw? (kind : Kind) (text : List Char) : Option (List Char) :=
  let hashes := text.takeWhile (· == '#')
  match text.dropWhile (· == '#') with
  | '"' :: rest => if hashes.length ≤ 255 then rawBody? kind hashes rest else none
  | _ => none

def unsuffixed? : List Char → Option (List Char)
  | '"' :: text => body? .string text
  | 'r' :: text => raw? .string text
  | 'b' :: '"' :: text => body? .byteString text
  | 'b' :: 'r' :: text => raw? .byteString text
  | 'b' :: '\'' :: text => body? .byte text
  | 'c' :: '"' :: text => body? .zeroEnded text
  | 'c' :: 'r' :: text => raw? .zeroEnded text
  | '\'' :: text => body? .character text
  | _ => none

def read? (text : List Char) : Option (List Char) :=
  (unsuffixed? text).map Identifier.dropSuffix

end GrammarRefs.Code.Quoted
