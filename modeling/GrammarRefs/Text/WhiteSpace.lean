import GrammarRefs.Text.CharRanges

/-! White space, the property White_Space, and the trimming of texts. -/
namespace GrammarRefs.Text

def whiteSpaceRanges : CharRanges :=
  [(0x09, 0x0D), (0x20, 0x20), (0x85, 0x85), (0xA0, 0xA0), (0x1680, 0x1680), (0x2000, 0x200A),
   (0x2028, 0x2029), (0x202F, 0x202F), (0x205F, 0x205F), (0x3000, 0x3000)]

def isWhiteSpace (c : Char) : Bool := whiteSpaceRanges.covers c

theorem whiteSpaceRanges_ascending : whiteSpaceRanges.ascending = true := by decide

def trimStart (text : List Char) : List Char := text.dropWhile isWhiteSpace

def trimEnd (text : List Char) : List Char := (trimStart text.reverse).reverse

/-- White space is dropped at both ends. -/
def trim (text : List Char) : List Char := trimEnd (trimStart text)

end GrammarRefs.Text
