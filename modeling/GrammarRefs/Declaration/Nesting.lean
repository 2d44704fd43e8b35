/-! Cutting a text at a separator that stands outside of brackets and of quoted literals. -/
namespace GrammarRefs

/-- Where a scan from the left stands: at a bracket depth outside of literals, in a literal with
its quotation mark, or after a backslash in one. More closing than opening brackets give a negative
depth. It is counted in 32 bits and wraps around, so that 2 ^ 32 open brackets count as none. -/
inductive Nesting
  | outside (depth : Int32)
  | quoted (depth : Int32) (mark : Char)
  | escaped (depth : Int32) (mark : Char)
deriving DecidableEq

namespace Nesting

def isQuotationMark (c : Char) : Bool := c == '"' || c == '\''

def opens (c : Char) : Bool := c == '<' || c == '(' || c == '[' || c == '{'

def closes (c : Char) : Bool := c == '>' || c == ')' || c == ']' || c == '}'

def step : Nesting → Char → Nesting
  | .outside depth, c =>
    if isQuotationMark c then .quoted depth c
    else if opens c then .outside (depth + 1)
    else if closes c then .outside (depth - 1)
    else .outside depth
  | .quoted depth mark, c =>
    if c = '\\' then .escaped depth mark
    else if c = mark then .outside depth
    else .quoted depth mark
  | .escaped depth mark, _ => .quoted depth mark

def top : Nesting := .outside 0

/-- The texts before and after the first separator that the scan meets at the top. -/
def cutFrom (separator : Char) : Nesting → List Char → Option (List Char × List Char)
  | _, [] => none
  | s, c :: rest =>
    if c = separator ∧ s = top then some ([], rest)
    else (cutFrom separator (s.step c) rest).map fun cut => (c :: cut.1, cut.2)

def cut? (separator : Char) (text : List Char) : Option (List Char × List Char) :=
  cutFrom separator top text

theorem cutFrom_eq_some {separator : Char} {s : Nesting} {text before after : List Char}
    (h : cutFrom separator s text = some (before, after)) :
    text = before ++ separator :: after := by
  induction text generalizing s before with
  | nil => simp [cutFrom] at h
  | cons c rest ih =>
    rw [cutFrom] at h
    split at h
    · next hc =>
      obtain ⟨rfl, rfl⟩ := Prod.mk.inj (Option.some.inj h)
      simp [hc.1]
    · obtain ⟨⟨b, a⟩, hcut, he⟩ := Option.map_eq_some_iff.1 h
      obtain ⟨rfl, rfl⟩ := Prod.mk.inj he
      simp [ih hcut]

/-- The scan begins anew, at the top, after each separator. -/
def split (separator : Char) (text : List Char) : List (List Char) :=
  match _h : cut? separator text with
  | none => [text]
  | some (before, after) => before :: split separator after
termination_by text.length
decreasing_by
  rw [cutFrom_eq_some _h]
  simp
  omega

end Nesting
end GrammarRefs
