import GrammarRefs.Grammar

/-! What the names in an action stand for. A name that stands for nothing is answered with nothing;
saying so is left to the checks. -/
namespace GrammarRefs

/-- The rule whose actions hold the names, in its grammar. -/
structure Site where
  grammar : Grammar
  rule : Rule

namespace Site

/-- Of `$x`: an argument, then a return value, then a predefined property. -/
def attribute? (s : Site) (x : String) : Option Attribute :=
  (s.rule.arguments.bind (·.get? x))
    <|> (s.rule.returns.bind (·.get? x))
    <|> (Predefined.ruleScope s.grammar.kind).get? x

/-- Of `$r.y` where `r` stands for the target: a return value, then a predefined property. -/
def result? (s : Site) (target : Rule) (y : String) : Option Attribute :=
  (target.returns.bind (·.get? y)) <|> (Predefined.ruleScope s.grammar.kind).get? y

/-- What the element of a label offers. -/
def labelled? (s : Site) (label : Label) (y : String) : Option Attribute :=
  if label.kind = .rule then (s.grammar.rule? label.element.text).bind (s.result? · y)
  else (Predefined.labelScope? s.grammar.kind label.kind).bind (·.get? y)

/-- Of `$x.y`, where `x` is the rule itself, or a label, or a rule or a token that the rule refers
to. -/
def qualified? (s : Site) (x y : String) : Option Attribute :=
  if x = s.rule.name then s.attribute? y
  else
    match s.rule.firstLabel? x with
    | some label => s.labelled? label y
    | none =>
      if s.rule.refersToRule x then (s.grammar.rule? x).bind (s.result? · y)
      else if s.rule.refersToToken x then
        (Predefined.labelScope? s.grammar.kind .token).bind (·.get? y)
      else none

/-- The rule itself, the target of a rule label, or any rule of the name. -/
def rule? (s : Site) (x : String) : Option Rule :=
  if x = s.rule.name then some s.rule
  else
    match s.rule.firstLabel? x with
    | some label =>
      if label.kind = .rule then s.grammar.rule? label.element.text else s.grammar.rule? x
    | none => s.grammar.rule? x

/-- Of `$x::y`: the scope of the rule `x`, or else the global scope `x`. -/
def dynamicScope? (s : Site) (x : String) : Option Dict :=
  ((s.rule? x).bind (·.scope)) <|> s.grammar.scopes.get? x

/-- Being a label is not asked as such: the queries below ask for labels of one kind. -/
def isLabel (_ : Site) (_ : String) : Bool := false

def isListLabel (s : Site) (x : String) : Bool :=
  (s.rule.firstLabel? x).any fun label => label.kind == .ruleList || label.kind == .tokenList

def isTokenLabel (s : Site) (x : String) : Bool :=
  (s.rule.firstLabel? x).any fun label => label.kind == .token

/-- A rule with a scope of its own takes every name for one that has attributes. -/
def hasAttributes (s : Site) (x : String) : Bool :=
  s.isTokenLabel x || x == s.rule.name || s.rule.scope.isSome || s.grammar.scopes.contains x

/-- The rule that `x` alone stands for: the rule itself, the target of a rule label, or a rule that
is referred to without a label. -/
def referredRule? (s : Site) (x : String) : Option Rule :=
  if x = s.rule.name then some s.rule
  else
    match s.rule.firstLabel? x with
    | some label => if label.kind = .rule then s.grammar.rule? label.element.text else none
    | none => if s.rule.refersToRule x then s.grammar.rule? x else none

end Site

/-- Looks from the rule with the index, if there is one. -/
def Grammar.site? (g : Grammar) (i : Nat) : Option Site :=
  g.rules[i]?.map fun rule => { grammar := g, rule }

end GrammarRefs
