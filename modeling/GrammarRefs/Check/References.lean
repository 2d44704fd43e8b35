import GrammarRefs.Check.Inspection
import GrammarRefs.Site

/-! The references in the actions of a rule, each held against what the rule can refer to. -/
namespace GrammarRefs

namespace Site

/-- What is wrong with `$x`. -/
def simpleFault? (s : Site) (x : String) : Option Fault :=
  if (s.attribute? x).isSome || s.isTokenLabel x || s.isListLabel x || s.rule.refersToToken x then
    none
  else if (s.referredRule? x).isSome then some (.isolatedRule x)
  else some (.unknownAttribute x)

/-- What is wrong with `$x.y`. After an attribute `x` the point is an access to a member in the
target language. -/
def qualifiedFault? (s : Site) (x y : String) : Option Fault :=
  if (s.attribute? x).isSome || (s.qualified? x y).isSome then none
  else
    match s.referredRule? x with
    | some target =>
      if target.arguments.any (·.contains y) then some (.ruleParameter x y)
      else some (.unknownRuleAttribute x y)
    | none =>
      if s.hasAttributes x || s.isListLabel x || s.rule.refersToToken x then
        some (.unknownInScope x y)
      else some (.unknownAttribute x)

/-- What is wrong with `$x::y`. -/
def dynamicFault? (s : Site) (x y : String) : Option Fault :=
  match s.dynamicScope? x with
  | none => some (.unknownDynamicScope x)
  | some scope => if scope.contains y then none else some (.unknownDynamicAttribute x y)

/-- What is wrong with a reference depends on its names alone. -/
def fault? (s : Site) : Reference → Option Fault
  | .simple x => s.simpleFault? x.text
  | .qualified x y => s.qualifiedFault? x.text y.text
  | .dynamic x y => s.dynamicFault? x.text y.text

end Site

namespace Check

/-- Faults are placed at the action. -/
def inspectReference (s : Site) (action : Action) (ref : Reference) : Inspection Unit :=
  match s.fault? ref with
  | none => return
  | some fault => Inspection.fault (.error action.pos fault)

def reportReferences (g : Grammar) (r : Rule) : Reporting Bool :=
  let site : Site := { grammar := g, rule := r }
  Inspection.marked <| r.actions.forM fun action =>
    action.references.forM (inspectReference site action)

def attributeReferences : Pass := .ofInspection fun g =>
  g.rules.forM fun r => Inspection.join (reportReferences g r)

end Check
end GrammarRefs
