import GrammarRefs.Label

/-! What can be wrong with a grammar, and how it is said. -/
namespace GrammarRefs

inductive Fault
  | noRule
  | duplicate (what name : String)
  | previousDefinition (name : String)
  | unknownRule (name : String)
  | labelKindConflict (label : String) (previous current : LabelKind)
  | labelNamesRule (name : String)
  | unknownAttribute (name : String)
  | unknownRuleAttribute (rule attr : String)
  | ruleParameter (rule attr : String)
  | unknownInScope (scope attr : String)
  | isolatedRule (name : String)
  | unknownDynamicScope (name : String)
  | unknownDynamicAttribute (scope attr : String)
  | unreadableAction (reason : String)
  | unknownDirective (name : String)
deriving DecidableEq

def Fault.message : Fault → String
  | .noRule => "at least one rule must be declared"
  | .duplicate what name => s!"duplicate definition of {what} with name `{name}`"
  | .previousDefinition name => s!"previous definition of `{name}` here"
  | .unknownRule name => s!"reference to undefined rule `{name}`"
  | .labelKindConflict label previous current =>
    s!"label `{label}` type mismatch with previous definition: " ++
      s!"{current.display} != {previous.display}"
  | .labelNamesRule name => s!"label `{name}` conflicts with rule with same name"
  | .unknownAttribute name => s!"unknown attribute reference `{name}` in action"
  | .unknownRuleAttribute rule attr =>
    s!"unknown attribute `{attr}` for rule `{rule}` in `${rule}.{attr}`"
  | .ruleParameter rule attr =>
    s!"parameter `{attr}` of rule `{rule}` is not accessible in this scope: `${rule}.{attr}`"
  | .unknownInScope scope attr =>
    s!"attribute `{attr}` isn't a valid property in `${scope}.{attr}`"
  | .isolatedRule name => s!"missing attribute access on rule reference `{name}` in `${name}`"
  | .unknownDynamicScope name => s!"unknown dynamic scope `{name}`"
  | .unknownDynamicAttribute scope attr =>
    s!"unknown dynamically-scoped attribute `{attr}` in `${scope}::{attr}`"
  | .unreadableAction reason => s!"action code could not be tokenized: {reason}"
  | .unknownDirective name => s!"unknown grammar attribute `{name}`: it will be ignored"

/-- A request that the grammar under construction cannot meet. -/
inductive StructuralFault
  | altOutOfRange (rule : String) (alt alts : Nat)
  | noAlternative (rule : String)
  | ruleOutOfRange (rule rules : Nat)
deriving DecidableEq

def StructuralFault.message : StructuralFault → String
  | .altOutOfRange rule alt alts =>
    s!"alternative {alt} is out of range for rule `{rule}` ({alts} alternative(s))"
  | .noAlternative rule => s!"rule `{rule}` must have at least one alternative"
  | .ruleOutOfRange rule rules => s!"rule index {rule} is out of range ({rules} rule(s))"

end GrammarRefs
