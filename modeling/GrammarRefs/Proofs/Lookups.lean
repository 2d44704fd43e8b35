import GrammarRefs.Check.References

/-! What is asked about one name. A rule can be reached under a name in three ways: it is the rule
itself, or a rule label leads to it, or it has the name. -/
namespace GrammarRefs

/-- What the actions of other rules can see of a rule. -/
structure Header where
  name : String
  arguments : Option Dict
  returns : Option Dict
  scope : Option Dict

def Rule.header (r : Rule) : Header := ⟨r.name, r.arguments, r.returns, r.scope⟩

namespace Site

/-- The rule that a rule label leads to. -/
def target? (s : Site) (label : Label) : Option Rule :=
  if label.kind = .rule then s.grammar.rule? label.element.text else none

def labelTarget? (s : Site) (x : String) : Option Rule := (s.rule.firstLabel? x).bind s.target?

/-- Two sites that tell the same of a name, but perhaps not where it leads. -/
structure AlikeAt (x : String) (s t : Site) : Prop where
  kind : s.grammar.kind = t.grammar.kind
  scope : s.grammar.scopes.get? x = t.grammar.scopes.get? x
  header : s.rule.header = t.rule.header
  label : (s.rule.firstLabel? x).map Label.kind = (t.rule.firstLabel? x).map Label.kind
  token : s.rule.refersToToken x = t.rule.refersToToken x
  ruleRef : s.rule.refersToRule x = t.rule.refersToRule x

/-- In whichever way the name leads to a rule, the two rules have the same to offer. -/
structure Leads {β : Type} (offer : Option Rule → β) (x : String) (s t : Site) : Prop where
  own : offer (some s.rule) = offer (some t.rule)
  label : offer (s.labelTarget? x) = offer (t.labelTarget? x)
  named : offer (s.grammar.rule? x) = offer (t.grammar.rule? x)

/-- Whether `$x.y` stands for something if `x` leads to the target. -/
def hasResult (s : Site) (y : String) (target : Option Rule) : Bool :=
  (target.bind (s.result? · y)).isSome

/-- Whether `$x::y` stands for something if `x` leads to the target. -/
def hasDynamic (s : Site) (x y : String) (target : Option Rule) : Bool :=
  (target.bind Rule.scope <|> s.grammar.scopes.get? x).any (·.contains y)

/-- Whether the reference stands for anything. -/
def accepts (s : Site) : Reference → Bool
  | .simple x => (s.attribute? x.text).isSome || s.isTokenLabel x.text || s.isListLabel x.text ||
    s.rule.refersToToken x.text
  | .qualified x y => (s.attribute? x.text).isSome || (s.qualified? x.text y.text).isSome
  | .dynamic x y => (s.dynamicScope? x.text).any (·.contains y.text)

/-- What is wrong with a reference that stands for nothing. -/
def blame (s : Site) : Reference → Fault
  | .simple x =>
    if (s.referredRule? x.text).isSome then .isolatedRule x.text else .unknownAttribute x.text
  | .qualified x y =>
    match s.referredRule? x.text with
    | some target =>
      if target.arguments.any (·.contains y.text) then .ruleParameter x.text y.text
      else .unknownRuleAttribute x.text y.text
    | none =>
      if s.hasAttributes x.text || s.isListLabel x.text || s.rule.refersToToken x.text then
        .unknownInScope x.text y.text
      else .unknownAttribute x.text
  | .dynamic x y =>
    if (s.dynamicScope? x.text).isSome then .unknownDynamicAttribute x.text y.text
    else .unknownDynamicScope x.text

variable {s t : Site} {α β : Type} {offer : Option Rule → β} {key : Rule → α} {x y : String}

theorem rule?_eq (s : Site) (x : String) : s.rule? x =
    if x = s.rule.name then some s.rule
    else if (s.rule.firstLabel? x).map Label.kind = some .rule then s.labelTarget? x
    else s.grammar.rule? x := by
  rw [rule?, labelTarget?]
  cases s.rule.firstLabel? x with
  | none => rfl
  | some label => by_cases hk : label.kind = .rule <;> simp [hk, target?]

theorem referredRule?_eq (s : Site) (x : String) : s.referredRule? x =
    if x = s.rule.name then some s.rule
    else if (s.rule.firstLabel? x).map Label.kind = none then
      if s.rule.refersToRule x then s.grammar.rule? x else none
    else s.labelTarget? x := by
  rw [referredRule?, labelTarget?]
  cases s.rule.firstLabel? x with
  | none => rfl
  | some label => simp [target?]

/-- The three ways to a rule. -/
theorem rule?_eq_some {target : Rule} : s.rule? x = some target ↔
    (x = s.rule.name ∧ s.rule = target) ∨ (x ≠ s.rule.name ∧
      ((∃ label, s.rule.firstLabel? x = some label ∧ label.kind = .rule ∧
          s.grammar.rule? label.element.text = some target) ∨
        (∀ label, s.rule.firstLabel? x = some label → label.kind ≠ .rule) ∧
          s.grammar.rule? x = some target)) := by
  rw [rule?]
  by_cases hx : x = s.rule.name
  · simp [hx]
  · cases s.rule.firstLabel? x with
    | none => simp [hx]
    | some label => by_cases hk : label.kind = .rule <;> simp [hx, hk]

/-- A rule that is not the rule itself and that no label leads to has to be mentioned. -/
theorem referredRule?_eq_some {target : Rule} : s.referredRule? x = some target ↔
    (x = s.rule.name ∧ s.rule = target) ∨ (x ≠ s.rule.name ∧
      ((∃ label, s.rule.firstLabel? x = some label ∧ label.kind = .rule ∧
          s.grammar.rule? label.element.text = some target) ∨
        s.rule.firstLabel? x = none ∧ s.rule.refersToRule x = true ∧
          s.grammar.rule? x = some target)) := by
  rw [referredRule?]
  by_cases hx : x = s.rule.name
  · simp [hx]
  · cases s.rule.firstLabel? x with
    | none => simp [hx]
    | some label => by_cases hk : label.kind = .rule <;> simp [hx, hk]

theorem dynamicScope?_eq_some {scope : Dict} : s.dynamicScope? x = some scope ↔
    (∃ target, s.rule? x = some target ∧ target.scope = some scope) ∨
    ((∀ target, s.rule? x = some target → target.scope = none) ∧
      s.grammar.scopes.get? x = some scope) := by
  rw [dynamicScope?]
  cases s.rule? x with
  | none => simp
  | some target => cases hc : target.scope <;> simp [hc]

theorem qualified?_eq (s : Site) (x y : String) : s.qualified? x y =
    if x = s.rule.name then s.attribute? y
    else
      match (s.rule.firstLabel? x).map Label.kind with
      | some .rule => (s.labelTarget? x).bind (s.result? · y)
      | some kind => (Predefined.labelScope? s.grammar.kind kind).bind (·.get? y)
      | none =>
        if s.rule.refersToRule x then (s.grammar.rule? x).bind (s.result? · y)
        else if s.rule.refersToToken x then
          (Predefined.labelScope? s.grammar.kind .token).bind (·.get? y)
        else none := by
  rw [qualified?, labelTarget?]
  cases s.rule.firstLabel? x with
  | none => rfl
  | some label =>
    obtain ⟨_, _, kind⟩ := label
    cases kind <;> rfl

theorem isTokenLabel_eq (s : Site) (x : String) :
    s.isTokenLabel x = ((s.rule.firstLabel? x).map Label.kind).any (· == .token) := by
  rw [isTokenLabel]
  cases s.rule.firstLabel? x <;> rfl

theorem isListLabel_eq (s : Site) (x : String) : s.isListLabel x =
    ((s.rule.firstLabel? x).map Label.kind).any fun kind =>
      kind == .ruleList || kind == .tokenList := by
  rw [isListLabel]
  cases s.rule.firstLabel? x <;> rfl

namespace AlikeAt

section

variable (h : s.AlikeAt x t)

include h

theorem name : s.rule.name = t.rule.name := congrArg Header.name h.header

theorem attribute? (y : String) : s.attribute? y = t.attribute? y := by
  have ha : s.rule.arguments = t.rule.arguments := congrArg Header.arguments h.header
  have hr : s.rule.returns = t.rule.returns := congrArg Header.returns h.header
  simp only [Site.attribute?, ha, hr, h.kind]

theorem result? (target : Rule) (y : String) : s.result? target y = t.result? target y := by
  rw [Site.result?, h.kind, Site.result?]

theorem isTokenLabel : s.isTokenLabel x = t.isTokenLabel x := by
  rw [isTokenLabel_eq, h.label, isTokenLabel_eq]

theorem isListLabel : s.isListLabel x = t.isListLabel x := by
  rw [isListLabel_eq, h.label, isListLabel_eq]

theorem hasAttributes : s.hasAttributes x = t.hasAttributes x := by
  have hs : s.rule.scope = t.rule.scope := congrArg Header.scope h.header
  simp only [Site.hasAttributes, NameTable.contains, h.isTokenLabel, h.name, hs, h.scope]

theorem rule? (hl : s.Leads offer x t) : offer (s.rule? x) = offer (t.rule? x) := by
  rw [rule?_eq, rule?_eq, h.name, h.label]
  split
  · exact hl.own
  · split
    · exact hl.label
    · exact hl.named

theorem referredRule? (hl : s.Leads offer x t) :
    offer (s.referredRule? x) = offer (t.referredRule? x) := by
  rw [referredRule?_eq, referredRule?_eq, h.name, h.label, h.ruleRef]
  split
  · exact hl.own
  · split
    · split
      · exact hl.named
      · rfl
    · exact hl.label

/-- As much is told of an attribute as is told of it through the target. -/
theorem qualified? {f : Option Attribute → β}
    (hl : s.Leads (fun target => f (target.bind (s.result? · y))) x t) :
    f (s.qualified? x y) = f (t.qualified? x y) := by
  rw [qualified?_eq, qualified?_eq, h.name, h.label, h.attribute?, h.ruleRef, h.token, h.kind]
  simp only [← h.result?]
  split
  · rfl
  · split
    · exact hl.label
    · rfl
    · split
      · exact hl.named
      · rfl

theorem dynamicScope? {f : Option Dict → β}
    (hl : s.Leads (fun target => f (target.bind Rule.scope <|> s.grammar.scopes.get? x)) x t) :
    f (s.dynamicScope? x) = f (t.dynamicScope? x) := by
  have hr := h.rule? hl
  rw [h.scope] at hr
  rw [Site.dynamicScope?, h.scope, hr, Site.dynamicScope?]

end

theorem accepts_simple {x : Token} (h : s.AlikeAt x.text t) :
    s.accepts (.simple x) = t.accepts (.simple x) := by
  simp only [accepts, h.attribute?, h.isTokenLabel, h.isListLabel, h.token]

theorem accepts_qualified {x y : Token} (h : s.AlikeAt x.text t)
    (hl : s.Leads (s.hasResult y.text) x.text t) :
    s.accepts (.qualified x y) = t.accepts (.qualified x y) := by
  have hq : (s.qualified? x.text y.text).isSome = (t.qualified? x.text y.text).isSome :=
    h.qualified? (f := Option.isSome) hl
  simp only [accepts, h.attribute?, hq]

theorem accepts_dynamic {x y : Token} (h : s.AlikeAt x.text t)
    (hl : s.Leads (s.hasDynamic x.text y.text) x.text t) :
    s.accepts (.dynamic x y) = t.accepts (.dynamic x y) :=
  h.dynamicScope? (f := Option.any (·.contains y.text)) hl

end AlikeAt

/-- Where the labels are the same, only what the rules have under their names is to be compared. -/
theorem leads_of_firstLabel (hf : s.rule.firstLabel? x = t.rule.firstLabel? x)
    (ho : offer (some s.rule) = offer (some t.rule))
    (hn : ∀ n, offer (s.grammar.rule? n) = offer (t.grammar.rule? n)) : s.Leads offer x t where
  own := ho
  label := by
    rw [labelTarget?, labelTarget?, hf]
    cases t.rule.firstLabel? x with
    | none => rfl
    | some label =>
      rw [Option.bind_some, Option.bind_some, target?, target?]
      split
      · exact hn _
      · rfl
  named := hn x

/-- What is refused has one fault. -/
theorem fault?_eq (s : Site) (ref : Reference) :
    s.fault? ref = if s.accepts ref then none else some (s.blame ref) := by
  cases ref with
  | simple x =>
    rw [fault?, simpleFault?, blame, apply_ite some]
    rfl
  | qualified x y =>
    rw [fault?, qualifiedFault?, blame]
    cases s.referredRule? x.text <;> rw [apply_ite some] <;> rfl
  | dynamic x y =>
    rw [fault?, dynamicFault?, accepts, blame]
    cases s.dynamicScope? x.text <;> rfl

theorem fault?_eq_none_iff_accepts (s : Site) (ref : Reference) :
    s.fault? ref = none ↔ s.accepts ref = true := by
  rw [fault?_eq]
  simp

end Site
end GrammarRefs
