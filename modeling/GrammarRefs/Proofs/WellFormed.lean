import GrammarRefs.Proofs.Filing
import GrammarRefs.Site

/-! Well-formed grammars: what the names in a grammar have to be, whichever way that is checked. -/
namespace GrammarRefs

/-- There is a dictionary, and it has an attribute of the name. -/
def Dict.Offers (dict : Option Dict) (n : String) : Prop := ∃ d, dict = some d ∧ n ∈ d.names

namespace Rule

/-- By alternative; definitions of one label are in the order in which they were made. -/
def labelDefinitions (r : Rule) : List Label := r.alternatives.flatMap (·.labels.items)

def tokenMentions (r : Rule) : List Token := r.alternatives.flatMap (·.tokenRefs.items)

def ruleMentions (r : Rule) : List Token := r.alternatives.flatMap (·.ruleRefs.items)

def MentionsToken (r : Rule) (x : String) : Prop := ∃ t ∈ r.tokenMentions, t.text = x

def MentionsRule (r : Rule) (x : String) : Prop := ∃ t ∈ r.ruleMentions, t.text = x

/-- The label is the first definition of its name. -/
def Labels (r : Rule) (x : String) (label : Label) : Prop :=
  r.labelDefinitions.find? (·.name.text == x) = some label

def Unlabelled (r : Rule) (x : String) : Prop := ∀ label ∈ r.labelDefinitions, label.name.text ≠ x

inductive HasAction (r : Rule) : Action → Prop
  | alternative {alt : Alternative} {action : Action} (ha : alt ∈ r.alternatives)
    (hm : action ∈ alt.actions) : HasAction r action
  | named {name : String} {action : Action} (hm : (name, action) ∈ r.namedActions.entries) :
    HasAction r action
  | exception {action : Action} (hm : action ∈ r.exceptionActions) : HasAction r action
  | final {action : Action} (hf : r.finallyAction = some action) : HasAction r action

end Rule

def Grammar.Declares (g : Grammar) (n : String) (r : Rule) : Prop := r ∈ g.rules ∧ r.name = n

namespace Site

/-- What `$y` can be, by its name alone. -/
def HasAttribute (s : Site) (y : String) : Prop :=
  Dict.Offers s.rule.arguments y ∨ Dict.Offers s.rule.returns y ∨
    Dict.Offers (some (Predefined.ruleScope s.grammar.kind)) y

/-- What `$x.y` can be if `x` is another rule. -/
def HasResult (s : Site) (target : Rule) (y : String) : Prop :=
  Dict.Offers target.returns y ∨ Dict.Offers (some (Predefined.ruleScope s.grammar.kind)) y

/-- What `$x` can be. -/
inductive ResolvesSimple (s : Site) (x : String) : Prop
  | attribute (h : s.HasAttribute x)
  | label {label : Label} (hl : s.rule.Labels x label)
    (hk : label.kind = .token ∨ label.kind = .ruleList ∨ label.kind = .tokenList)
  | token (ht : s.rule.MentionsToken x)

/-- What `$x.y` can be. After an attribute the point leads to a member in the target language. -/
inductive ResolvesQualified (s : Site) (x y : String) : Prop
  | member (h : s.HasAttribute x)
  | own (hx : x = s.rule.name) (hy : s.HasAttribute y)
  | ruleLabel {label : Label} {target : Rule} (hx : x ≠ s.rule.name) (hl : s.rule.Labels x label)
    (hk : label.kind = .rule) (ht : s.grammar.Declares label.element.text target)
    (hy : s.HasResult target y)
  | otherLabel {label : Label} (hx : x ≠ s.rule.name) (hl : s.rule.Labels x label)
    (hk : label.kind ≠ .rule)
    (hy : Dict.Offers (Predefined.labelScope? s.grammar.kind label.kind) y)
  | rule {target : Rule} (hx : x ≠ s.rule.name) (hl : s.rule.Unlabelled x)
    (hm : s.rule.MentionsRule x) (ht : s.grammar.Declares x target) (hy : s.HasResult target y)
  | token (hx : x ≠ s.rule.name) (hl : s.rule.Unlabelled x) (hn : ¬ s.rule.MentionsRule x)
    (hm : s.rule.MentionsToken x) (hy : Dict.Offers (some Predefined.tokenScope) y)

/-- The rule that `x` stands for in `$x::y`. -/
inductive Denotes (s : Site) (x : String) : Rule → Prop
  | own (hx : x = s.rule.name) : Denotes s x s.rule
  | ruleLabel {label : Label} {target : Rule} (hx : x ≠ s.rule.name) (hl : s.rule.Labels x label)
    (hk : label.kind = .rule) (ht : s.grammar.Declares label.element.text target) :
    Denotes s x target
  | rule {target : Rule} (hx : x ≠ s.rule.name)
    (hl : ∀ label, s.rule.Labels x label → label.kind ≠ .rule) (ht : s.grammar.Declares x target) :
    Denotes s x target

/-- What `$x::y` can be. -/
inductive ResolvesDynamic (s : Site) (x y : String) : Prop
  | rule {target : Rule} {scope : Dict} (ht : s.Denotes x target) (hs : target.scope = some scope)
    (hy : y ∈ scope.names)
  | global {scope : Dict} (ht : ∀ target, s.Denotes x target → target.scope = none)
    (hs : (x, scope) ∈ s.grammar.scopes.entries) (hy : y ∈ scope.names)

def Resolves (s : Site) : Reference → Prop
  | .simple x => s.ResolvesSimple x.text
  | .qualified x y => s.ResolvesQualified x.text y.text
  | .dynamic x y => s.ResolvesDynamic x.text y.text

end Site

structure Grammar.WellFormed (g : Grammar) : Prop where
  rules : (g.rules.map Rule.name).Nodup
  attributes : ∀ r ∈ g.rules, ∀ d, r.arguments = some d ∨ r.returns = some d ∨ r.scope = some d →
    d.names.Nodup
  scopes : ∀ name scope, (name, scope) ∈ g.scopes.entries → scope.names.Nodup
  mentions : ∀ r ∈ g.rules, ∀ t ∈ r.ruleMentions, ∃ target, g.Declares t.text target
  kinds : ∀ r ∈ g.rules, ∀ x first, r.Labels x first →
    ∀ label ∈ r.labelDefinitions, label.name.text = x → label.kind = first.kind
  labels : ∀ r ∈ g.rules, ∀ label ∈ r.labelDefinitions, ∀ target,
    ¬ g.Declares label.name.text target
  references : ∀ r ∈ g.rules, ∀ action, r.HasAction action → ∀ ref ∈ action.references,
    Site.Resolves ⟨g, r⟩ ref

end GrammarRefs
