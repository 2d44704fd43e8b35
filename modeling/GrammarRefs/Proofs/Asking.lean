import GrammarRefs.Proofs.Denotation

/-! Names looked up in dictionaries one after the other. Where an attribute is looked for, and in
which order, can be told from a grammar that declares none. -/
namespace GrammarRefs

/-- The dictionaries of a rule. -/
inductive Rule.Part
  | arguments
  | returns
  | scope
deriving DecidableEq

/-- Where an attribute can be declared. -/
inductive Holder
  | part (rule : Nat) (part : Rule.Part)
  | global (name : String)
deriving DecidableEq

namespace Rule

/-- Arguments and return values that have not been declared are as good as empty. -/
def dict? (r : Rule) : Part → Option Dict
  | .arguments => some (r.arguments.getD (.ofAttributes .argument []))
  | .returns => some (r.returns.getD (.ofAttributes .returnValue []))
  | .scope => r.scope

/-- The rule without its dictionaries. -/
def bare (r : Rule) : Rule := { r with arguments := none, returns := none, scope := none }

end Rule

namespace Grammar

/-- The dictionary that an attribute declared there goes into. -/
def dict? (g : Grammar) : Holder → Option Dict
  | .part i p => g.rules[i]?.bind (·.dict? p)
  | .global name => g.scopes.get? name

def declared? (g : Grammar) (y : String) (k : Holder) : Option Attribute :=
  (g.dict? k).bind (·.get? y)

/-- The first answer counts. -/
def ask (g : Grammar) (y : String) (asked : List Holder) : Option Attribute :=
  asked.findSome? (g.declared? y)

/-- The grammar without any declared attribute. -/
def bare (g : Grammar) : Grammar := { g with rules := g.rules.map Rule.bare, scopes := {} }

end Grammar

/-- Asked by a rule for its own attributes, in this order. -/
def Holder.own (i : Nat) : List Holder := [.part i .arguments, .part i .returns]

namespace Site

def bare (s : Site) : Site := ⟨s.grammar.bare, s.rule.bare⟩

/-- Asked for `y` in `$x.y`. Of another rule, only the return values can be seen. -/
def asked (s : Site) (x : String) : List Holder :=
  match s.referredRule? x with
  | some t => if x = s.rule.name then Holder.own t.index else [.part t.index .returns]
  | none => []

/-- Where the scope of `$x::y` is looked for. -/
def scopesAsked (s : Site) (x : String) : List Holder :=
  ((s.rule? x).map fun t => .part t.index .scope).toList ++ [.global x]

end Site

variable {g : Grammar} {s : Site} {t : Rule} {i : Nat} {x : String}

/-- A dictionary that is not there is as good as an empty one. -/
theorem Dict.get?_getD_empty (dict : Option Dict) (kind : DictKind) (y : String) :
    (dict.getD (ofAttributes kind [])).get? y = dict.bind (·.get? y) := by
  cases dict with
  | none => rw [get?_eq_find?, Option.getD_none, ofAttributes, List.foldl_nil, List.find?_nil,
      Option.bind_none]
  | some d => rfl

namespace Rule

@[simp] theorem name_bare (r : Rule) : r.bare.name = r.name := rfl

@[simp] theorem firstLabel?_bare (r : Rule) (n : String) : r.bare.firstLabel? n = r.firstLabel? n :=
  rfl

@[simp] theorem refersToRule_bare (r : Rule) (n : String) :
    r.bare.refersToRule n = r.refersToRule n := rfl

end Rule

namespace Grammar

@[simp] theorem rule?_bare (g : Grammar) (n : String) :
    g.bare.rule? n = (g.rule? n).map Rule.bare := by
  simp only [rule?, ruleIndex?, bare, List.getElem?_map, Option.map_bind]
  rfl

@[simp] theorem ask_nil (g : Grammar) (y : String) : g.ask y [] = none := rfl

@[simp] theorem ask_cons (g : Grammar) (y : String) (k : Holder) (asked : List Holder) :
    g.ask y (k :: asked) = (g.declared? y k <|> g.ask y asked) := by
  rw [ask, List.findSome?_cons]
  cases g.declared? y k <;> rfl

theorem declared?_part (hi : g.rules[i]? = some t) (p : Rule.Part) (y : String) :
    g.declared? y (.part i p) = (t.dict? p).bind (·.get? y) := by
  rw [declared?, dict?, hi, Option.bind_some]

theorem isSome_declared? (g : Grammar) (y : String) (k : Holder) :
    (g.declared? y k).isSome = (g.dict? k).any (·.contains y) := by
  rw [declared?]
  cases g.dict? k with
  | none => rfl
  | some d => exact Dict.contains_eq_isSome_get?.symm

theorem mem_of_rule? (ht : g.rule? x = some t) : t ∈ g.rules := by
  obtain ⟨i, -, hi⟩ := Option.bind_eq_some_iff.1 ht
  exact List.mem_of_getElem? hi

end Grammar

namespace Site

theorem labelTarget?_bare (s : Site) (x : String) :
    s.bare.labelTarget? x = (s.labelTarget? x).map Rule.bare := by
  rw [labelTarget?, labelTarget?, bare, Rule.firstLabel?_bare]
  cases s.rule.firstLabel? x with
  | none => rfl
  | some label =>
    simp only [Option.bind_some, target?, Grammar.rule?_bare]
    split <;> rfl

theorem rule?_bare (s : Site) (x : String) : s.bare.rule? x = (s.rule? x).map Rule.bare := by
  simp only [rule?_eq, labelTarget?_bare]
  simp only [bare, Rule.name_bare, Rule.firstLabel?_bare, Grammar.rule?_bare]
  split
  · rfl
  · split <;> rfl

theorem referredRule?_bare (s : Site) (x : String) :
    s.bare.referredRule? x = (s.referredRule? x).map Rule.bare := by
  simp only [referredRule?_eq, labelTarget?_bare]
  simp only [bare, Rule.name_bare, Rule.firstLabel?_bare, Rule.refersToRule_bare,
    Grammar.rule?_bare]
  split
  · rfl
  · split
    · split <;> rfl
    · rfl

theorem asked_bare (s : Site) (x : String) : s.bare.asked x = s.asked x := by
  rw [asked, referredRule?_bare, asked]
  cases s.referredRule? x <;> rfl

theorem scopesAsked_bare (s : Site) (x : String) : s.bare.scopesAsked x = s.scopesAsked x := by
  rw [scopesAsked, rule?_bare, Option.map_map, scopesAsked]
  rfl

/-- Where no rule is referred to, no declared attribute is asked for. -/
theorem qualified?_bare (hr : s.referredRule? x = none) (y : String) :
    s.bare.qualified? x y = s.qualified? x y := by
  have hx : x ≠ s.rule.name := by
    rintro rfl
    simp [referredRule?] at hr
  rw [referredRule?, if_neg hx] at hr
  rw [qualified?, qualified?, if_neg hx, bare, Rule.name_bare, if_neg hx, Rule.firstLabel?_bare]
  cases hl : s.rule.firstLabel? x with
  | some label =>
    simp only [hl] at hr
    simp only [labelled?, Grammar.rule?_bare]
    split
    · next hk =>
      rw [if_pos hk] at hr
      rw [hr]
      rfl
    · rfl
  | none =>
    simp only [hl] at hr
    simp only [Rule.refersToRule_bare, Grammar.rule?_bare]
    split
    · next hm =>
      rw [if_pos hm] at hr
      rw [hr]
      rfl
    · rfl

/-- The predefined properties are asked last. -/
theorem result?_eq_ask (hi : s.grammar.rules[i]? = some t) (y : String) :
    s.result? t y =
      (s.grammar.ask y [.part i .returns] <|> (Predefined.ruleScope s.grammar.kind).get? y) := by
  rw [Grammar.ask_cons, Grammar.ask_nil, Grammar.declared?_part hi, Rule.dict?, Option.bind_some,
    Dict.get?_getD_empty, result?]
  simp

theorem attribute?_eq_ask (hi : s.grammar.rules[i]? = some s.rule) (y : String) :
    s.attribute? y =
      (s.grammar.ask y (Holder.own i) <|> (Predefined.ruleScope s.grammar.kind).get? y) := by
  have hr := result?_eq_ask hi y
  rw [result?] at hr
  rw [Holder.own, Grammar.ask_cons, Grammar.declared?_part hi, Rule.dict?, Option.bind_some,
    Dict.get?_getD_empty, attribute?, hr]
  simp [Option.or_assoc]

section Placed

variable (hg : s.grammar.Placed) (hs : s.rule ∈ s.grammar.rules)

include hg hs

theorem getElem?_of_rule? (ht : s.rule? x = some t) : s.grammar.rules[t.index]? = some t := by
  apply hg.getElem?_index
  obtain ⟨-, rfl⟩ | ⟨-, ⟨_, -, -, ht⟩ | ⟨-, ht⟩⟩ := rule?_eq_some.1 ht
  · exact hs
  · exact Grammar.mem_of_rule? ht
  · exact Grammar.mem_of_rule? ht

theorem qualified?_eq_ask (ht : s.referredRule? x = some t) (y : String) : s.qualified? x y =
    (s.grammar.ask y (s.asked x) <|> (Predefined.ruleScope s.grammar.kind).get? y) := by
  have hi := getElem?_of_rule? hg hs (rule?_of_referredRule? ht)
  by_cases hx : x = s.rule.name
  · obtain rfl : s.rule = t := by simpa [referredRule?, hx] using ht
    rw [qualified?_own hx, asked, ht]
    simp only [if_pos hx]
    exact attribute?_eq_ask hi y
  · rw [qualified?_of_referredRule? ht hx, asked, ht]
    simp only [if_neg hx]
    exact result?_eq_ask hi y

theorem dynamicScope?_eq_ask (x : String) :
    s.dynamicScope? x = (s.scopesAsked x).findSome? s.grammar.dict? := by
  rw [dynamicScope?, scopesAsked]
  cases ht : s.rule? x with
  | none => simp [Grammar.dict?]
  | some t =>
    have hi := getElem?_of_rule? hg hs ht
    simp only [Option.map_some, Option.toList_some, List.singleton_append, List.findSome?_cons,
      List.findSome?_nil, Grammar.dict?, hi, Option.bind_some, Rule.dict?]
    cases t.scope <;> cases s.grammar.scopes.get? x <;> rfl

end Placed

end Site
end GrammarRefs
