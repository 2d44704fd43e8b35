import GrammarRefs.Proofs.Denotation
import GrammarRefs.Proofs.Findings

/-! What is right and what is wrong with a reference, said without the order in which the check asks
for it. Of each reference one thing holds, and this is what the check reports. -/
namespace GrammarRefs

theorem Dict.any_contains_iff {dict : Option Dict} {n : String} :
    dict.any (·.contains n) = true ↔ Dict.Offers dict n := by
  simp only [Option.any_eq_true, contains_iff_mem_names, Offers]

namespace Site

/-- What `$x.y` can be if `x` denotes no rule. -/
inductive HasProperty (s : Site) (x y : String) : Prop
  | label {label : Label} (hl : s.rule.Labels x label) (hk : label.kind ≠ .rule)
    (hy : Dict.Offers (Predefined.labelScope? s.grammar.kind label.kind) y)
  | token (hl : s.rule.Unlabelled x) (hm : ¬ s.rule.MentionsRule x) (ht : s.rule.MentionsToken x)
    (hy : Dict.Offers (some Predefined.tokenScope) y)

/-- Names of which only the property is to blame. Where a rule has a scope of its own, every name
is taken for one. -/
def HasProperties (s : Site) (x : String) : Prop :=
  s.ResolvesSimple x ∨ s.rule.scope ≠ none ∨ x ∈ s.grammar.scopes.names

/-- The scope that `x` stands for in `$x::y`. The rule that `x` leads to has the first say. -/
inductive HasScope (s : Site) (x : String) (scope : Dict) : Prop
  | rule {t : Rule} (ht : s.Reaches x t) (hs : t.scope = some scope)
  | global (ht : ∀ t, s.Reaches x t → t.scope = none) (hs : s.grammar.scopes.get? x = some scope)

/-- What there is to say of a reference: nothing if it stands for something, or else one fault. -/
inductive Judges (s : Site) : Reference → Option Fault → Prop
  | simple {x : Token} (h : s.ResolvesSimple x.text) : Judges s (.simple x) none
  | isolatedRule {x : Token} {t : Rule} (hx : ¬ s.ResolvesSimple x.text) (ht : s.Refers x.text t) :
    Judges s (.simple x) (some (.isolatedRule x.text))
  | unknownSimple {x : Token} (hx : ¬ s.ResolvesSimple x.text) (ht : ∀ t, ¬ s.Refers x.text t) :
    Judges s (.simple x) (some (.unknownAttribute x.text))
  | member {x y : Token} (hx : s.HasAttribute x.text) : Judges s (.qualified x y) none
  | own {x y : Token} (hx : x.text = s.rule.name) (hy : s.HasAttribute y.text) :
    Judges s (.qualified x y) none
  | result {x y : Token} {t : Rule} (ht : s.Refers x.text t) (hy : s.HasResult t y.text) :
    Judges s (.qualified x y) none
  | property {x y : Token} (ht : ∀ t, ¬ s.Refers x.text t) (hy : s.HasProperty x.text y.text) :
    Judges s (.qualified x y) none
  | ruleParameter {x y : Token} {t : Rule} (hx : ¬ s.HasAttribute x.text)
    (hn : x.text ≠ s.rule.name) (ht : s.Refers x.text t) (hy : ¬ s.HasResult t y.text)
    (ha : Dict.Offers t.arguments y.text) :
    Judges s (.qualified x y) (some (.ruleParameter x.text y.text))
  | unknownRuleAttribute {x y : Token} {t : Rule} (hx : ¬ s.HasAttribute x.text)
    (ht : s.Refers x.text t) (hy : ¬ s.HasResult t y.text) (ha : ¬ Dict.Offers t.arguments y.text) :
    Judges s (.qualified x y) (some (.unknownRuleAttribute x.text y.text))
  | unknownInScope {x y : Token} (hx : ¬ s.HasAttribute x.text) (ht : ∀ t, ¬ s.Refers x.text t)
    (hy : ¬ s.HasProperty x.text y.text) (hp : s.HasProperties x.text) :
    Judges s (.qualified x y) (some (.unknownInScope x.text y.text))
  | unknownQualifier {x y : Token} (hx : ¬ s.HasAttribute x.text) (ht : ∀ t, ¬ s.Refers x.text t)
    (hy : ¬ s.HasProperty x.text y.text) (hp : ¬ s.HasProperties x.text) :
    Judges s (.qualified x y) (some (.unknownAttribute x.text))
  | dynamic {x y : Token} {scope : Dict} (hs : s.HasScope x.text scope)
    (hy : y.text ∈ scope.names) : Judges s (.dynamic x y) none
  | unknownDynamicScope {x y : Token} (hs : ∀ scope, ¬ s.HasScope x.text scope) :
    Judges s (.dynamic x y) (some (.unknownDynamicScope x.text))
  | unknownDynamicAttribute {x y : Token} {scope : Dict} (hs : s.HasScope x.text scope)
    (hy : y.text ∉ scope.names) :
    Judges s (.dynamic x y) (some (.unknownDynamicAttribute x.text y.text))

variable {s : Site} {t : Rule} {x y : String} {scope : Dict} {ref : Reference}

theorem hasAttribute_iff :
    s.HasAttribute y ↔ Dict.Offers s.rule.arguments y ∨ s.HasResult s.rule y :=
  Iff.rfl

/-- Only of itself a rule sees the arguments. -/
theorem qualified?_isSome_of_referred (ht : s.referredRule? x = some t) :
    (s.qualified? x y).isSome = true ↔
      s.HasResult t y ∨ (x = s.rule.name ∧ Dict.Offers t.arguments y) := by
  by_cases hx : x = s.rule.name
  · obtain rfl : s.rule = t := by simpa [referredRule?, hx] using ht
    rw [qualified?_own hx, attribute?_isSome, hasAttribute_iff, or_comm]
    simp [hx]
  · rw [qualified?_of_referredRule? ht hx, result?_isSome]
    simp [hx]

section Properties

variable (hr : s.rule.Legible)

include hr

theorem hasProperty_of_label {label : Label} (hl : s.rule.firstLabel? x = some label) :
    s.HasProperty x y ↔
      label.kind ≠ .rule ∧ Dict.Offers (Predefined.labelScope? s.grammar.kind label.kind) y := by
  constructor
  · rintro (⟨hl', hk, hy⟩ | ⟨hu, -, -, -⟩)
    · obtain rfl := Option.some.inj (hl.symm.trans ((hr.labels _ _).2 hl'))
      exact ⟨hk, hy⟩
    · cases hl.symm.trans ((unlabelled_iff hr).2 hu)
  · rintro ⟨hk, hy⟩
    exact .label ((hr.labels _ _).1 hl) hk hy

theorem hasProperty_of_unlabelled (hl : s.rule.firstLabel? x = none) :
    s.HasProperty x y ↔ ¬ s.rule.MentionsRule x ∧ s.rule.MentionsToken x ∧
      Dict.Offers (some Predefined.tokenScope) y := by
  constructor
  · rintro (⟨hl', -, -⟩ | ⟨-, hm, ht, hy⟩)
    · cases hl.symm.trans ((hr.labels _ _).2 hl')
    · exact ⟨hm, ht, hy⟩
  · rintro ⟨hm, ht, hy⟩
    exact .token ((unlabelled_iff hr).1 hl) hm ht hy

theorem qualified?_isSome_of_unreferred (ht : s.referredRule? x = none) :
    (s.qualified? x y).isSome = true ↔ s.HasProperty x y := by
  have hn : x ≠ s.rule.name := by
    rintro rfl
    simp [referredRule?] at ht
  rw [referredRule?, if_neg hn] at ht
  rw [qualified?, if_neg hn]
  cases hl : s.rule.firstLabel? x with
  | some label =>
    simp only [hl] at ht ⊢
    rw [hasProperty_of_label hr hl, labelled?]
    split at ht
    · next hk => simp [hk, ht]
    · next hk => simp [hk, Dict.offers_iff]
  | none =>
    simp only [hl] at ht ⊢
    rw [hasProperty_of_unlabelled hr hl, ← hr.ruleRefs, ← hr.tokens]
    split at ht
    · next hm => simp [hm, ht]
    · next hm =>
      rw [if_neg hm]
      split
      · next hk => simp [hm, hk, Predefined.labelScope?, Dict.offers_iff]
      · next hk => simp [hk]

theorem hasProperties_iff (hx : ¬ s.HasAttribute x) (hn : x ≠ s.rule.name) :
    (s.hasAttributes x || s.isListLabel x || s.rule.refersToToken x) = true ↔
      s.HasProperties x := by
  have hs := accepts_simple_iff (x := ⟨x, {}⟩) hr
  simp only [accepts, Bool.or_eq_true, attribute?_isSome, hx, false_or] at hs
  rw [HasProperties, ← hs, NameTable.mem_names_iff, ← Option.isSome_iff_ne_none]
  simp only [hasAttributes, NameTable.contains, Bool.or_eq_true, beq_iff_eq, hn, or_false]
  simp only [or_assoc, or_comm, or_left_comm]

end Properties

section Tables

variable (hg : s.grammar.Tabled) (hs : s.rule ∈ s.grammar.rules)

include hg hs

theorem referredRule?_eq_none_iff_not_refers : s.referredRule? x = none ↔ ∀ t, ¬ s.Refers x t := by
  simp only [Option.eq_none_iff_forall_ne_some, Ne, referredRule?_eq_some_iff hg hs]

theorem dynamicScope?_eq_some_iff_hasScope :
    s.dynamicScope? x = some scope ↔ s.HasScope x scope := by
  simp only [dynamicScope?_eq_some, rule?_eq_some_iff_reaches hg hs]
  constructor
  · rintro (⟨t, ht, hc⟩ | ⟨ht, hc⟩)
    · exact .rule ht hc
    · exact .global ht hc
  · rintro (⟨ht, hc⟩ | ⟨ht, hc⟩)
    · exact .inl ⟨_, ht, hc⟩
    · exact .inr ⟨ht, hc⟩

theorem accepts_qualified_of_refers {x y : Token} (ht : s.Refers x.text t) :
    s.accepts (.qualified x y) = true ↔ s.HasAttribute x.text ∨ s.HasResult t y.text ∨
      (x.text = s.rule.name ∧ Dict.Offers t.arguments y.text) := by
  rw [accepts, Bool.or_eq_true, attribute?_isSome,
    qualified?_isSome_of_referred ((referredRule?_eq_some_iff hg hs).2 ht)]

theorem accepts_qualified_of_not_refers {x y : Token} (ht : ∀ t, ¬ s.Refers x.text t) :
    s.accepts (.qualified x y) = true ↔ s.HasAttribute x.text ∨ s.HasProperty x.text y.text := by
  rw [accepts, Bool.or_eq_true, attribute?_isSome, qualified?_isSome_of_unreferred
    (hg.legible_rule hs) ((referredRule?_eq_none_iff_not_refers hg hs).2 ht)]

theorem accepts_dynamic_iff_hasScope {x y : Token} :
    s.accepts (.dynamic x y) = true ↔ ∃ scope, s.HasScope x.text scope ∧ y.text ∈ scope.names := by
  simp only [accepts, Option.any_eq_true, Dict.contains_iff_mem_names,
    dynamicScope?_eq_some_iff_hasScope hg hs]

theorem HasScope.unique {d : Dict} (hc : s.HasScope x scope) (hd : s.HasScope x d) : scope = d := by
  rw [← dynamicScope?_eq_some_iff_hasScope hg hs] at hc hd
  exact Option.some.inj (hc.symm.trans hd)

/-- Nothing is wrong with a reference that stands for something. -/
theorem Judges.accepts (h : s.Judges ref none) : s.accepts ref = true := by
  cases h with
  | simple h => exact (accepts_simple_iff (hg.legible_rule hs)).2 h
  | member hx =>
    rw [Site.accepts, attribute?_isSome.2 hx]
    rfl
  | own hx hy =>
    rw [accepts_qualified_of_refers hg hs (.own hx)]
    exact .inr ((hasAttribute_iff.1 hy).elim (fun ha => .inr ⟨hx, ha⟩) .inl)
  | result ht hy => exact (accepts_qualified_of_refers hg hs ht).2 (.inr (.inl hy))
  | property ht hy => exact (accepts_qualified_of_not_refers hg hs ht).2 (.inr hy)
  | dynamic hc hy => exact (accepts_dynamic_iff_hasScope hg hs).2 ⟨_, hc, hy⟩

/-- Faults are found with what is refused only. -/
theorem Judges.refuses {fault : Fault} (h : s.Judges ref (some fault)) :
    ¬ s.accepts ref = true := by
  have hr := hg.legible_rule hs
  cases h with
  | isolatedRule hx | unknownSimple hx => exact mt (accepts_simple_iff hr).1 hx
  | ruleParameter hx hn ht hy ha =>
    rw [accepts_qualified_of_refers hg hs ht]
    simp [hx, hn, hy]
  | unknownRuleAttribute hx ht hy ha =>
    rw [accepts_qualified_of_refers hg hs ht]
    simp [hx, hy, ha]
  | unknownInScope hx ht hy | unknownQualifier hx ht hy =>
    rw [accepts_qualified_of_not_refers hg hs ht]
    simp [hx, hy]
  | unknownDynamicScope hc =>
    rw [accepts_dynamic_iff_hasScope hg hs]
    simp [hc]
  | unknownDynamicAttribute hc hy =>
    rw [accepts_dynamic_iff_hasScope hg hs]
    rintro ⟨d, hd, hn⟩
    exact hy ((hc.unique hg hs hd) ▸ hn)

theorem Judges.blame_eq {fault : Fault} (h : s.Judges ref (some fault)) : s.blame ref = fault := by
  have hr := hg.legible_rule hs
  cases h with
  | isolatedRule hx ht =>
    rw [blame, (referredRule?_eq_some_iff hg hs).2 ht]
    rfl
  | unknownSimple hx ht =>
    rw [blame, (referredRule?_eq_none_iff_not_refers hg hs).2 ht]
    rfl
  | ruleParameter hx hn ht hy ha =>
    simp only [blame, (referredRule?_eq_some_iff hg hs).2 ht, Dict.any_contains_iff.2 ha, if_true]
  | unknownRuleAttribute hx ht hy ha =>
    simp only [blame, (referredRule?_eq_some_iff hg hs).2 ht]
    exact if_neg (mt Dict.any_contains_iff.1 ha)
  | unknownInScope hx ht hy hp =>
    simp only [blame, (referredRule?_eq_none_iff_not_refers hg hs).2 ht]
    exact if_pos ((hasProperties_iff hr hx fun hn => ht _ (.own hn)).2 hp)
  | unknownQualifier hx ht hy hp =>
    simp only [blame, (referredRule?_eq_none_iff_not_refers hg hs).2 ht]
    exact if_neg (mt (hasProperties_iff hr hx fun hn => ht _ (.own hn)).1 hp)
  | unknownDynamicScope hc =>
    have hn := Option.eq_none_iff_forall_ne_some.2 fun scope =>
      mt (dynamicScope?_eq_some_iff_hasScope hg hs).1 (hc scope)
    rw [blame, hn]
    rfl
  | unknownDynamicAttribute hc hy =>
    rw [blame, (dynamicScope?_eq_some_iff_hasScope hg hs).2 hc]
    rfl

theorem Judges.fault?_eq {v : Option Fault} (h : s.Judges ref v) : s.fault? ref = v := by
  rw [Site.fault?_eq]
  cases v with
  | none => exact if_pos (h.accepts hg hs)
  | some fault => rw [if_neg (h.refuses hg hs), h.blame_eq hg hs]

end Tables

theorem Refers.eq_own (ht : s.Refers x t) (hx : x = s.rule.name) : t = s.rule := by
  cases ht with
  | own => rfl
  | label hn | mention hn => exact absurd hx hn

theorem Refers.exists_judges {x y : Token} (ht : s.Refers x.text t) (hx : ¬ s.HasAttribute x.text) :
    ∃ v, s.Judges (.qualified x y) v := by
  by_cases hy : s.HasResult t y.text
  · exact ⟨_, .result ht hy⟩
  by_cases ha : Dict.Offers t.arguments y.text
  · by_cases hn : x.text = s.rule.name
    · obtain rfl := ht.eq_own hn
      exact ⟨_, .own hn (.inl ha)⟩
    · exact ⟨_, .ruleParameter hx hn ht hy ha⟩
  · exact ⟨_, .unknownRuleAttribute hx ht hy ha⟩

/-- Something can be said of every reference. -/
theorem exists_judges (s : Site) (ref : Reference) : ∃ v, s.Judges ref v := by
  cases ref with
  | simple x =>
    by_cases hx : s.ResolvesSimple x.text
    · exact ⟨_, .simple hx⟩
    by_cases ht : ∃ t, s.Refers x.text t
    · obtain ⟨t, ht⟩ := ht
      exact ⟨_, .isolatedRule hx ht⟩
    · exact ⟨_, .unknownSimple hx (not_exists.1 ht)⟩
  | qualified x y =>
    by_cases hx : s.HasAttribute x.text
    · exact ⟨_, .member hx⟩
    by_cases ht : ∃ t, s.Refers x.text t
    · obtain ⟨t, ht⟩ := ht
      exact ht.exists_judges hx
    by_cases hy : s.HasProperty x.text y.text
    · exact ⟨_, .property (not_exists.1 ht) hy⟩
    by_cases hp : s.HasProperties x.text
    · exact ⟨_, .unknownInScope hx (not_exists.1 ht) hy hp⟩
    · exact ⟨_, .unknownQualifier hx (not_exists.1 ht) hy hp⟩
  | dynamic x y =>
    by_cases hc : ∃ scope, s.HasScope x.text scope
    · obtain ⟨scope, hc⟩ := hc
      by_cases hy : y.text ∈ scope.names
      · exact ⟨_, .dynamic hc hy⟩
      · exact ⟨_, .unknownDynamicAttribute hc hy⟩
    · exact ⟨_, .unknownDynamicScope (not_exists.1 hc)⟩

theorem fault?_eq_iff_judges (hg : s.grammar.Tabled) (hs : s.rule ∈ s.grammar.rules)
    (ref : Reference) (v : Option Fault) : s.fault? ref = v ↔ s.Judges ref v := by
  constructor
  · rintro rfl
    obtain ⟨v, hv⟩ := s.exists_judges ref
    rwa [hv.fault?_eq hg hs]
  · exact Judges.fault?_eq hg hs

end Site

namespace Check

variable {g : Grammar}

theorem faultsInRule_eq (g : Grammar) (r : Rule) : faultsInRule g r =
    r.actions.flatMap fun action => action.references.filterMap fun ref =>
      (Site.fault? ⟨g, r⟩ ref).map fun fault =>
        { level := .error, fault, pos := action.pos, notes := [] } := by
  simp only [faultsInRule, List.filterMap_eq_flatMap_toList, Option.toList_map]
  rfl

/-- References are judged one by one, by rule, by action and in the order in which they stand, and
each of them by its names alone. -/
theorem references_are_judged (hg : g.Reachable) (log : Diagnostics) :
    ((attributeReferences g).run log).2 = log ++ (g.rules.flatMap fun r =>
      r.actions.flatMap fun action => action.references.filterMap fun ref =>
        (Site.fault? ⟨g, r⟩ ref).map fun fault =>
          { level := .error, fault, pos := action.pos, notes := [] }) ∧
    ∀ r ∈ g.rules, ∀ ref v, Site.fault? ⟨g, r⟩ ref = v ↔ Site.Judges ⟨g, r⟩ ref v := by
  refine ⟨?_, ?_⟩
  · rw [attributeReferences_finds.reports g log, referenceFaults, funext (faultsInRule_eq g)]
  · intro r hr ref v
    exact Site.fault?_eq_iff_judges (Grammar.tabled_reachable hg) hr ref v

/-- All of the faults at once. Of `b` the rule sees the return values and not the arguments, `i` is
a label for tokens, and `b` has a scope. -/
theorem references_are_judged_in_order :
    let leaf := fun (l : Leaf) rest => Code.leaf l {} rest
    let name := fun n rest => leaf (.identifier n) rest
    let simple := fun x rest => leaf (.mark '$' false) (name x rest)
    let qualified := fun x y rest => simple x (leaf (.mark '.' false) (name y rest))
    let dynamic := fun x y rest =>
      simple x (leaf (.mark ':' true) (leaf (.mark ':' false) (name y rest)))
    let g := ((Grammar.empty "P" .parser).run [.defineRule ⟨"a", {}⟩ 1, .defineRule ⟨"b", {}⟩ 1,
      .setArguments 1 (some (.ofNames .argument ["p"])),
      .setReturns 1 (some (.ofNames .returnValue ["v"])),
      .setScope 1 (some (.ofNames .ruleScope ["q"])), .addRuleRef 0 1 ⟨"b", {}⟩,
      .addLabel 0 1 ⟨⟨"i", {}⟩, ⟨"ID", {}⟩, .token⟩,
      .addAction 0 1 ⟨.action, simple "b" (qualified "b" "v" (qualified "b" "p" .nil)), ⟨1, 0⟩⟩,
      .addAction 0 1 ⟨.action, qualified "b" "w" (qualified "i" "v" (qualified "j" "v" .nil)),
        ⟨2, 0⟩⟩,
      .addAction 0 1 ⟨.action, dynamic "b" "q" (dynamic "b" "v" (dynamic "i" "q" .nil)), ⟨3, 0⟩⟩]).1
    ((attributeReferences g).run []).2.map (fun d => (d.pos.line, d.fault)) =
      [(1, .isolatedRule "b"), (1, .ruleParameter "b" "p"), (2, .unknownRuleAttribute "b" "w"),
        (2, .unknownInScope "i" "v"), (2, .unknownAttribute "j"),
        (3, .unknownDynamicAttribute "b" "v"), (3, .unknownDynamicScope "i")] ∧
      ∃ r ∈ g.rules, Site.Judges ⟨g, r⟩ (.simple ⟨"b", {}⟩) (some (.isolatedRule "b")) := by
  intro leaf name simple qualified dynamic g
  obtain ⟨hl, hj⟩ := references_are_judged (g := g) ⟨_, _, _, rfl⟩ []
  refine ⟨?_, g.rules[0], List.getElem_mem _, (hj _ (List.getElem_mem _) _ _).1 rfl⟩
  rw [hl]
  decide

end Check
end GrammarRefs
