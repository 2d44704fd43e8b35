import GrammarRefs.Proofs.Coherence
import GrammarRefs.Proofs.Resolution

/-! The rule that a name denotes. It is looked up in three ways, for a name alone, for a property
and for a scope, and these agree on every rule that the name denotes. -/
namespace GrammarRefs

/-- What a name means is the first rule that has it. -/
def Grammar.Means (g : Grammar) (n : String) (t : Rule) : Prop :=
  ∃ i, g.FirstAt n i ∧ g.rules[i]? = some t

namespace Site

/-- The rule that `x` denotes in `$x` and `$x.y`. -/
inductive Refers (s : Site) (x : String) : Rule → Prop
  | own (hx : x = s.rule.name) : Refers s x s.rule
  | label {label : Label} {target : Rule} (hx : x ≠ s.rule.name) (hl : s.rule.Labels x label)
    (hk : label.kind = .rule) (ht : s.grammar.Means label.element.text target) : Refers s x target
  | mention {target : Rule} (hx : x ≠ s.rule.name) (hl : s.rule.Unlabelled x)
    (hm : s.rule.MentionsRule x) (ht : s.grammar.Means x target) : Refers s x target

/-- The rule that `x` leads to in `$x::y`, where a rule need not be mentioned. -/
inductive Reaches (s : Site) (x : String) : Rule → Prop
  | own (hx : x = s.rule.name) : Reaches s x s.rule
  | label {label : Label} {target : Rule} (hx : x ≠ s.rule.name) (hl : s.rule.Labels x label)
    (hk : label.kind = .rule) (ht : s.grammar.Means label.element.text target) : Reaches s x target
  | named {target : Rule} (hx : x ≠ s.rule.name)
    (hl : ∀ label, s.rule.Labels x label → label.kind ≠ .rule) (ht : s.grammar.Means x target) :
    Reaches s x target

end Site

variable {g : Grammar} {s : Site} {r t : Rule} {n x y : String} {i : Nat}

namespace Grammar

theorem Tabled.rule?_eq_some_iff (hg : g.Tabled) : g.rule? n = some t ↔ g.Means n t := by
  rw [rule?, Option.bind_eq_some_iff]
  exact exists_congr fun i => and_congr_left' hg.firstAt_iff

theorem Means.mem (h : g.Means n t) : t ∈ g.rules := by
  obtain ⟨i, _, ht⟩ := h
  exact List.mem_of_getElem? ht

theorem Placed.getElem?_index (hg : g.Placed) (ht : t ∈ g.rules) : g.rules[t.index]? = some t := by
  obtain ⟨i, hi⟩ := List.mem_iff_getElem?.1 ht
  rw [(hg.rules i t hi).index, hi]

end Grammar

namespace Site

theorem Refers.mem (hs : s.rule ∈ s.grammar.rules) (h : s.Refers x t) : t ∈ s.grammar.rules := by
  cases h with
  | own => exact hs
  | label _ _ _ ht | mention _ _ _ ht => exact ht.mem

section Agreement

variable (h : s.referredRule? x = some t)

include h

theorem rule?_of_referredRule? : s.rule? x = some t := by
  rw [referredRule?_eq_some] at h
  rw [rule?_eq_some]
  obtain hx | ⟨hx, hl | ⟨hl, -, ht⟩⟩ := h
  · exact .inl hx
  · exact .inr ⟨hx, .inl hl⟩
  · exact .inr ⟨hx, .inr ⟨by simp [hl], ht⟩⟩

theorem qualified?_of_referredRule? (hx : x ≠ s.rule.name) (y : String) :
    s.qualified? x y = s.result? t y := by
  rw [qualified?, if_neg hx]
  obtain hx' | ⟨-, ⟨label, hl, hk, ht⟩ | ⟨hl, hm, ht⟩⟩ := referredRule?_eq_some.1 h
  · exact absurd hx'.1 hx
  · simp only [hl, labelled?, hk, if_true, ht, Option.bind_some]
  · simp only [hl, hm, if_true, ht, Option.bind_some]

end Agreement

theorem qualified?_own (hx : x = s.rule.name) (y : String) : s.qualified? x y = s.attribute? y :=
  if_pos hx

/-- A name that leads to a rule without denoting it is a label of another kind, or is not mentioned
as a rule. -/
theorem referredRule?_eq_none_iff (h : s.rule? x = some t) : s.referredRule? x = none ↔
    x ≠ s.rule.name ∧ ((∃ label, s.rule.firstLabel? x = some label ∧ label.kind ≠ .rule) ∨
      (s.rule.firstLabel? x = none ∧ s.rule.refersToRule x = false)) := by
  rw [referredRule?]
  obtain ⟨hx, -⟩ | ⟨hx, ⟨label, hl, hk, ht⟩ | ⟨hk, ht⟩⟩ := rule?_eq_some.1 h
  · simp [hx]
  · simp [hx, hl, hk, ht]
  · cases hl : s.rule.firstLabel? x with
    | none => simp [hx, ht]
    | some label => simp [hx, hk label hl]

section Tables

variable (hg : s.grammar.Tabled) (hs : s.rule ∈ s.grammar.rules)

include hg hs

theorem referredRule?_eq_some_iff : s.referredRule? x = some t ↔ s.Refers x t := by
  have hr := hg.legible_rule hs
  simp only [referredRule?_eq_some, hr.labels, unlabelled_iff hr, hr.ruleRefs,
    hg.rule?_eq_some_iff]
  constructor
  · rintro (⟨hx, rfl⟩ | ⟨hx, ⟨label, hl, hk, ht⟩ | ⟨hl, hm, ht⟩⟩)
    · exact .own hx
    · exact .label hx hl hk ht
    · exact .mention hx hl hm ht
  · rintro (hx | ⟨hx, hl, hk, ht⟩ | ⟨hx, hl, hm, ht⟩)
    · exact .inl ⟨hx, rfl⟩
    · exact .inr ⟨hx, .inl ⟨_, hl, hk, ht⟩⟩
    · exact .inr ⟨hx, .inr ⟨hl, hm, ht⟩⟩

theorem rule?_eq_some_iff_reaches : s.rule? x = some t ↔ s.Reaches x t := by
  simp only [rule?_eq_some, (hg.legible_rule hs).labels, hg.rule?_eq_some_iff]
  constructor
  · rintro (⟨hx, rfl⟩ | ⟨hx, ⟨label, hl, hk, ht⟩ | ⟨hl, ht⟩⟩)
    · exact .own hx
    · exact .label hx hl hk ht
    · exact .named hx hl ht
  · rintro (hx | ⟨hx, hl, hk, ht⟩ | ⟨hx, hl, ht⟩)
    · exact .inl ⟨hx, rfl⟩
    · exact .inr ⟨hx, .inl ⟨_, hl, hk, ht⟩⟩
    · exact .inr ⟨hx, .inr ⟨hl, ht⟩⟩

end Tables

/-- The rule that a name denotes is the one that it leads to for a scope, and the one of which it
gives the properties. A name that leads to a rule without denoting one is a label that is no rule
label, or it labels nothing and is not mentioned as a rule. Rules of one name are no exception, nor
are labels that share the name of a rule or that lead nowhere. -/
theorem readings_of_a_name_agree (hg : g.Reachable) (hr : g.rules[i]? = some r) (x : String) :
    let s : Site := ⟨g, r⟩
    (∀ t, s.referredRule? x = some t ↔ s.Refers x t) ∧
    (∀ t, s.referredRule? x = some t →
      (s.rule? x = some t ∧ g.rules[t.index]? = some t) ∧
      (x ≠ r.name → ∀ y, s.qualified? x y = s.result? t y) ∧
      (x = r.name → ∀ y, s.qualified? x y = s.attribute? y)) ∧
    ∀ t, s.rule? x = some t → (s.referredRule? x = none ↔
      x ≠ r.name ∧ ((∃ label, r.Labels x label ∧ label.kind ≠ .rule) ∨
        (r.Unlabelled x ∧ ¬ r.MentionsRule x))) := by
  intro s
  have ht : s.grammar.Tabled := Grammar.tabled_reachable hg
  have hm : s.rule ∈ s.grammar.rules := List.mem_of_getElem? hr
  refine ⟨fun t => referredRule?_eq_some_iff ht hm, ?_, ?_⟩
  · intro t hd
    have hi := (Grammar.placed_reachable hg).getElem?_index
      (((referredRule?_eq_some_iff ht hm).1 hd).mem hm)
    exact ⟨⟨rule?_of_referredRule? hd, hi⟩, qualified?_of_referredRule? hd,
      qualified?_own (s := s)⟩
  · intro t hd
    have hl := ht.legible_rule hm
    rw [referredRule?_eq_none_iff hd]
    simp only [hl.labels, unlabelled_iff hl, ← Bool.not_eq_true, hl.ruleRefs]
    exact Iff.rfl

/-- Of two rules with one name the first is meant, and a label for tokens hides a rule. -/
theorem readings_of_a_name_agree_for_repeated_rule :
    let g := ((Grammar.empty "P" .parser).run [.defineRule ⟨"a", {}⟩ 1, .defineRule ⟨"b", {}⟩ 1,
      .defineRule ⟨"b", {}⟩ 2, .setReturns 1 (some (.ofNames .returnValue ["v"])),
      .addRuleRef 0 1 ⟨"b", {}⟩, .addLabel 0 1 ⟨⟨"a", {}⟩, ⟨"b", {}⟩, .rule⟩,
      .addLabel 2 2 ⟨⟨"a", {}⟩, ⟨"ID", {}⟩, .token⟩, .addRuleRef 2 1 ⟨"a", {}⟩]).1
    ∃ p q r : Rule, g.rules = [p, q, r] ∧ Site.rule? ⟨g, p⟩ "b" = some q ∧
      Site.referredRule? ⟨g, r⟩ "a" = none := by
  intro g
  have hg : g.Reachable := ⟨_, _, _, rfl⟩
  have hb : Site.referredRule? ⟨g, g.rules[0]⟩ "b" = some g.rules[1] := by decide
  have ha : Site.rule? ⟨g, g.rules[2]⟩ "a" = some g.rules[0] := by decide
  refine ⟨g.rules[0], g.rules[1], g.rules[2], rfl, ?_, ?_⟩
  · exact ((readings_of_a_name_agree (i := 0) hg rfl "b").2.1 _ hb).1.1
  · refine ((readings_of_a_name_agree (i := 2) hg rfl "a").2.2 _ ha).2 ⟨by decide, ?_⟩
    exact .inl ⟨_, rfl, by decide⟩

end Site
end GrammarRefs
