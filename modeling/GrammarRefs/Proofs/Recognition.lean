import GrammarRefs.Proofs.Judgement

/-! Names that stand for something before a point, and whether they are known alone. All of them
are but some labels, of two kinds that are there for the sake of their properties. -/
namespace GrammarRefs

/-- Kinds of labels that have the properties of a rule without being a label of one. -/
def Predefined.Lends (grammar : GrammarKind) (label : LabelKind) : Prop :=
  (grammar = .lexer ∧ label = .lexerString) ∨ (grammar = .tree ∧ label = .wildcardTree)

/-- A label of such a kind that is nothing else. -/
structure Site.OnlyQualified (s : Site) (x : String) : Prop where
  no_attribute : ¬ s.HasAttribute x
  not_own : x ≠ s.rule.name
  no_token : ¬ s.rule.MentionsToken x
  label : ∃ label, s.rule.Labels x label ∧ Predefined.Lends s.grammar.kind label.kind

variable {g : Grammar} {s : Site} {r t : Rule} {x y : String} {label : Label}
  {grammar : GrammarKind} {kind : LabelKind}

namespace Predefined

theorem Lends.ne_rule (h : Lends grammar kind) : kind ≠ .rule := by
  obtain ⟨-, rfl⟩ | ⟨-, rfl⟩ := h <;> nofun

/-- Alone a label of such a kind stands for nothing. -/
theorem Lends.not_simple (h : Lends grammar kind) :
    ¬ (kind = .token ∨ kind = .ruleList ∨ kind = .tokenList) := by
  obtain ⟨-, rfl⟩ | ⟨-, rfl⟩ := h <;> decide

theorem Lends.offers_text (h : Lends grammar kind) :
    Dict.Offers (labelScope? grammar kind) "text" := by
  obtain ⟨rfl, rfl⟩ | ⟨rfl, rfl⟩ := h <;> exact ⟨_, rfl, by decide⟩

/-- No other kinds of labels have properties. -/
theorem token_or_lends (hk : kind ≠ .rule) (hs : Dict.Offers (labelScope? grammar kind) y) :
    kind = .token ∨ Lends grammar kind := by
  obtain ⟨scope, hs, -⟩ := hs
  cases kind with
  | rule => exact absurd rfl hk
  | token => exact .inl rfl
  | lexerString =>
    cases grammar with
    | lexer => exact .inr (.inl ⟨rfl, rfl⟩)
    | parser | tree | combined => cases hs
  | wildcardTree =>
    cases grammar with
    | tree => exact .inr (.inr ⟨rfl, rfl⟩)
    | parser | lexer | combined => cases hs
  | ruleList | tokenList | wildcardTreeList => cases grammar <;> cases hs

end Predefined

namespace Site

theorem Refers.label_kind (h : s.Refers x t) (hx : x ≠ s.rule.name) (hl : s.rule.Labels x label) :
    label.kind = .rule := by
  cases h with
  | own he => exact absurd he hx
  | label _ hl' hk =>
    obtain rfl := Option.some.inj (hl.symm.trans hl')
    exact hk
  | mention _ hu =>
    have hn : label.name.text = x := by simpa using List.find?_some hl
    exact absurd hn (hu label (List.mem_of_find?_eq_some hl))

namespace OnlyQualified

variable (h : s.OnlyQualified x)

include h

theorem not_refers (t : Rule) : ¬ s.Refers x t := by
  obtain ⟨label, hl, hk⟩ := h.label
  exact fun ht => hk.ne_rule (ht.label_kind h.not_own hl)

theorem not_resolves : ¬ s.ResolvesSimple x := by
  obtain ⟨label, hl, hk⟩ := h.label
  rintro (ha | ⟨hl', hk'⟩ | ht)
  · exact h.no_attribute ha
  · obtain rfl := Option.some.inj (hl.symm.trans hl')
    exact hk.not_simple hk'
  · exact h.no_token ht

theorem hasProperty_text : s.HasProperty x "text" := by
  obtain ⟨label, hl, hk⟩ := h.label
  exact .label hl hk.ne_rule hk.offers_text

end OnlyQualified

/-- What is a property of a name that denotes no rule makes the name known, or it is lent. -/
theorem HasProperty.known (hy : s.HasProperty x y) (ht : ∀ t, ¬ s.Refers x t) :
    s.ResolvesSimple x ∨ s.OnlyQualified x := by
  by_cases hx : s.ResolvesSimple x
  · exact .inl hx
  refine .inr ?_
  cases hy with
  | token _ _ hm => exact absurd (.token hm) hx
  | label hl hk hs =>
    obtain hk | hk := Predefined.token_or_lends hk hs
    · exact absurd (.label hl (.inl hk)) hx
    · exact ⟨fun ha => hx (.attribute ha), fun hn => ht _ (.own hn), fun hm => hx (.token hm),
        _, hl, hk⟩

theorem Judges.known {x y : Token} (h : s.Judges (.qualified x y) none) :
    s.ResolvesSimple x.text ∨ (∃ t, s.Refers x.text t) ∨ s.OnlyQualified x.text := by
  cases h with
  | member hx => exact .inl (.attribute hx)
  | own hx => exact .inr (.inl ⟨_, .own hx⟩)
  | result ht => exact .inr (.inl ⟨_, ht⟩)
  | property ht hy => exact (hy.known ht).imp_right .inr

/-- What is known before a point is known alone, be it only as a rule of which a property has to be
named. The one exception are labels that are there for the sake of their properties. -/
theorem names_known_before_point_are_known_alone (hg : g.Reachable) (hr : r ∈ g.rules) (x : Token) :
    let s : Site := ⟨g, r⟩
    ((∃ y, s.fault? (.qualified x y) = none) → ¬ s.OnlyQualified x.text →
      s.fault? (.simple x) = none ∨ s.fault? (.simple x) = some (.isolatedRule x.text)) ∧
    (s.OnlyQualified x.text ↔ (∃ y, s.fault? (.qualified x y) = none) ∧
      s.fault? (.simple x) = some (.unknownAttribute x.text)) := by
  intro s
  have hj := fault?_eq_iff_judges (s := s) (Grammar.tabled_reachable hg) hr
  have hk : (∃ y, s.fault? (.qualified x y) = none) → ¬ s.OnlyQualified x.text →
      s.fault? (.simple x) = none ∨ s.fault? (.simple x) = some (.isolatedRule x.text) := by
    rintro ⟨y, hy⟩ hn
    by_cases hx : s.ResolvesSimple x.text
    · exact .inl ((hj _ _).2 (.simple hx))
    obtain ⟨t, ht⟩ := ((((hj _ _).1 hy).known.resolve_left hx).resolve_right hn)
    exact .inr ((hj _ _).2 (.isolatedRule hx ht))
  refine ⟨hk, ?_, ?_⟩
  · intro ho
    exact ⟨⟨⟨"text", {}⟩, (hj _ _).2 (.property ho.not_refers ho.hasProperty_text)⟩,
      (hj _ _).2 (.unknownSimple ho.not_resolves ho.not_refers)⟩
  · rintro ⟨hy, hx⟩
    by_contra hn
    obtain hv | hv := hk hy hn
    · cases hv.symm.trans hx
    · cases hv.symm.trans hx

/-- A label for any tree of a tree grammar beside one for a token. -/
theorem names_known_before_point_are_known_alone_in_tree_grammar :
    let g := ((Grammar.empty "T" .tree).run [.defineRule ⟨"a", {}⟩ 1,
      .addLabel 0 1 ⟨⟨"t", {}⟩, ⟨".", {}⟩, .wildcardTree⟩,
      .addLabel 0 1 ⟨⟨"i", {}⟩, ⟨"ID", {}⟩, .token⟩]).1
    ∃ r ∈ g.rules, Site.fault? ⟨g, r⟩ (.qualified ⟨"i", {}⟩ ⟨"line", {}⟩) = none ∧
      (Site.fault? ⟨g, r⟩ (.simple ⟨"i", {}⟩) = none ∨
        Site.fault? ⟨g, r⟩ (.simple ⟨"i", {}⟩) = some (.isolatedRule "i")) ∧
      Site.fault? ⟨g, r⟩ (.simple ⟨"t", {}⟩) = some (.unknownAttribute "t") := by
  intro g
  have hg : g.Reachable := ⟨_, _, _, rfl⟩
  have hr : g.rules[0] ∈ g.rules := List.getElem_mem _
  have hi := names_known_before_point_are_known_alone hg hr ⟨"i", {}⟩
  have ht := names_known_before_point_are_known_alone hg hr ⟨"t", {}⟩
  have hl : Site.fault? ⟨g, g.rules[0]⟩ (.qualified ⟨"i", {}⟩ ⟨"line", {}⟩) = none := by decide
  refine ⟨g.rules[0], hr, hl, hi.1 ⟨_, hl⟩ ?_, (ht.2.1 ⟨?_, ?_, ?_, ?_⟩).2⟩
  · rintro ⟨-, -, -, label, hf, hk⟩
    cases hf
    obtain ⟨-, hk⟩ | ⟨-, hk⟩ := hk <;> cases hk
  · exact mt attribute?_isSome.2 (by decide)
  · decide
  · rintro ⟨_, hm, _⟩
    cases hm
  · exact ⟨_, rfl, .inr ⟨rfl, rfl⟩⟩

/-- A label for a string of a lexer is known before a point, and is not known alone. -/
theorem label_of_string_is_unknown_alone :
    let g := ((Grammar.empty "L" .lexer).run [.defineRule ⟨"A", {}⟩ 1,
      .addLabel 0 1 ⟨⟨"s", {}⟩, ⟨"abc", {}⟩, .lexerString⟩]).1
    ∃ r ∈ g.rules, Site.fault? ⟨g, r⟩ (.qualified ⟨"s", {}⟩ ⟨"text", {}⟩) = none ∧
      Site.fault? ⟨g, r⟩ (.simple ⟨"s", {}⟩) = some (.unknownAttribute "s") := by
  intro g
  exact ⟨g.rules[0], List.getElem_mem _, by decide, by decide⟩

end Site
end GrammarRefs
