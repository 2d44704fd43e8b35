import GrammarRefs.Proofs.Lookups
import GrammarRefs.Proofs.RuleTable
import GrammarRefs.Proofs.WellFormed
import Mathlib.Data.List.Nodup

/-! Nothing is wrong with a reference just if what it names is there. -/
namespace GrammarRefs

/-- The tables show the site as it is. -/
structure Site.Legible (s : Site) : Prop where
  rules : ∀ n t, s.grammar.rule? n = some t ↔ s.grammar.Declares n t
  labels : ∀ x label, s.rule.firstLabel? x = some label ↔ s.rule.Labels x label
  tokens : ∀ x, s.rule.refersToToken x = true ↔ s.rule.MentionsToken x
  ruleRefs : ∀ x, s.rule.refersToRule x = true ↔ s.rule.MentionsRule x

/-- The tables of its alternatives show the rule as it is. -/
structure Rule.Legible (r : Rule) : Prop where
  labels : ∀ x label, r.firstLabel? x = some label ↔ r.Labels x label
  tokens : ∀ x, r.refersToToken x = true ↔ r.MentionsToken x
  ruleRefs : ∀ x, r.refersToRule x = true ↔ r.MentionsRule x

theorem Site.Legible.toRule {s : Site} (hs : s.Legible) : s.rule.Legible :=
  ⟨hs.labels, hs.tokens, hs.ruleRefs⟩

variable {g : Grammar} {r target : Rule} {s : Site} {x y n : String} {label : Label} {d : Dict}
  {dict : Option Dict}

section Tables

variable {α : Type} {text : α → String} {table : Alternative → NameTable (List α)}
  {alts : List Alternative}

theorem findSome?_head?_eq_find? (hf : ∀ alt ∈ alts, (table alt).Filed text) (x : String) :
    alts.findSome? (fun alt => ((table alt).get? x).bind List.head?) =
      (alts.flatMap fun alt => (table alt).items).find? (text · == x) := by
  induction alts with
  | nil => rfl
  | cons alt rest ih =>
    have ha := (hf alt (by simp)).head?_get? x
    have hr := ih fun alt h => hf alt (by simp [h])
    rw [List.findSome?_cons, List.flatMap_cons, List.find?_append, ha, hr]
    cases (table alt).items.find? (text · == x) <;> rfl

theorem any_contains_iff (hf : ∀ alt ∈ alts, (table alt).Filed text) :
    alts.any (fun alt => (table alt).contains x) = true ↔
      ∃ item ∈ alts.flatMap fun alt => (table alt).items, text item = x := by
  rw [List.any_eq_true]
  constructor
  · rintro ⟨alt, ha, hc⟩
    obtain ⟨item, hi, hx⟩ := (hf alt ha).contains_iff.1 hc
    exact ⟨item, List.mem_flatMap.2 ⟨alt, ha, hi⟩, hx⟩
  · rintro ⟨item, hi, hx⟩
    obtain ⟨alt, ha, hi⟩ := List.mem_flatMap.1 hi
    exact ⟨alt, ha, (hf alt ha).contains_iff.2 ⟨item, hi, hx⟩⟩

end Tables

theorem Grammar.find?_eq_some_iff_declares (hn : (g.rules.map Rule.name).Nodup) :
    g.rules.find? (·.name == n) = some target ↔ g.Declares n target := by
  constructor
  · intro hf
    exact ⟨List.mem_of_find?_eq_some hf, by simpa using List.find?_some hf⟩
  · rintro ⟨hm, ht⟩
    have hs : (g.rules.find? (·.name == n)).isSome := List.find?_isSome.2 ⟨target, hm, by simpa⟩
    obtain ⟨r, hr⟩ := Option.isSome_iff_exists.1 hs
    have he : r.name = target.name := by
      rw [ht]
      simpa using List.find?_some hr
    rw [hr, List.inj_on_of_nodup_map hn (List.mem_of_find?_eq_some hr) hm he]

theorem Grammar.Tabled.declares_iff (hg : g.Tabled) :
    g.declares n = true ↔ ∃ target, g.Declares n target := by
  rw [Grammar.declares, hg.rule?_eq_find?, List.find?_isSome]
  constructor
  · rintro ⟨r, hm, hn⟩
    exact ⟨r, hm, by simpa using hn⟩
  · rintro ⟨r, hm, hn⟩
    exact ⟨r, hm, by simpa using hn⟩

theorem Grammar.Tabled.declares_iff_mem (hg : g.Tabled) :
    g.declares n = true ↔ n ∈ g.rules.map Rule.name := by
  rw [hg.declares_iff, List.mem_map]
  rfl

theorem Grammar.Tabled.legible_rule (hg : g.Tabled) (hr : r ∈ g.rules) : r.Legible where
  labels x label := by
    rw [Rule.firstLabel?, findSome?_head?_eq_find? fun alt ha => (hg.filed r hr alt ha).labels]
    rfl
  tokens x := any_contains_iff fun alt ha => (hg.filed r hr alt ha).tokenRefs
  ruleRefs x := any_contains_iff fun alt ha => (hg.filed r hr alt ha).ruleRefs

/-- Two rules of one name could not be told apart. -/
theorem Grammar.Tabled.legible (hg : g.Tabled) (hn : (g.rules.map Rule.name).Nodup)
    (hr : r ∈ g.rules) : Site.Legible ⟨g, r⟩ where
  rules n t := by
    rw [hg.rule?_eq_find?]
    exact Grammar.find?_eq_some_iff_declares hn
  labels := (hg.legible_rule hr).labels
  tokens := (hg.legible_rule hr).tokens
  ruleRefs := (hg.legible_rule hr).ruleRefs

theorem Dict.contains_iff_mem_names : d.contains n = true ↔ n ∈ d.names := by
  rw [contains_eq_isSome_get?, get?_eq_find?, List.find?_isSome, names, List.mem_map]
  simp

theorem Dict.offers_iff : Dict.Offers dict n ↔ (dict.bind (·.get? n)).isSome = true := by
  cases dict with
  | none => simp [Offers]
  | some d => simp [Offers, ← contains_iff_mem_names, contains_eq_isSome_get?]

namespace Site

theorem attribute?_isSome : (s.attribute? x).isSome = true ↔ s.HasAttribute x := by
  simp [HasAttribute, Dict.offers_iff, Site.attribute?]

theorem result?_isSome : (s.result? target y).isSome = true ↔ s.HasResult target y := by
  simp [HasResult, Dict.offers_iff, Site.result?]

theorem unlabelled_iff (hs : s.rule.Legible) :
    s.rule.firstLabel? x = none ↔ s.rule.Unlabelled x := by
  have hn : s.rule.firstLabel? x = none ↔
      s.rule.labelDefinitions.find? (·.name.text == x) = none := by
    rw [Option.eq_none_iff_forall_ne_some, Option.eq_none_iff_forall_ne_some]
    exact forall_congr' fun label => not_congr (hs.labels x label)
  rw [hn, List.find?_eq_none, Rule.Unlabelled]
  simp

theorem rule?_bind_isSome (hs : s.Legible) :
    ((s.grammar.rule? n).bind (s.result? · y)).isSome = true ↔
      ∃ target, s.grammar.Declares n target ∧ s.HasResult target y := by
  constructor
  · intro h
    cases hr : s.grammar.rule? n with
    | none => simp [hr] at h
    | some target =>
      rw [hr] at h
      exact ⟨target, (hs.rules n target).1 hr, result?_isSome.1 h⟩
  · rintro ⟨target, ht, hy⟩
    rw [(hs.rules n target).2 ht]
    exact result?_isSome.2 hy

theorem labelled?_isSome (hs : s.Legible) : (s.labelled? label y).isSome = true ↔
    (label.kind = .rule ∧
      ∃ target, s.grammar.Declares label.element.text target ∧ s.HasResult target y) ∨
    (label.kind ≠ .rule ∧ Dict.Offers (Predefined.labelScope? s.grammar.kind label.kind) y) := by
  rw [labelled?]
  split
  · next hk => simp [hk, rule?_bind_isSome hs]
  · next hk => simp [hk, Dict.offers_iff]

theorem qualified?_isSome_of_resolves (hs : s.Legible) (h : s.ResolvesQualified x y) :
    s.HasAttribute x ∨ (s.qualified? x y).isSome = true := by
  rw [qualified?]
  cases h with
  | member h => exact .inl h
  | own hx hy =>
    rw [if_pos hx]
    exact .inr (attribute?_isSome.2 hy)
  | ruleLabel hx hl hk ht hy =>
    rw [if_neg hx, (hs.labels _ _).2 hl]
    exact .inr ((labelled?_isSome hs).2 (.inl ⟨hk, _, ht, hy⟩))
  | otherLabel hx hl hk hy =>
    rw [if_neg hx, (hs.labels _ _).2 hl]
    exact .inr ((labelled?_isSome hs).2 (.inr ⟨hk, hy⟩))
  | rule hx hl hm ht hy =>
    rw [if_neg hx, (unlabelled_iff hs.toRule).2 hl]
    simp only [(hs.ruleRefs x).2 hm, if_true]
    exact .inr ((rule?_bind_isSome hs).2 ⟨_, ht, hy⟩)
  | token hx hl hn hm hy =>
    rw [if_neg hx, (unlabelled_iff hs.toRule).2 hl]
    simp only [if_neg (mt (hs.ruleRefs x).1 hn), (hs.tokens x).2 hm, if_true]
    exact .inr (Dict.offers_iff.1 hy)

theorem resolves_of_qualified?_isSome (hs : s.Legible) (h : (s.qualified? x y).isSome = true) :
    s.ResolvesQualified x y := by
  rw [qualified?] at h
  by_cases hx : x = s.rule.name
  · rw [if_pos hx] at h
    exact .own hx (attribute?_isSome.1 h)
  rw [if_neg hx] at h
  cases hl : s.rule.firstLabel? x with
  | some label =>
    simp only [hl] at h
    rcases (labelled?_isSome hs).1 h with ⟨hk, target, ht, hy⟩ | ⟨hk, hy⟩
    · exact .ruleLabel hx ((hs.labels _ _).1 hl) hk ht hy
    · exact .otherLabel hx ((hs.labels _ _).1 hl) hk hy
  | none =>
    have hu := (unlabelled_iff hs.toRule).1 hl
    simp only [hl] at h
    split at h
    · next hm =>
      obtain ⟨target, ht, hy⟩ := (rule?_bind_isSome hs).1 h
      exact .rule hx hu ((hs.ruleRefs x).1 hm) ht hy
    · next hm =>
      split at h
      · next ht =>
        exact .token hx hu (mt (hs.ruleRefs x).2 hm) ((hs.tokens x).1 ht) (Dict.offers_iff.2 h)
      · simp at h

theorem isTokenLabel_iff (hs : s.rule.Legible) :
    s.isTokenLabel x = true ↔ ∃ label, s.rule.Labels x label ∧ label.kind = .token := by
  simp only [isTokenLabel, Option.any_eq_true_iff_get, ← hs.labels]
  cases s.rule.firstLabel? x <;> simp

theorem isListLabel_iff (hs : s.rule.Legible) : s.isListLabel x = true ↔
    ∃ label, s.rule.Labels x label ∧ (label.kind = .ruleList ∨ label.kind = .tokenList) := by
  simp only [isListLabel, Option.any_eq_true_iff_get, ← hs.labels]
  cases s.rule.firstLabel? x <;> simp

theorem accepts_simple_iff {x : Token} (hs : s.rule.Legible) :
    s.accepts (.simple x) = true ↔ s.ResolvesSimple x.text := by
  simp only [accepts, Bool.or_eq_true, or_assoc, attribute?_isSome, isTokenLabel_iff hs,
    isListLabel_iff hs, hs.tokens]
  constructor
  · rintro (h | ⟨label, hl, hk⟩ | ⟨label, hl, hk⟩ | h)
    · exact .attribute h
    · exact .label hl (.inl hk)
    · exact .label hl (.inr hk)
    · exact .token h
  · rintro (h | ⟨hl, hk | hk⟩ | h)
    · exact .inl h
    · exact .inr (.inl ⟨_, hl, hk⟩)
    · exact .inr (.inr (.inl ⟨_, hl, hk⟩))
    · exact .inr (.inr (.inr h))

theorem accepts_qualified_iff {x y : Token} (hs : s.Legible) :
    s.accepts (.qualified x y) = true ↔ s.ResolvesQualified x.text y.text := by
  simp only [accepts, Bool.or_eq_true, attribute?_isSome]
  constructor
  · rintro (h | h)
    · exact .member h
    · exact resolves_of_qualified?_isSome hs h
  · exact qualified?_isSome_of_resolves hs

theorem rule?_eq_some_iff (hs : s.Legible) : s.rule? x = some target ↔ s.Denotes x target := by
  simp only [rule?_eq_some, hs.labels, hs.rules]
  constructor
  · rintro (⟨hx, rfl⟩ | ⟨hx, ⟨label, hl, hk, ht⟩ | ⟨hl, ht⟩⟩)
    · exact .own hx
    · exact .ruleLabel hx hl hk ht
    · exact .rule hx hl ht
  · rintro (hx | ⟨hx, hl, hk, ht⟩ | ⟨hx, hl, ht⟩)
    · exact .inl ⟨hx, rfl⟩
    · exact .inr ⟨hx, .inl ⟨_, hl, hk, ht⟩⟩
    · exact .inr ⟨hx, .inr ⟨hl, ht⟩⟩

theorem dynamicScope?_eq_some_iff (hs : s.Legible) : s.dynamicScope? x = some d ↔
    (∃ target, s.Denotes x target ∧ target.scope = some d) ∨
    ((∀ target, s.Denotes x target → target.scope = none) ∧
      (x, d) ∈ s.grammar.scopes.entries) := by
  simp only [dynamicScope?_eq_some, rule?_eq_some_iff hs, NameTable.get?_eq_some_iff]

theorem accepts_dynamic_iff {x y : Token} (hs : s.Legible) :
    s.accepts (.dynamic x y) = true ↔ s.ResolvesDynamic x.text y.text := by
  simp only [accepts, Option.any_eq_true, Dict.contains_iff_mem_names]
  constructor
  · rintro ⟨d, hd, hy⟩
    rcases (dynamicScope?_eq_some_iff hs).1 hd with ⟨target, ht, hc⟩ | ⟨hn, hd⟩
    · exact .rule ht hc hy
    · exact .global hn hd hy
  · rintro (⟨ht, hc, hy⟩ | ⟨hn, hd, hy⟩)
    · exact ⟨_, (dynamicScope?_eq_some_iff hs).2 (.inl ⟨_, ht, hc⟩), hy⟩
    · exact ⟨_, (dynamicScope?_eq_some_iff hs).2 (.inr ⟨hn, hd⟩), hy⟩

theorem accepts_iff_resolves (hs : s.Legible) (ref : Reference) :
    s.accepts ref = true ↔ s.Resolves ref := by
  cases ref with
  | simple x => exact accepts_simple_iff hs.toRule
  | qualified x y => exact accepts_qualified_iff hs
  | dynamic x y => exact accepts_dynamic_iff hs

theorem fault?_eq_none_iff (hs : s.Legible) (ref : Reference) :
    s.fault? ref = none ↔ s.Resolves ref := by
  rw [fault?_eq_none_iff_accepts, accepts_iff_resolves hs]

end Site
end GrammarRefs
