import GrammarRefs.Proofs.Construction

/-! The numbered actions of a grammar are kept twice, in the registry and in the alternatives. The
two copies stay the same. -/
namespace GrammarRefs

section Lists

variable {α β : Type} {xs : List α} {i : Nat} {x y : α} {f : α → List β} {change : α → α} {b : β}

theorem flatMap_set_eq (hx : xs[i]? = some x) (h : f y = f x) :
    (xs.set i y).flatMap f = xs.flatMap f := by
  induction xs generalizing i with
  | nil => rfl
  | cons z zs ih =>
    cases i with
    | zero =>
      obtain rfl : z = x := by simpa using hx
      simp [h]
    | succ i => simp [ih (by simpa using hx)]

theorem flatMap_set_perm (hx : xs[i]? = some x) (h : (f y).Perm (b :: f x)) :
    ((xs.set i y).flatMap f).Perm (b :: xs.flatMap f) := by
  induction xs generalizing i with
  | nil => simp at hx
  | cons z zs ih =>
    cases i with
    | zero =>
      obtain rfl : z = x := by simpa using hx
      exact h.append_right _
    | succ i =>
      have hz := (ih (i := i) (by simpa using hx)).append_left (f z)
      exact hz.trans List.perm_middle

theorem modify_eq_set_of_getElem? (hx : xs[i]? = some x) :
    xs.modify i change = xs.set i (change x) := by
  apply List.ext_getElem?
  intro j
  rw [List.getElem?_modify, List.getElem?_set]
  by_cases hj : i = j
  · subst hj
    obtain ⟨hi, rfl⟩ := List.getElem?_eq_some_iff.1 hx
    simp [hi]
  · simp [hj]

theorem perm_insert_between (b : β) (ys zs : List β) :
    (b :: (ys ++ zs)).Perm (ys ++ [b] ++ zs) := by
  rw [← List.append_cons]
  exact List.perm_middle.symm

end Lists

/-- The actions in the alternatives. -/
def Rule.placed (r : Rule) : List Action := r.alternatives.flatMap (·.actions)

def Grammar.placed (g : Grammar) : List Action := g.rules.flatMap Rule.placed

variable {g : Grammar} {r q : Rule} {i k n : Nat} {action : Action} {actions : List Action}
  {file : Alternative → Alternative} {step : BuildStep}

theorem Rule.HasAlternative.exists_alternative (hk : r.HasAlternative k) :
    ∃ alt, r.alternatives[k - 1]? = some alt := by
  obtain ⟨h0, hl⟩ := hk
  have hi : k - 1 < r.alternatives.length := by omega
  exact ⟨_, List.getElem?_eq_getElem hi⟩

theorem Rule.placed_altered_eq (hk : r.HasAlternative k)
    (h : ∀ alt, (file alt).actions = alt.actions) : (r.altered k file).placed = r.placed := by
  obtain ⟨alt, ha⟩ := hk.exists_alternative
  rw [placed, altered_alternatives, modify_eq_set_of_getElem? ha]
  exact flatMap_set_eq ha (h alt)

theorem Rule.placed_altered_perm (hk : r.HasAlternative k) (action : Action) :
    (r.altered k (·.addAction action)).placed.Perm (action :: r.placed) := by
  obtain ⟨alt, ha⟩ := hk.exists_alternative
  rw [placed, altered_alternatives, modify_eq_set_of_getElem? ha]
  exact flatMap_set_perm ha (List.perm_append_singleton _ _)

namespace Grammar

theorem placed_withRule_eq (hr : g.rules[i]? = some r) (h : q.placed = r.placed) :
    (g.withRule i q).placed = g.placed :=
  flatMap_set_eq hr h

theorem placed_withRule_perm (hr : g.rules[i]? = some r) (h : q.placed.Perm (action :: r.placed)) :
    (g.withRule i q).placed.Perm (action :: g.placed) :=
  flatMap_set_perm hr h

theorem placed_declaring (head : Token) (alts : Nat) :
    (g.declaring head alts).placed = g.placed := by
  simp [placed, declaring, Rule.fresh, Rule.placed, List.flatMap_map]

end Grammar

/-- Numbers count from 1 in the order of registration. -/
def Counted (actions : List Action) : Prop :=
  ∀ k action, actions[k]? = some action → action.index = some (k + 1)

theorem counted_nil : Counted [] := by
  intro k action h
  simp at h

theorem Counted.append (h : Counted actions) (ha : action.index = some (actions.length + 1)) :
    Counted (actions ++ [action]) := by
  intro k a hk
  rw [List.getElem?_append] at hk
  split at hk
  · exact h k a hk
  · next hl =>
    have hs : k = actions.length := by
      have := (List.getElem?_eq_some_iff.1 hk).1
      simp at this
      omega
    subst hs
    obtain rfl : action = a := by simpa using hk
    exact ha

/-- The registry and the alternatives hold the same numbered actions, and what has no number did not
need one. -/
structure Grammar.Numbered (g : Grammar) : Prop where
  lexer : g.registry.lexer = g.kind.isLexer
  actions : Counted g.registry.actions
  predicates : Counted g.registry.predicates
  placed : (g.placed.filter (·.index.isSome)).Perm (g.registry.actions ++ g.registry.predicates)
  unnumbered : ∀ action ∈ g.placed, action.index = none → g.kind ≠ .lexer ∧ action.kind ≠ .forced

namespace Grammar

theorem numbered_empty (name : String) (kind : GrammarKind) : (empty name kind).Numbered where
  lexer := rfl
  actions := counted_nil
  predicates := counted_nil
  placed := .refl _
  unnumbered := by simp [Grammar.placed, empty]

theorem Numbered.of_placed_eq {h : Grammar} (hg : g.Numbered) (hk : h.kind = g.kind)
    (hr : h.registry = g.registry) (hp : h.placed = g.placed) : h.Numbered where
  lexer := by rw [hr, hk, hg.lexer]
  actions := by rw [hr]; exact hg.actions
  predicates := by rw [hr]; exact hg.predicates
  placed := by rw [hr, hp]; exact hg.placed
  unnumbered := by rw [hk, hp]; exact hg.unnumbered

/-- An action with a number goes to both places. -/
theorem Numbered.placed_perm {h : Grammar} (hg : g.Numbered) (hs : action.index.isSome)
    (hp : h.placed.Perm (action :: g.placed)) : (h.placed.filter (·.index.isSome)).Perm
      (action :: (g.registry.actions ++ g.registry.predicates)) := by
  have hf := hp.filter (·.index.isSome)
  simp only [List.filter_cons, hs, if_true] at hf
  exact hf.trans (hg.placed.cons action)

theorem Numbered.unnumbered_of_perm {h : Grammar} (hg : g.Numbered) (hk : h.kind = g.kind)
    (hp : h.placed.Perm (action :: g.placed))
    (ha : action.index = none → g.kind ≠ .lexer ∧ action.kind ≠ .forced) :
    ∀ a ∈ h.placed, a.index = none → h.kind ≠ .lexer ∧ a.kind ≠ .forced := by
  intro a hm hn
  rw [hk]
  rcases List.mem_cons.1 (hp.mem_iff.1 hm) with rfl | hm
  · exact ha hn
  · exact hg.unnumbered a hm hn

theorem Numbered.changed {f : Rule → Rule} {answer : Rule → BuildAnswer} (hg : g.Numbered)
    (hs : step.ChangesRule i f answer) (hr : g.rules[i]? = some r) :
    (g.withRule i (f r)).Numbered := by
  have hf : (f r).placed = r.placed := by
    cases hs <;> rfl
  exact hg.of_placed_eq rfl rfl (placed_withRule_eq hr hf)

theorem Numbered.filed (hg : g.Numbered) (hs : step.Files i k file) (hr : g.rules[i]? = some r)
    (hk : r.HasAlternative k) : (g.withRule i (r.altered k file)).Numbered := by
  have hf : ∀ alt, (file alt).actions = alt.actions := by
    intro alt
    cases hs <;> rfl
  exact hg.of_placed_eq rfl rfl (placed_withRule_eq hr (Rule.placed_altered_eq hk hf))

/-- A new action goes to the registry and to a rule under the same number. -/
theorem Numbered.register_action {snippet : Snippet} (hg : g.Numbered) (hr : g.rules[i]? = some r)
    (hq : q.placed.Perm
      (snippet.numbered (some (g.registry.actions.length + 1)) :: r.placed)) :
    Grammar.Numbered { g.withRule i q with registry := (g.registry.addAction snippet).2.2 } := by
  have hp := placed_withRule_perm hr hq
  refine ⟨hg.lexer, hg.actions.append rfl, hg.predicates, ?_, ?_⟩
  -- The new action stands after the actions, before the predicates.
  · exact (hg.placed_perm rfl hp).trans (perm_insert_between _ _ _)
  · exact hg.unnumbered_of_perm rfl hp (by simp [Snippet.numbered])

theorem Numbered.register_predicate {snippet : Snippet} (hg : g.Numbered)
    (hr : g.rules[i]? = some r) (hq : q.placed.Perm
      (snippet.numbered (some (g.registry.predicates.length + 1)) :: r.placed)) :
    Grammar.Numbered { g.withRule i q with registry := (g.registry.addPredicate snippet).2.2 } := by
  have hp := placed_withRule_perm hr hq
  refine ⟨hg.lexer, hg.actions, hg.predicates.append rfl, ?_, ?_⟩
  · have hm := List.perm_append_singleton
      (snippet.numbered (some (g.registry.predicates.length + 1)))
      (g.registry.actions ++ g.registry.predicates)
    rw [List.append_assoc] at hm
    exact (hg.placed_perm rfl hp).trans hm.symm
  · exact hg.unnumbered_of_perm rfl hp (by simp [Snippet.numbered])

theorem Numbered.place_unnumbered {snippet : Snippet} (hg : g.Numbered)
    (hr : g.rules[i]? = some r) (hs : (g.registry.lexer || snippet.isForced) = false)
    (hq : q.placed.Perm (snippet.numbered none :: r.placed)) : (g.withRule i q).Numbered := by
  have hp := placed_withRule_perm hr hq
  refine ⟨hg.lexer, hg.actions, hg.predicates, ?_, hg.unnumbered_of_perm rfl hp fun _ => ?_⟩
  · exact (hp.filter (·.index.isSome)).trans hg.placed
  · rw [hg.lexer] at hs
    simpa [GrammarKind.isLexer, Snippet.isForced, Snippet.numbered] using hs

theorem numbered_step {h : Grammar} {answer : Except BuildError BuildAnswer} (hg : g.Numbered)
    (hs : g.Effect step h answer) : h.Numbered := by
  cases hs with
  | refused => exact hg
  | declared => exact hg.of_placed_eq rfl rfl (placed_declaring _ _)
  | changed hs hr => exact hg.changed hs hr
  | filed hs hr hk => exact hg.filed hs hr hk
  | scopeDefined => exact hg.of_placed_eq rfl rfl rfl
  | raised => exact hg.of_placed_eq rfl rfl rfl
  | numbered hr hk _ hn =>
    subst hn
    exact hg.register_action hr (Rule.placed_altered_perm hk _)
  | unnumbered hr hk hs => exact hg.place_unnumbered hr hs (Rule.placed_altered_perm hk _)
  | predicate hr hk hn =>
    subst hn
    exact hg.register_predicate hr (Rule.placed_altered_perm hk _)

theorem numbered_reachable (h : g.Reachable) : g.Numbered :=
  h.induct numbered_empty fun _ _ _ _ hg hs => numbered_step hg hs

end Grammar

theorem isSome_numbered? :
    (Registry.numbered? actions n).isSome ↔ 1 ≤ n ∧ n ≤ actions.length := by
  rw [Registry.numbered?]
  split
  · simp
    omega
  · simp
    omega

theorem Counted.numbered?_iff (h : Counted actions) :
    Registry.numbered? actions n = some action ↔ action ∈ actions ∧ action.index = some n := by
  constructor
  · intro hf
    rw [Registry.numbered?] at hf
    split at hf
    · simp at hf
    · next hn =>
      have hi := h _ _ hf
      rw [Nat.sub_add_cancel (by omega)] at hi
      exact ⟨List.mem_of_getElem? hf, hi⟩
  · rintro ⟨hm, hi⟩
    obtain ⟨k, hk⟩ := List.mem_iff_getElem?.1 hm
    have hn : n = k + 1 := Option.some.inj (hi.symm.trans (h k action hk))
    subst hn
    rw [Registry.numbered?, if_neg (by omega)]
    exact hk

/-- The numbered actions in the alternatives are those of the registry, each under its number. -/
theorem registry_matches_alternatives (h : g.Reachable) :
    (∀ k action, g.registry.actions[k]? = some action → action.index = some (k + 1)) ∧
    (∀ k predicate, g.registry.predicates[k]? = some predicate → predicate.index = some (k + 1)) ∧
    (∀ n, (g.registry.action? n).isSome ↔ 1 ≤ n ∧ n ≤ g.registry.actions.length) ∧
    (∀ n, (g.registry.predicate? n).isSome ↔ 1 ≤ n ∧ n ≤ g.registry.predicates.length) ∧
    (∀ n action, g.registry.action? n = some action ↔
      action ∈ g.registry.actions ∧ action.index = some n) ∧
    (∀ n predicate, g.registry.predicate? n = some predicate ↔
      predicate ∈ g.registry.predicates ∧ predicate.index = some n) ∧
    (g.placed.filter (·.index.isSome)).Perm (g.registry.actions ++ g.registry.predicates) ∧
    ∀ action ∈ g.placed, action.index = none → g.kind ≠ .lexer ∧ action.kind ≠ .forced := by
  have hg := Grammar.numbered_reachable h
  exact ⟨hg.actions, hg.predicates, fun _ => isSome_numbered?, fun _ => isSome_numbered?,
    fun _ _ => hg.actions.numbered?_iff, fun _ _ => hg.predicates.numbered?_iff, hg.placed,
    hg.unnumbered⟩

/-- One action is forced, one is not, and one predicate is put where there is no alternative. -/
theorem registry_matches_after_failed_step :
    let g := ((Grammar.empty "P" .parser).run [.defineRule ⟨"a", {}⟩ 1,
      .addAction 0 1 { kind := .forced, code := .nil },
      .addAction 0 1 { kind := .action, code := .nil },
      .addPredicate 0 2 { kind := .predicate, code := .nil },
      .addPredicate 0 1 { kind := .predicate, code := .nil }]).1
    g.placed.length = 3 ∧
      (g.placed.filter (·.index.isSome)).Perm (g.registry.actions ++ g.registry.predicates) :=
  ⟨rfl, (registry_matches_alternatives ⟨_, _, _, rfl⟩).2.2.2.2.2.2.1⟩

end GrammarRefs
