import GrammarRefs.Proofs.History

/-! The numbers that a run gives out. Actions and predicates are counted apart, without gaps, and
each rule remembers the last number that one of its actions was given. -/
namespace GrammarRefs

/-- The rule and the number of an action that has been given one. -/
def numberedAction? : Deed → Option (Nat × Nat)
  | (.addAction i _ _, .ok (.index n)) => some (i, n)
  | _ => none

def numberedPredicate? : Deed → Option Nat
  | (.addPredicate _ _ _, .ok (.index n)) => some n
  | _ => none

/-- The numbers of actions in the order in which they were given out. -/
def actionNumbers (past : List Deed) : List Nat := (past.filterMap numberedAction?).map Prod.snd

/-- Those of one rule. -/
def actionNumbersOf (i : Nat) (past : List Deed) : List Nat :=
  ((past.filterMap numberedAction?).filter (·.1 == i)).map Prod.snd

def predicateNumbers (past : List Deed) : List Nat := past.filterMap numberedPredicate?

variable {g h : Grammar} {past : List Deed} {deed : Deed} {step : BuildStep} {i j k n : Nat}
  {r q : Rule} {snippet : Snippet} {answer : Except BuildError BuildAnswer}

theorem mem_actionNumbers_of_rule (hm : n ∈ actionNumbersOf i past) : n ∈ actionNumbers past := by
  obtain ⟨given, hg, rfl⟩ := List.mem_map.1 hm
  exact List.mem_map.2 ⟨given, (List.mem_filter.1 hg).1, rfl⟩

theorem filterMap_singleton {α β : Type} (f : α → Option β) (a : α) :
    [a].filterMap f = (f a).toList := by
  cases h : f a <;> simp [h]

theorem actionNumbers_append (past : List Deed) (deed : Deed) :
    actionNumbers (past ++ [deed]) =
      actionNumbers past ++ (numberedAction? deed).toList.map Prod.snd := by
  rw [actionNumbers, List.filterMap_append, filterMap_singleton, List.map_append, actionNumbers]

theorem actionNumbersOf_append (i : Nat) (past : List Deed) (deed : Deed) :
    actionNumbersOf i (past ++ [deed]) = actionNumbersOf i past ++
      ((numberedAction? deed).toList.filter (·.1 == i)).map Prod.snd := by
  rw [actionNumbersOf, List.filterMap_append, filterMap_singleton, List.filter_append,
    List.map_append, actionNumbersOf]

theorem predicateNumbers_append (past : List Deed) (deed : Deed) :
    predicateNumbers (past ++ [deed]) =
      predicateNumbers past ++ (numberedPredicate? deed).toList := by
  rw [predicateNumbers, List.filterMap_append, filterMap_singleton, predicateNumbers]

theorem max?_append_of_le {ns : List Nat} (h : ∀ m ∈ ns, m ≤ n) : (ns ++ [n]).max? = some n := by
  rw [List.max?_eq_some_iff]
  refine ⟨by simp, ?_⟩
  intro m hm
  rcases List.mem_append.1 hm with hm | hm
  · exact h m hm
  · exact Nat.le_of_eq (List.mem_singleton.1 hm)

namespace Grammar

/-- The last number of an action of the rule at a place, if there is a rule. -/
def lastActionAt (g : Grammar) (i : Nat) : Option Nat := g.rules[i]?.bind (·.lastAction)

theorem lastActionAt_withRule (hr : g.rules[i]? = some r) (j : Nat) :
    (g.withRule i q).lastActionAt j = if j = i then q.lastAction else g.lastActionAt j := by
  have hi := (List.getElem?_eq_some_iff.1 hr).1
  rw [lastActionAt, withRule, List.getElem?_set]
  by_cases hj : j = i
  · subst hj
    simp [hi]
  · simp [hj, Ne.symm hj, lastActionAt]

theorem lastActionAt_withRule_eq (hr : g.rules[i]? = some r) (hq : q.lastAction = r.lastAction) :
    (g.withRule i q).lastActionAt = g.lastActionAt := by
  funext j
  rw [lastActionAt_withRule hr]
  split
  · next hj => rw [hj, lastActionAt, hr, hq, Option.bind_some]
  · rfl

theorem lastActionAt_declaring (head : Token) (alts : Nat) :
    (g.declaring head alts).lastActionAt = g.lastActionAt := by
  funext j
  rw [lastActionAt, lastActionAt, declaring, List.getElem?_append]
  split
  · rfl
  · next hj =>
    rw [List.getElem?_eq_none (Nat.le_of_not_lt hj)]
    -- The new rule has no last number, like every place beyond it.
    cases j - g.rules.length <;> rfl

/-- What has been given out is what the registry holds and the rules remember. -/
structure Issued (past : List Deed) (g : Grammar) : Prop where
  actions : actionNumbers past = List.range' 1 g.registry.actions.length
  predicates : predicateNumbers past = List.range' 1 g.registry.predicates.length
  last : ∀ i, g.lastActionAt i = (actionNumbersOf i past).max?

theorem issued_empty (name : String) (kind : GrammarKind) : Issued [] (empty name kind) where
  actions := rfl
  predicates := rfl
  last _ := rfl

/-- A deed that gives out nothing changes nothing of the numbers. -/
theorem Issued.idle (hg : Issued past g) (ha : numberedAction? deed = none)
    (hp : numberedPredicate? deed = none) (hr : h.registry = g.registry)
    (hl : h.lastActionAt = g.lastActionAt) : Issued (past ++ [deed]) h where
  actions := by
    rw [actionNumbers_append, ha, hr]
    simpa using hg.actions
  predicates := by
    rw [predicateNumbers_append, hp, hr]
    simpa using hg.predicates
  last i := by
    rw [actionNumbersOf_append, ha, hl]
    simpa using hg.last i

theorem Issued.le_length (hg : Issued past g) (hn : n ∈ actionNumbersOf i past) :
    n ≤ g.registry.actions.length := by
  have hm := mem_actionNumbers_of_rule hn
  rw [hg.actions, List.mem_range'_1] at hm
  omega

theorem Issued.action (hg : Issued past g) (hr : g.rules[i]? = some r)
    (hn : n = g.registry.actions.length + 1) (hq : q.lastAction = some n) :
    Issued (past ++ [(.addAction i k snippet, .ok (.index n))])
      { g.withRule i q with registry := (g.registry.addAction snippet).2.2 } where
  actions := by
    rw [actionNumbers_append, hg.actions, hn]
    simp [numberedAction?, Registry.addAction, List.range'_1_concat, Nat.add_comm]
  predicates := by
    rw [predicateNumbers_append, hg.predicates]
    exact List.append_nil _
  last j := by
    have hl := lastActionAt_withRule (q := q) hr j
    rw [actionNumbersOf_append]
    refine Eq.trans hl ?_
    by_cases hj : j = i
    · subst hj
      have hle : ∀ m ∈ actionNumbersOf j past, m ≤ n := by
        intro m hm
        have := hg.le_length hm
        omega
      rw [if_pos rfl, hq]
      simpa [numberedAction?] using (max?_append_of_le hle).symm
    · rw [if_neg hj, hg.last]
      simp [numberedAction?, Ne.symm hj]

theorem Issued.predicate (hg : Issued past g) (hr : g.rules[i]? = some r)
    (hn : n = g.registry.predicates.length + 1) (hq : q.lastAction = r.lastAction) :
    Issued (past ++ [(.addPredicate i k snippet, .ok (.index n))])
      { g.withRule i q with registry := (g.registry.addPredicate snippet).2.2 } where
  actions := by
    rw [actionNumbers_append, hg.actions]
    exact List.append_nil _
  predicates := by
    rw [predicateNumbers_append, hg.predicates, hn]
    simp [numberedPredicate?, Registry.addPredicate, List.range'_1_concat, Nat.add_comm]
  last j := by
    rw [actionNumbersOf_append]
    refine (congrFun (lastActionAt_withRule_eq hr hq) j).trans ((hg.last j).trans ?_)
    exact congrArg List.max? (List.append_nil _).symm

theorem idle_of_error (step : BuildStep) (e : BuildError) :
    numberedAction? (step, .error e) = none ∧ numberedPredicate? (step, .error e) = none := by
  cases step <;> exact ⟨rfl, rfl⟩

theorem issued_step (hg : Issued past g) (hs : g.Effect step h answer) :
    Issued (past ++ [(step, answer)]) h := by
  cases hs with
  | refused =>
    have hi := idle_of_error step
    exact hg.idle (hi _).1 (hi _).2 rfl rfl
  | declared => exact hg.idle rfl rfl rfl (lastActionAt_declaring ..)
  | changed hc hr => cases hc <;> exact hg.idle rfl rfl rfl (lastActionAt_withRule_eq hr rfl)
  | filed hf hr => cases hf <;> exact hg.idle rfl rfl rfl (lastActionAt_withRule_eq hr rfl)
  | numbered hr _ _ hn => exact hg.action hr hn rfl
  | unnumbered hr => exact hg.idle rfl rfl rfl (lastActionAt_withRule_eq hr rfl)
  | predicate hr _ hn => exact hg.predicate hr hn rfl
  | scopeDefined => exact hg.idle rfl rfl rfl rfl
  | raised => exact hg.idle rfl rfl rfl rfl

theorem issued_run (name : String) (kind : GrammarKind) (steps : List BuildStep) :
    Issued ((empty name kind).history steps) ((empty name kind).run steps).1 :=
  history_induct (fun _ _ _ _ _ => issued_step) steps (issued_empty name kind)

/-- An action goes without a number if it is not forced and the grammar is no lexer. -/
def WithoutNumber (kind : GrammarKind) (deed : Deed) : Prop :=
  ∀ i k snippet, deed.1 = .addAction i k snippet →
    (deed.2 = .ok .done ↔ deed.2.isOk ∧ kind ≠ .lexer ∧ snippet.kind ≠ .forced)

theorem lexer_step (hs : g.Effect step h answer) : h.registry.lexer = g.registry.lexer := by
  cases hs <;> rfl

theorem withoutNumber_step {kind : GrammarKind} (hg : g.registry.lexer = kind.isLexer)
    (hs : g.Effect step h answer) : WithoutNumber kind (step, answer) := by
  intro i k snippet he
  have hk : (g.registry.lexer || snippet.isForced) = false ↔
      kind ≠ .lexer ∧ snippet.kind ≠ .forced := by
    rw [hg]
    simp [GrammarKind.isLexer, Snippet.isForced]
  dsimp only at he
  subst he
  rw [← hk]
  cases hs with
  | refused => simp [Except.isOk, Except.toBool]
  | changed hc | filed hc => cases hc
  | numbered _ _ hn => simp [hn]
  | unnumbered _ _ hn => simp [hn, Except.isOk, Except.toBool]

theorem withoutNumber_run (name : String) (kind : GrammarKind) (steps : List BuildStep) :
    ∀ deed ∈ (empty name kind).history steps, WithoutNumber kind deed := by
  refine forall_mem_history (fun g => g.registry.lexer = kind.isLexer) ?_ steps rfl
  intro g step h answer hl hs
  exact ⟨(lexer_step hs).trans hl, withoutNumber_step hl hs⟩

end Grammar

/-- Numbers are given out without gaps and never twice, whatever fails in between, and a rule
remembers the greatest one that it was given. -/
theorem numbers_are_consecutive (name : String) (kind : GrammarKind) (steps : List BuildStep) :
    let g := ((Grammar.empty name kind).run steps).1
    let past := (Grammar.empty name kind).history steps
    actionNumbers past = List.range' 1 g.registry.actions.length ∧
    predicateNumbers past = List.range' 1 g.registry.predicates.length ∧
    (∀ i k snippet answer, (.addAction i k snippet, answer) ∈ past →
      (answer = .ok .done ↔ answer.isOk ∧ kind ≠ .lexer ∧ snippet.kind ≠ .forced)) ∧
    ∀ i r, g.rules[i]? = some r → r.lastAction = (actionNumbersOf i past).max? := by
  intro g past
  have hg := Grammar.issued_run name kind steps
  refine ⟨hg.actions, hg.predicates, ?_, ?_⟩
  · intro i k snippet answer hm
    exact Grammar.withoutNumber_run name kind steps _ hm i k snippet rfl
  · intro i r hr
    rw [← hg.last i, Grammar.lastActionAt, hr]
    rfl

/-- Two rules of a parser, with forced actions, a plain one, a predicate and two failures. -/
theorem numbers_are_consecutive_despite_failures :
    let snippet (kind : ActionKind) : Snippet := { kind, code := .nil }
    let steps : List BuildStep := [.defineRule ⟨"a", {}⟩ 1, .defineRule ⟨"b", {}⟩ 2,
      .addAction 1 2 (snippet .forced), .addAction 0 3 (snippet .forced),
      .addPredicate 0 1 (snippet .predicate), .addAction 0 1 (snippet .action),
      .addAction 4 1 (snippet .forced), .addAction 0 1 (snippet .forced)]
    let past := (Grammar.empty "P" .parser).history steps
    actionNumbers past = [1, 2] ∧ predicateNumbers past = [1] ∧
      ((.addAction 0 1 (snippet .action), .ok .done) ∈ past ∧ ActionKind.action ≠ .forced) ∧
      ∃ r, ((Grammar.empty "P" .parser).run steps).1.rules[0]? = some r ∧
        r.lastAction = some 2 := by
  intro snippet steps past
  obtain ⟨ha, hp, hn, hl⟩ := numbers_are_consecutive "P" .parser steps
  have hm : (.addAction 0 1 (snippet .action), .ok .done) ∈ past :=
    .tail _ (.tail _ (.tail _ (.tail _ (.tail _ (.head _)))))
  exact ⟨ha, hp, ⟨hm, ((hn _ _ _ _ hm).1 rfl).2.2⟩, _, rfl, hl 0 _ rfl⟩

end GrammarRefs
