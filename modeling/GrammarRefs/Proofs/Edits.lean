import GrammarRefs.Rule.Edit

/-! What an edit does to its rule and to the registry: nothing if it fails. -/
namespace GrammarRefs

section Runs

variable {ε σ α β : Type} {m : ExceptT ε (StateM σ) α} {f : α → ExceptT ε (StateM σ) β} {s t : σ}
  {a : α} {b : β} {e : ε} {outcome : Except ε β × σ}

theorem bind_of_ok (hm : m s = (.ok a, t)) (hf : f a t = outcome) : (m >>= f) s = outcome := by
  change (match m s with | (result, t) => ExceptT.bindCont f result t) = _
  rw [hm]
  exact hf

theorem bind_of_error (hm : m s = (.error e, t)) : (m >>= f) s = (.error e, t) := by
  change (match m s with | (result, t) => ExceptT.bindCont f result t) = _
  rw [hm]
  rfl

theorem map_of_ok (g : α → β) (hm : m s = (.ok a, t)) : (g <$> m) s = (.ok (g a), t) :=
  bind_of_ok hm rfl

theorem map_of_error (g : α → β) (hm : m s = (.error e, t)) : (g <$> m) s = (.error e, t) :=
  bind_of_error hm

end Runs

namespace Rule

/-- A new rule, with this many empty alternatives. -/
def fresh (index : Nat) (head : Token) (alts : Nat) : Rule where
  head := head
  index := index
  alternatives := (List.range alts).map fun k => { owner := index, number := k + 1 }

def HasAlternative (r : Rule) (k : Nat) : Prop := k ≠ 0 ∧ k ≤ r.alternatives.length

/-- The rule with another alternative of that number. -/
def altered (r : Rule) (k : Nat) (f : Alternative → Alternative) : Rule :=
  { r with alternatives := r.alternatives.modify (k - 1) f }

variable {r : Rule} {k index : Nat} {f : Alternative → Alternative} {registry : Registry}
  {snippet : Snippet}

theorem altered_alternatives :
    (r.altered k f).alternatives = r.alternatives.modify (k - 1) f := rfl

theorem requireAlternative_run (hk : r.HasAlternative k) :
    requireAlternative k (r, registry) = (.ok (), (r, registry)) := by
  have hn : ¬ (k = 0 ∨ r.alternatives.length < k) := by
    obtain ⟨h0, hl⟩ := hk
    omega
  change (if k = 0 ∨ r.alternatives.length < k then _ else _ : Editing Unit) (r, registry) = _
  rw [if_neg hn]
  rfl

theorem requireAlternative_fails (hk : ¬ r.HasAlternative k) :
    requireAlternative k (r, registry) =
      (.error (.altOutOfRange r.name k r.alternatives.length), (r, registry)) := by
  have hn : k = 0 ∨ r.alternatives.length < k := by
    rw [HasAlternative] at hk
    omega
  change (if k = 0 ∨ r.alternatives.length < k then _ else _ : Editing Unit) (r, registry) = _
  rw [if_pos hn]
  rfl

theorem changeAlternative_run (hk : r.HasAlternative k) :
    changeAlternative k f (r, registry) = (.ok (), (r.altered k f, registry)) :=
  bind_of_ok (requireAlternative_run hk) rfl

theorem changeAlternative_fails (hk : ¬ r.HasAlternative k) :
    changeAlternative k f (r, registry) =
      (.error (.altOutOfRange r.name k r.alternatives.length), (r, registry)) :=
  bind_of_error (requireAlternative_fails hk)

theorem addAction_numbered (hk : r.HasAlternative k)
    (hn : (registry.lexer || snippet.isForced) = true) :
    addAction k snippet (r, registry) = (.ok (some (registry.actions.length + 1)),
      ({ r.altered k (·.addAction (snippet.numbered (some (registry.actions.length + 1)))) with
          lastAction := some (registry.actions.length + 1) },
        (registry.addAction snippet).2.2)) := by
  have hr : numberAction snippet (r, registry) =
      (.ok (some (registry.actions.length + 1),
          snippet.numbered (some (registry.actions.length + 1))),
        ({ r with lastAction := some (registry.actions.length + 1) },
          (registry.addAction snippet).2.2)) := by
    change (if registry.lexer || snippet.isForced then _ else _ : Editing _) (r, registry) = _
    rw [if_pos hn]
    rfl
  exact bind_of_ok (requireAlternative_run hk)
    (bind_of_ok hr (bind_of_ok (changeAlternative_run hk) rfl))

theorem addAction_unnumbered (hk : r.HasAlternative k)
    (hn : (registry.lexer || snippet.isForced) = false) :
    addAction k snippet (r, registry) =
      (.ok none, (r.altered k (·.addAction (snippet.numbered none)), registry)) := by
  have hr : numberAction snippet (r, registry) =
      (.ok (none, snippet.numbered none), (r, registry)) := by
    change (if registry.lexer || snippet.isForced then _ else _ : Editing _) (r, registry) = _
    rw [hn]
    rfl
  exact bind_of_ok (requireAlternative_run hk)
    (bind_of_ok hr (bind_of_ok (changeAlternative_run hk) rfl))

theorem addAction_fails (hk : ¬ r.HasAlternative k) : addAction k snippet (r, registry) =
    (.error (.altOutOfRange r.name k r.alternatives.length), (r, registry)) :=
  bind_of_error (requireAlternative_fails hk)

theorem addPredicate_run (hk : r.HasAlternative k) : addPredicate k snippet (r, registry) =
    (.ok (registry.predicates.length + 1),
      (r.altered k (·.addAction (snippet.numbered (some (registry.predicates.length + 1)))),
        (registry.addPredicate snippet).2.2)) := by
  have hp : numberPredicate snippet (r, registry) =
      (.ok (registry.predicates.length + 1,
          snippet.numbered (some (registry.predicates.length + 1))),
        (r, (registry.addPredicate snippet).2.2)) := rfl
  exact bind_of_ok (requireAlternative_run hk)
    (bind_of_ok hp (bind_of_ok (changeAlternative_run hk) rfl))

theorem addPredicate_fails (hk : ¬ r.HasAlternative k) : addPredicate k snippet (r, registry) =
    (.error (.altOutOfRange r.name k r.alternatives.length), (r, registry)) :=
  bind_of_error (requireAlternative_fails hk)

end Rule
end GrammarRefs
