import GrammarRefs.Proofs.RuleTable

/-! The rules of a grammar can be looked at in several ways: by place, by what they and their
alternatives say of themselves, and by name. All of them agree. -/
namespace GrammarRefs

/-- The rule and its alternatives know where they stand. -/
structure Rule.StandsAt (r : Rule) (i : Nat) : Prop where
  index : r.index = i
  nonempty : r.alternatives ≠ []
  alternatives : ∀ j alt, r.alternatives[j]? = some alt → alt.owner = i ∧ alt.number = j + 1

namespace Grammar

/-- The first rule of the name stands there. -/
def FirstAt (g : Grammar) (n : String) (i : Nat) : Prop :=
  ∃ r : Rule, g.rules[i]? = some r ∧ r.name = n ∧
    ∀ j (q : Rule), j < i → g.rules[j]? = some q → q.name ≠ n

structure Coherent (g : Grammar) : Prop where
  rules : ∀ i (r : Rule), g.rules[i]? = some r → r.StandsAt i
  names : ∀ n, n ∈ g.ruleIndex.names ↔ ∃ r ∈ g.rules, r.name = n
  first : ∀ n i, g.ruleIndex? n = some i ↔ g.FirstAt n i
  scopes : ∀ n scope, g.scopes.get? n = some scope → scope.name = some n

/-- The part of coherence that does not concern the index of names. -/
structure Placed (g : Grammar) : Prop where
  rules : ∀ i (r : Rule), g.rules[i]? = some r → r.StandsAt i
  scopes : ∀ n scope, g.scopes.get? n = some scope → scope.name = some n

/-- The rules of the first grammar still stand at their places in the second. -/
def Keeps (g h : Grammar) : Prop := ∀ (i : Nat) (r : Rule), g.rules[i]? = some r →
  ∃ q : Rule, h.rules[i]? = some q ∧ q.head = r.head ∧
    q.alternatives.length = r.alternatives.length

end Grammar

variable {g h k : Grammar} {r q : Rule} {i j a m : Nat} {n : String} {step : BuildStep}
  {answer : Except BuildError BuildAnswer} {file : Alternative → Alternative}

theorem Rule.standsAt_fresh (i : Nat) (head : Token) (ha : a ≠ 0) :
    (Rule.fresh i head a).StandsAt i where
  index := rfl
  nonempty := by simpa [fresh] using ha
  alternatives := by
    intro j alt hj
    simp only [fresh, List.getElem?_map, Option.map_eq_some_iff] at hj
    obtain ⟨l, hl, rfl⟩ := hj
    obtain ⟨_, rfl⟩ := List.getElem?_eq_some_iff.1 hl
    simp

/-- What is done to an alternative leaves it where it is. -/
def Alternative.Stays (file : Alternative → Alternative) : Prop :=
  ∀ alt, (file alt).owner = alt.owner ∧ (file alt).number = alt.number

theorem Alternative.stays_of_files (hs : step.Files i m file) : Alternative.Stays file := by
  cases hs <;> exact fun _ => ⟨rfl, rfl⟩

theorem Rule.length_altered (r : Rule) (m : Nat) (file : Alternative → Alternative) :
    (r.altered m file).alternatives.length = r.alternatives.length := by
  rw [altered_alternatives, List.length_modify]

theorem Rule.StandsAt.altered (hr : r.StandsAt i) (hf : Alternative.Stays file)
    (hi : q.index = r.index) (hq : q.alternatives = (r.altered m file).alternatives) :
    q.StandsAt i where
  index := hi.trans hr.index
  nonempty := by
    intro hn
    have hl := r.length_altered m file
    rw [← hq, hn] at hl
    exact hr.nonempty (List.eq_nil_of_length_eq_zero hl.symm)
  alternatives := by
    intro j alt hj
    rw [hq, altered_alternatives, List.getElem?_modify] at hj
    cases ha : r.alternatives[j]? with
    | none => simp [ha] at hj
    | some earlier =>
      have he := hr.alternatives j earlier ha
      rw [ha] at hj
      obtain rfl := Option.some.inj hj
      split
      · exact ⟨(hf earlier).1.trans he.1, (hf earlier).2.trans he.2⟩
      · exact he

namespace Grammar

theorem Placed.withRule (hg : g.Placed) (hq : q.StandsAt i) : (g.withRule i q).Placed where
  rules j p hj := by
    rw [Grammar.withRule, List.getElem?_set] at hj
    split at hj
    · next he =>
      subst he
      split at hj
      · exact Option.some.inj hj ▸ hq
      · cases hj
    · exact hg.rules j p hj
  scopes := hg.scopes

theorem Placed.altered (hg : g.Placed) (hr : g.rules[i]? = some r)
    (hf : Alternative.Stays file) (hi : q.index = r.index)
    (hq : q.alternatives = (r.altered m file).alternatives) : (g.withRule i q).Placed :=
  hg.withRule ((hg.rules i r hr).altered hf hi hq)

theorem Placed.acted {action : Action} (hg : g.Placed) (hr : g.rules[i]? = some r)
    (hi : q.index = r.index)
    (hq : q.alternatives = (r.altered m (·.addAction action)).alternatives) :
    (g.withRule i q).Placed := by
  have hf : Alternative.Stays (·.addAction action) := fun _ => ⟨rfl, rfl⟩
  exact hg.altered hr hf hi hq

theorem Placed.changed {f : Rule → Rule} {reply : Rule → BuildAnswer} (hg : g.Placed)
    (hs : step.ChangesRule i f reply) (hr : g.rules[i]? = some r) :
    (g.withRule i (f r)).Placed := by
  have hi := hg.rules i r hr
  have hf : (f r).index = r.index ∧ (f r).alternatives = r.alternatives := by
    cases hs <;> exact ⟨rfl, rfl⟩
  refine hg.withRule ⟨hf.1.trans hi.index, ?_, ?_⟩
  · rw [hf.2]
    exact hi.nonempty
  · rw [hf.2]
    exact hi.alternatives

theorem Placed.declaring (hg : g.Placed) (head : Token) (ha : a ≠ 0) :
    (g.declaring head a).Placed where
  rules j p hj := by
    rw [Grammar.declaring, List.getElem?_append] at hj
    split at hj
    · exact hg.rules j p hj
    · next hl =>
      have hs : j = g.rules.length := by
        have := (List.getElem?_eq_some_iff.1 hj).1
        rw [List.length_singleton] at this
        omega
      subst hs
      obtain rfl : Rule.fresh g.rules.length head a = p := by simpa using hj
      exact Rule.standsAt_fresh g.rules.length head ha
  scopes := hg.scopes

theorem Placed.withRegistry (hg : g.Placed) (registry : Registry) :
    Grammar.Placed { g with registry } :=
  ⟨hg.rules, hg.scopes⟩

theorem Placed.defineScope (hg : g.Placed) (name : String) (scope : Dict) :
    (g.defineScope name scope).Placed where
  rules := hg.rules
  scopes other d hd := by
    rw [Grammar.defineScope, NameTable.get?_insert] at hd
    split at hd
    · next hm => rw [← Option.some.inj hd, hm]
    · exact hg.scopes other d hd

theorem placed_step (hg : g.Placed) (hs : g.Effect step h answer) : h.Placed := by
  cases hs with
  | refused => exact hg
  | declared ha => exact hg.declaring _ ha
  | changed hc hr => exact hg.changed hc hr
  | filed hf hr => exact hg.altered hr (Alternative.stays_of_files hf) rfl rfl
  | numbered hr =>
    apply Placed.withRegistry
    exact hg.acted hr rfl rfl
  | unnumbered hr => exact hg.acted hr rfl rfl
  | predicate hr =>
    apply Placed.withRegistry
    exact hg.acted hr rfl rfl
  | scopeDefined => exact hg.defineScope ..
  | raised => exact ⟨hg.rules, hg.scopes⟩

theorem placed_empty (name : String) (kind : GrammarKind) : (empty name kind).Placed where
  rules i r hr := by simp [empty] at hr
  scopes n d hd := by simp [empty, NameTable.get?] at hd

theorem placed_reachable (h : g.Reachable) : g.Placed :=
  h.induct placed_empty fun _ _ _ _ hg hs => placed_step hg hs

theorem Tabled.firstAt_iff (hg : g.Tabled) : g.ruleIndex? n = some i ↔ g.FirstAt n i := by
  rw [ruleIndex?, hg.index, List.findIdx?_eq_some_iff_getElem]
  constructor
  · rintro ⟨hi, hn, hf⟩
    refine ⟨g.rules[i], List.getElem?_eq_getElem hi, by simpa using hn, ?_⟩
    intro j q hj hq
    obtain ⟨_, rfl⟩ := List.getElem?_eq_some_iff.1 hq
    simpa using hf j hj
  · rintro ⟨r, hr, hn, hf⟩
    obtain ⟨hi, rfl⟩ := List.getElem?_eq_some_iff.1 hr
    refine ⟨hi, by simpa using hn, ?_⟩
    intro j hj
    simpa using hf j _ hj (List.getElem?_eq_getElem (Nat.lt_trans hj hi))

theorem Placed.coherent (hg : g.Placed) (ht : g.Tabled) : g.Coherent where
  rules := hg.rules
  names n := by
    rw [NameTable.mem_names_iff, ht.index, List.findIdx?_isSome, List.any_eq_true]
    simp
  first _ _ := ht.firstAt_iff
  scopes := hg.scopes

theorem Keeps.refl (g : Grammar) : g.Keeps g := fun _ r hr => ⟨r, hr, rfl, rfl⟩

theorem Keeps.trans (hg : g.Keeps h) (hh : h.Keeps k) : g.Keeps k := by
  intro i r hr
  obtain ⟨q, hq, hn, ha⟩ := hg i r hr
  obtain ⟨p, hp, hm, hb⟩ := hh i q hq
  exact ⟨p, hp, hm.trans hn, hb.trans ha⟩

theorem keeps_withRule (hr : g.rules[i]? = some r) (hn : q.head = r.head)
    (ha : q.alternatives.length = r.alternatives.length) : g.Keeps (g.withRule i q) := by
  intro j p hp
  rw [withRule, List.getElem?_set]
  by_cases hj : i = j
  · subst hj
    cases hr.symm.trans hp
    exact ⟨q, by simp [(List.getElem?_eq_some_iff.1 hr).1], hn, ha⟩
  · exact ⟨p, by simpa [hj] using hp, rfl, rfl⟩

theorem keeps_altered (hr : g.rules[i]? = some r) (hn : q.head = r.head)
    (hq : q.alternatives = (r.altered m file).alternatives) : g.Keeps (g.withRule i q) :=
  keeps_withRule hr hn (by rw [hq, Rule.length_altered])

theorem Keeps.withRegistry (hk : g.Keeps h) (registry : Registry) : g.Keeps { h with registry } :=
  hk

theorem keeps_step (hs : g.Effect step h answer) : g.Keeps h := by
  cases hs with
  | refused | scopeDefined | raised => exact Keeps.refl g
  | declared =>
    intro i r hr
    have hi := (List.getElem?_eq_some_iff.1 hr).1
    exact ⟨r, by rw [declaring, List.getElem?_append_left hi, hr], rfl, rfl⟩
  | changed hc hr => cases hc <;> exact keeps_withRule hr rfl rfl
  | filed _ hr | unnumbered hr => exact keeps_altered hr rfl rfl
  | numbered hr | predicate hr =>
    apply Keeps.withRegistry
    exact keeps_altered hr rfl rfl

/-- The first rule of a name stays the first, whatever comes after it. -/
theorem Keeps.firstAt (hk : g.Keeps h) (hf : g.FirstAt n i) : h.FirstAt n i := by
  obtain ⟨r, hr, hn, hf⟩ := hf
  obtain ⟨q, hq, hh, _⟩ := hk i r hr
  refine ⟨q, hq, (congrArg Token.text hh).trans hn, ?_⟩
  intro j p hj hp
  have hl : j < g.rules.length := Nat.lt_trans hj (List.getElem?_eq_some_iff.1 hr).1
  obtain ⟨o, ho, hd, _⟩ := hk j _ (List.getElem?_eq_getElem hl)
  cases hp.symm.trans ho
  exact fun hc => hf j _ hj (List.getElem?_eq_getElem hl) ((congrArg Token.text hd).symm.trans hc)

end Grammar
end GrammarRefs
