import GrammarRefs.Proofs.Alternation

/-! Labels that are defined again. The first definition of a label is the one in the first of the
alternatives that define it, and there the one that was made first. -/
namespace GrammarRefs

section Lists

variable {α β : Type} {xs : List α} {i : Nat} {x y : α} {f : α → Option β}

/-- A change behind a place where something is found already is not seen. -/
theorem findSome?_set_eq (hx : xs[i]? = some x)
    (h : f y = f x ∨ ∃ j z, j < i ∧ xs[j]? = some z ∧ (f z).isSome) :
    (xs.set i y).findSome? f = xs.findSome? f := by
  induction xs generalizing i with
  | nil => rfl
  | cons z zs ih =>
    cases i with
    | zero =>
      obtain rfl : z = x := by simpa using hx
      rcases h with h | ⟨j, _, hj, _⟩
      · simp [List.findSome?_cons, h]
      · omega
    | succ i =>
      rw [List.set_cons_succ, List.findSome?_cons, List.findSome?_cons]
      cases hz : f z with
      | some => rfl
      | none =>
        refine ih (by simpa using hx) ?_
        rcases h with h | ⟨j, w, hj, hw, hf⟩
        · exact .inl h
        · cases j with
          | zero =>
            obtain rfl : z = w := by simpa using hw
            simp [hz] at hf
          | succ j => exact .inr ⟨j, w, by omega, by simpa using hw, hf⟩

theorem any_set_eq {f : α → Bool} (hx : xs[i]? = some x) (h : f y = f x) :
    (xs.set i y).any f = xs.any f := by
  induction xs generalizing i with
  | nil => rfl
  | cons z zs ih =>
    cases i with
    | zero =>
      obtain rfl : z = x := by simpa using hx
      simp [h]
    | succ i => simp [ih (by simpa using hx)]

end Lists

variable {g h : Grammar} {r : Rule} {alt : Alternative} {label : Label} {i j k : Nat} {n : String}
  {answer : BuildAnswer}

namespace Alternative

def firstLabel? (alt : Alternative) (n : String) : Option Label :=
  (alt.labels.get? n).bind List.head?

theorem isSome_firstLabel? (hf : alt.Filed) (hl : alt.labels.contains n = true) :
    (alt.firstLabel? n).isSome := by
  rw [NameTable.contains, Option.isSome_iff_exists] at hl
  obtain ⟨found, hl⟩ := hl
  obtain ⟨first, later, rfl⟩ := List.exists_cons_of_ne_nil (hf.labels n found hl).1
  rw [firstLabel?, hl]
  rfl

/-- A definition is only the first one if there was none. -/
theorem firstLabel?_addLabel (h : n = label.name.text → (alt.firstLabel? n).isSome) :
    (alt.addLabel label).firstLabel? n = alt.firstLabel? n := by
  rw [firstLabel?, addLabel, NameTable.get?_extend, firstLabel?]
  split
  · next hn =>
    have hs := h hn
    subst hn
    rw [firstLabel?] at hs
    cases hl : alt.labels.get? label.name.text with
    | none => simp [hl] at hs
    | some found =>
      cases found with
      | nil => simp [hl] at hs
      | cons => rfl
  · rfl

end Alternative

namespace Rule

def withLabel (r : Rule) (k : Nat) (label : Label) : Rule := r.altered k (·.addLabel label)

theorem header_withLabel (r : Rule) (k : Nat) (label : Label) :
    (r.withLabel k label).header = r.header := rfl

theorem firstLabel?_withLabel (hf : ∀ alt ∈ r.alternatives, alt.Filed) (hk : r.HasAlternative k)
    (hj : r.alternative? j = some alt) (hl : alt.labels.contains label.name.text = true)
    (hjk : j ≤ k) (n : String) :
    (r.withLabel k label).firstLabel? n = r.firstLabel? n := by
  obtain ⟨other, ho⟩ := hk.exists_alternative
  rw [alternative?] at hj
  split at hj
  · cases hj
  · next hz =>
    have hs := Alternative.isSome_firstLabel? (hf alt (List.mem_of_getElem? hj)) hl
    change (r.alternatives.modify (k - 1) _).findSome? (·.firstLabel? n) =
      r.alternatives.findSome? (·.firstLabel? n)
    rw [modify_eq_set_of_getElem? ho]
    apply findSome?_set_eq ho
    by_cases hn : n = label.name.text
    · subst hn
      by_cases he : j = k
      · subst he
        rw [hj] at ho
        cases ho
        exact .inl (Alternative.firstLabel?_addLabel fun _ => hs)
      · exact .inr ⟨j - 1, alt, by omega, hj, hs⟩
    · exact .inl (Alternative.firstLabel?_addLabel fun he => absurd he hn)

theorem any_altered (file : Alternative → Alternative) {f : Alternative → Bool}
    (hk : r.HasAlternative k) (h : ∀ alt, f (file alt) = f alt) :
    (r.altered k file).alternatives.any f = r.alternatives.any f := by
  obtain ⟨alt, ha⟩ := hk.exists_alternative
  rw [altered_alternatives, modify_eq_set_of_getElem? ha]
  exact any_set_eq ha (h alt)

theorem actions_altered (file : Alternative → Alternative) (hk : r.HasAlternative k)
    (h : ∀ alt, (file alt).actions = alt.actions) : (r.altered k file).actions = r.actions :=
  congrArg (· ++ r.namedActions.sorted.map (·.2) ++ r.exceptionActions ++ r.finallyAction.toList)
    (placed_altered_eq hk h)

end Rule

theorem Grammar.Effect.withLabel (he : g.Effect (.addLabel i k label) h (.ok answer))
    (hr : g.rules[i]? = some r) :
    r.HasAlternative k ∧ h = g.withRule i (r.withLabel k label) := by
  cases he with
  | changed hs => cases hs
  | filed hs hq hk =>
    cases hs
    obtain rfl := Option.some.inj (hr.symm.trans hq)
    exact ⟨hk, rfl⟩

section Redefined

variable (hg : g.Tabled) (hr : g.rules[i]? = some r) (hk : r.HasAlternative k)
  (hj : r.alternative? j = some alt) (hl : alt.labels.contains label.name.text = true)
  (hjk : j ≤ k)

include hg hr hk hj hl hjk

/-- The rule itself sees its label as before. -/
theorem Site.alike_redefined : Site.Alike ⟨g, r⟩
    ⟨g.withRule i (r.withLabel k label), r.withLabel k label⟩ where
  kind := rfl
  scopes := rfl
  rules n := (Grammar.rule?_withRule Rule.header hr (r.header_withLabel k label) n).symm
  header := (r.header_withLabel k label).symm
  firstLabel n :=
    (Rule.firstLabel?_withLabel (hg.filed r (List.mem_of_getElem? hr)) hk hj hl hjk n).symm
  tokens _ := (Rule.any_altered (·.addLabel label) hk fun _ => rfl).symm
  ruleRefs _ := (Rule.any_altered (·.addLabel label) hk fun _ => rfl).symm

theorem Check.referenceFaults_redefined :
    referenceFaults (g.withRule i (r.withLabel k label)) = referenceFaults g := by
  have hp : ∀ p, faultsInRule (g.withRule i (r.withLabel k label)) p = faultsInRule g p := by
    intro p
    have hs := Site.alike_withRule hr (r.header_withLabel k label) p
    exact (faultsInRule_congr hs rfl).symm
  have ha := Rule.actions_altered (·.addLabel label) hk fun _ => rfl
  have hs := Site.alike_redefined hg hr hk hj hl hjk
  have hi := faultsInRule_congr hs ha.symm
  rw [hp] at hi
  rw [referenceFaults, funext hp, referenceFaults]
  exact flatMap_set_eq hr hi.symm

end Redefined

namespace Check

/-- Once a label is defined in an alternative, another definition of it there or in a later one is
never seen: no name stands for anything else, at any rule, and what is said of the references is
the same. -/
theorem later_definitions_are_not_seen (hg : g.Reachable) (hr : g.rules[i]? = some r)
    (hj : r.alternative? j = some alt) (hl : alt.labels.contains label.name.text = true)
    (hjk : j ≤ k) (hp : g.perform (.addLabel i k label) = (h, .ok answer)) :
    h.rules.length = g.rules.length ∧
    (∀ (m : Nat) (p : Rule), g.rules[m]? = some p →
      ∃ q, h.rules[m]? = some q ∧ q.outside = p.outside ∧
        ∀ x y, (Site.resolve ⟨g, p⟩ x y).SameBy Rule.outside (Site.resolve ⟨h, q⟩ x y)) ∧
    ∃ flawed found, ∀ log,
      (attributeReferences g).run log = (.ofMark flawed g, log ++ found) ∧
      (attributeReferences h).run log = (.ofMark flawed h, log ++ found) := by
  have ht := Grammar.tabled_reachable hg
  have he := Grammar.effect_perform g (.addLabel i k label)
  rw [hp] at he
  obtain ⟨hk, rfl⟩ := he.withLabel hr
  have ho := Grammar.rule?_withRule Rule.outside (q := r.withLabel k label) hr rfl
  refine ⟨List.length_set, ?_, ?_⟩
  · intro m p hm
    by_cases hi : m = i
    · subst hi
      obtain rfl := Option.some.inj (hr.symm.trans hm)
      obtain ⟨hlt, _⟩ := List.getElem?_eq_some_iff.1 hr
      refine ⟨_, List.getElem?_set_self hlt, rfl, ?_⟩
      exact (Site.alike_redefined ht hr hk hj hl hjk).resolve rfl fun n => (ho n).symm
    · refine ⟨p, (List.getElem?_set_ne (Ne.symm hi)).trans hm, rfl, ?_⟩
      have hs := Site.alike_withRule hr (r.header_withLabel k label) p
      exact hs.resolve rfl fun n => (ho n).symm
  · refine ⟨_, _, fun log => ⟨attributeReferences_finds.reports g log, ?_⟩⟩
    have hf := attributeReferences_finds.reports (g.withRule i (r.withLabel k label)) log
    rwa [referenceFaults_redefined ht hr hk hj hl hjk] at hf

/-- A token label that is defined again as a label of a rule, and stays one of a token. -/
theorem token_label_stays_when_defined_for_rule :
    let later : Label := ⟨⟨"x", {}⟩, ⟨"b", {}⟩, .rule⟩
    let g := ((Grammar.empty "P" .parser).run [.defineRule ⟨"a", {}⟩ 2, .defineRule ⟨"b", {}⟩ 1,
      .setReturns 1 (some (.ofNames .returnValue ["v"])),
      .addLabel 0 1 ⟨⟨"x", {}⟩, ⟨"ID", {}⟩, .token⟩]).1
    let h := (g.perform (.addLabel 0 2 later)).1
    ∃ r q, g.rules[0]? = some r ∧ h.rules[0]? = some q ∧
      (Site.resolve ⟨g, r⟩ "x" "v").SameBy Rule.outside (Site.resolve ⟨h, q⟩ "x" "v") ∧
      Site.isTokenLabel ⟨h, q⟩ "x" = true ∧ Site.qualified? ⟨h, q⟩ "x" "v" = none := by
  intro later g h
  obtain ⟨r, hr⟩ : ∃ r, g.rules[0]? = some r := ⟨_, rfl⟩
  obtain rfl := Option.some.inj hr
  have hn := @later_definitions_are_not_seen g h _ _ later 0 1 2 .done ⟨_, _, _, rfl⟩ hr rfl rfl
    (by decide) rfl
  obtain ⟨q, hq, -, hs⟩ := hn.2.1 0 _ hr
  have hx := hs "x" "v"
  refine ⟨_, q, hr, hq, hx, ?_, ?_⟩
  · exact hx.isTokenLabel.symm.trans (by decide)
  · exact hx.qualified.symm.trans (by decide)

end Check
end GrammarRefs
