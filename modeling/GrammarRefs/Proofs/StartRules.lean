import GrammarRefs.Proofs.Records
import GrammarRefs.Proofs.Rechecking

/-! Start rules. Which rules start a grammar depends on nothing but the names that its rules refer
to, so it can be marked again and again, and a new reference makes no start rule. -/
namespace GrammarRefs

namespace Grammar

/-- A rule of another name refers to this name. -/
def Called (g : Grammar) (n : String) : Prop :=
  ∃ p ∈ g.rules, p.name ≠ n ∧ p.refersToRule n = true

/-- The same rules, and of their names none is referred to in the first grammar only. -/
structure CallsMore (g h : Grammar) : Prop where
  heads : g.rules.map Rule.head = h.rules.map Rule.head
  called : ∀ n, g.Called n → h.Called n

/-- The same rules, of which none starts the second grammar only. -/
def StartsLess (g h : Grammar) : Prop :=
  List.Forall₂ (fun r q => q.head = r.head ∧ (q.isStart = true → r.isStart = true)) g.rules h.rules

end Grammar

variable {g h k : Grammar} {r : Rule} {i m : Nat} {n : String} {token : Token}
  {answer : Except BuildError BuildAnswer} {starts : Rule → Bool}

theorem Rule.refersToRule_altered (m : Nat) (token : Token) (h : r.refersToRule n = true) :
    (r.altered m (·.addRuleRef token)).refersToRule n = true := by
  obtain ⟨alt, ha, hn⟩ := List.any_eq_true.1 h
  obtain ⟨j, hj⟩ := List.mem_iff_getElem?.1 ha
  apply List.any_eq_true.2
  by_cases hm : m - 1 = j
  · refine ⟨alt.addRuleRef token, List.mem_of_getElem? (i := j) ?_, ?_⟩
    · simp [altered_alternatives, hj, hm]
    · simp only [NameTable.contains, Alternative.addRuleRef, NameTable.get?_extend] at hn ⊢
      split
      · rfl
      · exact hn
  · refine ⟨alt, List.mem_of_getElem? (i := j) ?_, hn⟩
    simp [altered_alternatives, hj, hm]

namespace Grammar

theorem CallsMore.refl (g : Grammar) : g.CallsMore g := ⟨rfl, fun _ => id⟩

theorem CallsMore.trans (hg : g.CallsMore h) (hh : h.CallsMore k) : g.CallsMore k :=
  ⟨hg.heads.trans hh.heads, fun n hn => hh.called n (hg.called n hn)⟩

/-- A rule that refers to a name still does so when it has got one more reference. -/
theorem callsMore_withRule (hr : g.rules[i]? = some r) (m : Nat) (token : Token) :
    g.CallsMore (g.withRule i (r.altered m (·.addRuleRef token))) where
  heads := (map_withRule (q := r.altered m _) Rule.head hr rfl).symm
  called := by
    rintro n ⟨p, hp, hn, hc⟩
    obtain ⟨j, hj⟩ := List.mem_iff_getElem?.1 hp
    by_cases he : i = j
    · subst he
      obtain rfl := Option.some.inj (hr.symm.trans hj)
      have hi := (List.getElem?_eq_some_iff.1 hr).1
      exact ⟨_, List.mem_of_getElem? (List.getElem?_set_self hi), hn,
        Rule.refersToRule_altered m token hc⟩
    · exact ⟨p, List.mem_of_getElem? ((List.getElem?_set_ne he).trans hj), hn, hc⟩

theorem callsMore_step (hs : g.Effect (.addRuleRef i m token) h answer) : g.CallsMore h := by
  cases hs with
  | refused => exact .refl g
  | changed hc => cases hc
  | filed hf hr =>
    cases hf
    exact callsMore_withRule hr m token

/-- The run that files these references, some of which may be refused. -/
def withRuleRefs (g : Grammar) (refs : List (Filing Token)) : Grammar :=
  (g.run (refs.map fun f => .addRuleRef f.rule f.alternative f.item)).1

theorem callsMore_withRuleRefs (g : Grammar) (refs : List (Filing Token)) :
    g.CallsMore (g.withRuleRefs refs) := by
  induction refs generalizing g with
  | nil => exact .refl g
  | cons f refs ih => exact (callsMore_step (effect_perform g _)).trans (ih _)

theorem callsMore_remarked (starts : Rule → Bool) (g : Grammar) :
    g.CallsMore (Check.remarked starts g) where
  heads := by
    rw [Check.remarked, List.map_map]
    rfl
  called := by
    rintro n ⟨p, hp, hn, hc⟩
    exact ⟨_, List.mem_map_of_mem hp, hn, hc⟩

end Grammar

namespace Check

theorem mem_referredNames : n ∈ referredNames g ↔ g.Called n := by
  simp only [referredNames, List.mem_flatMap, List.mem_filter, Grammar.Called, bne_iff_ne]
  refine exists_congr fun p => and_congr_right fun _ => ?_
  have hm : n ∈ p.ruleNames ↔ p.refersToRule n = true :=
    p.mem_distinct_names Alternative.ruleRefs n
  rw [hm, and_comm, ne_comm]

theorem not_referred_iff : (!(referredNames g).contains n) = true ↔ ¬ g.Called n := by
  rw [Bool.not_eq_true', ← Bool.not_eq_true, List.contains_iff_mem, mem_referredNames]

theorem startsLess_of_callsMore (hg : g.CallsMore h) :
    (withStartRules g).StartsLess (withStartRules h) := by
  have hh : List.Forall₂ (fun r q => Rule.head r = Rule.head q) g.rules h.rules := by
    rw [← List.forall₂_map_right_iff, ← List.forall₂_map_left_iff, List.forall₂_eq_eq_eq]
    exact hg.heads
  simp only [Grammar.StartsLess, withStartRules, List.forall₂_map_left_iff,
    List.forall₂_map_right_iff]
  apply hh.imp
  intro r q he
  refine ⟨he.symm, ?_⟩
  have hn : r.name = q.name := congrArg Token.text he
  rw [not_referred_iff, not_referred_iff, hn]
  intro hq hr
  exact hq (hg.called _ hr)

/-- A rule is a start rule just if no rule of another name refers to it, whatever was marked before,
and nothing else is written. To mark again changes nothing, and after further references no rule is
marked that was not marked before. -/
theorem start_rules_are_those_not_called (g : Grammar) :
    ∃ h, (∀ log, (markStartRules g).run log = (.accepted h, log) ∧
        (markStartRules h).run log = (.accepted h, log)) ∧
      h = { g with rules := h.rules } ∧
      List.Forall₂ (fun r q => q = { r with isStart := q.isStart } ∧
        (q.isStart = true ↔ ∀ p ∈ g.rules, p.name ≠ r.name →
          ∀ alt ∈ p.alternatives, alt.ruleRefs.contains r.name = false)) g.rules h.rules ∧
      ∀ (starts : Rule → Bool) (refs : List (Filing Token)),
        ∃ next, (∀ log, (markStartRules ((remarked starts g).withRuleRefs refs)).run log =
            (.accepted next, log)) ∧ h.StartsLess next := by
  refine ⟨withStartRules g, fun log => ⟨rfl, ?_⟩, rfl, ?_, ?_⟩
  · have hm : withStartRules (withStartRules g) = withStartRules g := withStartRules_remarked
    exact congrArg (fun h => (Verdict.accepted h, log)) hm
  · simp only [withStartRules, List.forall₂_map_right_iff, List.forall₂_same, true_and]
    intro r _
    rw [not_referred_iff, Grammar.Called]
    simp only [Rule.refersToRule, List.any_eq_true, not_exists, not_and, Bool.not_eq_true]
  · intro starts refs
    refine ⟨_, fun log => rfl, startsLess_of_callsMore ?_⟩
    exact (Grammar.callsMore_remarked starts g).trans (Grammar.callsMore_withRuleRefs _ refs)

/-- The first rule refers to itself and to a name that two rules have, one of which refers to the
other; the last one refers to a rule that is not there. -/
example :
    let g := ((Grammar.empty "P" .parser).run [.defineRule ⟨"a", {}⟩ 2, .defineRule ⟨"b", {}⟩ 1,
      .defineRule ⟨"b", {}⟩ 1, .defineRule ⟨"c", {}⟩ 1, .addRuleRef 0 1 ⟨"a", {}⟩,
      .addRuleRef 0 2 ⟨"b", {}⟩, .addRuleRef 1 1 ⟨"b", {}⟩, .addRuleRef 3 1 ⟨"d", {}⟩]).1
    (withStartRules g).rules.map (·.isStart) = [true, false, false, true] := rfl

end Check
end GrammarRefs
