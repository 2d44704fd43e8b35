import GrammarRefs.Proofs.Answers
import GrammarRefs.Proofs.OrderFreedom
import Mathlib.Data.List.Induction

/-! Rules in another order. Every rule is found by its name, so that rules of different names can be
declared in any order. -/
namespace GrammarRefs

/-- The rule as it is if it is declared at this place. -/
def Rule.placedAt (i : Nat) (r : Rule) : Rule :=
  { r with index := i, alternatives := r.alternatives.map ({ · with owner := i }) }

/-- Where the first rule of each name stands. -/
def Rule.positions (rules : List Rule) : NameTable Nat :=
  rules.zipIdx.foldl (fun t e => t.insertNew e.1.name e.2) {}

namespace Grammar

/-- The grammar with its rules declared in this order. -/
def arranged (g : Grammar) (rules : List Rule) : Grammar :=
  { g with rules := rules.mapIdx Rule.placedAt, ruleIndex := Rule.positions rules }

def startNames (g : Grammar) : List String := (g.rules.filter (·.isStart)).map Rule.name

def SameStarts (g h : Grammar) : Prop := g.startNames.Perm h.startNames

end Grammar

variable {g : Grammar} {r : Rule} {rules : List Rule} {i j : Nat} {n : String} {α : Type}

namespace Rule

theorem get?_positions (rules : List Rule) (n : String) :
    (positions rules).get? n = rules.findIdx? (·.name == n) := by
  induction rules using List.reverseRecOn generalizing n with
  | nil => rfl
  | append_singleton rest r ih =>
    rw [positions, List.zipIdx_append, List.foldl_append, Nat.zero_add]
    exact NameTable.get?_insertNew_eq_findIdx? ih r n

theorem placedAt_placedAt (r : Rule) : (r.placedAt j).placedAt i = r.placedAt i := by
  simp only [placedAt, List.map_map]
  rfl

theorem flatMap_placedAt {f : Alternative → List α} (i : Nat) (r : Rule)
    (hf : ∀ alt owner, f { alt with owner } = f alt) :
    (r.placedAt i).alternatives.flatMap f = r.alternatives.flatMap f := by
  rw [placedAt, List.flatMap_map]
  simp only [hf]

theorem any_placedAt {f : Alternative → Bool} (i : Nat) (r : Rule)
    (hf : ∀ alt owner, f { alt with owner } = f alt) :
    (r.placedAt i).alternatives.any f = r.alternatives.any f := by
  rw [placedAt, List.any_map]
  simp only [Function.comp_def, hf]

theorem firstLabel?_placedAt (i : Nat) (r : Rule) (n : String) :
    (r.placedAt i).firstLabel? n = r.firstLabel? n := by
  rw [firstLabel?, placedAt, List.findSome?_map]
  rfl

theorem filed_placedAt (hr : ∀ alt ∈ r.alternatives, alt.Filed) :
    ∀ alt ∈ (r.placedAt i).alternatives, alt.Filed := by
  intro alt hm
  obtain ⟨alt, ha, rfl⟩ := List.mem_map.1 hm
  exact ⟨(hr alt ha).labels, (hr alt ha).tokenRefs, (hr alt ha).ruleRefs⟩

theorem actions_placedAt (i : Nat) (r : Rule) : (r.placedAt i).actions = r.actions := by
  rw [actions, flatMap_placedAt i r fun _ _ => rfl]
  rfl

theorem labels_placedAt (i : Nat) (r : Rule) : (r.placedAt i).labels = r.labels := by
  rw [labels, flatMap_placedAt i r fun _ _ => rfl]
  rfl

theorem ruleNames_placedAt (i : Nat) (r : Rule) : (r.placedAt i).ruleNames = r.ruleNames := by
  rw [ruleNames, flatMap_placedAt i r fun _ _ => rfl]
  rfl

end Rule

section Arranged

variable (hn : (g.rules.map Rule.name).Nodup) (hp : rules.Perm g.rules)

include hp

theorem map_arranged {f f' : Rule → α} (hf : ∀ i r, f' (r.placedAt i) = f r) :
    ((g.arranged rules).rules.map f').Perm (g.rules.map f) := by
  rw [Grammar.arranged, map_mapIdx_eq hf]
  exact hp.map f

theorem flatMap_arranged {f f' : Rule → List α} (hf : ∀ i r, f' (r.placedAt i) = f r) :
    ((g.arranged rules).rules.flatMap f').Perm (g.rules.flatMap f) := by
  rw [List.flatMap_def, List.flatMap_def]
  exact (map_arranged hp hf).flatten

theorem Grammar.Tabled.arranged (hg : g.Tabled) : (g.arranged rules).Tabled where
  index n := by
    have hm : (rules.mapIdx Rule.placedAt).map Rule.name = rules.map Rule.name :=
      map_mapIdx_eq fun _ _ => rfl
    rw [Grammar.arranged, Rule.get?_positions, Grammar.findIdx?_congr hm]
  filed := by
    intro p hm
    obtain ⟨j, hj, rfl⟩ := List.mem_mapIdx.1 hm
    exact Rule.filed_placedAt (hg.filed rules[j] (hp.mem_iff.1 (List.getElem_mem hj)))

include hn

theorem find?_eq_of_perm (n : String) :
    rules.find? (·.name == n) = g.rules.find? (·.name == n) := by
  have hr : (rules.map Rule.name).Nodup := (hp.map Rule.name).nodup_iff.2 hn
  apply Option.ext
  intro target
  rw [Grammar.find?_eq_some_iff_declares hn, Grammar.Declares, ← hp.mem_iff]
  exact Grammar.find?_eq_some_iff_declares (g := { g with rules }) hr

/-- A name leads to the same rule, wherever the rule stands. -/
theorem rule?_arranged (key : Rule → α) (hg : g.Tabled)
    (hk : ∀ i r, key (r.placedAt i) = key r) (n : String) :
    (g.rule? n).map key = ((g.arranged rules).rule? n).map key := by
  have hf : ∀ rules : List Rule, (rules.find? (·.name == n)).map key =
      ((rules.map fun r => (r.name, key r)).find? (·.1 == n)).map Prod.snd := by
    intro rules
    rw [List.find?_map, Option.map_map]
    rfl
  have hm : (rules.mapIdx Rule.placedAt).map (fun r => (r.name, key r)) =
      rules.map fun r => (r.name, key r) :=
    map_mapIdx_eq fun i r => congrArg (Prod.mk r.name) (hk i r)
  rw [hg.rule?_eq_find?, (hg.arranged hp).rule?_eq_find?, ← find?_eq_of_perm hn hp, hf, ← hm, ← hf]
  rfl

theorem alike_arranged (hg : g.Tabled) (j : Nat) (r : Rule) :
    Site.Alike ⟨g, r⟩ ⟨g.arranged rules, r.placedAt j⟩ where
  kind := rfl
  scopes := rfl
  rules := rule?_arranged hn hp Rule.header hg fun _ _ => rfl
  header := rfl
  firstLabel n := (Rule.firstLabel?_placedAt j r n).symm
  tokens _ := (Rule.any_placedAt j r fun _ _ => rfl).symm
  ruleRefs _ := (Rule.any_placedAt j r fun _ _ => rfl).symm

theorem declares_arranged (hg : g.Tabled) (n : String) :
    (g.arranged rules).declares n = g.declares n :=
  (Grammar.declares_congr (rule?_arranged hn hp Rule.header hg (fun _ _ => rfl) n)).symm

end Arranged

namespace Check

section Arranged

variable (hn : (g.rules.map Rule.name).Nodup) (hp : rules.Perm g.rules)

include hn hp

theorem duplicateRules_arranged : duplicateRules (g.arranged rules) = duplicateRules g := by
  have hm : ((g.arranged rules).rules.map Rule.name).Perm (g.rules.map Rule.name) :=
    map_arranged hp fun _ _ => rfl
  rw [duplicateRules_eq_nil_iff.2 hn, duplicateRules_eq_nil_iff.2 (hm.nodup_iff.2 hn)]

omit hn in
theorem duplicateAttributes_arranged :
    (duplicateAttributes (g.arranged rules)).Perm (duplicateAttributes g) :=
  (flatMap_arranged hp fun _ _ => rfl).append_right _

theorem undeclaredRefs_arranged (hg : g.Tabled) :
    (undeclaredRefs (g.arranged rules)).Perm (undeclaredRefs g) := by
  refine flatMap_arranged hp fun i r => ?_
  rw [Rule.flatMap_placedAt i r fun _ _ => rfl]
  simp only [declares_arranged hn hp hg]

theorem conflictsOfLabels_arranged (hg : g.Tabled) :
    (conflictsOfLabels (g.arranged rules)).Perm (conflictsOfLabels g) := by
  refine flatMap_arranged hp fun i r => ?_
  refine conflictsInRule_congr (declares_arranged hn hp hg) ?_
  rw [Rule.labels_placedAt]

theorem referenceFaults_arranged (hg : g.Tabled) :
    (referenceFaults (g.arranged rules)).Perm (referenceFaults g) := by
  refine flatMap_arranged hp fun i r => ?_
  exact (faultsInRule_congr (alike_arranged hn hp hg i r) (Rule.actions_placedAt i r).symm).symm

theorem errors_arranged (hg : g.Tabled) : (errors (g.arranged rules)).Perm (errors g) := by
  rw [errors, duplicateRules_arranged hn hp]
  exact ((duplicateAttributes_arranged hp).append ((undeclaredRefs_arranged hn hp hg).append
    ((conflictsOfLabels_arranged hn hp hg).append
      (referenceFaults_arranged hn hp hg)))).append_left _

end Arranged

theorem startNames_withStartRules (g : Grammar) : (withStartRules g).startNames =
    (g.rules.map Rule.name).filter fun n => !(referredNames g).contains n := by
  rw [Grammar.startNames, withStartRules, List.filter_map, List.map_map, List.filter_map]
  rfl

theorem sameStarts_arranged (hp : rules.Perm g.rules) :
    (withStartRules g).SameStarts (withStartRules (g.arranged rules)) := by
  have hr : (referredNames (g.arranged rules)).Perm (referredNames g) := by
    refine flatMap_arranged hp fun i r => ?_
    rw [Rule.ruleNames_placedAt]
    rfl
  have hc : ∀ n, (referredNames (g.arranged rules)).contains n = (referredNames g).contains n := by
    intro n
    rw [Bool.eq_iff_iff, List.contains_iff_mem, List.contains_iff_mem, hr.mem_iff]
  simp only [Grammar.SameStarts, startNames_withStartRules, hc]
  exact ((map_arranged hp fun _ _ => rfl).filter _).symm

/-- The rules of a grammar can be declared in any order: the check finds the same errors, if in
another order, and the same start rules, and from each rule the same can be seen. -/
theorem order_of_rules_is_not_observable (hg : g.Reachable) (hn : (g.rules.map Rule.name).Nodup)
    (hp : rules.Perm g.rules) :
    let h := g.arranged rules
    (∀ log, ∃ found reported, found.Perm reported ∧
      ((analyse g).run log).2 = log ++ found ∧ ((analyse h).run log).2 = log ++ reported ∧
      ((analyse g).run log).1.Like Grammar.SameStarts ((analyse h).run log).1) ∧
    ∀ j r, rules[j]? = some r → h.rules[j]? = some (r.placedAt j) ∧
      (∀ target i y, Site.result? ⟨g, r⟩ target y =
        Site.result? ⟨h, r.placedAt j⟩ (target.placedAt i) y) ∧
      ∀ x y, (Site.resolve ⟨g, r⟩ x y).SameBy (Rule.placedAt 0)
        (Site.resolve ⟨h, r.placedAt j⟩ x y) := by
  intro h
  have ht := Grammar.tabled_reachable hg
  refine ⟨?_, ?_⟩
  · intro log
    have he := errors_arranged hn hp ht
    have hf : Diagnostics.hasErrors (errors h) = Diagnostics.hasErrors (errors g) := he.any_eq
    refine ⟨errors g, errors h, he.symm, ?_⟩
    rw [analyse_yields g log, analyse_yields h log, hf]
    exact ⟨rfl, rfl, Verdict.like_ofMark (sameStarts_arranged hp) _⟩
  · intro j r hj
    refine ⟨?_, fun _ _ _ => rfl, ?_⟩
    · change (rules.mapIdx Rule.placedAt)[j]? = _
      rw [List.getElem?_mapIdx, hj, Option.map_some]
    · exact (alike_arranged hn hp ht j r).resolve r.placedAt_placedAt.symm
        (rule?_arranged hn hp (Rule.placedAt 0) ht fun _ _ => Rule.placedAt_placedAt _)

/-- Two rules with a reference each that leads nowhere, declared the other way round. -/
theorem order_of_rules_is_not_observable_backwards :
    let g := ((Grammar.empty "P" .parser).run [.defineRule ⟨"a", {}⟩ 1, .defineRule ⟨"b", {}⟩ 1,
      .addRuleRef 0 1 ⟨"b", {}⟩, .addRuleRef 0 1 ⟨"c", {}⟩, .addRuleRef 1 1 ⟨"d", {}⟩]).1
    let h := g.arranged g.rules.reverse
    ((analyse g).run []).2.Perm ((analyse h).run []).2 ∧
      ((analyse g).run []).2 ≠ ((analyse h).run []).2 ∧
      ((analyse g).run []).1.Like Grammar.SameStarts ((analyse h).run []).1 := by
  intro g h
  have ho := order_of_rules_is_not_observable (g := g) ⟨_, _, _, rfl⟩ (by decide)
    g.rules.reverse_perm
  obtain ⟨found, reported, hp, hf, hr, hv⟩ := ho.1 []
  refine ⟨?_, by decide, hv⟩
  rw [hf, hr]
  exact hp

end Check
end GrammarRefs
