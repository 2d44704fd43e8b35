import GrammarRefs.Proofs.Checking
import GrammarRefs.Proofs.Issuance
import GrammarRefs.Proofs.RuleTable
import Mathlib.Data.List.Duplicate

/-! Names that are declared twice. Rules and attributes are all kept, so that a check can tell of
those that come again. Of the global scopes of a name only the last one is kept. -/
namespace GrammarRefs

/-- The name of the rule that has been declared. -/
def declaredRule? : Deed → Option String
  | (.defineRule head _, .ok _) => some head.text
  | _ => none

/-- The global scope that has been defined under the name. -/
def definedScope? (n : String) : Deed → Option Dict
  | (.defineScope name scope, .ok _) =>
    if n = name then some { scope with name := some name } else none
  | _ => none

/-- The dictionaries of a rule, and what their attributes are called. -/
def Rule.dicts (r : Rule) : List (String × Dict) :=
  r.arguments.toList.map ("argument", ·) ++ (r.returns.toList.map ("return value", ·) ++
    r.scope.toList.map ("scope attribute", ·))

/-- Something of that description and of that name has been declared twice. -/
inductive Repeats (past : List Deed) (g : Grammar) : String → String → Prop
  | rule {n : String} (hn : (past.filterMap declaredRule?).Duplicate n) : Repeats past g "rule" n
  | inRule {r : Rule} {what n : String} {d : Dict} (hr : r ∈ g.rules) (hd : (what, d) ∈ r.dicts)
    (hn : d.names.Duplicate n) : Repeats past g what n
  | inScope {name n : String} {d : Dict} (hd : g.scopes.get? name = some d)
    (hn : d.names.Duplicate n) : Repeats past g "scope attribute" n

/-- The declarations of a run that its grammar has kept. -/
structure Grammar.Retains (past : List Deed) (g : Grammar) : Prop where
  rules : g.rules.map Rule.name = past.filterMap declaredRule?
  scopes : ∀ n, g.scopes.get? n = (past.filterMap (definedScope? n)).getLast?

variable {g h : Grammar} {past : List Deed} {deed : Deed} {step : BuildStep} {what n : String}
  {answer : Except BuildError BuildAnswer} {r : Rule} {dict : Dict} {xs : List Diagnostic}

namespace Grammar

/-- A step that declares neither a rule nor a global scope. -/
theorem Retains.other (hg : g.Retains past) (hr : declaredRule? deed = none)
    (hs : ∀ n, definedScope? n deed = none) (hn : h.rules.map Rule.name = g.rules.map Rule.name)
    (hc : h.scopes = g.scopes) : h.Retains (past ++ [deed]) where
  rules := by
    rw [hn, hg.rules, List.filterMap_append, filterMap_singleton, hr, Option.toList_none,
      List.append_nil]
  scopes n := by
    rw [hc, hg.scopes, List.filterMap_append, filterMap_singleton, hs, Option.toList_none,
      List.append_nil]

theorem Retains.declaring (hg : g.Retains past) (head : Token) (alts : Nat)
    (answer : BuildAnswer) :
    (g.declaring head alts).Retains (past ++ [(.defineRule head alts, .ok answer)]) where
  rules := by
    rw [Grammar.declaring, List.map_append, hg.rules, List.filterMap_append]
    rfl
  scopes n := by
    rw [List.filterMap_append]
    exact (hg.scopes n).trans (congrArg List.getLast? (List.append_nil _).symm)

theorem Retains.defineScope (hg : g.Retains past) (name : String) (scope : Dict)
    (answer : BuildAnswer) :
    (g.defineScope name scope).Retains (past ++ [(.defineScope name scope, .ok answer)]) where
  rules := by
    rw [List.filterMap_append]
    exact hg.rules.trans (List.append_nil _).symm
  scopes n := by
    rw [Grammar.defineScope, NameTable.get?_insert, List.filterMap_append, filterMap_singleton,
      definedScope?]
    split
    · rw [Option.toList_some, List.getLast?_concat]
    · rw [Option.toList_none, List.append_nil, hg.scopes]

theorem retains_step (hg : g.Retains past) (hs : g.Effect step h answer) :
    h.Retains (past ++ [(step, answer)]) := by
  cases hs with
  | refused => exact hg.other (by cases step <;> rfl) (by cases step <;> intro <;> rfl) rfl rfl
  | declared => exact hg.declaring ..
  | scopeDefined => exact hg.defineScope ..
  | raised => exact hg.other rfl (fun _ => rfl) rfl rfl
  | changed hc hr =>
    refine hg.other (by cases hc <;> rfl) (by cases hc <;> intro <;> rfl) ?_ rfl
    exact map_withRule Rule.name hr (by cases hc <;> rfl)
  | filed hf hr =>
    refine hg.other (by cases hf <;> rfl) (by cases hf <;> intro <;> rfl) ?_ rfl
    exact map_withRule Rule.name hr rfl
  | numbered hr | unnumbered hr | predicate hr =>
    exact hg.other rfl (fun _ => rfl) (map_withRule Rule.name hr (by rfl)) rfl

theorem retains_empty (name : String) (kind : GrammarKind) : (empty name kind).Retains [] :=
  ⟨rfl, fun _ => rfl⟩

theorem retains_run (name : String) (kind : GrammarKind) (steps : List BuildStep) :
    (((empty name kind).run steps).1).Retains ((empty name kind).history steps) :=
  history_induct (fun _ _ _ _ _ => retains_step) steps (retains_empty name kind)

end Grammar

namespace Check

/-- The name is among those that are said to come again. -/
def Tells (what n : String) (xs : List Diagnostic) : Prop :=
  ∃ d ∈ xs, d.level = .error ∧ d.fault = .duplicate what n

theorem Tells.cons (h : Tells what n xs) (d : Diagnostic) : Tells what n (d :: xs) := by
  obtain ⟨e, he, hf⟩ := h
  exact ⟨e, List.mem_cons_of_mem d he, hf⟩

theorem Tells.of_subset {ys : List Diagnostic} (h : Tells what n xs) (hs : xs ⊆ ys) :
    Tells what n ys := by
  obtain ⟨d, hd, hf⟩ := h
  exact ⟨d, hs hd, hf⟩

theorem tells_of_seen {seen : NameTable Token} {items : List Token}
    (hs : (seen.get? n).isSome = true) (hn : n ∈ items.map (·.text)) :
    Tells what n (duplicatesAfter what seen items) := by
  induction items generalizing seen with
  | nil => simp at hn
  | cons item rest ih =>
    rw [duplicatesAfter]
    by_cases hi : item.text = n
    · obtain ⟨first, hf⟩ := Option.isSome_iff_exists.1 hs
      rw [hi, hf]
      exact ⟨_, List.mem_cons_self, rfl, congrArg (Fault.duplicate what) hi⟩
    · have hr : n ∈ rest.map (·.text) := by
        rcases List.mem_cons.1 hn with rfl | hn
        · exact absurd rfl hi
        · exact hn
      cases seen.get? item.text with
      | some first => exact (ih hs hr).cons _
      | none =>
        refine ih ?_ hr
        rw [NameTable.get?_insert, if_neg fun h => hi h.symm]
        exact hs

theorem tells_of_duplicate {seen : NameTable Token} {items : List Token}
    (hn : (items.map (·.text)).Duplicate n) :
    Tells what n (duplicatesAfter what seen items) := by
  induction items generalizing seen with
  | nil => exact absurd hn (List.not_duplicate_nil n)
  | cons item rest ih =>
    rw [duplicatesAfter]
    rcases List.duplicate_cons_iff.1 hn with ⟨hi, hm⟩ | hn
    · cases hs : seen.get? item.text with
      | some first => exact ⟨_, List.mem_cons_self, rfl, congrArg (Fault.duplicate what) hi⟩
      | none =>
        refine tells_of_seen ?_ hm
        rw [NameTable.get?_insert, if_pos hi.symm]
        rfl
    · cases seen.get? item.text with
      | some first => exact (ih hn).cons _
      | none => exact ih hn

theorem tells_of_names (hn : dict.names.Duplicate n) :
    Tells what n (duplicatesInDict what dict) := by
  apply tells_of_duplicate
  rwa [List.map_map]

theorem duplicatesInRule_eq (r : Rule) :
    duplicatesInRule r = r.dicts.flatMap fun e => duplicatesInDict e.1 e.2 := by
  simp only [duplicatesInRule, Rule.dicts, List.flatMap_append, List.flatMap_map]

theorem tells_of_attribute (hr : r ∈ g.rules) (hd : (what, dict) ∈ r.dicts)
    (hn : dict.names.Duplicate n) : Tells what n (duplicateAttributes g) := by
  refine (tells_of_names hn).of_subset fun d hm => List.mem_append_left _ ?_
  rw [List.mem_flatMap]
  refine ⟨r, hr, ?_⟩
  rw [duplicatesInRule_eq, List.mem_flatMap]
  exact ⟨_, hd, hm⟩

theorem tells_of_scope {name : String} (hs : g.scopes.get? name = some dict)
    (hn : dict.names.Duplicate n) : Tells "scope attribute" n (duplicateAttributes g) := by
  have hm : dict ∈ sortedScopes g :=
    mem_sortByName.2 (List.mem_map.2 ⟨_, NameTable.get?_eq_some_iff.1 hs, rfl⟩)
  exact (tells_of_names hn).of_subset fun _ hd =>
    List.mem_append_right _ (List.mem_flatMap.2 ⟨dict, hm, hd⟩)

theorem tells_of_repeats (hg : g.Retains past) (h : Repeats past g what n) :
    Tells what n (errors g) := by
  have ha : Tells what n (duplicateAttributes g) → Tells what n (errors g) := fun h =>
    h.of_subset fun _ hd => List.mem_append_right _ (List.mem_append_left _ hd)
  cases h with
  | rule hn =>
    have hr : Tells "rule" n (duplicateRules g) := by
      apply tells_of_duplicate
      rw [List.map_map]
      exact hg.rules ▸ hn
    exact hr.of_subset (List.subset_append_left _ _)
  | inRule hr hd hn => exact ha (tells_of_attribute hr hd hn)
  | inScope hd hn => exact ha (tells_of_scope hd hn)

/-- A rule or an attribute that has been declared twice is reported, whatever was reported before.
Global scopes are found as they were defined last, and the check sees no others. -/
theorem repetitions_are_reported (name : String) (kind : GrammarKind) (steps : List BuildStep) :
    let g := ((Grammar.empty name kind).run steps).1
    let past := (Grammar.empty name kind).history steps
    (∀ what n, Repeats past g what n → ∀ log, ∃ found, Tells what n found ∧
      (analyse g).run log = (.flawed (withStartRules g), log ++ found)) ∧
    ∀ n, g.scopes.get? n = (past.filterMap (definedScope? n)).getLast? := by
  intro g past
  have hg : g.Retains past := Grammar.retains_run name kind steps
  refine ⟨?_, hg.scopes⟩
  intro what n hr log
  have ht := tells_of_repeats hg hr
  refine ⟨errors g, ht, ?_⟩
  have he : Diagnostics.hasErrors (errors g) = true := by
    obtain ⟨d, hd, hl, _⟩ := ht
    exact hasErrors_iff.2 ⟨d, hd, hl⟩
  rw [analyse_yields g log, he]
  rfl

/-- A rule that is declared again after a step that fails, and an argument of a rule. -/
theorem repetitions_are_reported_after_failed_step :
    let steps : List BuildStep := [.defineRule ⟨"r", {}⟩ 1, .addTokenRef 0 2 ⟨"T", {}⟩,
      .setArguments 0 (some (.ofNames .argument ["a", "b", "a"])), .defineRule ⟨"r", {}⟩ 1]
    let g := ((Grammar.empty "P" .parser).run steps).1
    (∃ found, Tells "rule" "r" found ∧
      (analyse g).run [] = (.flawed (withStartRules g), found)) ∧
    ∃ found, Tells "argument" "a" found ∧
      (analyse g).run [] = (.flawed (withStartRules g), found) := by
  intro steps g
  have hr := (repetitions_are_reported "P" .parser steps).1
  refine ⟨hr "rule" "r" (.rule (by decide)) [], hr "argument" "a" ?_ []⟩
  exact .inRule (r := g.rules[0]) (List.getElem_mem _) List.mem_cons_self (by decide)

/-- Of two global scopes of one name the first is lost, and nothing is said of it. -/
theorem repeated_scope_is_not_reported :
    let scope (n : String) : Dict := .ofNames .ruleScope [n]
    let g := ((Grammar.empty "P" .parser).run [.defineRule ⟨"r", {}⟩ 1,
      .defineScope "S" (scope "a"), .defineScope "S" (scope "b")]).1
    (g.scopes.get? "S").map Dict.names = some ["b"] ∧
      (analyse g).run [] = (.accepted (withStartRules g), []) :=
  ⟨rfl, rfl⟩

end Check
end GrammarRefs
