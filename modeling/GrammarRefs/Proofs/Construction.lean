import GrammarRefs.Grammar.Build
import GrammarRefs.Proofs.Edits

/-! What a step of a construction does to the grammar: nothing if it fails, and one change
otherwise. -/
namespace GrammarRefs

namespace BuildStep

/-- Steps that change what a rule is declared with, and what they answer. -/
inductive ChangesRule : BuildStep → Nat → (Rule → Rule) → (Rule → BuildAnswer) → Prop
  | arguments (i : Nat) (dict : Option Dict) :
    ChangesRule (.setArguments i dict) i ({ · with arguments := dict }) fun _ => .done
  | returns (i : Nat) (dict : Option Dict) :
    ChangesRule (.setReturns i dict) i ({ · with returns := dict }) fun _ => .done
  | scope (i : Nat) (dict : Option Dict) :
    ChangesRule (.setScope i dict) i ({ · with scope := dict }) fun _ => .done
  | modifiers (i : Nat) (modifiers : List Token) :
    ChangesRule (.setModifiers i modifiers) i ({ · with modifiers := modifiers }) fun _ => .done
  | usedScopes (i : Nat) (names : List Token) :
    ChangesRule (.setUsedScopes i names) i ({ · with usedScopes := names }) fun _ => .done
  | mode (i : Nat) (mode : Option String) :
    ChangesRule (.setMode i mode) i ({ · with mode := mode }) fun _ => .done
  | namedAction (i : Nat) (name : String) (snippet : Snippet) :
    ChangesRule (.setNamedAction i name snippet) i
      (fun r => { r with namedActions := r.namedActions.insert name (snippet.numbered none) })
      fun r => .replaced (r.namedActions.contains name)
  | exceptionAction (i : Nat) (snippet : Snippet) :
    ChangesRule (.addExceptionAction i snippet) i
      (fun r => { r with exceptionActions := r.exceptionActions ++ [snippet.numbered none] })
      fun _ => .done
  | finallyAction (i : Nat) (snippet : Snippet) :
    ChangesRule (.setFinallyAction i snippet) i
      ({ · with finallyAction := some (snippet.numbered none) }) fun _ => .done

/-- Steps that file a name in an alternative. -/
inductive Files : BuildStep → Nat → Nat → (Alternative → Alternative) → Prop
  | label (i k : Nat) (label : Label) : Files (.addLabel i k label) i k (·.addLabel label)
  | tokenRef (i k : Nat) (token : Token) : Files (.addTokenRef i k token) i k (·.addTokenRef token)
  | ruleRef (i k : Nat) (token : Token) : Files (.addRuleRef i k token) i k (·.addRuleRef token)

/-- Steps that put an action in an alternative. -/
inductive Acts : BuildStep → Nat → Nat → Prop
  | action (i k : Nat) (snippet : Snippet) : Acts (.addAction i k snippet) i k
  | predicate (i k : Nat) (snippet : Snippet) : Acts (.addPredicate i k snippet) i k

end BuildStep

namespace Grammar

def declaring (g : Grammar) (head : Token) (alts : Nat) : Grammar :=
  { g with
    ruleIndex := g.ruleIndex.insertNew head.text g.rules.length
    rules := g.rules ++ [.fresh g.rules.length head alts] }

def withRule (g : Grammar) (i : Nat) (r : Rule) : Grammar := { g with rules := g.rules.set i r }

/-- Why a step fails. -/
inductive Refuses (g : Grammar) : BuildStep → BuildError → Prop
  | noAlternative (head : Token) :
    Refuses g (.defineRule head 0) (.structural (.noAlternative head.text))
  | noRuleToChange {step : BuildStep} {i : Nat} {f : Rule → Rule} {answer : Rule → BuildAnswer}
    (hs : step.ChangesRule i f answer) (hi : g.rules.length ≤ i) : Refuses g step (.noSuchRule i)
  | noRuleToFile {step : BuildStep} {i k : Nat} {f : Alternative → Alternative}
    (hs : step.Files i k f) (hi : g.rules.length ≤ i) : Refuses g step (.noSuchRule i)
  | noRuleToAct {step : BuildStep} {i k : Nat} (hs : step.Acts i k) (hi : g.rules.length ≤ i) :
    Refuses g step (.structural (.ruleOutOfRange i g.rules.length))
  | noAlternativeToFile {step : BuildStep} {i k : Nat} {f : Alternative → Alternative} {r : Rule}
    (hs : step.Files i k f) (hr : g.rules[i]? = some r) (hk : ¬ r.HasAlternative k) :
    Refuses g step (.structural (.altOutOfRange r.name k r.alternatives.length))
  | noAlternativeToAct {step : BuildStep} {i k : Nat} {r : Rule}
    (hs : step.Acts i k) (hr : g.rules[i]? = some r) (hk : ¬ r.HasAlternative k) :
    Refuses g step (.structural (.altOutOfRange r.name k r.alternatives.length))

/-- What a step makes of a grammar, and what it answers. -/
inductive Effect (g : Grammar) : BuildStep → Grammar → Except BuildError BuildAnswer → Prop
  | refused {step : BuildStep} {e : BuildError} (he : g.Refuses step e) : Effect g step g (.error e)
  | declared {head : Token} {alts : Nat} (ha : alts ≠ 0) :
    Effect g (.defineRule head alts) (g.declaring head alts) (.ok (.index g.rules.length))
  | changed {step : BuildStep} {i : Nat} {f : Rule → Rule} {answer : Rule → BuildAnswer} {r : Rule}
    (hs : step.ChangesRule i f answer) (hr : g.rules[i]? = some r) :
    Effect g step (g.withRule i (f r)) (.ok (answer r))
  | filed {step : BuildStep} {i k : Nat} {f : Alternative → Alternative} {r : Rule}
    (hs : step.Files i k f) (hr : g.rules[i]? = some r) (hk : r.HasAlternative k) :
    Effect g step (g.withRule i (r.altered k f)) (.ok .done)
  | numbered {i k n : Nat} {snippet : Snippet} {r : Rule} (hr : g.rules[i]? = some r)
    (hk : r.HasAlternative k) (hs : (g.registry.lexer || snippet.isForced) = true)
    (hn : n = g.registry.actions.length + 1) :
    Effect g (.addAction i k snippet)
      { g.withRule i { r.altered k (·.addAction (snippet.numbered (some n))) with
          lastAction := some n } with
        registry := (g.registry.addAction snippet).2.2 } (.ok (.index n))
  | unnumbered {i k : Nat} {snippet : Snippet} {r : Rule} (hr : g.rules[i]? = some r)
    (hk : r.HasAlternative k) (hs : (g.registry.lexer || snippet.isForced) = false) :
    Effect g (.addAction i k snippet)
      (g.withRule i (r.altered k (·.addAction (snippet.numbered none)))) (.ok .done)
  | predicate {i k n : Nat} {snippet : Snippet} {r : Rule} (hr : g.rules[i]? = some r)
    (hk : r.HasAlternative k) (hn : n = g.registry.predicates.length + 1) :
    Effect g (.addPredicate i k snippet)
      { g.withRule i (r.altered k (·.addAction (snippet.numbered (some n)))) with
        registry := (g.registry.addPredicate snippet).2.2 } (.ok (.index n))
  | scopeDefined {name : String} {scope : Dict} :
    Effect g (.defineScope name scope) (g.defineScope name scope) (.ok .done)
  | raised {level : PrintLevel} :
    Effect g (.raisePrintLevel level) (g.raisePrintLevel level) (.ok .done)

variable {g : Grammar} {step : BuildStep} {i k : Nat} {r q : Rule} {registry : Registry}
  {α : Type} {a : α} {edit : Editing α} {fault : StructuralFault} {f : Rule → Rule}
  {answer : Rule → BuildAnswer} {file : Alternative → Alternative}

theorem withRule_self (hr : g.rules[i]? = some r) : g.withRule i r = g := by
  obtain ⟨hi, rfl⟩ := List.getElem?_eq_some_iff.1 hr
  rw [withRule, List.set_getElem_self]

theorem editRule_run (hr : g.rules[i]? = some r)
    (he : edit (r, g.registry) = (.ok a, (q, registry))) :
    editRule i edit g = (.ok a, { g.withRule i q with registry }) := by
  rw [editRule, hr]
  simp only [he]
  rfl

theorem editRule_fails (hr : g.rules[i]? = some r)
    (he : edit (r, g.registry) = (.error fault, (r, g.registry))) :
    editRule i edit g = (.error (.structural fault), g) := by
  have hg : { g.withRule i r with registry := g.registry } = g := withRule_self hr
  rw [editRule, hr]
  simp only [he]
  exact congrArg (Prod.mk _) hg

theorem editRule_no_rule (hi : g.rules.length ≤ i) :
    editRule i edit g = (.error (.noSuchRule i), g) := by
  rw [editRule, List.getElem?_eq_none hi]

theorem requireRule_run (hr : g.rules[i]? = some r) : requireRule i g = (.ok (), g) := by
  have hi : ¬ g.rules.length ≤ i := by
    have := (List.getElem?_eq_some_iff.1 hr).1
    omega
  change (if g.rules.length ≤ i then _ else _ : Building Unit) g = _
  rw [if_neg hi]
  rfl

theorem requireRule_fails (hi : g.rules.length ≤ i) :
    requireRule i g = (.error (.structural (.ruleOutOfRange i g.rules.length)), g) := by
  change (if g.rules.length ≤ i then _ else _ : Building Unit) g = _
  rw [if_pos hi]
  rfl

theorem build_of_changes (hs : step.ChangesRule i f answer) (hr : g.rules[i]? = some r) :
    build step g = (.ok (answer r), g.withRule i (f r)) := by
  cases hs with
  | namedAction => exact map_of_ok _ (editRule_run hr rfl)
  | _ => exact bind_of_ok (editRule_run hr rfl) rfl

theorem build_of_changes_no_rule (hs : step.ChangesRule i f answer) (hi : g.rules.length ≤ i) :
    build step g = (.error (.noSuchRule i), g) := by
  cases hs <;> exact bind_of_error (editRule_no_rule hi)

theorem build_of_files (hs : step.Files i k file) (hr : g.rules[i]? = some r)
    (hk : r.HasAlternative k) : build step g = (.ok .done, g.withRule i (r.altered k file)) := by
  cases hs <;> exact bind_of_ok (editRule_run hr (Rule.changeAlternative_run hk)) rfl

theorem build_of_files_no_rule (hs : step.Files i k file) (hi : g.rules.length ≤ i) :
    build step g = (.error (.noSuchRule i), g) := by
  cases hs <;> exact bind_of_error (editRule_no_rule hi)

theorem build_of_files_no_alternative (hs : step.Files i k file) (hr : g.rules[i]? = some r)
    (hk : ¬ r.HasAlternative k) :
    build step g = (.error (.structural (.altOutOfRange r.name k r.alternatives.length)), g) := by
  cases hs <;> exact bind_of_error (editRule_fails hr (Rule.changeAlternative_fails hk))

theorem build_of_acts_no_rule (hs : step.Acts i k) (hi : g.rules.length ≤ i) :
    build step g = (.error (.structural (.ruleOutOfRange i g.rules.length)), g) := by
  cases hs <;> exact map_of_error _ (bind_of_error (requireRule_fails hi))

theorem build_of_acts_no_alternative (hs : step.Acts i k) (hr : g.rules[i]? = some r)
    (hk : ¬ r.HasAlternative k) :
    build step g = (.error (.structural (.altOutOfRange r.name k r.alternatives.length)), g) := by
  cases hs with
  | action =>
    exact map_of_error _ (bind_of_ok (requireRule_run hr)
      (editRule_fails hr (Rule.addAction_fails hk)))
  | predicate =>
    exact map_of_error _ (bind_of_ok (requireRule_run hr)
      (editRule_fails hr (Rule.addPredicate_fails hk)))

theorem effect_of_build {h : Grammar} {result : Except BuildError BuildAnswer}
    (hb : build step g = (result, h)) (he : g.Effect step h result) :
    g.Effect step (g.perform step).1 (g.perform step).2 := by
  have hp : g.perform step = (h, result) := by rw [perform, hb]
  rwa [hp]

theorem effect_of_changes (hs : step.ChangesRule i f answer) :
    g.Effect step (g.perform step).1 (g.perform step).2 := by
  cases hr : g.rules[i]? with
  | none =>
    have hi := List.getElem?_eq_none_iff.1 hr
    exact effect_of_build (build_of_changes_no_rule hs hi) (.refused (.noRuleToChange hs hi))
  | some r => exact effect_of_build (build_of_changes hs hr) (.changed hs hr)

theorem effect_of_files (hs : step.Files i k file) :
    g.Effect step (g.perform step).1 (g.perform step).2 := by
  cases hr : g.rules[i]? with
  | none =>
    have hi := List.getElem?_eq_none_iff.1 hr
    exact effect_of_build (build_of_files_no_rule hs hi) (.refused (.noRuleToFile hs hi))
  | some r =>
    by_cases hk : r.HasAlternative k
    · exact effect_of_build (build_of_files hs hr hk) (.filed hs hr hk)
    · exact effect_of_build (build_of_files_no_alternative hs hr hk)
        (.refused (.noAlternativeToFile hs hr hk))

theorem effect_of_acts (hs : step.Acts i k)
    (hb : ∀ r, g.rules[i]? = some r → r.HasAlternative k →
      g.Effect step (g.perform step).1 (g.perform step).2) :
    g.Effect step (g.perform step).1 (g.perform step).2 := by
  cases hr : g.rules[i]? with
  | none =>
    have hi := List.getElem?_eq_none_iff.1 hr
    exact effect_of_build (build_of_acts_no_rule hs hi) (.refused (.noRuleToAct hs hi))
  | some r =>
    by_cases hk : r.HasAlternative k
    · exact hb r hr hk
    · exact effect_of_build (build_of_acts_no_alternative hs hr hk)
        (.refused (.noAlternativeToAct hs hr hk))

theorem build_of_numbered {snippet : Snippet} {n : Nat} (hr : g.rules[i]? = some r)
    (hk : r.HasAlternative k) (hs : (g.registry.lexer || snippet.isForced) = true)
    (hn : n = g.registry.actions.length + 1) : build (.addAction i k snippet) g = (.ok (.index n),
      { g.withRule i { r.altered k (·.addAction (snippet.numbered (some n))) with
          lastAction := some n } with
        registry := (g.registry.addAction snippet).2.2 }) := by
  subst hn
  have he := editRule_run hr (Rule.addAction_numbered hk hs)
  have ha : addAction i k snippet g = _ := bind_of_ok (requireRule_run hr) he
  exact map_of_ok _ ha

theorem build_of_unnumbered {snippet : Snippet} (hr : g.rules[i]? = some r)
    (hk : r.HasAlternative k) (hs : (g.registry.lexer || snippet.isForced) = false) :
    build (.addAction i k snippet) g =
      (.ok .done, g.withRule i (r.altered k (·.addAction (snippet.numbered none)))) := by
  have he := editRule_run hr (Rule.addAction_unnumbered hk hs)
  have ha : addAction i k snippet g = _ := bind_of_ok (requireRule_run hr) he
  exact map_of_ok _ ha

theorem build_of_predicate {snippet : Snippet} {n : Nat} (hr : g.rules[i]? = some r)
    (hk : r.HasAlternative k) (hn : n = g.registry.predicates.length + 1) :
    build (.addPredicate i k snippet) g = (.ok (.index n),
      { g.withRule i (r.altered k (·.addAction (snippet.numbered (some n)))) with
        registry := (g.registry.addPredicate snippet).2.2 }) := by
  subst hn
  have he := editRule_run hr (@Rule.addPredicate_run r k g.registry snippet hk)
  have ha : addPredicate i k snippet g = _ := bind_of_ok (requireRule_run hr) he
  exact map_of_ok _ ha

theorem build_of_declared {head : Token} {alts : Nat} (ha : alts ≠ 0) :
    build (.defineRule head alts) g = (.ok (.index g.rules.length), g.declaring head alts) := by
  have hc : Rule.create g.rules.length head alts = .ok (.fresh g.rules.length head alts) :=
    if_neg ha
  have hd : declareRule head alts g = (.ok g.rules.length, g.declaring head alts) := by
    refine bind_of_ok (a := g) (t := g) rfl ?_
    simp only [hc]
    rfl
  exact map_of_ok _ hd

theorem effect_addAction (g : Grammar) (i k : Nat) (snippet : Snippet) :
    g.Effect (.addAction i k snippet) (g.perform (.addAction i k snippet)).1
      (g.perform (.addAction i k snippet)).2 := by
  refine effect_of_acts (.action i k snippet) fun r hr hk => ?_
  cases hs : g.registry.lexer || snippet.isForced with
  | true => exact effect_of_build (build_of_numbered hr hk hs rfl) (.numbered hr hk hs rfl)
  | false => exact effect_of_build (build_of_unnumbered hr hk hs) (.unnumbered hr hk hs)

theorem effect_addPredicate (g : Grammar) (i k : Nat) (snippet : Snippet) :
    g.Effect (.addPredicate i k snippet) (g.perform (.addPredicate i k snippet)).1
      (g.perform (.addPredicate i k snippet)).2 := by
  refine effect_of_acts (.predicate i k snippet) fun r hr hk => ?_
  exact effect_of_build (build_of_predicate hr hk rfl) (.predicate hr hk rfl)

theorem effect_defineRule (g : Grammar) (head : Token) (alts : Nat) :
    g.Effect (.defineRule head alts) (g.perform (.defineRule head alts)).1
      (g.perform (.defineRule head alts)).2 := by
  by_cases ha : alts = 0
  · subst ha
    exact .refused (.noAlternative head)
  · exact effect_of_build (build_of_declared ha) (.declared ha)

/-- Every step has one of the effects. -/
theorem effect_perform (g : Grammar) (step : BuildStep) :
    g.Effect step (g.perform step).1 (g.perform step).2 := by
  cases step with
  | defineRule head alts => exact effect_defineRule g head alts
  | setArguments => exact effect_of_changes (.arguments ..)
  | setReturns => exact effect_of_changes (.returns ..)
  | setScope => exact effect_of_changes (.scope ..)
  | setModifiers => exact effect_of_changes (.modifiers ..)
  | setUsedScopes => exact effect_of_changes (.usedScopes ..)
  | setMode => exact effect_of_changes (.mode ..)
  | addAction i k snippet => exact effect_addAction g i k snippet
  | addPredicate i k snippet => exact effect_addPredicate g i k snippet
  | setNamedAction => exact effect_of_changes (.namedAction ..)
  | addExceptionAction => exact effect_of_changes (.exceptionAction ..)
  | setFinallyAction => exact effect_of_changes (.finallyAction ..)
  | addLabel => exact effect_of_files (.label ..)
  | addTokenRef => exact effect_of_files (.tokenRef ..)
  | addRuleRef => exact effect_of_files (.ruleRef ..)
  | defineScope name scope => exact .scopeDefined
  | raisePrintLevel level => exact .raised

/-- A step has no other effect. -/
theorem perform_of_effect {h : Grammar} {result : Except BuildError BuildAnswer}
    (he : g.Effect step h result) : g.perform step = (h, result) := by
  have hb : build step g = (result, h) := by
    cases he with
    | refused hf =>
      cases hf with
      | noAlternative => rfl
      | noRuleToChange hs hi => exact build_of_changes_no_rule hs hi
      | noRuleToFile hs hi => exact build_of_files_no_rule hs hi
      | noRuleToAct hs hi => exact build_of_acts_no_rule hs hi
      | noAlternativeToFile hs hr hk => exact build_of_files_no_alternative hs hr hk
      | noAlternativeToAct hs hr hk => exact build_of_acts_no_alternative hs hr hk
    | declared ha => exact build_of_declared ha
    | changed hs hr => exact build_of_changes hs hr
    | filed hs hr hk => exact build_of_files hs hr hk
    | numbered hr hk hs hn => exact build_of_numbered hr hk hs hn
    | unnumbered hr hk hs => exact build_of_unnumbered hr hk hs
    | predicate hr hk hn => exact build_of_predicate hr hk hn
    | scopeDefined | raised => rfl
  rw [perform, hb]

theorem run_induct {motive : Grammar → Prop}
    (hs : ∀ g step h answer, motive g → g.Effect step h answer → motive h)
    (steps : List BuildStep) (hg : motive g) : motive (g.run steps).1 := by
  induction steps generalizing g with
  | nil => exact hg
  | cons step steps ih => exact ih (hs g step _ _ hg (effect_perform g step))

/-- What holds of the empty grammars and what every step keeps holds of all that can be built. -/
theorem Reachable.induct {motive : Grammar → Prop} (hi : ∀ name kind, motive (empty name kind))
    (hs : ∀ g step h answer, motive g → g.Effect step h answer → motive h)
    (h : g.Reachable) : motive g := by
  obtain ⟨name, kind, steps, rfl⟩ := h
  exact run_induct hs steps (hi name kind)

end Grammar
end GrammarRefs
