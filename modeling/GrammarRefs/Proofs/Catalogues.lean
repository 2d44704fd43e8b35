import GrammarRefs.Proofs.Issuance
import GrammarRefs.Proofs.Numbering
import GrammarRefs.Proofs.RuleTable

/-! Labels and references in the order in which a run files them. What is found in an alternative is
what has been filed there. -/
namespace GrammarRefs

/-- An item filed in an alternative of a rule. -/
structure Filing (α : Type) where
  rule : Nat
  alternative : Nat
  item : α

/-- What alternatives file by name: labels, references to tokens, or references to rules. -/
structure Catalogue (α : Type) where
  text : α → String
  table : Alternative → NameTable (List α)
  file : Alternative → α → Alternative
  step : Nat → Nat → α → BuildStep
  filing? : BuildStep → Option (Filing α)
  table_new : ∀ owner number, table { owner, number } = {}
  table_addAction : ∀ alt action, table (alt.addAction action) = table alt
  table_filed : ∀ alt, alt.Filed → (table alt).Filed text
  table_file : ∀ alt item, table (file alt item) = (table alt).extend (text item) [item]
  files : ∀ i k item, (step i k item).Files i k (file · item)
  filing?_iff : ∀ step' f, filing? step' = some f ↔ step' = step f.rule f.alternative f.item
  files_else : ∀ step i k file, filing? step = none → step.Files i k file →
    ∀ alt, table (file alt) = table alt

namespace Catalogue

def labels : Catalogue Label where
  text label := label.name.text
  table := Alternative.labels
  file := Alternative.addLabel
  step := .addLabel
  filing?
    | .addLabel i k label => some ⟨i, k, label⟩
    | _ => none
  table_new _ _ := rfl
  table_addAction _ _ := rfl
  table_filed _ h := h.labels
  table_file _ _ := rfl
  files := .label
  filing?_iff step f := by
    cases f
    cases step <;> simp
  files_else step i k file h hs := by
    cases hs with
    | label => cases h
    | _ => exact fun _ => rfl

def tokenRefs : Catalogue Token where
  text := Token.text
  table := Alternative.tokenRefs
  file := Alternative.addTokenRef
  step := .addTokenRef
  filing?
    | .addTokenRef i k token => some ⟨i, k, token⟩
    | _ => none
  table_new _ _ := rfl
  table_addAction _ _ := rfl
  table_filed _ h := h.tokenRefs
  table_file _ _ := rfl
  files := .tokenRef
  filing?_iff step f := by
    cases f
    cases step <;> simp
  files_else step i k file h hs := by
    cases hs with
    | tokenRef => cases h
    | _ => exact fun _ => rfl

def ruleRefs : Catalogue Token where
  text := Token.text
  table := Alternative.ruleRefs
  file := Alternative.addRuleRef
  step := .addRuleRef
  filing?
    | .addRuleRef i k token => some ⟨i, k, token⟩
    | _ => none
  table_new _ _ := rfl
  table_addAction _ _ := rfl
  table_filed _ h := h.ruleRefs
  table_file _ _ := rfl
  files := .ruleRef
  filing?_iff step f := by
    cases f
    cases step <;> simp
  files_else step i k file h hs := by
    cases hs with
    | ruleRef => cases h
    | _ => exact fun _ => rfl

variable {α : Type}

/-- A deed that fails files nothing. -/
def success? (c : Catalogue α) : Deed → Option (Filing α)
  | (step, .ok _) => c.filing? step
  | (_, .error _) => none

/-- What is filed under a name in alternative `k` of rule `i`, in the order of time. -/
def filed (c : Catalogue α) (past : List Deed) (i k : Nat) (n : String) : List α :=
  ((past.filterMap c.success?).filter fun f =>
    f.rule == i && f.alternative == k && c.text f.item == n).map Filing.item

/-- The same for all alternatives of the rule. -/
def filedInRule (c : Catalogue α) (past : List Deed) (i : Nat) (n : String) : List α :=
  ((past.filterMap c.success?).filter fun f => f.rule == i && c.text f.item == n).map Filing.item

/-- What stands under a name in alternative `k` of rule `i`, if there is such an alternative. -/
def found (c : Catalogue α) (g : Grammar) (i k : Nat) (n : String) : List α :=
  ((g.rules[i]?.bind (·.alternative? k)).bind fun alt => (c.table alt).get? n).getD []

end Catalogue

variable {α : Type} {c : Catalogue α} {g h : Grammar} {past : List Deed} {deed : Deed}
  {step : BuildStep} {answer : Except BuildError BuildAnswer} {r q : Rule} {i j k m : Nat}
  {n : String} {alt : Alternative} {file file' : Alternative → Alternative}

theorem BuildStep.Files.unique (hs : step.Files i k file) (ht : step.Files j m file') :
    i = j ∧ k = m ∧ file = file' := by
  cases hs <;> cases ht <;> exact ⟨rfl, rfl, rfl⟩

theorem Rule.alternative?_altered (hk : r.HasAlternative m) (k : Nat) :
    (r.altered m file).alternative? k = (r.alternative? k).map (if k = m then file else id) := by
  obtain ⟨h0, _⟩ := hk
  by_cases hz : k = 0
  · simp [alternative?, hz]
  · have hi : m - 1 = k - 1 ↔ k = m := by omega
    simp only [alternative?, hz, if_false, altered_alternatives, List.getElem?_modify, hi]
    split <;> simp

theorem Rule.alternative?_eq_some_iff :
    r.alternative? k = some alt ↔ k ≠ 0 ∧ r.alternatives[k - 1]? = some alt := by
  rw [alternative?]
  split <;> simp_all

namespace Catalogue

theorem filed_append (c : Catalogue α) (past : List Deed) (deed : Deed) (i k : Nat) (n : String) :
    c.filed (past ++ [deed]) i k n = c.filed past i k n ++
      ((c.success? deed).toList.filter fun f =>
        f.rule == i && f.alternative == k && c.text f.item == n).map Filing.item := by
  rw [filed, List.filterMap_append, filterMap_singleton, List.filter_append, List.map_append, filed]

theorem found_withRule (hr : g.rules[i]? = some r) (j k : Nat) (n : String) :
    c.found (g.withRule i q) j k n =
      if j = i then ((q.alternative? k).bind fun alt => (c.table alt).get? n).getD []
      else c.found g j k n := by
  have hi := (List.getElem?_eq_some_iff.1 hr).1
  rw [found, Grammar.withRule, List.getElem?_set]
  by_cases hj : j = i
  · simp [hj, hi]
  · simp [hj, Ne.symm hj, found]

theorem found_of_rule (hr : g.rules[i]? = some r) (k : Nat) (n : String) : c.found g i k n =
    ((r.alternative? k).bind fun alt => (c.table alt).get? n).getD [] := by
  rw [found, hr, Option.bind_some]

theorem found_withRule_eq (hr : g.rules[i]? = some r)
    (hq : ∀ k, (q.alternative? k).map c.table = (r.alternative? k).map c.table) :
    c.found (g.withRule i q) = c.found g := by
  have hb : ∀ p : Rule, ∀ k n, ((p.alternative? k).bind fun alt => (c.table alt).get? n) =
      ((p.alternative? k).map c.table).bind (·.get? n) := by
    intro p k n
    rw [Option.bind_map]
    rfl
  funext j k n
  rw [found_withRule hr]
  split
  · next hj => rw [hj, found_of_rule hr, hb, hq, ← hb]
  · rfl

theorem found_altered_eq (hr : g.rules[i]? = some r) (hm : r.HasAlternative m)
    (hf : ∀ alt, c.table (file alt) = c.table alt)
    (hq : q.alternatives = (r.altered m file).alternatives) :
    c.found (g.withRule i q) = c.found g := by
  refine found_withRule_eq hr fun k => ?_
  have ha : q.alternative? k = (r.altered m file).alternative? k := by
    rw [Rule.alternative?, hq, Rule.alternative?]
  rw [ha, Rule.alternative?_altered hm, Option.map_map]
  split
  · congr 1
    funext alt
    exact hf alt
  · rfl

theorem found_declaring (head : Token) (alts : Nat) :
    c.found (g.declaring head alts) = c.found g := by
  funext i k n
  rw [found, found, Grammar.declaring, List.getElem?_append]
  split
  · rfl
  · next hi =>
    rw [List.getElem?_eq_none (Nat.le_of_not_lt hi)]
    -- Nothing is found in a new rule, as in the places beyond it.
    cases i - g.rules.length with
    | succ _ => rfl
    | zero =>
      cases ha : (Rule.fresh g.rules.length head alts).alternative? k with
      | none => simp [ha]
      | some alt =>
        obtain ⟨_, hl⟩ := Rule.alternative?_eq_some_iff.1 ha
        obtain ⟨_, _, rfl⟩ := List.mem_map.1 (List.mem_of_getElem? hl)
        simp [ha, c.table_new, NameTable.get?]

/-- What is found is what has been filed. -/
def Recorded (c : Catalogue α) (past : List Deed) (g : Grammar) : Prop :=
  ∀ i k n, c.found g i k n = c.filed past i k n

theorem recorded_empty (c : Catalogue α) (name : String) (kind : GrammarKind) :
    c.Recorded [] (.empty name kind) := by
  intro i k n
  simp [found, Grammar.empty, filed]

theorem Recorded.idle (hg : c.Recorded past g) (hd : c.success? deed = none)
    (hf : c.found h = c.found g) : c.Recorded (past ++ [deed]) h := by
  intro i k n
  rw [filed_append, hd, hf, hg]
  exact (List.append_nil _).symm

theorem Recorded.filing {f : Filing α} {answer : BuildAnswer} (hg : c.Recorded past g)
    (hs : c.filing? step = some f) (hr : g.rules[f.rule]? = some r)
    (hk : r.HasAlternative f.alternative)
    (hf : ∀ alt, c.table (file alt) = (c.table alt).extend (c.text f.item) [f.item]) :
    c.Recorded (past ++ [(step, .ok answer)])
      (g.withRule f.rule (r.altered f.alternative file)) := by
  intro i k n
  have hd : c.success? (step, .ok answer) = some f := hs
  rw [filed_append, hd, ← hg, found_withRule hr]
  by_cases hi : i = f.rule
  · subst hi
    rw [if_pos rfl, found_of_rule hr, Rule.alternative?_altered hk]
    by_cases hm : k = f.alternative
    · subst hm
      obtain ⟨alt, ha⟩ := hk.exists_alternative
      have hl := Rule.alternative?_eq_some_iff.2 ⟨hk.1, ha⟩
      by_cases hn : n = c.text f.item
      · simp [hl, hf, NameTable.get?_extend, hn]
      · simp [hl, hf, NameTable.get?_extend, hn, Ne.symm hn]
    · simp [hm, Ne.symm hm]
  · simp [hi, Ne.symm hi]

theorem success?_eq_none (hs : ∀ i k file, ¬ step.Files i k file) :
    c.success? (step, answer) = none := by
  cases answer with
  | error e => rfl
  | ok a =>
    rw [success?, Option.eq_none_iff_forall_ne_some]
    intro f hf
    rw [c.filing?_iff] at hf
    exact hs _ _ _ (hf ▸ c.files ..)

theorem recorded_step (hg : c.Recorded past g) (hs : g.Effect step h answer) :
    c.Recorded (past ++ [(step, answer)]) h := by
  cases hs with
  | refused => exact hg.idle rfl rfl
  | declared => exact hg.idle (success?_eq_none nofun) (found_declaring ..)
  | changed hc hr =>
    refine hg.idle (success?_eq_none ?_) (found_withRule_eq hr ?_)
    · intro i k file hf
      cases hc <;> cases hf
    · intro k
      cases hc <;> rfl
  | filed hf hr hk =>
    cases hs : c.filing? step with
    | none => exact hg.idle hs (found_altered_eq hr hk (c.files_else _ _ _ _ hs hf) rfl)
    | some f =>
      have he := (c.filing?_iff _ _).1 hs
      subst he
      obtain ⟨rfl, rfl, rfl⟩ := hf.unique (c.files ..)
      exact hg.filing hs hr hk fun alt => c.table_file alt f.item
  | numbered hr hk | unnumbered hr hk | predicate hr hk =>
    refine hg.idle (success?_eq_none nofun) ?_
    exact found_altered_eq hr hk (fun alt => c.table_addAction alt _) rfl
  | scopeDefined | raised => exact hg.idle (success?_eq_none nofun) rfl

theorem recorded_run (c : Catalogue α) (name : String) (kind : GrammarKind)
    (steps : List BuildStep) :
    c.Recorded ((Grammar.empty name kind).history steps) ((Grammar.empty name kind).run steps).1 :=
  Grammar.history_induct (fun _ _ _ _ _ => recorded_step) steps (c.recorded_empty name kind)

end Catalogue

end GrammarRefs
