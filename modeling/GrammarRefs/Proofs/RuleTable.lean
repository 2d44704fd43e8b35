import GrammarRefs.Proofs.Construction
import GrammarRefs.Proofs.Filing

/-! Tables of a grammar that has been built: a rule is found under its name, and so are the labels
and references of its alternatives. -/
namespace GrammarRefs

structure Alternative.Filed (alt : Alternative) : Prop where
  labels : alt.labels.Filed (·.name.text)
  tokenRefs : alt.tokenRefs.Filed (·.text)
  ruleRefs : alt.ruleRefs.Filed (·.text)

/-- The index leads to the first rule of each name. -/
structure Grammar.Tabled (g : Grammar) : Prop where
  index : ∀ n, g.ruleIndex.get? n = g.rules.findIdx? (·.name == n)
  filed : ∀ r ∈ g.rules, ∀ alt ∈ r.alternatives, alt.Filed

variable {g : Grammar} {r q : Rule} {i k : Nat} {alt : Alternative}
  {file : Alternative → Alternative} {step : BuildStep}

theorem Alternative.filed_fresh (owner number : Nat) :
    Alternative.Filed { owner, number } :=
  ⟨NameTable.filed_empty, NameTable.filed_empty, NameTable.filed_empty⟩

theorem Alternative.Filed.after (ha : alt.Filed) (hs : step.Files i k file) : (file alt).Filed := by
  cases hs with
  | label => exact ⟨ha.labels.extend (by simp) (by simp), ha.tokenRefs, ha.ruleRefs⟩
  | tokenRef => exact ⟨ha.labels, ha.tokenRefs.extend (by simp) (by simp), ha.ruleRefs⟩
  | ruleRef => exact ⟨ha.labels, ha.tokenRefs, ha.ruleRefs.extend (by simp) (by simp)⟩

theorem Rule.filed_altered (hr : ∀ alt ∈ r.alternatives, alt.Filed)
    (hf : ∀ alt : Alternative, alt.Filed → (file alt).Filed) :
    ∀ alt ∈ (r.altered k file).alternatives, alt.Filed := by
  intro alt hm
  obtain ⟨j, hj⟩ := List.mem_iff_getElem?.1 hm
  rw [altered_alternatives, List.getElem?_modify] at hj
  cases hl : r.alternatives[j]? with
  | none => simp [hl] at hj
  | some earlier =>
    have he := hr earlier (List.mem_of_getElem? hl)
    rw [hl] at hj
    obtain rfl := Option.some.inj hj
    split
    · exact hf earlier he
    · exact he

namespace Grammar

theorem map_withRule {β : Type} (key : Rule → β) (hr : g.rules[i]? = some r)
    (hk : key q = key r) : (g.withRule i q).rules.map key = g.rules.map key := by
  obtain ⟨hi, rfl⟩ := List.getElem?_eq_some_iff.1 hr
  rw [withRule, List.map_set, hk, ← List.getElem_map key, List.set_getElem_self]
  simpa using hi

theorem forall_mem_withRule {property : Rule → Prop} (hg : ∀ p ∈ g.rules, property p)
    (hq : property q) : ∀ p ∈ (g.withRule i q).rules, property p := by
  intro p hp
  rcases List.mem_or_eq_of_mem_set hp with hp | rfl
  · exact hg p hp
  · exact hq

/-- Where a name stands can be told from the names alone. -/
theorem findIdx?_congr {rules others : List Rule}
    (h : rules.map Rule.name = others.map Rule.name) (n : String) :
    rules.findIdx? (·.name == n) = others.findIdx? (·.name == n) := by
  have hf : ∀ rules : List Rule,
      rules.findIdx? (·.name == n) = (rules.map Rule.name).findIdx? (· == n) := by
    intro rules
    rw [List.findIdx?_map]
    rfl
  rw [hf, h, ← hf]

theorem Tabled.withRule (hg : g.Tabled) (hr : g.rules[i]? = some r) (hn : q.name = r.name)
    (hq : ∀ alt ∈ q.alternatives, alt.Filed) : (g.withRule i q).Tabled := by
  refine ⟨?_, forall_mem_withRule hg.filed hq⟩
  intro n
  rw [findIdx?_congr (map_withRule Rule.name hr hn)]
  exact hg.index n

theorem Tabled.declaring (hg : g.Tabled) (head : Token) (alts : Nat) :
    (g.declaring head alts).Tabled := by
  refine ⟨?_, ?_⟩
  · exact NameTable.get?_insertNew_eq_findIdx? hg.index (.fresh g.rules.length head alts)
  · intro r hr
    rcases List.mem_append.1 hr with hr | hr
    · exact hg.filed r hr
    · rw [List.mem_singleton.1 hr]
      intro alt ha
      obtain ⟨k, _, rfl⟩ := List.mem_map.1 ha
      exact Alternative.filed_fresh ..

theorem Tabled.changed {f : Rule → Rule} {answer : Rule → BuildAnswer} (hg : g.Tabled)
    (hs : step.ChangesRule i f answer) (hr : g.rules[i]? = some r) :
    (g.withRule i (f r)).Tabled := by
  have hn : (f r).name = r.name := by
    cases hs <;> rfl
  have ha : (f r).alternatives = r.alternatives := by
    cases hs <;> rfl
  refine hg.withRule hr hn ?_
  rw [ha]
  exact hg.filed r (List.mem_of_getElem? hr)

theorem Tabled.altered (hg : g.Tabled) (hr : g.rules[i]? = some r)
    (hf : ∀ alt : Alternative, alt.Filed → (file alt).Filed) (hn : q.name = r.name)
    (hq : q.alternatives = (r.altered k file).alternatives) : (g.withRule i q).Tabled := by
  refine hg.withRule hr hn ?_
  rw [hq]
  exact Rule.filed_altered (hg.filed r (List.mem_of_getElem? hr)) hf

theorem Tabled.acted {action : Action} (hg : g.Tabled) (hr : g.rules[i]? = some r)
    (hn : q.name = r.name)
    (hq : q.alternatives = (r.altered k (·.addAction action)).alternatives) :
    (g.withRule i q).Tabled := by
  have hf : ∀ alt : Alternative, alt.Filed → (alt.addAction action).Filed :=
    fun _ ha => ⟨ha.labels, ha.tokenRefs, ha.ruleRefs⟩
  exact hg.altered hr hf hn hq

theorem Tabled.withRegistry (hg : g.Tabled) (registry : Registry) :
    Grammar.Tabled { g with registry } :=
  ⟨hg.index, hg.filed⟩

theorem tabled_step {h : Grammar} {answer : Except BuildError BuildAnswer} (hg : g.Tabled)
    (hs : g.Effect step h answer) : h.Tabled := by
  cases hs with
  | refused => exact hg
  | declared => exact hg.declaring ..
  | changed hs hr => exact hg.changed hs hr
  | filed hs hr => exact hg.altered hr (fun _ ha => ha.after hs) rfl rfl
  | scopeDefined => exact ⟨hg.index, hg.filed⟩
  | raised => exact ⟨hg.index, hg.filed⟩
  | numbered hr =>
    apply Tabled.withRegistry
    exact hg.acted hr rfl rfl
  | unnumbered hr => exact hg.acted hr rfl rfl
  | predicate hr =>
    apply Tabled.withRegistry
    exact hg.acted hr rfl rfl

theorem tabled_empty (name : String) (kind : GrammarKind) : (empty name kind).Tabled :=
  ⟨fun _ => rfl, by simp [empty]⟩

theorem tabled_reachable (h : g.Reachable) : g.Tabled :=
  h.induct tabled_empty fun _ _ _ _ hg hs => tabled_step hg hs

theorem Tabled.rule?_eq_find? (hg : g.Tabled) (n : String) :
    g.rule? n = g.rules.find? (·.name == n) := by
  rw [rule?, ruleIndex?, hg.index, List.find?_eq_bind_findIdx?_getElem?]

end Grammar
end GrammarRefs
