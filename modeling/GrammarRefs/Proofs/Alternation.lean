import GrammarRefs.Proofs.Isolation
import GrammarRefs.Proofs.Records

/-! Alternatives in another order. All definitions of a label in an accepted grammar are of one
kind, but those that name rules may name different ones. -/
namespace GrammarRefs

/-- The rule with these alternatives instead, which are numbered anew. -/
def Rule.rearranged (r : Rule) (alts : List Alternative) : Rule :=
  { r with alternatives := alts.mapIdx fun k alt => { alt with number := k + 1 } }

/-- The rule as it looks from outside its alternatives. -/
def Rule.outside (r : Rule) : Rule := { r with alternatives := [] }

namespace Site

/-- All the definitions of the name lead to the same offer. -/
def Settled {β : Type} (offer : Option Rule → β) (s : Site) (x : String) : Prop :=
  ∀ a ∈ s.rule.definitionsOf x, ∀ b ∈ s.rule.definitionsOf x,
    offer (s.target? a) = offer (s.target? b)

/-- The definitions of the name are at one on whether the reference is accepted. -/
def SettledFor (s : Site) : Reference → Prop
  | .simple _ => True
  | .qualified x y => (s.attribute? x.text).isSome ∨ s.Settled (s.hasResult y.text) x.text
  | .dynamic x y => s.Settled (s.hasDynamic x.text y.text) x.text

instance {β : Type} [DecidableEq β] (offer : Option Rule → β) (s : Site) (x : String) :
    Decidable (s.Settled offer x) :=
  inferInstanceAs (Decidable (∀ a ∈ _, ∀ b ∈ _, _))

instance (s : Site) : (ref : Reference) → Decidable (s.SettledFor ref)
  | .simple _ => inferInstanceAs (Decidable True)
  | .qualified x y =>
    inferInstanceAs (Decidable (_ ∨ s.Settled (s.hasResult y.text) x.text))
  | .dynamic x y => inferInstanceAs (Decidable (s.Settled (s.hasDynamic x.text y.text) x.text))

end Site

variable {g : Grammar} {r : Rule} {i : Nat} {alts : List Alternative} {x : String} {α β : Type}
  {offer : Option Rule → β}

namespace Rule

theorem map_rearranged {f : Alternative → α} (hp : alts.Perm r.alternatives)
    (hf : ∀ alt number, f { alt with number } = f alt) :
    ((r.rearranged alts).alternatives.map f).Perm (r.alternatives.map f) := by
  rw [rearranged, map_mapIdx_eq fun k alt => hf alt (k + 1)]
  exact hp.map f

theorem flatMap_rearranged {f : Alternative → List α} (hp : alts.Perm r.alternatives)
    (hf : ∀ alt number, f { alt with number } = f alt) :
    ((r.rearranged alts).alternatives.flatMap f).Perm (r.alternatives.flatMap f) := by
  rw [List.flatMap_def, List.flatMap_def]
  exact (map_rearranged hp hf).flatten

theorem any_rearranged {f : Alternative → Bool} (hp : alts.Perm r.alternatives)
    (hf : ∀ alt number, f { alt with number } = f alt) :
    (r.rearranged alts).alternatives.any f = r.alternatives.any f := by
  have ha := (map_rearranged hp hf).any_eq (f := id)
  rwa [List.any_map, List.any_map] at ha

theorem filed_rearranged (hp : alts.Perm r.alternatives) (hf : ∀ alt ∈ r.alternatives, alt.Filed) :
    ∀ alt ∈ (r.rearranged alts).alternatives, alt.Filed := by
  intro alt ha
  obtain ⟨k, hk, rfl⟩ := List.mem_mapIdx.1 ha
  have hm := hf alts[k] (hp.mem_iff.1 (List.getElem_mem hk))
  exact ⟨hm.labels, hm.tokenRefs, hm.ruleRefs⟩

theorem actions_rearranged (hp : alts.Perm r.alternatives) :
    (r.rearranged alts).actions.Perm r.actions := by
  have ha := flatMap_rearranged hp (f := Alternative.actions) fun _ _ => rfl
  exact ((ha.append_right _).append_right _).append_right _

theorem labelDefinitions_rearranged (hp : alts.Perm r.alternatives) :
    (r.rearranged alts).labelDefinitions.Perm r.labelDefinitions :=
  flatMap_rearranged hp fun _ _ => rfl

theorem definitionsOf_rearranged (hp : alts.Perm r.alternatives) (x : String) :
    ((r.rearranged alts).definitionsOf x).Perm (r.definitionsOf x) :=
  (labelDefinitions_rearranged hp).filter _

/-- The definitions that come first before and after are among those of the rule. -/
theorem firstLabels_rearranged (hp : alts.Perm r.alternatives)
    (hf : ∀ alt ∈ r.alternatives, alt.Filed) (x : String) :
    (r.firstLabel? x = none ∧ (r.rearranged alts).firstLabel? x = none) ∨
    ∃ a ∈ r.definitionsOf x, ∃ b ∈ r.definitionsOf x,
      r.firstLabel? x = some a ∧ (r.rearranged alts).firstLabel? x = some b := by
  have hd := definitionsOf_rearranged hp x
  rw [firstLabel?_eq_head?_definitionsOf hf,
    firstLabel?_eq_head?_definitionsOf (filed_rearranged hp hf)]
  cases hl : r.definitionsOf x with
  | nil =>
    rw [hl] at hd
    rw [hd.eq_nil]
    exact .inl ⟨rfl, rfl⟩
  | cons a rest =>
    rw [hl] at hd
    cases hq : (r.rearranged alts).definitionsOf x with
    | nil =>
      rw [hq] at hd
      cases hd.symm.eq_nil
    | cons b others =>
      rw [hq] at hd
      exact .inr ⟨a, by simp, b, hd.mem_iff.1 (by simp), rfl, rfl⟩

end Rule

theorem Grammar.WellFormed.kind_eq (hw : g.WellFormed) (hm : r ∈ g.rules) {a b : Label}
    (ha : a ∈ r.definitionsOf x) (hb : b ∈ r.definitionsOf x) : a.kind = b.kind := by
  obtain ⟨first, later, hd⟩ := List.exists_cons_of_ne_nil (List.ne_nil_of_mem ha)
  have hl : r.Labels x first := Rule.labels_iff.2 ⟨later, hd⟩
  obtain ⟨ha, hxa⟩ := Rule.mem_definitionsOf.1 ha
  obtain ⟨hb, hxb⟩ := Rule.mem_definitionsOf.1 hb
  rw [hw.kinds r hm x first hl a ha hxa, hw.kinds r hm x first hl b hb hxb]

theorem Grammar.WellFormed.accepts (hw : g.WellFormed) (ht : g.Tabled) (hm : r ∈ g.rules)
    {action : Action} (ha : action ∈ r.actions) {ref : Reference} (hf : ref ∈ action.references) :
    Site.accepts ⟨g, r⟩ ref = true :=
  (Site.accepts_iff_resolves (ht.legible hw.rules hm) ref).2
    (hw.references r hm action (Rule.mem_actions.1 ha) ref hf)

section Rearranged

variable (hr : g.rules[i]? = some r) (hp : alts.Perm r.alternatives)

include hr hp

theorem Site.alikeAt_rearranged (ht : g.Tabled) (hw : g.WellFormed) (x : String) :
    Site.AlikeAt x ⟨g, r⟩ ⟨g.withRule i (r.rearranged alts), r.rearranged alts⟩ where
  kind := rfl
  scope := rfl
  header := rfl
  label := by
    have hm := List.mem_of_getElem? hr
    rcases Rule.firstLabels_rearranged hp (ht.filed r hm) x with ⟨ha, hb⟩ | ⟨a, ha, b, hb, hf, hq⟩
    · rw [ha, hb]
    · rw [hf, hq, Option.map_some, Option.map_some, hw.kind_eq hm ha hb]
  token := (Rule.any_rearranged hp fun _ _ => rfl).symm
  ruleRef := (Rule.any_rearranged hp fun _ _ => rfl).symm

/-- Where the definitions of a name are settled, it leads to the same offer in any order. -/
theorem Site.leads_rearranged (ht : g.Tabled)
    (ho : ∀ p q : Option Rule, p.map Rule.outside = q.map Rule.outside → offer p = offer q)
    (hs : Site.Settled offer ⟨g, r⟩ x) :
    Site.Leads offer x ⟨g, r⟩ ⟨g.withRule i (r.rearranged alts), r.rearranged alts⟩ := by
  have hg := Grammar.rule?_withRule Rule.outside hr (q := r.rearranged alts) rfl
  have hn : ∀ n, offer (g.rule? n) = offer ((g.withRule i (r.rearranged alts)).rule? n) :=
    fun n => ho _ _ (hg n).symm
  refine ⟨ho _ _ rfl, ?_, hn x⟩
  have hf := ht.filed r (List.mem_of_getElem? hr)
  rw [labelTarget?, labelTarget?]
  rcases Rule.firstLabels_rearranged hp hf x with ⟨ha, hb⟩ | ⟨a, ha, b, hb, hf, hq⟩
  · rw [ha, hb]
    rfl
  · rw [hf, hq, Option.bind_some, Option.bind_some, hs a ha b hb, target?, target?]
    split
    · exact hn _
    · rfl

theorem Site.accepts_rearranged (ht : g.Tabled) (hw : g.WellFormed) {ref : Reference}
    (hs : Site.SettledFor ⟨g, r⟩ ref) : Site.accepts ⟨g, r⟩ ref =
      Site.accepts ⟨g.withRule i (r.rearranged alts), r.rearranged alts⟩ ref := by
  have ha := Site.alikeAt_rearranged hr hp ht hw
  cases ref with
  | simple x => exact (ha x.text).accepts_simple
  | qualified x y =>
    rcases hs with hx | hs
    · have hy := (ha x.text).attribute? x.text
      simp only [accepts, ← hy, hx, Bool.true_or]
    · refine (ha x.text).accepts_qualified (leads_rearranged hr hp ht ?_ hs)
      exact fun _ _ hq => hasResult_eq _ _ (map_comp_of_map_eq Rule.outside Rule.returns hq)
  | dynamic x y =>
    refine (ha x.text).accepts_dynamic (leads_rearranged hr hp ht ?_ hs)
    exact fun _ _ hq => hasDynamic_eq _ _ _ (map_comp_of_map_eq Rule.outside Rule.scope hq)

theorem kinds_rearranged (hw : g.WellFormed) (x : String) (first : Label)
    (hl : (r.rearranged alts).Labels x first) :
    ∀ label ∈ (r.rearranged alts).labelDefinitions, label.name.text = x →
      label.kind = first.kind := by
  intro label hlm hx
  have hd := Rule.definitionsOf_rearranged hp x
  have hf : first ∈ (r.rearranged alts).definitionsOf x := by
    obtain ⟨later, hd⟩ := Rule.labels_iff.1 hl
    rw [hd]
    exact List.mem_cons_self
  exact hw.kind_eq (List.mem_of_getElem? hr)
    (hd.mem_iff.1 (Rule.mem_definitionsOf.2 ⟨hlm, hx⟩)) (hd.mem_iff.1 hf)

/-- The references of other rules do not see the order, and those of the rule itself are settled. -/
theorem accepts_all_rearranged (ht : g.Tabled) (hw : g.WellFormed)
    (hs : ∀ action ∈ r.actions, ∀ ref ∈ action.references, Site.SettledFor ⟨g, r⟩ ref) :
    ∀ p ∈ (g.withRule i (r.rearranged alts)).rules, ∀ action ∈ p.actions,
      ∀ ref ∈ action.references,
        Site.accepts ⟨g.withRule i (r.rearranged alts), p⟩ ref = true := by
  refine Grammar.forall_mem_withRule ?_ ?_
  · intro p hm action ha ref hf
    rw [← Site.accepts_withRule hr (r.rearranged alts) rfl rfl]
    exact hw.accepts ht hm ha hf
  · intro action ha ref hf
    have hm := (Rule.actions_rearranged hp).mem_iff.1 ha
    rw [← Site.accepts_rearranged hr hp ht hw (hs action hm ref hf)]
    exact hw.accepts ht (List.mem_of_getElem? hr) hm hf

theorem Grammar.WellFormed.rearranged (hw : g.WellFormed) (ht : g.Tabled)
    (hs : ∀ action ∈ r.actions, ∀ ref ∈ action.references, Site.SettledFor ⟨g, r⟩ ref) :
    (g.withRule i (r.rearranged alts)).WellFormed := by
  have hm := List.mem_of_getElem? hr
  have hth : (g.withRule i (r.rearranged alts)).Tabled :=
    ht.withRule hr rfl (Rule.filed_rearranged hp (ht.filed r hm))
  have hn := Grammar.map_withRule Rule.name (q := r.rearranged alts) hr rfl
  have hd : ∀ n, (∃ target, (g.withRule i (r.rearranged alts)).Declares n target) ↔
      ∃ target, g.Declares n target := by
    intro n
    rw [← hth.declares_iff, Grammar.declares_withRule hr, ht.declares_iff]
  refine ⟨hn ▸ hw.rules, Grammar.forall_mem_withRule hw.attributes (hw.attributes r hm),
    hw.scopes, ?mentions, Grammar.forall_mem_withRule hw.kinds (kinds_rearranged hr hp hw), ?labels,
    ?references⟩
  case mentions =>
    simp only [hd]
    refine Grammar.forall_mem_withRule hw.mentions fun t ht => ?_
    exact hw.mentions r hm t ((Rule.flatMap_rearranged hp fun _ _ => rfl).mem_iff.1 ht)
  case labels =>
    simp only [← not_exists, hd]
    simp only [not_exists]
    refine Grammar.forall_mem_withRule hw.labels fun label hl => ?_
    exact hw.labels r hm label ((Rule.labelDefinitions_rearranged hp).mem_iff.1 hl)
  case references =>
    intro p hpm action ha ref hf
    rw [← Site.accepts_iff_resolves (hth.legible (hn ▸ hw.rules) hpm)]
    exact accepts_all_rearranged hr hp ht hw hs p hpm action (Rule.mem_actions.2 ha) ref hf

end Rearranged

namespace Check

/-- In an accepted grammar no rule sees the order of the alternatives of another one. In the rule
itself all the definitions of a label are of one kind, so that the order only matters to labels that
name rules: where the rules of a label lead to one answer, it is the answer in any order, and the
grammar is accepted in any order if this holds of the references of the rule. -/
theorem order_of_alternatives_is_settled (hg : g.Reachable) (hr : g.rules[i]? = some r)
    (hp : alts.Perm r.alternatives) (ha : ∃ log g₁, ((analyse g).run log).1 = .accepted g₁) :
    let q := r.rearranged alts
    let h := g.withRule i q
    let s : Site := ⟨g, r⟩
    let t : Site := ⟨h, q⟩
    (∀ j p, j ≠ i → g.rules[j]? = some p → h.rules[j]? = some p ∧
      ∀ x y, (Site.resolve ⟨g, p⟩ x y).SameBy Rule.outside (Site.resolve ⟨h, p⟩ x y)) ∧
    (∀ x, ∀ a ∈ r.definitionsOf x, ∀ b ∈ r.definitionsOf x, a.kind = b.kind) ∧
    (∀ x, s.attribute? x = t.attribute? x ∧ s.isLabel x = t.isLabel x ∧
      s.isListLabel x = t.isListLabel x ∧ s.isTokenLabel x = t.isTokenLabel x ∧
      s.hasAttributes x = t.hasAttributes x ∧
      ∀ target, s.result? target x = t.result? target x) ∧
    (∀ x y, s.Settled (·.bind (s.result? · y)) x → s.qualified? x y = t.qualified? x y ∧
      (s.resolve x y).result = (t.resolve x y).result) ∧
    (∀ x, s.Settled (·.bind Rule.scope <|> g.scopes.get? x) x →
      s.dynamicScope? x = t.dynamicScope? x) ∧
    (∀ x, s.Settled (·.map Rule.outside) x →
      (s.rule? x).map Rule.outside = (t.rule? x).map Rule.outside) ∧
    ((∀ action ∈ r.actions, ∀ ref ∈ action.references, s.SettledFor ref) →
      ∀ log, (analyse h).run log = (.accepted (withStartRules h), log)) := by
  intro q h s t
  have ht := Grammar.tabled_reachable hg
  obtain ⟨log, ha⟩ := ha
  have hw := (analyse_accepts_iff ht log).1 ha
  have hs := Site.alikeAt_rearranged hr hp ht hw
  have hm := List.mem_of_getElem? hr
  refine ⟨?others, ?kinds, ?alike, ?results, ?scopes, ?rules, ?verdict⟩
  case others =>
    intro j p hj hjp
    refine ⟨(List.getElem?_set_ne hj.symm).trans hjp, ?_⟩
    have ho := Grammar.rule?_withRule Rule.outside hr (q := q) rfl
    exact (Site.alike_withRule hr (by rfl) p).resolve rfl fun n => (ho n).symm
  case kinds => exact fun x a ha b hb => hw.kind_eq hm ha hb
  case alike =>
    intro x
    exact ⟨(hs x).attribute? x, rfl, (hs x).isListLabel, (hs x).isTokenLabel, (hs x).hasAttributes,
      fun _ => rfl⟩
  case results =>
    intro x y hx
    have hl := Site.leads_rearranged hr hp ht
      (fun _ _ hq => s.bind_result?_eq y (map_comp_of_map_eq Rule.outside Rule.returns hq)) hx
    refine ⟨(hs x).qualified? (f := id) hl, ?_⟩
    have hb := (hs x).rule? hl
    exact hb
  case scopes =>
    intro x hx
    refine (hs x).dynamicScope? (f := id) (Site.leads_rearranged hr hp ht (fun _ _ hq => ?_) hx)
    rw [Site.bind_scope_eq (map_comp_of_map_eq Rule.outside Rule.scope hq)]
  case rules =>
    intro x hx
    exact (hs x).rule? (Site.leads_rearranged hr hp ht (fun _ _ => id) hx)
  case verdict =>
    intro hf
    have hh : h.Tabled := ht.withRule hr rfl (Rule.filed_rearranged hp (ht.filed r hm))
    exact analyse_of_wellFormed hh (hw.rearranged hr hp ht hf)

/-- One label for two rules that return the same. -/
theorem order_of_alternatives_is_settled_for_equal_returns :
    let label (element : String) : Label := ⟨⟨"x", {}⟩, ⟨element, {}⟩, .rule⟩
    let g := ((Grammar.empty "P" .parser).run [.defineRule ⟨"r", {}⟩ 2, .defineRule ⟨"a", {}⟩ 1,
      .defineRule ⟨"b", {}⟩ 1, .setReturns 1 (some (.ofNames .returnValue ["v"])),
      .setReturns 2 (some (.ofNames .returnValue ["v", "w"])), .addLabel 0 1 (label "a"),
      .addLabel 0 2 (label "b"), .addAction 0 1 ⟨.action, .leaf (.mark '$' false) {}
        (.leaf (.identifier "x") {} (.leaf (.mark '.' false) {} (.leaf (.identifier "v") {} .nil))),
        {}⟩]).1
    g.rules.length = 3 ∧ ∀ r ∈ g.rules[0]?,
      let h := g.withRule 0 (r.rearranged r.alternatives.reverse)
      Site.qualified? ⟨g, r⟩ "x" "v" =
        Site.qualified? ⟨h, r.rearranged r.alternatives.reverse⟩ "x" "v" ∧
      ∃ h₁, ((analyse h).run []).1 = .accepted h₁ := by
  intro label g
  refine ⟨rfl, ?_⟩
  intro r hr
  have ho := order_of_alternatives_is_settled ⟨_, _, _, rfl⟩ hr r.alternatives.reverse_perm
    ⟨[], _, rfl⟩
  obtain rfl := Option.some.inj hr
  obtain ⟨-, -, -, hq, -, -, hv⟩ := ho
  exact ⟨(hq "x" "v" (by decide)).1, _, congrArg Prod.fst (hv (by decide) [])⟩

/-- One label for two rules of which only one has the return value that is asked for. -/
theorem order_of_alternatives_matters_for_different_returns :
    let label (element : String) : Label := ⟨⟨"x", {}⟩, ⟨element, {}⟩, .rule⟩
    let g := ((Grammar.empty "P" .parser).run [.defineRule ⟨"r", {}⟩ 2, .defineRule ⟨"a", {}⟩ 1,
      .defineRule ⟨"b", {}⟩ 1, .setReturns 1 (some (.ofNames .returnValue ["v"])),
      .addLabel 0 1 (label "a"), .addRuleRef 0 1 ⟨"a", {}⟩, .addLabel 0 2 (label "b"),
      .addRuleRef 0 2 ⟨"b", {}⟩, .addAction 0 1 ⟨.action, .leaf (.mark '$' false) {}
        (.leaf (.identifier "x") {} (.leaf (.mark '.' false) {} (.leaf (.identifier "v") {} .nil))),
        {}⟩]).1
    (∃ g₁, ((analyse g).run []).1 = .accepted g₁) ∧ ∃ r, g.rules[0]? = some r ∧
      let h := g.withRule 0 (r.rearranged r.alternatives.reverse)
      (Site.qualified? ⟨g, r⟩ "x" "v").isSome ∧
      Site.qualified? ⟨h, r.rearranged r.alternatives.reverse⟩ "x" "v" = none ∧
      ∃ h₁, ((analyse h).run []).1 = .flawed h₁ :=
  ⟨⟨_, rfl⟩, _, rfl, by decide, by decide, _, rfl⟩

end Check
end GrammarRefs
