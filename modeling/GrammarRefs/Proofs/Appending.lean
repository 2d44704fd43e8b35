import GrammarRefs.Proofs.Asking
import GrammarRefs.Proofs.Findings
import GrammarRefs.Proofs.Insertions

/-! Attributes that are declared in addition. Whatever a reference stood for, it still stands for
something: no reference counts on an attribute not being there. -/
namespace GrammarRefs

def Rule.withDict (d : Dict) (r : Rule) : Part → Rule
  | .arguments => { r with arguments := some d }
  | .returns => { r with returns := some d }
  | .scope => { r with scope := some d }

/-- The building step that puts a dictionary there. -/
def Holder.store (d : Dict) : Holder → BuildStep
  | .part i .arguments => .setArguments i (some d)
  | .part i .returns => .setReturns i (some d)
  | .part i .scope => .setScope i (some d)
  | .global name => .defineScope name d

namespace Grammar

/-- The attribute stands last in the dictionary there, and nothing else has changed. -/
structure Gains (g h : Grammar) (holder : Holder) (a : Attribute) : Prop where
  held : (g.dict? holder).isSome = true
  dicts : ∀ k, h.dict? k = (g.dict? k).map fun d => if k = holder then d.add a else d
  bare : h.bare = g.bare

/-- Those that are asked before there is an answer. -/
def askedInVain (g : Grammar) (y : String) (asked : List Holder) : List Holder :=
  asked.takeWhile fun k => (g.declared? y k).isNone

/-- The answer there is once the attribute has been declared. It is another one than before only if
the attribute has the name that was asked for, in vain and where it is declared now. -/
def answerAfter (g : Grammar) (holder : Holder) (a : Attribute) (y : String) (asked : List Holder)
    (before : Option Attribute) : Option Attribute :=
  if a.name = y ∧ holder ∈ g.askedInVain y asked then some a else before

end Grammar

variable {g h : Grammar} {holder k : Holder} {a : Attribute} {d : Dict} {r q : Rule} {i : Nat}
  {x y : String} {asked : List Holder} {before : Option Attribute} {ref : Reference}

theorem Rule.dict?_withDict (d : Dict) (r : Rule) (p p' : Part) :
    (r.withDict d p).dict? p' = if p' = p then some d else r.dict? p' := by
  cases p <;> cases p' <;> rfl

theorem Rule.bare_withDict (d : Dict) (r : Rule) (p : Part) : (r.withDict d p).bare = r.bare := by
  cases p <;> rfl

theorem Holder.changesRule_store (d : Dict) (i : Nat) (p : Rule.Part) :
    (store d (.part i p)).ChangesRule i (·.withDict d p) fun _ => .done := by
  cases p
  · exact .arguments i (some d)
  · exact .returns i (some d)
  · exact .scope i (some d)

namespace Grammar

theorem gains_withDict {p : Rule.Part} (hr : g.rules[i]? = some r) (hd : r.dict? p = some d) :
    g.Gains (g.withRule i (r.withDict (d.add a) p)) (.part i p) a where
  held := by simp [dict?, hr, hd]
  dicts := by
    intro k
    cases k with
    | global n => simp [dict?, withRule]
    | part j p' =>
      rw [dict?, dict?, withRule, List.getElem?_set]
      by_cases hj : i = j
      · subst hj
        have hi := (List.getElem?_eq_some_iff.1 hr).1
        rw [if_pos rfl, if_pos hi, hr, Option.bind_some, Option.bind_some, Rule.dict?_withDict]
        by_cases hp : p' = p
        · simp [hp, hd]
        · simp [hp]
      · simp [hj, Ne.symm hj]
  bare := by
    rw [bare, map_withRule Rule.bare hr (Rule.bare_withDict _ r p)]
    rfl

theorem gains_defineScope {n : String} (hd : g.scopes.get? n = some d) (hn : d.name = some n) :
    g.Gains (g.defineScope n (d.add a)) (.global n) a where
  held := by simp [dict?, hd]
  dicts := by
    have hs : { d.add a with name := some n } = d.add a := by
      rw [← hn]
      rfl
    intro k
    cases k with
    | part j p => simp [dict?, defineScope]
    | global m =>
      rw [dict?, dict?, defineScope, NameTable.get?_insert, hs]
      by_cases hm : m = n
      · subst hm
        simp [hd]
      · simp [hm]
  bare := rfl

/-- The step that stores the longer dictionary succeeds. -/
theorem gains_store (hg : g.Placed) (hd : g.dict? holder = some d) (a : Attribute) :
    ∃ h, g.Effect (holder.store (d.add a)) h (.ok .done) ∧ g.Gains h holder a := by
  cases holder with
  | part i p =>
    obtain ⟨r, hr, hp⟩ := Option.bind_eq_some_iff.1 hd
    exact ⟨_, .changed (Holder.changesRule_store _ i p) hr, gains_withDict hr hp⟩
  | global n => exact ⟨_, .scopeDefined, gains_defineScope hd (hg.scopes n d hd)⟩

theorem isSome_answerAfter (hb : before.isSome = true) :
    (g.answerAfter holder a y asked before).isSome = true := by
  rw [answerAfter]
  split
  · rfl
  · exact hb

theorem answerAfter_nil : g.answerAfter holder a y [] before = before := by
  simp [answerAfter, askedInVain]

/-- A dictionary that has the name keeps those behind it from being asked. -/
theorem answerAfter_cons_of_some {b : Attribute} (hk : g.declared? y k = some b) :
    g.answerAfter holder a y (k :: asked) before = before := by
  simp [answerAfter, askedInVain, hk]

theorem answerAfter_cons_self (hk : g.declared? y holder = none) (hn : a.name = y) :
    g.answerAfter holder a y (holder :: asked) before = some a := by
  simp [answerAfter, askedInVain, hk, hn]

theorem answerAfter_cons_of_none (hk : g.declared? y k = none) (hn : ¬ (k = holder ∧ a.name = y)) :
    g.answerAfter holder a y (k :: asked) before = g.answerAfter holder a y asked before := by
  by_cases hy : a.name = y
  · have hm : holder ≠ k := fun he => hn ⟨he.symm, hy⟩
    simp [answerAfter, askedInVain, hk, hy, hm]
  · simp [answerAfter, hy]

namespace Gains

variable (hh : g.Gains h holder a)

include hh

theorem kind : h.kind = g.kind := by
  have hk := congrArg Grammar.kind hh.bare
  exact hk

theorem site_bare (hb : q.bare = r.bare) : Site.bare ⟨h, q⟩ = Site.bare ⟨g, r⟩ := by
  rw [Site.bare, hh.bare, hb, Site.bare]

/-- The rules stand where they stood, and only their dictionaries can differ. -/
theorem exists_rule (hr : g.rules[i]? = some r) : ∃ q, h.rules[i]? = some q ∧ q.bare = r.bare := by
  have hi := congrArg (fun k : Grammar => k.rules[i]?) hh.bare
  simpa [Grammar.bare, hr] using hi

theorem length_rules : h.rules.length = g.rules.length := by
  simpa [Grammar.bare] using congrArg (fun k : Grammar => k.rules.length) hh.bare

theorem declared? (y : String) (k : Holder) : h.declared? y k =
    (g.declared? y k <|> if k = holder ∧ a.name = y then some a else none) := by
  rw [Grammar.declared?, Grammar.declared?, hh.dicts]
  by_cases hk : k = holder
  · subst hk
    obtain ⟨d, hd⟩ := Option.isSome_iff_exists.1 hh.held
    simp [hd, Dict.get?_add]
  · simp [hk]

theorem ask (y : String) (asked : List Holder) :
    h.ask y asked = g.answerAfter holder a y asked (g.ask y asked) := by
  induction asked with
  | nil => exact answerAfter_nil.symm
  | cons k asked ih =>
    rw [ask_cons, ask_cons, hh.declared?, ih]
    cases hk : g.declared? y k with
    | some b => exact (answerAfter_cons_of_some hk).symm
    | none =>
      by_cases hn : k = holder ∧ a.name = y
      · rw [if_pos hn]
        obtain ⟨rfl, hn⟩ := hn
        exact (answerAfter_cons_self hk hn).symm
      · rw [if_neg hn, answerAfter_cons_of_none hk hn]
        rfl

/-- The predefined properties stay, and are asked last as before. -/
theorem ask_orElse (y : String) (asked : List Holder) (rest : Option Attribute) :
    (h.ask y asked <|> rest) = g.answerAfter holder a y asked (g.ask y asked <|> rest) := by
  rw [hh.ask, answerAfter, answerAfter]
  split <;> rfl

theorem any_contains (hk : (g.dict? k).any (·.contains y) = true) :
    (h.dict? k).any (·.contains y) = true := by
  rw [← isSome_declared?] at hk ⊢
  obtain ⟨b, hb⟩ := Option.isSome_iff_exists.1 hk
  rw [hh.declared?, hb]
  rfl

/-- No dictionary is new, so it is the same one that is found, perhaps with the attribute. -/
theorem any_findSome? (hc : (asked.findSome? g.dict?).any (·.contains y) = true) :
    (asked.findSome? h.dict?).any (·.contains y) = true := by
  induction asked with
  | nil => exact hc
  | cons k asked ih =>
    rw [List.findSome?_cons] at hc ⊢
    cases hd : g.dict? k with
    | none =>
      rw [hd] at hc
      rw [hh.dicts, hd]
      exact ih hc
    | some d =>
      have hk : (g.dict? k).any (·.contains y) = true := by
        rwa [hd] at hc ⊢
      have he := hh.any_contains hk
      rw [hh.dicts, hd] at he ⊢
      exact he

end Gains

end Grammar

theorem length_flatMap_le {α β γ : Type} {xs : List α} {ys : List β} {f : α → List γ}
    {f' : β → List γ} (hf : List.Forall₂ (fun x y => (f' y).length ≤ (f x).length) xs ys) :
    (ys.flatMap f').length ≤ (xs.flatMap f).length := by
  induction hf with
  | nil => exact Nat.le_refl 0
  | cons hxy _ ih =>
    rw [List.flatMap_cons, List.flatMap_cons, List.length_append, List.length_append]
    omega

section Sites

variable (hh : g.Gains h holder a) (hr : g.rules[i]? = some r) (hq : h.rules[i]? = some q)

include hh hr hq

theorem Site.result?_gained (p p' : Rule) (y : String) : Site.result? ⟨h, p'⟩ q y =
    g.answerAfter holder a y [.part i .returns] (Site.result? ⟨g, p⟩ r y) := by
  rw [result?_eq_ask (s := ⟨h, p'⟩) hq, hh.ask_orElse, hh.kind, result?_eq_ask (s := ⟨g, p⟩) hr]

theorem Site.attribute?_gained (y : String) : Site.attribute? ⟨h, q⟩ y =
    g.answerAfter holder a y (Holder.own i) (Site.attribute? ⟨g, r⟩ y) := by
  rw [attribute?_eq_ask (s := ⟨h, q⟩) hq, hh.ask_orElse, hh.kind,
    attribute?_eq_ask (s := ⟨g, r⟩) hr]

variable (hg : g.Placed) (hp : h.Placed) (hb : q.bare = r.bare)

include hg hp hb

theorem Site.qualified?_gained (x y : String) : Site.qualified? ⟨h, q⟩ x y =
    g.answerAfter holder a y (Site.asked ⟨g, r⟩ x) (Site.qualified? ⟨g, r⟩ x y) := by
  have hs := hh.site_bare hb
  have hd := referredRule?_bare ⟨h, q⟩ x
  rw [hs, referredRule?_bare] at hd
  cases ht : referredRule? ⟨g, r⟩ x with
  | none =>
    rw [ht, Option.map_none, eq_comm, Option.map_eq_none_iff] at hd
    rw [← qualified?_bare hd, hs, qualified?_bare ht, Site.asked, ht]
    exact Grammar.answerAfter_nil.symm
  | some t =>
    rw [ht, eq_comm, Option.map_some, Option.map_eq_some_iff] at hd
    obtain ⟨u, hu, -⟩ := hd
    rw [qualified?_eq_ask hp (List.mem_of_getElem? hq) hu, ← asked_bare, hs, asked_bare,
      hh.ask_orElse, hh.kind, qualified?_eq_ask hg (List.mem_of_getElem? hr) ht]

theorem Site.accepts_gained (ha : accepts ⟨g, r⟩ ref = true) : accepts ⟨h, q⟩ ref = true := by
  have hs := hh.site_bare hb
  cases ref with
  | simple x =>
    have hl : isTokenLabel ⟨h, q⟩ x.text = isTokenLabel ⟨g, r⟩ x.text :=
      congrArg (·.isTokenLabel x.text) hs
    have hm : isListLabel ⟨h, q⟩ x.text = isListLabel ⟨g, r⟩ x.text :=
      congrArg (·.isListLabel x.text) hs
    have ht : q.refersToToken x.text = r.refersToToken x.text :=
      congrArg (·.rule.refersToToken x.text) hs
    simp only [accepts, Bool.or_eq_true, hl, hm, ht] at ha ⊢
    rw [attribute?_gained hh hr hq]
    exact ha.imp_left (.imp_left (.imp_left Grammar.isSome_answerAfter))
  | qualified x y =>
    rw [accepts, Bool.or_eq_true] at ha ⊢
    rw [attribute?_gained hh hr hq, qualified?_gained hh hr hq hg hp hb]
    exact ha.imp Grammar.isSome_answerAfter Grammar.isSome_answerAfter
  | dynamic x y =>
    rw [accepts, dynamicScope?_eq_ask hg (List.mem_of_getElem? hr)] at ha
    rw [accepts, dynamicScope?_eq_ask hp (List.mem_of_getElem? hq), ← scopesAsked_bare, hs,
      scopesAsked_bare]
    exact hh.any_findSome? ha

theorem Check.length_faultsInRule_gained :
    (faultsInRule h q).length ≤ (faultsInRule g r).length := by
  have ha : q.actions = r.actions := congrArg (·.actions) hb
  rw [faultsInRule, ha, faultsInRule]
  apply length_flatMap_le
  apply List.forall₂_same.2
  intro action _
  apply length_flatMap_le
  apply List.forall₂_same.2
  intro ref _
  rw [faultsOfReference, faultsOfReference, Site.fault?_eq, Site.fault?_eq]
  by_cases hc : Site.accepts ⟨g, r⟩ ref = true
  · simp [hc, Site.accepts_gained hh hr hq hg hp hb hc]
  · rw [if_neg hc]
    split <;> simp

end Sites

namespace Check

theorem length_referenceFaults_gained (hh : g.Gains h holder a) (hg : g.Placed) (hp : h.Placed) :
    (referenceFaults h).length ≤ (referenceFaults g).length := by
  apply length_flatMap_le
  apply List.forall₂_iff_get.2
  refine ⟨hh.length_rules.symm, ?_⟩
  intro i hi hj
  have hr := List.getElem?_eq_getElem hi
  obtain ⟨q, hq, hb⟩ := hh.exists_rule hr
  obtain rfl := Option.some.inj ((List.getElem?_eq_getElem hj).symm.trans hq)
  exact length_faultsInRule_gained hh hr hq hg hp hb

theorem errorCount_attributeReferences (g : Grammar) (log : Diagnostics) :
    ((attributeReferences g).run log).2.errorCount =
      log.errorCount + (referenceFaults g).length := by
  have he := List.filter_eq_self.2 (attributeReferences_finds.errors g)
  rw [attributeReferences_finds.reports g log, Diagnostics.errorCount, List.filter_append, he,
    List.length_append, Diagnostics.errorCount]

/-- One more attribute can be declared wherever a dictionary is or can be. No reference that stood
for something is refused then, so there are no more errors than before, and every query that had an
answer has one. It is the same one, unless the attribute has the name that is asked for and its
dictionary comes before the one that had the answer. -/
theorem appended_attributes_break_no_reference (hg : g.Reachable)
    (hd : g.dict? holder = some d) (a : Attribute) :
    ∃ h, g.perform (holder.store (d.add a)) = (h, .ok .done) ∧ g.Gains h holder a ∧
      (∀ (i : Nat) (r : Rule), g.rules[i]? = some r →
        ∃ q, h.rules[i]? = some q ∧ q.bare = r.bare ∧
          (∀ ref, Site.fault? ⟨g, r⟩ ref = none → Site.fault? ⟨h, q⟩ ref = none) ∧
          (∀ x, Site.attribute? ⟨h, q⟩ x =
            g.answerAfter holder a x (Holder.own i) (Site.attribute? ⟨g, r⟩ x)) ∧
          (∀ x y, Site.qualified? ⟨h, q⟩ x y =
            g.answerAfter holder a y (Site.asked ⟨g, r⟩ x) (Site.qualified? ⟨g, r⟩ x y)) ∧
          ∀ p p' y, Site.result? ⟨h, p'⟩ q y =
            g.answerAfter holder a y [.part i .returns] (Site.result? ⟨g, p⟩ r y)) ∧
      ∀ log, ((attributeReferences h).run log).2.errorCount ≤
        ((attributeReferences g).run log).2.errorCount := by
  have hg := Grammar.placed_reachable hg
  obtain ⟨h, he, hh⟩ := Grammar.gains_store hg hd a
  have hp := Grammar.placed_step hg he
  refine ⟨h, Grammar.perform_of_effect he, hh, ?_, ?_⟩
  · intro i r hr
    obtain ⟨q, hq, hb⟩ := hh.exists_rule hr
    refine ⟨q, hq, hb, ?_, Site.attribute?_gained hh hr hq,
      Site.qualified?_gained hh hr hq hg hp hb, Site.result?_gained hh hr hq⟩
    intro ref
    rw [Site.fault?_eq_none_iff_accepts, Site.fault?_eq_none_iff_accepts]
    exact Site.accepts_gained hh hr hq hg hp hb
  · intro log
    have hl := length_referenceFaults_gained hh hg hp
    rw [errorCount_attributeReferences, errorCount_attributeReferences]
    omega

/-- A rule that gets an argument of the name of its return value. Its own actions see the argument
instead, and the other rule still sees the return value. -/
theorem appended_argument_hides_return_value :
    let g := ((Grammar.empty "P" .parser).run [.defineRule ⟨"a", {}⟩ 1, .defineRule ⟨"b", {}⟩ 1,
      .setReturns 0 (some (.ofNames .returnValue ["v"])), .addRuleRef 1 1 ⟨"a", {}⟩]).1
    let v : Attribute := { name := "v", type := some "int" }
    ∃ h p q, g.perform (.setArguments 0 (some (.ofAttributes .argument [v]))) = (h, .ok .done) ∧
      h.rules[0]? = some p ∧ h.rules[1]? = some q ∧ Site.attribute? ⟨h, p⟩ "v" = some v ∧
      Site.qualified? ⟨h, q⟩ "a" "v" = some { name := "v" } := by
  intro g v
  have hg : g.Reachable := ⟨_, _, _, rfl⟩
  have hd : g.dict? (.part 0 .arguments) = some (.ofAttributes .argument []) := by decide
  obtain ⟨h, hp, -, hr, -⟩ := appended_attributes_break_no_reference hg hd v
  obtain ⟨p, h0, -, -, ha, -⟩ := hr 0 g.rules[0] rfl
  obtain ⟨q, h1, -, -, -, hq, -⟩ := hr 1 g.rules[1] rfl
  exact ⟨h, p, q, hp, h0, h1, (ha "v").trans (by decide), (hq "a" "v").trans (by decide)⟩

end Check
end GrammarRefs
