import GrammarRefs.Proofs.Lookups

/-! What resolution reads of a grammar. Of the rules that a name can stand for, only the header
matters. -/
namespace GrammarRefs

/-- Two sites from which the same can be seen. -/
structure Site.Alike (s t : Site) : Prop where
  kind : s.grammar.kind = t.grammar.kind
  scopes : s.grammar.scopes = t.grammar.scopes
  rules : ∀ n, (s.grammar.rule? n).map Rule.header = (t.grammar.rule? n).map Rule.header
  header : s.rule.header = t.rule.header
  firstLabel : ∀ n, s.rule.firstLabel? n = t.rule.firstLabel? n
  tokens : ∀ n, s.rule.refersToToken n = t.rule.refersToToken n
  ruleRefs : ∀ n, s.rule.refersToRule n = t.rule.refersToRule n

section Keys

variable {α β : Type} {key : Rule → α} {f : Rule → Option β} {o p : Option Rule}

/-- What is read off the keys of rules is the same where the keys are. -/
theorem bind_eq_of_map_eq (f' : α → Option β) (hf : ∀ r, f r = f' (key r))
    (h : o.map key = p.map key) :
    o.bind f = p.bind f := by
  have hb : ∀ o : Option Rule, o.bind f = (o.map key).bind f' := by
    intro o
    cases o with
    | none => rfl
    | some r => exact hf r
  rw [hb, h, ← hb]

theorem Grammar.declares_congr {g h : Grammar} {n : String}
    (hk : (g.rule? n).map key = (h.rule? n).map key) : g.declares n = h.declares n := by
  have hs := congrArg Option.isSome hk
  rwa [Option.isSome_map, Option.isSome_map] at hs

theorem map_comp_of_map_eq (key : Rule → α) (f : α → β) (h : o.map key = p.map key) :
    o.map (fun r => f (key r)) = p.map fun r => f (key r) := by
  have hf := congrArg (Option.map f) h
  rwa [Option.map_map, Option.map_map] at hf

end Keys

namespace Site

variable {s t : Site} {β : Type} {x y : String}

/-- The answer for a target is that for its return values. -/
theorem bind_result?_eq (s : Site) (y : String) {q r : Option Rule}
    (h : q.map Rule.returns = r.map Rule.returns) :
    q.bind (s.result? · y) = r.bind (s.result? · y) :=
  bind_eq_of_map_eq (fun returns => (Option.bind returns (·.get? y)) <|>
    (Predefined.ruleScope s.grammar.kind).get? y) (fun _ => rfl) h

theorem bind_scope_eq {q r : Option Rule} (h : q.map Rule.scope = r.map Rule.scope) :
    q.bind Rule.scope = r.bind Rule.scope :=
  bind_eq_of_map_eq id (fun _ => rfl) h

theorem hasResult_eq (s : Site) (y : String) {q r : Option Rule}
    (h : q.map Rule.returns = r.map Rule.returns) : s.hasResult y q = s.hasResult y r := by
  rw [hasResult, bind_result?_eq s y h, hasResult]

theorem hasDynamic_eq (s : Site) (x y : String) {q r : Option Rule}
    (h : q.map Rule.scope = r.map Rule.scope) : s.hasDynamic x y q = s.hasDynamic x y r := by
  rw [hasDynamic, bind_scope_eq h, hasDynamic]

namespace Alike

variable (h : s.Alike t)

include h

theorem alikeAt (x : String) : s.AlikeAt x t where
  kind := h.kind
  scope := by rw [h.scopes]
  header := h.header
  label := by rw [h.firstLabel]
  token := h.tokens x
  ruleRef := h.ruleRefs x

theorem leads {offer : Option Rule → β}
    (ho : ∀ q r : Option Rule, q.map Rule.header = r.map Rule.header → offer q = offer r) :
    s.Leads offer x t :=
  leads_of_firstLabel (h.firstLabel x) (ho _ _ (congrArg some h.header))
    fun n => ho _ _ (h.rules n)

theorem leads_result? (x y : String) : s.Leads (·.bind (s.result? · y)) x t :=
  h.leads fun _ _ hq => s.bind_result?_eq y (map_comp_of_map_eq Rule.header Header.returns hq)

theorem qualified? (x y : String) : s.qualified? x y = t.qualified? x y :=
  (h.alikeAt x).qualified? (f := id) (h.leads_result? x y)

theorem referredRule? (x : String) :
    (s.referredRule? x).map Rule.header = (t.referredRule? x).map Rule.header :=
  (h.alikeAt x).referredRule? (h.leads fun _ _ => id)

theorem dynamicScope? (x : String) : s.dynamicScope? x = t.dynamicScope? x :=
  (h.alikeAt x).dynamicScope? (f := id) (h.leads fun _ _ hq => by
    rw [bind_scope_eq (map_comp_of_map_eq Rule.header Header.scope hq)])

theorem simpleFault? (x : String) : s.simpleFault? x = t.simpleFault? x := by
  have hr : (s.referredRule? x).isSome = (t.referredRule? x).isSome := by
    simpa using congrArg Option.isSome (h.referredRule? x)
  rw [Site.simpleFault?, Site.simpleFault?, (h.alikeAt x).attribute?, (h.alikeAt x).isTokenLabel,
    (h.alikeAt x).isListLabel, h.tokens, hr]

theorem qualifiedFault? (x y : String) : s.qualifiedFault? x y = t.qualifiedFault? x y := by
  simp only [Site.qualifiedFault?, (h.alikeAt x).attribute?, h.qualified?,
    (h.alikeAt x).hasAttributes, (h.alikeAt x).isListLabel, h.tokens]
  have hr := h.referredRule? x
  generalize s.referredRule? x = q, t.referredRule? x = r at hr ⊢
  cases q with
  | none =>
    rw [Option.map_none, eq_comm, Option.map_eq_none_iff] at hr
    rw [hr]
  | some q =>
    obtain ⟨r, rfl, hh⟩ := Option.map_eq_some_iff.1 hr.symm
    have ha : r.arguments = q.arguments := congrArg Header.arguments hh
    simp only [ha]

theorem fault? (ref : Reference) : s.fault? ref = t.fault? ref := by
  cases ref with
  | simple x => exact h.simpleFault? x.text
  | qualified x y => exact h.qualifiedFault? x.text y.text
  | dynamic x y => simp only [Site.fault?, dynamicFault?, h.dynamicScope?]

end Alike

end Site
end GrammarRefs
