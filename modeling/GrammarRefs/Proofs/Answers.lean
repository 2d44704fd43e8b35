import GrammarRefs.Proofs.Construction
import GrammarRefs.Proofs.Sites
import GrammarRefs.Session

/-! What two grammars answer. Rules of different grammars are the same for a key of theirs only. -/
namespace GrammarRefs

variable {α : Type} {key : Rule → α}

/-- The same answers, the rules being told apart by the key. -/
structure Resolution.SameBy (key : Rule → α) (p q : Resolution) : Prop where
  simple : p.simple = q.simple
  qualified : p.qualified = q.qualified
  rule : p.rule.map key = q.rule.map key
  result : p.result = q.result
  dynamicScope : p.dynamicScope = q.dynamicScope
  isLabel : p.isLabel = q.isLabel
  isListLabel : p.isListLabel = q.isListLabel
  isTokenLabel : p.isTokenLabel = q.isTokenLabel
  hasAttributes : p.hasAttributes = q.hasAttributes

theorem Site.Alike.resolve {s t : Site} (h : s.Alike t) (ho : key s.rule = key t.rule)
    (hk : ∀ n, (s.grammar.rule? n).map key = (t.grammar.rule? n).map key) (x y : String) :
    (s.resolve x y).SameBy key (t.resolve x y) where
  simple := (h.alikeAt x).attribute? x
  qualified := h.qualified? x y
  rule := (h.alikeAt x).rule? (leads_of_firstLabel (h.firstLabel x) (congrArg some ho) hk)
  result := by
    have hr := (h.alikeAt x).rule? (h.leads_result? x y)
    rw [Site.resolve, hr, Site.resolve]
    simp only [(h.alikeAt x).result?]
  dynamicScope := h.dynamicScope? x
  isLabel := rfl
  isListLabel := (h.alikeAt x).isListLabel
  isTokenLabel := (h.alikeAt x).isTokenLabel
  hasAttributes := (h.alikeAt x).hasAttributes

namespace Grammar

variable {g : Grammar} {i : Nat} {r q : Rule}

theorem rule?_withRule (key : Rule → α) (hr : g.rules[i]? = some r) (hk : key q = key r)
    (n : String) : ((g.withRule i q).rule? n).map key = (g.rule? n).map key := by
  obtain ⟨hi, rfl⟩ := List.getElem?_eq_some_iff.1 hr
  simp only [rule?, ruleIndex?, withRule, Option.map_bind, List.getElem?_set]
  congr 1
  funext j
  by_cases hj : i = j
  · subst hj
    simp [hi, hk]
  · simp [hj]

theorem declares_withRule (hr : g.rules[i]? = some r) (q : Rule) (n : String) :
    (g.withRule i q).declares n = g.declares n :=
  declares_congr (rule?_withRule (q := q) (fun _ => ()) hr rfl n)

end Grammar
end GrammarRefs
