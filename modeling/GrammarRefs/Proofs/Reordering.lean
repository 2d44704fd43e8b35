import Mathlib.Data.List.Forall2
import GrammarRefs.Proofs.Checking
import GrammarRefs.Proofs.Coherence
import GrammarRefs.Proofs.Records

/-! Grammars whose tables are enumerated in another order. What is looked up in a table, or read off
it in the order of names, stays the same. -/
namespace GrammarRefs

/-- The same entries, in whatever order. -/
def NameTable.Reordered {α : Type} (t u : NameTable α) : Prop := t.entries.Perm u.entries

structure Alternative.Reordered (alt other : Alternative) : Prop where
  rest : other = { alt with
    labels := other.labels, tokenRefs := other.tokenRefs, ruleRefs := other.ruleRefs }
  labels : alt.labels.Reordered other.labels
  tokenRefs : alt.tokenRefs.Reordered other.tokenRefs
  ruleRefs : alt.ruleRefs.Reordered other.ruleRefs

structure Rule.Reordered (r q : Rule) : Prop where
  rest : q = { r with alternatives := q.alternatives, namedActions := q.namedActions }
  alternatives : List.Forall₂ Alternative.Reordered r.alternatives q.alternatives
  namedActions : r.namedActions.Reordered q.namedActions

structure Grammar.Reordered (g h : Grammar) : Prop where
  rest : h = { g with rules := h.rules, ruleIndex := h.ruleIndex, scopes := h.scopes }
  rules : List.Forall₂ Rule.Reordered g.rules h.rules
  ruleIndex : g.ruleIndex.Reordered h.ruleIndex
  scopes : g.scopes.Reordered h.scopes

def NameTable.reversed {α : Type} (t : NameTable α) : NameTable α where
  entries := t.entries.reverse
  nodup := by
    rw [List.map_reverse, List.nodup_reverse]
    exact t.nodup

def Alternative.reversed (alt : Alternative) : Alternative :=
  { alt with
    labels := alt.labels.reversed
    tokenRefs := alt.tokenRefs.reversed
    ruleRefs := alt.ruleRefs.reversed }

def Rule.reversed (r : Rule) : Rule :=
  { r with
    alternatives := r.alternatives.map Alternative.reversed
    namedActions := r.namedActions.reversed }

/-- The grammar with all its tables read backwards. -/
def Grammar.reversed (g : Grammar) : Grammar :=
  { g with
    rules := g.rules.map Rule.reversed
    ruleIndex := g.ruleIndex.reversed
    scopes := g.scopes.reversed }

section Lists

variable {α β γ : Type} {R : α → β → Prop} {f : α → γ} {f' : β → γ} {xs : List α} {ys : List β}

theorem map_eq_of_forall₂ (h : List.Forall₂ R xs ys) (hf : ∀ x y, R x y → f x = f' y) :
    xs.map f = ys.map f' := by
  induction h with
  | nil => rfl
  | cons hr _ ih => rw [List.map_cons, List.map_cons, hf _ _ hr, ih]

theorem flatMap_eq_of_forall₂ {f : α → List γ} {f' : β → List γ} (h : List.Forall₂ R xs ys)
    (hf : ∀ x y, R x y → f x = f' y) : xs.flatMap f = ys.flatMap f' := by
  rw [List.flatMap_def, List.flatMap_def, map_eq_of_forall₂ h hf]

theorem forall₂_of_mem {p : α → Prop} (h : List.Forall₂ R xs ys) (hp : ∀ x ∈ xs, p x) :
    List.Forall₂ (fun x y => p x ∧ R x y) xs ys :=
  (List.forall₂_and_left xs ys).2 ⟨hp, h⟩

theorem forall_mem_of_forall₂ {p : α → Prop} {p' : β → Prop} (h : List.Forall₂ R xs ys)
    (hp : ∀ x ∈ xs, p x) (hr : ∀ x y, R x y → p x → p' y) : ∀ y ∈ ys, p' y := by
  induction h with
  | nil => simp
  | cons hxy _ ih =>
    intro y hy
    rcases List.mem_cons.1 hy with rfl | hy
    · exact hr _ _ hxy (hp _ (by simp))
    · exact ih (fun x hx => hp x (by simp [hx])) y hy

end Lists

namespace NameTable

variable {α : Type} {t u : NameTable α} {n : String}

theorem nodup_entries (t : NameTable α) : t.entries.Nodup := t.nodup.of_map

theorem reordered_reversed (t : NameTable α) : t.Reordered t.reversed :=
  (List.reverse_perm t.entries).symm

/-- Tables in which the same is found have the same entries. -/
theorem reordered_iff : t.Reordered u ↔ ∀ n, t.get? n = u.get? n := by
  rw [Reordered, List.perm_ext_iff_of_nodup t.nodup_entries u.nodup_entries]
  constructor
  · intro h n
    apply Option.ext
    intro v
    rw [get?_eq_some_iff, get?_eq_some_iff, h]
  · rintro h ⟨n, v⟩
    rw [← get?_eq_some_iff, ← get?_eq_some_iff, h]

theorem Reordered.get? (h : t.Reordered u) (n : String) : t.get? n = u.get? n := reordered_iff.1 h n

theorem Reordered.contains (h : t.Reordered u) (n : String) : t.contains n = u.contains n := by
  rw [NameTable.contains, h.get?, NameTable.contains]

theorem Reordered.sorted (h : t.Reordered u) : t.sorted = u.sorted :=
  sortByName_eq_of_perm h t.nodup

theorem Reordered.listed (h : t.Reordered u) : listed t.names = listed u.names := by
  have hp : t.names.Perm u.names := h.map Prod.fst
  rw [GrammarRefs.listed, sortByName_id_eq_of_perm hp, GrammarRefs.listed]

theorem Reordered.filed {t u : NameTable (List α)} {text : α → String} (h : t.Reordered u)
    (ht : t.Filed text) : u.Filed text := by
  intro name items hu
  exact ht name items ((h.get? name).trans hu)

end NameTable

namespace Alternative

variable {alt other : Alternative}

theorem reordered_reversed (alt : Alternative) : alt.Reordered alt.reversed :=
  ⟨rfl, alt.labels.reordered_reversed, alt.tokenRefs.reordered_reversed,
    alt.ruleRefs.reordered_reversed⟩

theorem Reordered.number (h : alt.Reordered other) : alt.number = other.number :=
  (congrArg Alternative.number h.rest).symm

theorem Reordered.actions (h : alt.Reordered other) : alt.actions = other.actions :=
  (congrArg Alternative.actions h.rest).symm

theorem Reordered.filed (h : alt.Reordered other) (ha : alt.Filed) : other.Filed :=
  ⟨h.labels.filed ha.labels, h.tokenRefs.filed ha.tokenRefs, h.ruleRefs.filed ha.ruleRefs⟩

theorem Reordered.render (h : alt.Reordered other) : alt.render = other.render := by
  simp only [Alternative.render, h.number, h.actions, h.labels.listed, h.tokenRefs.listed,
    h.ruleRefs.listed]

/-- References are filed under their own text, so those of a text come in the order of the table. -/
theorem Reordered.sortedRuleRefs (h : alt.Reordered other) (ha : alt.Filed) :
    Check.sortedRuleRefs alt = Check.sortedRuleRefs other := by
  refine SameByName.sortByName fun n => ?_
  have ht := ha.ruleRefs.getD_get? n
  have hu := (h.filed ha).ruleRefs.getD_get? n
  rw [h.ruleRefs.get?] at ht
  exact ht.symm.trans hu

end Alternative

namespace Rule

variable {r q : Rule} {n : String}

theorem reordered_reversed (r : Rule) : r.Reordered r.reversed where
  rest := rfl
  alternatives := by
    rw [Rule.reversed, List.forall₂_map_right_iff]
    exact List.forall₂_same.2 fun alt _ => alt.reordered_reversed
  namedActions := r.namedActions.reordered_reversed

theorem Reordered.head (h : r.Reordered q) : r.head = q.head := (congrArg Rule.head h.rest).symm

theorem Reordered.name (h : r.Reordered q) : r.name = q.name := congrArg Token.text h.head

theorem Reordered.header (h : r.Reordered q) : r.header = q.header := by
  rw [h.rest]
  rfl

theorem Reordered.map_alternatives {β : Type} {f : Alternative → β} (h : r.Reordered q)
    (hf : ∀ alt other : Alternative, alt.Reordered other → f alt = f other) :
    r.alternatives.map f = q.alternatives.map f :=
  map_eq_of_forall₂ h.alternatives hf

theorem Reordered.filed (h : r.Reordered q) (hr : ∀ alt ∈ r.alternatives, alt.Filed) :
    ∀ alt ∈ q.alternatives, alt.Filed :=
  forall_mem_of_forall₂ h.alternatives hr fun _ _ => Alternative.Reordered.filed

theorem Reordered.render (h : r.Reordered q) (level : PrintLevel) :
    r.render level = q.render level := by
  have hd : r.display = q.display := by rw [h.rest]; rfl
  have hs : r.isStart = q.isStart := by rw [h.rest]
  have hf : r.isFragment = q.isFragment := by rw [h.rest]; rfl
  have ha := h.map_alternatives fun _ _ => Alternative.Reordered.render
  simp only [Rule.render, hd, hs, hf, ha]

theorem Reordered.actions (h : r.Reordered q) : r.actions = q.actions := by
  have ha := flatMap_eq_of_forall₂ h.alternatives fun _ _ => Alternative.Reordered.actions
  have he : r.exceptionActions = q.exceptionActions := by rw [h.rest]
  have hf : r.finallyAction = q.finallyAction := by rw [h.rest]
  simp only [Rule.actions, ha, h.namedActions.sorted, he, hf]

theorem Reordered.firstLabel? (h : r.Reordered q) (n : String) :
    r.firstLabel? n = q.firstLabel? n := by
  have hl := h.map_alternatives fun alt other ho =>
    congrArg (Option.bind · List.head?) (ho.labels.get? n)
  have hf : ∀ p : Rule, p.firstLabel? n =
      (p.alternatives.map fun alt => (alt.labels.get? n).bind List.head?).findSome? id := by
    intro p
    rw [List.findSome?_map]
    rfl
  rw [hf, hl, ← hf]

theorem any_contains_congr {table : Alternative → NameTable (List Token)} (h : r.Reordered q)
    (ht : ∀ alt other : Alternative, alt.Reordered other → (table alt).Reordered (table other)) :
    r.alternatives.any (fun alt => (table alt).contains n) =
      q.alternatives.any fun alt => (table alt).contains n := by
  have hc := h.map_alternatives fun alt other ho => (ht alt other ho).contains n
  have ha : ∀ p : Rule, p.alternatives.any (fun alt => (table alt).contains n) =
      (p.alternatives.map fun alt => (table alt).contains n).any id := by
    intro p
    rw [List.any_map]
    rfl
  rw [ha, hc, ← ha]

theorem Reordered.refersToToken (h : r.Reordered q) (n : String) :
    r.refersToToken n = q.refersToToken n :=
  any_contains_congr h fun _ _ => Alternative.Reordered.tokenRefs

theorem Reordered.refersToRule (h : r.Reordered q) (n : String) :
    r.refersToRule n = q.refersToRule n :=
  any_contains_congr h fun _ _ => Alternative.Reordered.ruleRefs

theorem Reordered.ruleNames (h : r.Reordered q) : r.ruleNames = q.ruleNames := by
  refine distinct_congr fun n => ?_
  have hm : ∀ p : Rule, n ∈ p.alternatives.flatMap (·.ruleRefs.names) ↔
      p.refersToRule n = true :=
    fun p => mem_distinct.symm.trans (p.mem_distinct_names Alternative.ruleRefs n)
  rw [hm, h.refersToRule, ← hm]

/-- The table of all labels is built anew each time. What it has for a name stays the same. -/
theorem Reordered.labels (h : r.Reordered q) (hr : ∀ alt ∈ r.alternatives, alt.Filed) :
    r.labels.Reordered q.labels := by
  rw [NameTable.reordered_iff]
  intro n
  have hd : r.definitionsOf n = q.definitionsOf n := by
    rw [definitionsOf_eq_flatMap hr, definitionsOf_eq_flatMap (h.filed hr)]
    refine flatMap_eq_of_forall₂ h.alternatives fun alt other ho => ?_
    rw [ho.labels.get?]
  apply Option.ext
  intro found
  rw [get?_labels_eq_some_iff hr, get?_labels_eq_some_iff (h.filed hr), hd]

end Rule

namespace Grammar

variable {g h : Grammar} {n : String}

theorem reordered_reversed (g : Grammar) : g.Reordered g.reversed where
  rest := rfl
  rules := by
    rw [Grammar.reversed, List.forall₂_map_right_iff]
    exact List.forall₂_same.2 fun r _ => r.reordered_reversed
  ruleIndex := g.ruleIndex.reordered_reversed
  scopes := g.scopes.reordered_reversed

theorem Reordered.kind (hr : g.Reordered h) : g.kind = h.kind :=
  (congrArg Grammar.kind hr.rest).symm

theorem Reordered.printLevel (hr : g.Reordered h) : g.printLevel = h.printLevel :=
  (congrArg Grammar.printLevel hr.rest).symm

theorem Reordered.map_rules {β : Type} {f : Rule → β} (hr : g.Reordered h)
    (hf : ∀ r q : Rule, r.Reordered q → f r = f q) : g.rules.map f = h.rules.map f :=
  map_eq_of_forall₂ hr.rules hf

theorem Reordered.ruleIndex? (hr : g.Reordered h) (n : String) :
    g.ruleIndex? n = h.ruleIndex? n :=
  hr.ruleIndex.get? n

theorem Reordered.header (hr : g.Reordered h) (n : String) :
    (g.rule? n).map Rule.header = (h.rule? n).map Rule.header := by
  have hf : ∀ k : Grammar, (k.rule? n).map Rule.header =
      (k.ruleIndex? n).bind fun i => (k.rules.map Rule.header)[i]? := by
    intro k
    simp only [rule?, Option.map_bind, List.getElem?_map]
    rfl
  rw [hf, hf, hr.ruleIndex?, hr.map_rules fun _ _ => Rule.Reordered.header]

theorem Reordered.declares (hr : g.Reordered h) (n : String) : g.declares n = h.declares n :=
  declares_congr (hr.header n)

theorem Reordered.render (hr : g.Reordered h) (level : PrintLevel) :
    g.render level = h.render level := by
  have hn : g.name = h.name := (congrArg Grammar.name hr.rest).symm
  have hs := hr.map_rules fun _ _ hq => hq.render level
  simp only [Grammar.render, hr.kind, hn, hs]

theorem Reordered.printout (hr : g.Reordered h) : g.printout = h.printout := by
  rw [Grammar.printout, hr.printLevel, hr.render, Grammar.printout]

end Grammar
end GrammarRefs
