import GrammarRefs.Check
import GrammarRefs.Proofs.Extraction
import GrammarRefs.Proofs.Mapping

/-! Grammars with all positions taken away. What is looked up, listed or printed is the same, up to
the positions. -/
namespace GrammarRefs

namespace Dict

variable {d : Dict} {n : String}

def unplaced (d : Dict) : Dict where
  kind := d.kind
  name := d.name
  attributes := d.attributes.map Attribute.unplaced
  index := d.index
  indexed n := by
    rw [d.indexed, List.findIdx?_map]
    rfl

@[simp] theorem get?_unplaced : d.unplaced.get? n = (d.get? n).map Attribute.unplaced := by
  simp only [get?, unplaced, List.getElem?_map, Option.map_bind]
  rfl

@[simp] theorem display_unplaced : d.unplaced.display = d.display := by
  rw [display, unplaced, List.map_map, display]
  rfl

theorem add_unplaced (a : Attribute) : (d.add a).unplaced = d.unplaced.add a.unplaced := by
  simp only [unplaced, add, List.map_append, List.length_map]
  rfl

theorem foldl_add_unplaced (d : Dict) (attributes : List Attribute) :
    (attributes.foldl add d).unplaced =
      (attributes.map Attribute.unplaced).foldl add d.unplaced := by
  induction attributes generalizing d with
  | nil => rfl
  | cons a rest ih => rw [List.foldl_cons, ih, add_unplaced, List.map_cons, List.foldl_cons]

end Dict

namespace Predefined

/-- Predefined properties stand nowhere. -/
@[simp] theorem ruleScope_unplaced (kind : GrammarKind) :
    (ruleScope kind).unplaced = ruleScope kind := by
  cases kind <;> rfl

@[simp] theorem labelScope?_unplaced (kind : GrammarKind) (label : LabelKind) :
    (labelScope? kind label).map Dict.unplaced = labelScope? kind label := by
  cases kind <;> cases label <;> rfl

end Predefined

def Label.unplaced (label : Label) : Label :=
  { label with name := label.name.unplaced, element := label.element.unplaced }

def Reference.unplaced : Reference → Reference
  | .simple x => .simple x.unplaced
  | .qualified x y => .qualified x.unplaced y.unplaced
  | .dynamic x y => .dynamic x.unplaced y.unplaced

namespace Code

def unplaced : Code → Code
  | .nil => .nil
  | .leaf l _ rest => .leaf l {} rest.unplaced
  | .group delimiter body rest => .group delimiter body.unplaced rest.unplaced

variable {code rest : Code} {l : Leaf} {pos : Position}

theorem unplaced_eq_leaf (h : code.unplaced = .leaf l pos rest) :
    ∃ pos' rest', code = .leaf l pos' rest' ∧ rest'.unplaced = rest := by
  cases code with
  | nil | group => cases h
  | leaf other pos' rest' =>
    rw [unplaced, Code.leaf.injEq] at h
    obtain ⟨rfl, _, rfl⟩ := h
    exact ⟨pos', rest', rfl, rfl⟩

/-- What begins a reference does so wherever it stands. -/
@[simp] theorem references_unplaced (code : Code) :
    code.unplaced.references = code.references.map Reference.unplaced := by
  fun_induction references code with
  | case1 _ _ _ _ _ _ _ _ _ ih =>
    simp [unplaced, references, ih, Reference.unplaced, Token.unplaced]
  | case2 _ _ _ _ _ _ _ _ _ _ ih =>
    simp [unplaced, references, ih, Reference.unplaced, Token.unplaced]
  | case3 joint pos x px rest hq hd ih =>
    rw [unplaced, unplaced, references, ih]
    · rfl
    · intro _ _ _ _ _ h₁
      obtain ⟨_, _, rfl, h₂⟩ := unplaced_eq_leaf h₁
      obtain ⟨_, _, rfl, _⟩ := unplaced_eq_leaf h₂
      exact hq _ _ _ _ _ rfl
    · intro _ _ _ _ _ _ h₁
      obtain ⟨_, _, rfl, h₂⟩ := unplaced_eq_leaf h₁
      obtain ⟨_, _, rfl, h₃⟩ := unplaced_eq_leaf h₂
      obtain ⟨_, _, rfl, _⟩ := unplaced_eq_leaf h₃
      exact hd _ _ _ _ _ _ rfl
  | case4 l pos rest _ _ hs ih =>
    rw [unplaced, references_leaf, ih]
    intro joint x px after hl h₁
    obtain ⟨_, _, rfl, _⟩ := unplaced_eq_leaf h₁
    exact hs _ _ _ _ hl rfl
  | case5 _ _ _ hb hr => rw [unplaced, references, hb, hr, List.map_append]
  | case6 => rfl

end Code

def Snippet.unplaced (s : Snippet) : Snippet := { s with code := s.code.unplaced, pos := {} }

def Action.unplaced (a : Action) : Action := { a with toSnippet := a.toSnippet.unplaced }

def Alternative.unplaced (alt : Alternative) : Alternative :=
  { alt with
    actions := alt.actions.map Action.unplaced
    labels := alt.labels.map (List.map Label.unplaced)
    tokenRefs := alt.tokenRefs.map (List.map Token.unplaced)
    ruleRefs := alt.ruleRefs.map (List.map Token.unplaced) }

def Rule.unplaced (r : Rule) : Rule :=
  { r with
    head := r.head.unplaced
    alternatives := r.alternatives.map Alternative.unplaced
    modifiers := r.modifiers.map Token.unplaced
    arguments := r.arguments.map Dict.unplaced
    returns := r.returns.map Dict.unplaced
    scope := r.scope.map Dict.unplaced
    usedScopes := r.usedScopes.map Token.unplaced
    namedActions := r.namedActions.map Action.unplaced
    exceptionActions := r.exceptionActions.map Action.unplaced
    finallyAction := r.finallyAction.map Action.unplaced }

def Registry.unplaced (r : Registry) : Registry :=
  { r with
    actions := r.actions.map Action.unplaced
    predicates := r.predicates.map Action.unplaced }

def Grammar.unplaced (g : Grammar) : Grammar :=
  { g with
    rules := g.rules.map Rule.unplaced
    scopes := g.scopes.map Dict.unplaced
    registry := g.registry.unplaced }

def Note.unplaced (note : Note) : Note := { note with pos := {} }

def Diagnostic.unplaced (d : Diagnostic) : Diagnostic :=
  { d with pos := {}, notes := d.notes.map Note.unplaced }

variable {alt : Alternative} {r : Rule} {g : Grammar} {i : Nat} {n : String}

@[simp] theorem Snippet.references_unplaced (s : Snippet) :
    s.unplaced.references = s.references.map Reference.unplaced :=
  Code.references_unplaced s.code

namespace Alternative

@[simp] theorem render_unplaced : alt.unplaced.render = alt.render := by
  simp only [render, unplaced, NameTable.names_map, List.length_map]

end Alternative

namespace Rule

@[simp] theorem name_unplaced : r.unplaced.name = r.name := rfl

@[simp] theorem firstLabel?_unplaced :
    r.unplaced.firstLabel? n = (r.firstLabel? n).map Label.unplaced := by
  have ha : ∀ alt : Alternative, (alt.unplaced.labels.get? n).bind List.head? =
      ((alt.labels.get? n).bind List.head?).map Label.unplaced := by
    intro alt
    rw [Alternative.unplaced, NameTable.get?_map]
    cases alt.labels.get? n <;> simp
  rw [firstLabel?, unplaced, List.findSome?_map, firstLabel?, List.map_findSome?]
  exact congrArg (r.alternatives.findSome? ·) (funext ha)

@[simp] theorem refersToToken_unplaced : r.unplaced.refersToToken n = r.refersToToken n := by
  simp only [refersToToken, unplaced, List.any_map, Function.comp_def, Alternative.unplaced,
    NameTable.contains_map]

@[simp] theorem refersToRule_unplaced : r.unplaced.refersToRule n = r.refersToRule n := by
  simp only [refersToRule, unplaced, List.any_map, Function.comp_def, Alternative.unplaced,
    NameTable.contains_map]

@[simp] theorem ruleNames_unplaced : r.unplaced.ruleNames = r.ruleNames := by
  simp only [ruleNames, unplaced, List.flatMap_map, Alternative.unplaced, NameTable.names_map]

@[simp] theorem actions_unplaced : r.unplaced.actions = r.actions.map Action.unplaced := by
  have hf : ∀ o : Option Action, (o.map Action.unplaced).toList = o.toList.map Action.unplaced := by
    intro o
    cases o <;> rfl
  simp only [actions, unplaced, List.flatMap_map, Alternative.unplaced, NameTable.sorted_map,
    List.map_map, List.map_append, List.map_flatMap, hf]
  rfl

@[simp] theorem labels_unplaced : r.unplaced.labels = r.labels.map (List.map Label.unplaced) := by
  have he : r.unplaced.alternatives.flatMap (·.labels.entries) =
      (r.alternatives.flatMap (·.labels.entries)).map fun e => (e.1, e.2.map Label.unplaced) := by
    rw [unplaced, List.flatMap_map, List.map_flatMap]
    rfl
  rw [labels, he, labels, NameTable.map_foldl_extend]
  rfl

@[simp] theorem displayPart_unplaced (title : String) (dict : Option Dict) :
    displayPart title (dict.map Dict.unplaced) = displayPart title dict := by
  cases dict <;> simp [displayPart]

@[simp] theorem display_unplaced : r.unplaced.display = r.display := by
  simp only [display, name_unplaced]
  simp only [unplaced, displayPart_unplaced]

@[simp] theorem isFragment_unplaced : r.unplaced.isFragment = r.isFragment := by
  simp only [isFragment, unplaced, List.any_map]
  rfl

@[simp] theorem render_unplaced (level : PrintLevel) :
    r.unplaced.render level = r.render level := by
  have ha : r.unplaced.alternatives.map Alternative.render =
      r.alternatives.map Alternative.render := by
    rw [unplaced, List.map_map]
    exact List.map_congr_left fun _ _ => Alternative.render_unplaced
  simp only [render, display_unplaced, isFragment_unplaced, ha]
  rfl

end Rule

namespace Grammar

theorem rules_unplaced : g.unplaced.rules = g.rules.map Rule.unplaced := rfl

theorem getElem?_rules_unplaced : g.unplaced.rules[i]? = g.rules[i]?.map Rule.unplaced := by
  rw [unplaced, List.getElem?_map]

@[simp] theorem rule?_unplaced : g.unplaced.rule? n = (g.rule? n).map Rule.unplaced := by
  simp only [rule?, getElem?_rules_unplaced, Option.map_bind]
  rfl

@[simp] theorem declares_unplaced : g.unplaced.declares n = g.declares n := by
  rw [declares, rule?_unplaced, Option.isSome_map, declares]

@[simp] theorem render_unplaced (level : PrintLevel) :
    g.unplaced.render level = g.render level := by
  have hr : g.unplaced.rules.map (·.render level) = g.rules.map (·.render level) := by
    rw [unplaced, List.map_map]
    exact List.map_congr_left fun _ _ => Rule.render_unplaced level
  simp only [render, hr]
  rfl

@[simp] theorem printout_unplaced : g.unplaced.printout = g.printout := by
  simp only [printout, render_unplaced]
  rfl

end Grammar
end GrammarRefs
