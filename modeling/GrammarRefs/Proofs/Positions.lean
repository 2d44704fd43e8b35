import GrammarRefs.Proofs.ErasedChecks
import GrammarRefs.Proofs.ErasedSteps
import GrammarRefs.Session

/-! Sessions that differ in positions only. They get the same replies, up to the positions. -/
namespace GrammarRefs

def Directive.unplaced (d : Directive) : Directive := { d with pos := {}, namePos := {} }

def Verdict.unplaced : Verdict Grammar → Verdict Grammar
  | .accepted g => .accepted g.unplaced
  | .flawed g => .flawed g.unplaced
  | .rejected => .rejected

def Resolution.unplaced (r : Resolution) : Resolution :=
  { r with
    simple := r.simple.map Attribute.unplaced
    qualified := r.qualified.map Attribute.unplaced
    rule := r.rule.map Rule.unplaced
    result := r.result.map Attribute.unplaced
    dynamicScope := r.dynamicScope.map Dict.unplaced }

def Request.unplaced : Request → Request
  | .readDeclarations kind text _ => .readDeclarations kind text {}
  | .readAction kind text _ => .readAction kind text {}
  | .build step => .build step.unplaced
  | .check directives => .check (directives.map Directive.unplaced)
  | .analyse => .analyse
  | .decorate directives => .decorate (directives.map Directive.unplaced)
  | .resolve i x y => .resolve i x y
  | .print level => .print level

def Reply.unplaced : Reply → Reply
  | .declared dict => .declared dict.unplaced
  | .read snippet reported =>
    .read (snippet.map Snippet.unplaced) (reported.map Diagnostic.unplaced)
  | .built answer => .built answer
  | .passed verdict reported output =>
    .passed verdict.unplaced (reported.map Diagnostic.unplaced) output
  | .resolved resolution => .resolved (resolution.map Resolution.unplaced)
  | .printed text => .printed text

def Session.unplaced (s : Session) : Session :=
  { grammar := s.grammar.unplaced, log := s.log.map Diagnostic.unplaced }

variable {g h g₁ h₁ : Grammar} {d : Directive} {directives others : List Directive}
  {xs ys : List Diagnostic} {pass other : Pass} {s t : Session} {v w : Verdict Grammar}
  {p q : Request}

namespace Directive

theorem level?_unplaced (d : Directive) : d.unplaced.level? = d.level? := rfl

theorem raised_unplaced (directives : List Directive) (level : PrintLevel) :
    raised (directives.map unplaced) level = raised directives level := by
  simp only [raised, List.filterMap_map, Function.comp_def, level?_unplaced]

theorem warnings_unplaced (d : Directive) :
    d.unplaced.warnings.map Diagnostic.unplaced = d.warnings.map Diagnostic.unplaced := by
  rw [warnings, level?_unplaced, warnings]
  cases d.level? <;> rfl

theorem flatMap_warnings_congr
    (hd : directives.map Directive.unplaced = others.map Directive.unplaced) :
    (directives.flatMap warnings).map Diagnostic.unplaced =
      (others.flatMap warnings).map Diagnostic.unplaced := by
  have hw : ∀ ds : List Directive, (ds.flatMap warnings).map Diagnostic.unplaced =
      (ds.map Directive.unplaced).flatMap (·.warnings.map Diagnostic.unplaced) := by
    intro ds
    simp only [List.map_flatMap, List.flatMap_map, warnings_unplaced]
  rw [hw, hd, ← hw]

end Directive

theorem Dict.ofDeclarations_unplaced (kind : DictKind) (text : String) (pos : Position) :
    (ofDeclarations kind text pos).unplaced = ofDeclarations kind text {} := by
  have hr : ∀ decl, (Declaration.read? pos decl).map Attribute.unplaced =
      Declaration.read? {} decl := by
    intro decl
    simp only [Declaration.read?, Option.map_map]
    rfl
  rw [ofDeclarations, ofAttributes, foldl_add_unplaced, Declaration.attributes, List.map_filterMap]
  simp only [hr]
  rfl

theorem Verdict.unplaced_ofMark (flawed : Bool) (g : Grammar) :
    (Verdict.ofMark flawed g).unplaced = .ofMark flawed g.unplaced := by
  cases flawed <;> rfl

theorem Verdict.getD_unplaced (v : Verdict Grammar) (g : Grammar) :
    (v.value?.getD g).unplaced = v.unplaced.value?.getD g.unplaced := by
  cases v <;> rfl

theorem Check.printed_unplaced (v : Verdict Grammar) : printed v.unplaced = printed v := by
  cases v with
  | accepted g | flawed g => exact Grammar.printout_unplaced
  | rejected => rfl

theorem hasErrors_unplaced (xs : List Diagnostic) :
    Diagnostics.hasErrors (xs.map Diagnostic.unplaced) = Diagnostics.hasErrors xs := by
  rw [Diagnostics.hasErrors, List.any_map]
  rfl

/-- The two passes come to the same on the two grammars, up to positions. -/
def Pass.Alike (pass other : Pass) (g h : Grammar) : Prop :=
  ∃ v w xs ys, Reports (pass g) v xs ∧ Reports (other h) w ys ∧ v.unplaced = w.unplaced ∧
    xs.map Diagnostic.unplaced = ys.map Diagnostic.unplaced

theorem Pass.alike_of_yields (hp : pass.Yields g g₁ xs) (ho : other.Yields h h₁ ys)
    (hg : g₁.unplaced = h₁.unplaced)
    (hx : xs.map Diagnostic.unplaced = ys.map Diagnostic.unplaced) : pass.Alike other g h := by
  refine ⟨_, _, _, _, hp, ho, ?_, hx⟩
  rw [Verdict.unplaced_ofMark, Verdict.unplaced_ofMark, hg, ← hasErrors_unplaced, hx,
    hasErrors_unplaced]

namespace Check

theorem errors_congr (hg : g.unplaced = h.unplaced) :
    (errors g).map Diagnostic.unplaced = (errors h).map Diagnostic.unplaced := by
  rw [← errors_unplaced, hg, errors_unplaced]

theorem alike_analyse (hg : g.unplaced = h.unplaced) : analyse.Alike analyse g h := by
  refine Pass.alike_of_yields (analyse_yields g) (analyse_yields h) ?_ (errors_congr hg)
  rw [withStartRules_unplaced, hg, withStartRules_unplaced]

theorem foldl_obeying_congr (hg : g.unplaced = h.unplaced)
    (hd : directives.map Directive.unplaced = others.map Directive.unplaced) :
    (directives.foldl Grammar.obeying g).unplaced = (others.foldl Grammar.obeying h).unplaced := by
  have hl : Directive.raised directives g.printLevel = Directive.raised others h.printLevel := by
    rw [← Directive.raised_unplaced, hd, Directive.raised_unplaced]
    exact congrArg (Directive.raised others ·.printLevel) hg
  rw [g.foldl_obeying_eq, h.foldl_obeying_eq, hl]
  let level := Directive.raised others h.printLevel
  exact congrArg (fun k : Grammar => { k with printLevel := level }) hg

theorem alike_decorate (hg : g.unplaced = h.unplaced)
    (hd : directives.map Directive.unplaced = others.map Directive.unplaced) :
    (decorate directives).Alike (decorate others) g h :=
  Pass.alike_of_yields (decorate_yields directives g) (decorate_yields others h)
    (foldl_obeying_congr hg hd) (Directive.flatMap_warnings_congr hd)

theorem alike_check (hg : g.unplaced = h.unplaced)
    (hd : directives.map Directive.unplaced = others.map Directive.unplaced) :
    (check directives).Alike (check others) g h := by
  have hl : g.rules.map Rule.unplaced = h.rules.map Rule.unplaced := congrArg Grammar.rules hg
  by_cases hn : g.rules = []
  · have hm : h.rules = [] := by
      rw [hn] at hl
      exact List.map_eq_nil_iff.1 hl.symm
    exact ⟨_, _, _, _, reports_check_of_no_rules hn directives,
      reports_check_of_no_rules hm others, rfl, rfl⟩
  · have hm : h.rules ≠ [] := by
      intro hm
      rw [hm] at hl
      exact hn (List.map_eq_nil_iff.1 hl)
    refine Pass.alike_of_yields (check_yields hn directives) (check_yields hm others) ?_ ?_
    · rw [checked, withStartRules_unplaced, foldl_obeying_congr hg hd, ← withStartRules_unplaced,
        checked]
    · rw [List.map_append, List.map_append, Directive.flatMap_warnings_congr hd, errors_congr hg]

end Check

theorem Site.resolve_unplaced (s : Site) (x y : String) :
    s.unplaced.resolve x y = (s.resolve x y).unplaced := by
  simp only [resolve, attribute?_unplaced, qualified?_unplaced, rule?_unplaced,
    bind_result?_unplaced, dynamicScope?_unplaced, isListLabel_unplaced, isTokenLabel_unplaced,
    hasAttributes_unplaced]
  rfl

theorem Grammar.resolve_unplaced (g : Grammar) (i : Nat) (x y : String) :
    ((g.site? i).map (·.resolve x y)).map Resolution.unplaced =
      (g.unplaced.site? i).map (·.resolve x y) := by
  simp only [site?, getElem?_rules_unplaced, Option.map_map]
  cases g.rules[i]? with
  | none => rfl
  | some r => exact congrArg some (Site.resolve_unplaced ⟨g, r⟩ x y).symm

theorem Snippet.reports_read (kind : ActionKind) (text : String) (pos : Position) :
    Reports (read kind text pos) (read? kind text pos)
      (if (read? kind text pos).isSome then []
        else [.error pos (.unreadableAction unreadable)]) := by
  rw [read]
  cases read? kind text pos with
  | some snippet => exact reports_pure _
  | none => exact (reports_report _).map fun _ => none

namespace Session

theorem pass_of_reports (hr : Reports (pass s.grammar) v xs) (output : Verdict Grammar → String) :
    s.pass pass output = ({ grammar := v.value?.getD s.grammar, log := s.log ++ xs },
      .passed v xs (output v)) := by
  simp only [Session.pass, hr s.log, reported, List.drop_left]

theorem pass_congr (output : Verdict Grammar → String) (hs : s.unplaced = t.unplaced)
    (hp : pass.Alike other s.grammar t.grammar) (ho : ∀ v, output v.unplaced = output v) :
    Prod.map unplaced Reply.unplaced (s.pass pass output) =
      Prod.map unplaced Reply.unplaced (t.pass other output) := by
  obtain ⟨v, w, xs, ys, hv, hw, he, hx⟩ := hp
  have hg : s.grammar.unplaced = t.grammar.unplaced := congrArg grammar hs
  have hl : s.log.map Diagnostic.unplaced = t.log.map Diagnostic.unplaced := congrArg log hs
  have hf : output v = output w := by rw [← ho v, he, ho]
  rw [pass_of_reports hv, pass_of_reports hw]
  simp only [Prod.map, unplaced, Reply.unplaced, Verdict.getD_unplaced, List.map_append, he, hg, hl,
    hx, hf]

theorem build_congr {step step' : BuildStep} (hs : s.unplaced = t.unplaced)
    (hb : step.unplaced = step'.unplaced) :
    Prod.map unplaced Reply.unplaced (s.answer (.build step)) =
      Prod.map unplaced Reply.unplaced (t.answer (.build step')) := by
  have hg : s.grammar.unplaced = t.grammar.unplaced := congrArg grammar hs
  have hl : s.log.map Diagnostic.unplaced = t.log.map Diagnostic.unplaced := congrArg log hs
  have hp := Grammar.perform_unplaced s.grammar step
  rw [hg, hb, Grammar.perform_unplaced, Prod.mk.injEq] at hp
  simp only [answer, Prod.map, unplaced, Reply.unplaced, hl, hp.1, hp.2]

theorem readAction_congr {kind : ActionKind} {text : String} {pos pos' : Position}
    (hs : s.unplaced = t.unplaced) :
    Prod.map unplaced Reply.unplaced (s.answer (.readAction kind text pos)) =
      Prod.map unplaced Reply.unplaced (t.answer (.readAction kind text pos')) := by
  have hg : s.grammar.unplaced = t.grammar.unplaced := congrArg grammar hs
  have hl : s.log.map Diagnostic.unplaced = t.log.map Diagnostic.unplaced := congrArg log hs
  simp only [answer, Snippet.reports_read kind text _ _, reported, List.drop_left]
  cases ht : Code.ofText? text <;>
    simp [Snippet.read?, ht, Prod.map, unplaced, Reply.unplaced, hg, hl] <;> rfl

/-- Sessions that differ in positions only give replies that do, and stay so. -/
theorem answer_congr (hs : s.unplaced = t.unplaced) (hq : q.unplaced = p.unplaced) :
    Prod.map unplaced Reply.unplaced (s.answer q) =
      Prod.map unplaced Reply.unplaced (t.answer p) := by
  have hg : s.grammar.unplaced = t.grammar.unplaced := congrArg grammar hs
  cases q with
  | readDeclarations kind text pos =>
    cases p with
    | readDeclarations =>
      obtain ⟨rfl, rfl, _⟩ := Request.readDeclarations.inj hq
      simp only [answer, Prod.map, Reply.unplaced, Dict.ofDeclarations_unplaced, hs]
    | _ => cases hq
  | readAction kind text pos =>
    cases p with
    | readAction =>
      obtain ⟨rfl, rfl, _⟩ := Request.readAction.inj hq
      exact readAction_congr hs
    | _ => cases hq
  | build step =>
    cases p with
    | build => exact build_congr hs (Request.build.inj hq)
    | _ => cases hq
  | check directives =>
    cases p with
    | check =>
      exact pass_congr _ hs (Check.alike_check hg (Request.check.inj hq)) Check.printed_unplaced
    | _ => cases hq
  | analyse =>
    cases p with
    | analyse => exact pass_congr (fun _ => "") hs (Check.alike_analyse hg) fun _ => rfl
    | _ => cases hq
  | decorate directives =>
    cases p with
    | decorate =>
      have hd := Check.alike_decorate hg (Request.decorate.inj hq)
      exact pass_congr (fun _ => "") hs hd fun _ => rfl
    | _ => cases hq
  | resolve i x y =>
    cases p with
    | resolve =>
      obtain ⟨rfl, rfl, rfl⟩ := Request.resolve.inj hq
      simp only [answer, Prod.map, Reply.unplaced, Grammar.resolve_unplaced, hs, hg]
    | _ => cases hq
  | print level =>
    cases p with
    | print =>
      obtain rfl := Request.print.inj hq
      simp only [answer, Prod.map, Reply.unplaced, ← Grammar.render_unplaced (g := s.grammar), hs,
        hg, Grammar.render_unplaced]
    | _ => cases hq

theorem run_congr {requests others : List Request} (hs : s.unplaced = t.unplaced)
    (hq : requests.map Request.unplaced = others.map Request.unplaced) :
    (s.run requests).1.unplaced = (t.run others).1.unplaced ∧
      (s.run requests).2.map Reply.unplaced = (t.run others).2.map Reply.unplaced := by
  induction requests generalizing s t others with
  | nil =>
    obtain rfl := List.map_eq_nil_iff.1 hq.symm
    exact ⟨hs, rfl⟩
  | cons request requests ih =>
    cases others with
    | nil => cases hq
    | cons other others =>
      rw [List.map_cons, List.map_cons, List.cons.injEq] at hq
      have ha := answer_congr hs hq.1
      have hr : (s.answer request).2.unplaced = (t.answer other).2.unplaced :=
        congrArg Prod.snd ha
      obtain ⟨hl, hm⟩ := ih (congrArg Prod.fst ha) hq.2
      exact ⟨hl, List.cons_eq_cons.2 ⟨hr, hm⟩⟩

/-- Requests that differ in positions only are answered alike: with the same successes and failures,
the same meanings of names, the same verdicts and the same texts, and with diagnostics of the same
levels and faults, note by note. -/
theorem positions_do_not_matter (name : String) (kind : GrammarKind)
    (requests others : List Request)
    (hq : requests.map Request.unplaced = others.map Request.unplaced) :
    let s := (start name kind).run requests
    let t := (start name kind).run others
    s.2.map Reply.unplaced = t.2.map Reply.unplaced ∧ s.1.unplaced = t.1.unplaced ∧
      s.1.log.map (fun d => (d.level, d.fault, d.notes.map (·.fault))) =
        t.1.log.map fun d => (d.level, d.fault, d.notes.map (·.fault)) := by
  intro s t
  obtain ⟨hs, hr⟩ := run_congr (s := start name kind) rfl hq
  refine ⟨hr, hs, ?_⟩
  have hl : s.1.log.map Diagnostic.unplaced = t.1.log.map Diagnostic.unplaced := congrArg log hs
  have hd : ∀ xs : List Diagnostic, xs.map (fun d => (d.level, d.fault, d.notes.map (·.fault))) =
      (xs.map Diagnostic.unplaced).map fun d => (d.level, d.fault, d.notes.map (·.fault)) := by
    intro xs
    simp only [List.map_map, Diagnostic.unplaced, Function.comp_def]
    rfl
  rw [hd, hl, ← hd]

/-- A rule that is declared twice, a reference to a rule that is not declared, and a directive that
is not understood. -/
theorem positions_do_not_matter_for_flawed_grammar :
    let requests (pos : Position) : List Request := [.build (.defineRule ⟨"a", {}⟩ 1),
      .build (.defineRule ⟨"a", pos⟩ 1), .build (.addRuleRef 0 1 ⟨"b", pos⟩),
      .check [{ path := ["trace"], pos, namePos := pos }], .resolve 0 "a" "text"]
    let run (pos : Position) := (start "P" .parser).run (requests pos)
    (run ⟨7, 3⟩).1.log.length = 3 ∧ (run ⟨7, 3⟩).1.log ≠ (run {}).1.log ∧
      (run ⟨7, 3⟩).2.map Reply.unplaced = (run {}).2.map Reply.unplaced := by
  intro requests run
  have h := positions_do_not_matter "P" .parser (requests ⟨7, 3⟩) (requests {}) rfl
  exact ⟨rfl, by decide, h.1⟩

end Session
end GrammarRefs
