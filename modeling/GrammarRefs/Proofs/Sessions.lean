import GrammarRefs.Session
import GrammarRefs.Proofs.Coherence
import GrammarRefs.Proofs.Frame
import GrammarRefs.Proofs.History

/-! What a session does to its grammar: it takes one building step, or a check sets its marks. The
rules stay coherent all the way. -/
namespace GrammarRefs

/-- A request with its reply. -/
abbrev Exchange := Request × Reply

/-- The pass sets nothing but the marks of a check. -/
def Pass.Marks (pass : Pass) : Prop :=
  ∀ g log h, ((pass g).run log).1.value? = some h → h.unmarked = g.unmarked

/-- What a request makes of a grammar. -/
inductive Grammar.Move (g : Grammar) : Request → Reply → Grammar → Prop
  | built {step : BuildStep} {h : Grammar} {answer : Except BuildError BuildAnswer}
    (he : g.Effect step h answer) : Move g (.build step) (.built answer) h
  | marked {request : Request} {reply : Reply} {h : Grammar}
    (hr : ∀ step, request ≠ .build step) (hm : h.unmarked = g.unmarked) : Move g request reply h

variable {g g₁ h : Grammar} {pass : Pass} {xs : List Diagnostic} {r q : Rule} {i a : Nat}
  {n : String} {s : Session} {request : Request} {reply : Reply} {past : List Exchange}
  {requests : List Request} {head : Token} {answer : Except BuildError BuildAnswer}

theorem Pass.marks_of_yields {left : Grammar → Grammar} {found : Grammar → List Diagnostic}
    (hy : ∀ g, pass.Yields g (left g) (found g)) (hu : ∀ g, (left g).unmarked = g.unmarked) :
    pass.Marks := by
  intro g log h hv
  rw [hy g log, Verdict.value?_ofMark] at hv
  exact Option.some.inj hv ▸ hu g

theorem Check.marks_analyse : analyse.Marks :=
  Pass.marks_of_yields analyse_yields fun _ => unmarked_withStartRules

theorem Check.marks_decorate (directives : List Directive) : (decorate directives).Marks := by
  refine Pass.marks_of_yields (decorate_yields directives) fun g => ?_
  rw [g.foldl_obeying_eq]
  rfl

theorem Check.marks_check (directives : List Directive) : (check directives).Marks := by
  intro g log h hv
  by_cases hg : g.rules = []
  · rw [reports_check_of_no_rules hg directives log] at hv
    cases hv
  · rw [check_yields hg directives log, Verdict.value?_ofMark] at hv
    exact Option.some.inj hv ▸ unmarked_checked directives

namespace Grammar

theorem move_pass (hp : pass.Marks) (hr : ∀ step, request ≠ .build step)
    (output : Verdict Grammar → String) :
    s.grammar.Move request reply (s.pass pass output).1.grammar := by
  have hs : (s.pass pass output).1.grammar =
      ((pass s.grammar).run s.log).1.value?.getD s.grammar := rfl
  rw [hs]
  cases hv : ((pass s.grammar).run s.log).1.value? with
  | none => exact .marked hr rfl
  | some h => exact .marked hr (hp _ _ _ hv)

/-- Every request is a move. -/
theorem move_answer (s : Session) (request : Request) :
    s.grammar.Move request (s.answer request).2 (s.answer request).1.grammar := by
  cases request with
  | build step => exact .built (effect_perform s.grammar step)
  | check directives => exact move_pass (Check.marks_check directives) (by simp) _
  | analyse => exact move_pass Check.marks_analyse (by simp) _
  | decorate directives => exact move_pass (Check.marks_decorate directives) (by simp) _
  | readDeclarations | readAction | resolve | print => exact .marked (by simp) rfl

theorem exists_rule_of_unmarked (hu : h.unmarked = g.unmarked) (hr : g.rules[i]? = some r) :
    ∃ q : Rule, h.rules[i]? = some q ∧ q.head = r.head ∧ q.index = r.index ∧
      q.alternatives = r.alternatives := by
  have hl : h.unmarked.rules[i]? = g.unmarked.rules[i]? := by rw [hu]
  simp only [Grammar.unmarked, List.getElem?_map, hr] at hl
  obtain ⟨q, hq, he⟩ := Option.map_eq_some_iff.1 hl
  rw [Rule.mk.injEq] at he
  exact ⟨q, hq, he.1, he.2.1, he.2.2.1⟩

theorem keeps_of_unmarked (hu : h.unmarked = g.unmarked) : g.Keeps h := by
  intro i r hr
  obtain ⟨q, hq, hn, _, ha⟩ := exists_rule_of_unmarked hu hr
  exact ⟨q, hq, hn, by rw [ha]⟩

theorem Placed.of_unmarked (hg : g.Placed) (hu : h.unmarked = g.unmarked) : h.Placed where
  rules i r hr := by
    obtain ⟨q, hq, _, hi, ha⟩ := exists_rule_of_unmarked hu.symm hr
    have hs := hg.rules i q hq
    exact ⟨hi ▸ hs.index, ha ▸ hs.nonempty, ha ▸ hs.alternatives⟩
  scopes := by
    have hs : h.unmarked.scopes = g.unmarked.scopes := by rw [hu]
    exact fun n scope hd => hg.scopes n scope (hs ▸ hd)

theorem Tabled.of_unmarked (hg : g.Tabled) (hu : h.unmarked = g.unmarked) : h.Tabled where
  index n := by
    have hi : h.unmarked.ruleIndex = g.unmarked.ruleIndex := by rw [hu]
    have hr : h.unmarked.rules.findIdx? (·.name == n) =
        g.unmarked.rules.findIdx? (·.name == n) := by rw [hu]
    simp only [Grammar.unmarked, List.findIdx?_map] at hi hr
    rw [hi, hg.index n]
    exact hr.symm
  filed r hr := by
    obtain ⟨i, hi⟩ := List.mem_iff_getElem?.1 hr
    obtain ⟨q, hq, _, _, ha⟩ := exists_rule_of_unmarked hu.symm hi
    exact ha ▸ hg.filed q (List.mem_of_getElem? hq)

theorem placed_move (hg : g.Placed) (hm : g.Move request reply h) : h.Placed := by
  cases hm with
  | built he => exact placed_step hg he
  | marked _ hu => exact hg.of_unmarked hu

theorem tabled_move (hg : g.Tabled) (hm : g.Move request reply h) : h.Tabled := by
  cases hm with
  | built he => exact tabled_step hg he
  | marked _ hu => exact hg.of_unmarked hu

theorem keeps_move (hm : g.Move request reply h) : g.Keeps h := by
  cases hm with
  | built he => exact keeps_step he
  | marked _ hu => exact keeps_of_unmarked hu

end Grammar

namespace Session

/-- The requests of a session in order, each with its reply. -/
def history (s : Session) (requests : List Request) : List Exchange :=
  requests.zip (s.run requests).2

/-- What every move keeps, its reply being written down, holds at the end of a session. -/
theorem history_induct {motive : List Exchange → Grammar → Prop}
    (hm : ∀ past g request reply h, motive past g → g.Move request reply h →
      motive (past ++ [(request, reply)]) h)
    (past : List Exchange) (requests : List Request) (hs : motive past s.grammar) :
    motive (past ++ s.history requests) (s.run requests).1.grammar := by
  induction requests generalizing past s with
  | nil =>
    rw [history, List.zip_nil_left, List.append_nil]
    exact hs
  | cons request requests ih =>
    have h := ih _ (hm past s.grammar request _ _ hs (Grammar.move_answer s request))
    rwa [List.append_assoc] at h

theorem run_induct {motive : Grammar → Prop}
    (hm : ∀ g request reply h, motive g → g.Move request reply h → motive h)
    (requests : List Request) (hs : motive s.grammar) : motive (s.run requests).1.grammar :=
  history_induct (motive := fun _ => motive)
    (fun _ g request reply h => hm g request reply h) [] requests hs

theorem placed_run (requests : List Request) (hs : s.grammar.Placed) :
    (s.run requests).1.grammar.Placed :=
  run_induct (fun _ _ _ _ hg hm => Grammar.placed_move hg hm) requests hs

theorem tabled_run (requests : List Request) (hs : s.grammar.Tabled) :
    (s.run requests).1.grammar.Tabled :=
  run_induct (fun _ _ _ _ hg hm => Grammar.tabled_move hg hm) requests hs

theorem keeps_run (s : Session) (requests : List Request) :
    s.grammar.Keeps (s.run requests).1.grammar :=
  run_induct (motive := s.grammar.Keeps)
    (fun _ _ _ _ hk hm => hk.trans (Grammar.keeps_move hm)) requests (Grammar.Keeps.refl _)

end Session

/-- The rules are those that have been declared, each at the place that was answered. -/
def Grammar.Declared (past : List Exchange) (g : Grammar) : Prop :=
  ∀ head a i, (.build (.defineRule head a), .built (.ok (.index i))) ∈ past ↔
    ∃ r : Rule, g.rules[i]? = some r ∧ r.head = head ∧ r.alternatives.length = a

namespace Grammar

theorem exists_rule_of_declared (he : g.Effect (.defineRule head a) h answer)
    (ha : answer = .ok (.index i)) :
    ∃ r : Rule, h.rules[i]? = some r ∧ r.head = head ∧ r.alternatives.length = a := by
  cases he with
  | refused => cases ha
  | declared =>
    cases ha
    exact ⟨_, List.getElem?_concat_length, rfl, by simp [Rule.fresh]⟩
  | changed hc => cases hc
  | filed hf => cases hf

/-- Only a declaration brings a new rule, at the place that it answers. -/
theorem growth_of_move (hm : g.Move request reply h) : h.rules.length = g.rules.length ∨
    ∃ head a, request = .build (.defineRule head a) ∧
      reply = .built (.ok (.index g.rules.length)) ∧ h.rules.length = g.rules.length + 1 := by
  cases hm with
  | marked _ hu =>
    have hl : h.unmarked.rules.length = g.unmarked.rules.length := by rw [hu]
    exact .inl (by simpa [Grammar.unmarked] using hl)
  | built he =>
    cases he with
    | declared => exact .inr ⟨_, _, rfl, rfl, by simp [declaring]⟩
    | _ => exact .inl (by simp [withRule, defineScope, raisePrintLevel])

theorem Declared.of_keeps (hd : Declared past g) (hk : g.Keeps h) (hi : i < g.rules.length)
    (hr : h.rules[i]? = some r) :
    (.build (.defineRule r.head r.alternatives.length), .built (.ok (.index i))) ∈ past := by
  obtain ⟨q, hq, hn, ha⟩ := hk i _ (List.getElem?_eq_getElem hi)
  cases hr.symm.trans hq
  exact (hd _ _ i).2 ⟨_, List.getElem?_eq_getElem hi, hn.symm, ha.symm⟩

theorem declared_move (hd : Declared past g) (hm : g.Move request reply h) :
    Declared (past ++ [(request, reply)]) h := by
  intro head a i
  rw [List.mem_append, List.mem_singleton]
  constructor
  · rintro (hp | hp)
    · obtain ⟨r, hr, hh, ha⟩ := (hd head a i).1 hp
      obtain ⟨q, hq, hn, hl⟩ := keeps_move hm i r hr
      exact ⟨q, hq, hn.trans hh, hl.trans ha⟩
    · obtain ⟨rfl, rfl⟩ := Prod.mk.inj hp
      cases hm with
      | built he => exact exists_rule_of_declared he rfl
      | marked hr => exact absurd rfl (hr _)
  · rintro ⟨r, hr, rfl, rfl⟩
    have hl := (List.getElem?_eq_some_iff.1 hr).1
    by_cases hi : i < g.rules.length
    · exact .inl (hd.of_keeps (keeps_move hm) hi hr)
    · rcases growth_of_move hm with hs | ⟨head, a, rfl, rfl, hs⟩
      · omega
      · obtain rfl : i = g.rules.length := by omega
        cases hm with
        | marked hn => exact absurd rfl (hn _)
        | built he =>
          obtain ⟨q, hq, rfl, rfl⟩ := exists_rule_of_declared he rfl
          cases hr.symm.trans hq
          exact .inr rfl

end Grammar

/-- The request declares a rule. -/
def Request.Declares (request : Request) : Prop :=
  ∃ head a, request = .build (.defineRule head a)

theorem Grammar.rules_prefix_of_declares (hr : request.Declares) (hm : g.Move request reply h) :
    g.rules <+: h.rules := by
  obtain ⟨head, a, rfl⟩ := hr
  cases hm with
  | marked hr => exact absurd rfl (hr _)
  | built he =>
    cases he with
    | refused => exact List.prefix_refl _
    | declared => exact List.prefix_append _ _
    | changed hc => cases hc
    | filed hf => cases hf

theorem Session.rules_prefix_run (hr : ∀ request ∈ requests, request.Declares) :
    s.grammar.rules <+: (s.run requests).1.grammar.rules := by
  induction requests generalizing s with
  | nil => exact List.prefix_refl _
  | cons request requests ih =>
    have hm := Grammar.move_answer s request
    exact (Grammar.rules_prefix_of_declares (hr request (by simp)) hm).trans
      (ih fun other ho => hr other (by simp [ho]))

theorem Grammar.Tabled.rule?_of_prefix (hg : g.Tabled) (hh : h.Tabled)
    (hp : g.rules <+: h.rules) (hr : g.rule? n = some r) : h.rule? n = some r := by
  obtain ⟨later, he⟩ := hp
  rw [hg.rule?_eq_find?] at hr
  rw [hh.rule?_eq_find?, ← he, List.find?_append, hr]
  rfl

/-- What a name is answered with: the first rule of the name, at its place, or nothing. -/
theorem Grammar.Tabled.lookUp (hg : g.Tabled) (n : String) :
    (g.ruleIndex? n = none ∧ g.rule? n = none ∧ ∀ r ∈ g.rules, r.name ≠ n) ∨
    ∃ i r, g.ruleIndex? n = some i ∧ g.rule? n = some r ∧ g.rules[i]? = some r ∧ g.FirstAt n i := by
  cases hi : g.ruleIndex? n with
  | none =>
    refine .inl ⟨rfl, by rw [rule?, hi]; rfl, ?_⟩
    rw [ruleIndex?, hg.index, List.findIdx?_eq_none_iff] at hi
    intro r hr
    simpa using hi r hr
  | some i =>
    have hf := hg.firstAt_iff.1 hi
    obtain ⟨r, hr, _⟩ := id hf
    exact .inr ⟨i, r, rfl, by rw [rule?, hi]; exact hr, hr, hf⟩

namespace Session

/-- Whatever a session has built and checked, all views of the rules agree, and what has been
declared stays at its place and under its name. -/
theorem rules_stay_coherent (name : String) (kind : GrammarKind) (requests more : List Request) :
    let g := ((start name kind).run requests).1.grammar
    let h := (((start name kind).run requests).1.run more).1.grammar
    g.Coherent ∧
    (∀ n, (g.ruleIndex? n = none ∧ g.rule? n = none ∧ ∀ r ∈ g.rules, r.name ≠ n) ∨
      ∃ i r, g.ruleIndex? n = some i ∧ g.rule? n = some r ∧ g.rules[i]? = some r ∧
        g.FirstAt n i) ∧
    (∀ head a i, (.build (.defineRule head a), .built (.ok (.index i))) ∈
        (start name kind).history requests ↔
      ∃ r : Rule, g.rules[i]? = some r ∧ r.head = head ∧ r.alternatives.length = a) ∧
    (∀ n i, g.ruleIndex? n = some i → h.ruleIndex? n = some i ∧
      ∃ r q, g.rule? n = some r ∧ h.rule? n = some q ∧ q.head = r.head ∧ q.index = r.index) ∧
    ((∀ request ∈ more, request.Declares) → ∀ n r, g.rule? n = some r → h.rule? n = some r) := by
  intro g h
  have hp : g.Placed := placed_run requests (Grammar.placed_empty name kind)
  have ht : g.Tabled := tabled_run requests (Grammar.tabled_empty name kind)
  have hk : g.Keeps h := keeps_run _ more
  have hq : h.Placed := placed_run more hp
  have hu : h.Tabled := tabled_run more ht
  refine ⟨hp.coherent ht, ht.lookUp, ?_, ?_, ?_⟩
  · refine history_induct (motive := Grammar.Declared) ?_ [] requests ?_
    · exact fun _ _ _ _ _ hd hm => Grammar.declared_move hd hm
    · intro head a i
      simp [start, Grammar.empty]
  · intro n i hi
    have hl : h.ruleIndex? n = some i := hu.firstAt_iff.2 (hk.firstAt (ht.firstAt_iff.1 hi))
    refine ⟨hl, ?_⟩
    obtain ⟨r, hr, _⟩ := ht.firstAt_iff.1 hi
    obtain ⟨q, hs, hh, _⟩ := hk i r hr
    refine ⟨r, q, ?_, ?_, hh, (hq.rules i q hs).index.trans (hp.rules i r hr).index.symm⟩
    · rw [Grammar.rule?, hi]
      exact hr
    · rw [Grammar.rule?, hl]
      exact hs
  · intro hm n r hr
    exact ht.rule?_of_prefix hu (rules_prefix_run hm) hr

/-- A rule that is declared twice, with a check in between and a failure after it, and a scope that
gets its name from its definition. -/
theorem rules_stay_coherent_across_check :
    let requests : List Request := [.build (.defineRule ⟨"a", {}⟩ 2),
      .build (.defineScope "S" { kind := .ruleScope }), .check [],
      .build (.defineRule ⟨"b", {}⟩ 0), .build (.addRuleRef 0 3 ⟨"b", {}⟩)]
    let more : List Request := [.build (.defineRule ⟨"a", ⟨7, 0⟩⟩ 1)]
    let s := (start "P" .parser).run requests
    let t := s.1.run more
    (∃ r : Rule, s.1.grammar.rules[0]? = some r ∧ r.head = ⟨"a", {}⟩ ∧
      r.alternatives.length = 2) ∧
    t.1.grammar.rules.length = 2 ∧ t.1.grammar.ruleIndex? "a" = some 0 ∧
    (∀ r, s.1.grammar.rule? "a" = some r → t.1.grammar.rule? "a" = some r) ∧
    ∃ scope, s.1.grammar.scopes.get? "S" = some scope ∧ scope.name = some "S" := by
  intro requests more s t
  obtain ⟨hc, _, hd, hi, hr⟩ := rules_stay_coherent "P" .parser requests more
  refine ⟨(hd _ _ _).1 (.head _), rfl, (hi "a" 0 rfl).1, hr ?_ "a", _, rfl, hc.scopes "S" _ rfl⟩
  intro request hm
  exact ⟨_, _, List.mem_singleton.1 hm⟩

end Session
end GrammarRefs
