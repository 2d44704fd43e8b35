import GrammarRefs.Proofs.Checking
import GrammarRefs.Session

/-! Checks that are run again. A check writes the start rules and the print level, leaves both as it
finds them when it comes back, and reads neither of them. -/
namespace GrammarRefs

variable {g g₁ : Grammar} {directives : List Directive} {starts : Rule → Bool} {s t : Session}
  {v : Verdict Grammar} {added : List Diagnostic} {output : String}

namespace Check

theorem duplicateAttributes_remarked :
    duplicateAttributes (remarked starts g) = duplicateAttributes g :=
  congrArg (· ++ _) (List.flatMap_map ..)

theorem undeclaredRefs_remarked : undeclaredRefs (remarked starts g) = undeclaredRefs g := by
  simp only [undeclaredRefs, declares_remarked]
  exact List.flatMap_map ..

theorem errors_remarked : errors (remarked starts g) = errors g := by
  have hd : duplicateRules (remarked starts g) = duplicateRules g :=
    congrArg (duplicates "rule") (List.map_map ..)
  rw [errors, hd, duplicateAttributes_remarked, undeclaredRefs_remarked, conflictsOfLabels_remarked,
    referenceFaults_remarked, errors]

/-- Which rules start a grammar does not depend on which did before. -/
theorem withStartRules_remarked : withStartRules (remarked starts g) = withStartRules g := by
  have hr : referredNames (remarked starts g) = referredNames g := List.flatMap_map ..
  rw [withStartRules, hr, withStartRules, remarked, List.map_map]
  rfl

theorem errors_checked (directives : List Directive) (g : Grammar) :
    errors (checked directives g) = errors g :=
  errors_remarked.trans errors_obeying

theorem checked_eq (directives : List Directive) (g : Grammar) : checked directives g =
    { withStartRules g with printLevel := Directive.raised directives g.printLevel } := by
  rw [checked, Grammar.foldl_obeying_eq]
  rfl

theorem checked_checked (directives : List Directive) (g : Grammar) :
    checked directives (checked directives g) = checked directives g := by
  have hs : withStartRules (withStartRules g) = withStartRules g := withStartRules_remarked
  let raise := Directive.raised directives
  have hl : raise (raise g.printLevel) = raise g.printLevel :=
    Directive.raised_raised directives g.printLevel
  calc
    checked directives (checked directives g)
      = { withStartRules (withStartRules g) with printLevel := raise (raise g.printLevel) } := by
        rw [checked_eq, checked_eq]
        rfl
    _ = checked directives g := by rw [hs, hl, checked_eq]

end Check

namespace Session

/-- What a check makes of a session whose grammar has a rule, and what it replies. -/
def checked (directives : List Directive) (s : Session) : Session × Reply :=
  let h := Check.checked directives s.grammar
  let found := directives.flatMap Directive.warnings ++ Check.errors s.grammar
  let v := Verdict.ofMark (Diagnostics.hasErrors found) h
  ({ grammar := h, log := s.log ++ found }, .passed v found (Check.printed v))

theorem answer_check (hs : s.grammar.rules ≠ []) (directives : List Directive) :
    s.answer (.check directives) = s.checked directives := by
  simp only [answer, pass, reported, Check.check_yields hs directives s.log, checked,
    List.drop_left]
  cases Diagnostics.hasErrors _ <;> rfl

theorem answer_check_of_no_rules (hs : s.grammar.rules = []) (directives : List Directive) :
    (s.answer (.check directives)).2 = .passed .rejected [.error {} .noRule] "" := by
  simp only [answer, pass, reported, Check.reports_check_of_no_rules hs directives s.log,
    List.drop_left]
  rfl

/-- The grammar that a check leaves is left as it is by the next one, which gives the same reply. -/
theorem answer_check_again (hs : s.grammar.rules ≠ []) (directives : List Directive)
    (ht : t.grammar = Check.checked directives s.grammar) : t.answer (.check directives) =
      ({ t with log := t.log ++ (directives.flatMap Directive.warnings ++ Check.errors s.grammar) },
        (s.answer (.check directives)).2) := by
  have hr : t.grammar.rules ≠ [] := by
    rw [ht, Check.checked_eq]
    simpa [Check.withStartRules] using hs
  rw [answer_check hr, answer_check hs, checked, ht, Check.checked_checked, Check.errors_checked,
    checked]

/-- A request that is answered in one way, whatever was reported before, is always answered so. -/
theorem run_replicate {request : Request} {reply : Reply}
    (ha : ∀ t : Session, t.grammar = g₁ →
      t.answer request = ({ t with log := t.log ++ added }, reply))
    (n : Nat) (ht : t.grammar = g₁) : t.run (List.replicate n request) =
      ({ t with log := t.log ++ (List.replicate n added).flatten }, List.replicate n reply) := by
  induction n generalizing t with
  | zero => simp [run]
  | succ n ih =>
    have hn := ih (t := { t with log := t.log ++ added }) ht
    simp only [List.replicate_succ, run, ha t ht, hn, List.flatten_cons, List.append_assoc]

/-- A check of the grammar that a check has handed on, with the same directives and after whatever
was reported before, comes to the same verdict, reports the same and prints the same. So does every
further one. -/
theorem checking_is_idempotent (s : Session) (directives : List Directive)
    (hr : (s.answer (.check directives)).2 = .passed v added output)
    (hv : v = .accepted g₁ ∨ v = .flawed g₁) :
    (s.answer (.check directives)).1 = { grammar := g₁, log := s.log ++ added } ∧
    ∀ t : Session, t.grammar = g₁ →
      t.answer (.check directives) =
        ({ grammar := g₁, log := t.log ++ added }, .passed v added output) ∧
      ∀ n, t.run (List.replicate n (.check directives)) =
        ({ grammar := g₁, log := t.log ++ (List.replicate n added).flatten },
          List.replicate n (.passed v added output)) := by
  by_cases hs : s.grammar.rules = []
  · rw [answer_check_of_no_rules hs] at hr
    cases hr
    rcases hv with hv | hv <;> cases hv
  have hc := answer_check hs directives
  obtain ⟨rfl, rfl, rfl⟩ := Reply.passed.inj (hr.symm.trans (congrArg Prod.snd hc))
  obtain rfl : Check.checked directives s.grammar = g₁ := by
    apply Option.some.inj
    rw [← Verdict.value?_ofMark]
    rcases hv with hv | hv <;> exact congrArg Verdict.value? hv
  refine ⟨congrArg Prod.fst hc, ?_⟩
  rintro ⟨_, log⟩ rfl
  have ha := fun (t : Session) ht =>
    (answer_check_again (t := t) hs directives ht).trans (congrArg (Prod.mk _) hr)
  exact ⟨ha _ rfl, fun n => run_replicate ha n rfl⟩

/-- A rule is referred to that is not there, a start rule is no longer one, and a directive is not
understood. -/
theorem checking_is_idempotent_for_flawed_grammar :
    let s := ((start "P" .parser).run [.build (.defineRule ⟨"a", {}⟩ 1),
      .build (.defineRule ⟨"b", {}⟩ 1), .build (.addRuleRef 0 1 ⟨"b", {}⟩),
      .build (.addRuleRef 1 1 ⟨"c", {}⟩)]).1
    let request := Request.check [{ path := ["show_rules"] }, { path := ["trace"] }]
    let t := (s.answer request).1
    t.log.length = 2 ∧ (t.answer request).1.log = t.log ++ t.log ∧
      (t.answer request).1.grammar = t.grammar ∧ (t.answer request).2 = (s.answer request).2 := by
  intro s request t
  obtain ⟨hs, ht⟩ := checking_is_idempotent s
    [{ path := ["show_rules"] }, { path := ["trace"] }] rfl (.inr rfl)
  have ha := (ht t (congrArg Session.grammar hs)).1
  rw [ha]
  exact ⟨rfl, rfl, rfl, rfl⟩

end Session
end GrammarRefs
