import GrammarRefs.Proofs.Directives
import Mathlib.Order.Bounds.Basic

/-! Directives in any order. A grammar is raised to the highest level that one of them requests, so
it does not matter in which order they stand, nor in how many runs they are obeyed. -/
namespace GrammarRefs

namespace PrintLevel

def rank : PrintLevel → Nat
  | .quiet => 0
  | .rules => 1
  | .alternatives => 2

theorem rank_injective : Function.Injective rank := by
  intro a b h
  cases a <;> cases b <;> cases h <;> rfl

/-- The higher of two levels is the more talkative one. -/
instance : LinearOrder PrintLevel := LinearOrder.lift' rank rank_injective

theorem merge_eq_max (a b : PrintLevel) : a.merge b = max a b := by
  cases a <;> cases b <;> rfl

theorem isGreatest_foldl_merge (levels : List PrintLevel) (a : PrintLevel) :
    IsGreatest {l | l = a ∨ l ∈ levels} (levels.foldl merge a) := by
  induction levels generalizing a with
  | nil => simp
  | cons b rest ih =>
    -- The level so far comes out of the fold, since merging is associative.
    have hm : (b :: rest).foldl merge a = max a (rest.foldl merge b) := by
      rw [List.foldl_cons, List.foldl_assoc, merge_eq_max]
    simp only [hm, List.mem_cons]
    exact (ih b).insert a

end PrintLevel

variable {d : Directive} {directives others : List Directive} {name : String}

namespace Directive

theorem isGreatest_raised (directives : List Directive) (level : PrintLevel) :
    IsGreatest {l | l = level ∨ ∃ d ∈ directives, d.Requests l} (raised directives level) := by
  have hs := PrintLevel.isGreatest_foldl_merge (directives.filterMap level?) level
  simp only [List.mem_filterMap, level?_eq_some_iff] at hs
  exact hs

/-- The order of the directives is lost: there is one highest level. -/
theorem raised_of_perm (h : others.Perm directives) (level : PrintLevel) :
    raised others level = raised directives level := by
  have ho := isGreatest_raised others level
  simp only [h.mem_iff] at ho
  exact ho.unique (isGreatest_raised directives level)

def Understood (d : Directive) : Prop := ∃ level, d.Requests level

theorem understood_iff : d.level?.isSome = true ↔ d.Understood := by
  simp only [Option.isSome_iff_exists, level?_eq_some_iff, Understood]

instance : DecidablePred Understood := fun _ => decidable_of_iff _ understood_iff

/-- A raw identifier is not the name that it would be otherwise. -/
theorem not_understood_of_raw (hp : d.path = ["r#" ++ name]) : ¬ d.Understood := by
  rintro ⟨_, h | h⟩
  all_goals
    have ht := congrArg String.toList (List.singleton_inj.1 (hp.symm.trans h.1))
    simp at ht

/-- What is said of a directive that is not understood. -/
def complaint (d : Directive) : Diagnostic :=
  .warning d.place (.unknownDirective ("::".intercalate d.path))

theorem warnings_eq (d : Directive) :
    d.warnings = if ¬ d.Understood then [d.complaint] else [] := by
  rw [warnings]
  cases hl : d.level? with
  | some level =>
    have hu : d.Understood := ⟨level, level?_eq_some_iff.1 hl⟩
    simp [hu]
  | none =>
    have hu : ¬ d.Understood := by simp [← understood_iff, hl]
    simp [hu, complaint, display]

/-- One for each directive that is not understood. -/
def complaints (directives : List Directive) : List Diagnostic :=
  (directives.filter fun d => ¬ d.Understood).map complaint

theorem flatMap_warnings (directives : List Directive) :
    directives.flatMap warnings = complaints directives := by
  induction directives with
  | nil => rfl
  | cons d rest ih =>
    rw [List.flatMap_cons, ih, warnings_eq, complaints, complaints]
    by_cases hd : d.Understood <;> simp [hd]

theorem complaints_of_perm (h : others.Perm directives) :
    (complaints others).Perm (complaints directives) := (h.filter _).map _

theorem isError_of_mem_complaints {w : Diagnostic} (hw : w ∈ complaints directives) :
    w.isError = false := by
  obtain ⟨d, _, rfl⟩ := List.mem_map.1 hw
  rfl

theorem exists_complaint_of_raw (hd : d ∈ directives) (hp : d.path = ["r#" ++ name]) :
    ∃ w ∈ complaints directives, w.fault = .unknownDirective ("r#" ++ name) := by
  have hu : d ∈ directives.filter fun d => ¬ d.Understood :=
    List.mem_filter.2 ⟨hd, decide_eq_true (not_understood_of_raw hp)⟩
  refine ⟨d.complaint, List.mem_map_of_mem hu, ?_⟩
  simp [complaint, Diagnostic.warning, hp]

end Directive

namespace Check

theorem reports_decorate_raised (g : Grammar) (directives : List Directive) :
    Reports (decorate directives g)
      (.accepted { g with printLevel := Directive.raised directives g.printLevel })
      (Directive.complaints directives) := by
  rw [← g.foldl_obeying_eq, ← Directive.flatMap_warnings]
  exact reports_decorate g directives

theorem decorate_append (g : Grammar) (directives others : List Directive) :
    decorate (directives ++ others) g = Pass.chain [decorate directives, decorate others] g := by
  simp [decorate, Pass.chain, Verdict.andThen, List.foldlM_append]

/-- A grammar is accepted and only its level is written, to the highest of the level that it has and
of those that are requested. Each other directive gets a warning, and nothing is an error. In another
order the warnings move and nothing else is different, and two lists can be obeyed one after the
other. -/
theorem directives_merge_in_any_order (g : Grammar) (directives : List Directive) :
    ∃ level, IsGreatest {l | l = g.printLevel ∨ ∃ d ∈ directives, d.Requests l} level ∧
      (∀ log, (decorate directives g).run log =
        (.accepted { g with printLevel := level }, log ++ Directive.complaints directives)) ∧
      (∀ w ∈ Directive.complaints directives, w.isError = false) ∧
      (∀ d ∈ directives, ∀ name, d.path = ["r#" ++ name] →
        ∃ w ∈ Directive.complaints directives, w.fault = .unknownDirective ("r#" ++ name)) ∧
      (∀ others, others.Perm directives →
        (Directive.complaints others).Perm (Directive.complaints directives) ∧
        ∀ log, (decorate others g).run log =
          (.accepted { g with printLevel := level }, log ++ Directive.complaints others)) ∧
      ∀ others, decorate (directives ++ others) g =
        Pass.chain [decorate directives, decorate others] g := by
  refine ⟨Directive.raised directives g.printLevel, Directive.isGreatest_raised _ _,
    reports_decorate_raised g directives, fun w => Directive.isError_of_mem_complaints,
    fun d hd name => Directive.exists_complaint_of_raw hd, ?_, decorate_append g directives⟩
  intro others ho
  refine ⟨Directive.complaints_of_perm ho, ?_⟩
  rw [← Directive.raised_of_perm ho]
  exact reports_decorate_raised g others

/-- The names of the last four directives are raw, rooted, part of a path and with arguments. -/
theorem directives_merge_backwards :
    let g := (Grammar.empty "P" .parser).raisePrintLevel .rules
    let directives : List Directive := [{ path := ["debug_rules"] }, { path := ["show_rules"] },
      { path := ["r#show_rules"] }, { path := ["debug_rules"], rooted := true },
      { path := ["oak", "debug_rules"] }, { path := ["debug_rules"], hasArguments := true }]
    (∃ w ∈ Directive.complaints directives, w.fault = .unknownDirective "r#show_rules") ∧
      directives.reverse.Perm directives ∧
      (Directive.complaints directives.reverse).Perm (Directive.complaints directives) ∧
      ∀ log, (decorate directives.reverse g).run log =
        (.accepted { g with printLevel := .alternatives },
          log ++ Directive.complaints directives.reverse) := by
  intro g directives
  obtain ⟨level, hl, _, _, hr, hp, _⟩ := directives_merge_in_any_order g directives
  have hd : PrintLevel.alternatives ≤ level :=
    hl.2 (.inr ⟨_, List.mem_cons_self, .alternatives ⟨rfl, rfl, rfl⟩⟩)
  obtain rfl : level = .alternatives := by
    cases level with
    | quiet => exact absurd hd (by decide)
    | rules => exact absurd hd (by decide)
    | alternatives => rfl
  have hm : { path := ["r#show_rules"] } ∈ directives := by decide
  have ho := directives.reverse_perm
  exact ⟨hr _ hm "show_rules" rfl, ho, hp _ ho⟩

end Check
end GrammarRefs
