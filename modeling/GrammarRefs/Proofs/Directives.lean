import GrammarRefs.Check.Directive
import GrammarRefs.Proofs.Reporting

/-! What directives make of a grammar, and which of them are warned of. -/
namespace GrammarRefs

variable {g : Grammar} {d : Directive} {directives : List Directive} {name : String}
  {level : PrintLevel}

namespace Directive

/-- The path is this name and nothing else. -/
def IsName (d : Directive) (name : String) : Prop :=
  d.path = [name] ∧ d.rooted = false ∧ d.hasArguments = false

theorem name?_eq_some_iff : d.name? = some name ↔ d.IsName name := by
  rw [name?, IsName]
  split
  · next segment hp =>
    rw [hp]
    cases d.rooted <;> cases d.hasArguments <;> simp
  · next hp =>
    refine iff_of_false nofun ?_
    rintro ⟨h, _⟩
    exact hp name h

/-- The directives that are understood, each with the level that it asks for. -/
inductive Requests (d : Directive) : PrintLevel → Prop
  | rules (h : d.IsName "show_rules") : d.Requests .rules
  | alternatives (h : d.IsName "debug_rules") : d.Requests .alternatives

def level? (d : Directive) : Option PrintLevel :=
  match d.name? with
  | some "debug_rules" => some .alternatives
  | some "show_rules" => some .rules
  | _ => none

theorem level?_eq_some_iff : d.level? = some level ↔ d.Requests level := by
  rw [level?]
  constructor
  · intro h
    split at h
    · next hn =>
      cases h
      exact .alternatives (name?_eq_some_iff.1 hn)
    · next hn =>
      cases h
      exact .rules (name?_eq_some_iff.1 hn)
    · cases h
  · rintro (h | h)
    all_goals
      rw [name?_eq_some_iff.2 h]
      rfl

/-- Where a directive is warned of. -/
def place (d : Directive) : Position :=
  match d.name? with
  | some _ => d.namePos
  | none => d.pos

def warnings (d : Directive) : List Diagnostic :=
  match d.level? with
  | some _ => []
  | none => [.warning d.place (.unknownDirective d.display)]

/-- The level to which the directives raise another one. -/
def raised (directives : List Directive) (level : PrintLevel) : PrintLevel :=
  (directives.filterMap level?).foldl .merge level

theorem raised_raised (directives : List Directive) (level : PrintLevel) :
    raised directives (raised directives level) = raised directives level :=
  PrintLevel.foldl_merge_again ..

theorem isError_of_mem_warnings {w : Diagnostic} (hw : w ∈ d.warnings) : w.isError = false := by
  rw [warnings] at hw
  split at hw
  · simp at hw
  · rw [List.mem_singleton.1 hw]
    rfl

end Directive

def Grammar.obeying (g : Grammar) (d : Directive) : Grammar :=
  match d.level? with
  | some level => g.raisePrintLevel level
  | none => g

theorem Grammar.foldl_obeying_eq (g : Grammar) (directives : List Directive) :
    directives.foldl obeying g =
      { g with printLevel := Directive.raised directives g.printLevel } := by
  induction directives generalizing g with
  | nil => rfl
  | cons d rest ih =>
    rw [List.foldl_cons, ih, obeying]
    cases hl : d.level? <;> simp [Directive.raised, raisePrintLevel, hl]

namespace Check

theorem display_of_name (hn : d.name? = some name) : d.display = name := by
  simp [Directive.display, (Directive.name?_eq_some_iff.1 hn).1]

theorem reports_obey (g : Grammar) (d : Directive) :
    Reports (obey g d) (g.obeying d) d.warnings := by
  cases hn : d.name? with
  | none =>
    have hl : d.level? = none := by simp [Directive.level?, hn]
    have hw : d.warnings = [.warning d.pos (.unknownDirective d.display)] := by
      simp [Directive.warnings, Directive.place, hl, hn]
    simp only [obey, Grammar.obeying, hn, hl, hw]
    exact (reports_report _).map fun _ => g
  | some name =>
    by_cases hd : name = "debug_rules"
    · subst hd
      simpa [obey, Grammar.obeying, Directive.warnings, Directive.level?, hn] using
        reports_pure (g.raisePrintLevel .alternatives)
    by_cases hs : name = "show_rules"
    · subst hs
      simpa [obey, Grammar.obeying, Directive.warnings, Directive.level?, hn] using
        reports_pure (g.raisePrintLevel .rules)
    have hl : d.level? = none := by simp [Directive.level?, hn, hd, hs]
    have hw : d.warnings = [.warning d.namePos (.unknownDirective name)] := by
      simp [Directive.warnings, Directive.place, hl, hn, display_of_name hn]
    simp only [obey, Grammar.obeying, hn, hl, hw]
    exact (reports_report _).map fun _ => g

theorem reports_foldlM_obey (g : Grammar) (directives : List Directive) :
    Reports (directives.foldlM obey g) (directives.foldl Grammar.obeying g)
      (directives.flatMap Directive.warnings) := by
  induction directives generalizing g with
  | nil => exact reports_pure g
  | cons d rest ih =>
    rw [List.flatMap_cons]
    exact (reports_obey g d).bind (ih (g.obeying d))

theorem reports_decorate (g : Grammar) (directives : List Directive) :
    Reports (decorate directives g) (.accepted (directives.foldl Grammar.obeying g))
      (directives.flatMap Directive.warnings) :=
  (reports_foldlM_obey g directives).map Verdict.accepted

end Check
end GrammarRefs
