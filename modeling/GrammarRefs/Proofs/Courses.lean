import GrammarRefs.Proofs.Reporting

/-! Passes that follow each other. The verdict of all of them is told by the diagnostics that they
have added. -/
namespace GrammarRefs

/-- The pass makes the second grammar of the first, flawed if an error is among the diagnostics. -/
def Pass.Yields (pass : Pass) (g g₁ : Grammar) (found : List Diagnostic) : Prop :=
  Reports (pass g) (.ofMark (Diagnostics.hasErrors found) g₁) found

/-- The passes bring the first grammar to the second, each working on what the last one left. -/
inductive Course : List Pass → Grammar → Grammar → List Diagnostic → Prop
  | done (g : Grammar) : Course [] g g []
  | step {pass : Pass} {passes : List Pass} {g g₁ g₂ : Grammar} {xs ys : List Diagnostic}
    (hp : pass.Yields g g₁ xs) (hr : Course passes g₁ g₂ ys) :
    Course (pass :: passes) g g₂ (xs ++ ys)

variable {g g₁ : Grammar} {pass : Pass} {passes : List Pass} {xs ys : List Diagnostic}

theorem hasErrors_append :
    Diagnostics.hasErrors (xs ++ ys) = (Diagnostics.hasErrors xs || Diagnostics.hasErrors ys) :=
  List.any_append

theorem hasErrors_of_errors (h : ∀ d ∈ xs, d.isError) :
    Diagnostics.hasErrors xs = !xs.isEmpty := by
  cases xs with
  | nil => rfl
  | cons d rest => simp [Diagnostics.hasErrors, h d (by simp)]

theorem hasErrors_iff : Diagnostics.hasErrors xs = true ↔ ∃ d ∈ xs, d.level = .error := by
  simp [Diagnostics.hasErrors, Diagnostic.isError]

theorem Verdict.value?_ofMark (flawed : Bool) (g : Grammar) :
    (Verdict.ofMark flawed g).value? = some g := by
  cases flawed <;> rfl

theorem Pass.Finds.yields {find : Grammar → List Diagnostic} (h : pass.Finds find) (g : Grammar) :
    pass.Yields g g (find g) := by
  rw [Pass.Yields, hasErrors_of_errors (h.errors g)]
  exact h.reports g

theorem Reports.after_flaw {v : Verdict Grammar} (h : Reports (pass g) v xs) :
    Reports ((Verdict.flawed g).andThen pass) v.weaken xs := by
  intro log
  exact congrArg (Prod.map Verdict.weaken id) (h log)

/-- A flaw that was there before stays. -/
theorem Pass.Yields.andThen (h : pass.Yields g g₁ xs) (flawed : Bool) :
    Reports ((Verdict.ofMark flawed g).andThen pass)
      (.ofMark (flawed || Diagnostics.hasErrors xs) g₁) xs := by
  cases flawed with
  | false => exact h
  | true =>
    have hw : (Verdict.ofMark (Diagnostics.hasErrors xs) g₁).weaken = .flawed g₁ := by
      cases Diagnostics.hasErrors xs <;> rfl
    have hr := Reports.after_flaw h
    rwa [hw] at hr

theorem Course.foldlM (h : Course passes g g₁ xs) (flawed : Bool) :
    Reports (passes.foldlM (fun v pass => v.andThen pass) (Verdict.ofMark flawed g))
      (.ofMark (flawed || Diagnostics.hasErrors xs) g₁) xs := by
  induction h generalizing flawed with
  | done g => simpa [Diagnostics.hasErrors] using reports_pure (Verdict.ofMark flawed g)
  | step hp _ ih =>
    rw [hasErrors_append, ← Bool.or_assoc]
    exact (hp.andThen flawed).bind (ih _)

theorem Course.chain (h : Course passes g g₁ xs) : (Pass.chain passes).Yields g g₁ xs :=
  h.foldlM false

theorem Course.single (h : pass.Yields g g₁ xs) : Course [pass] g g₁ xs := by
  have hc := Course.step h (.done g₁)
  rwa [List.append_nil] at hc

end GrammarRefs
