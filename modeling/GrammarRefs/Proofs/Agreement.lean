import GrammarRefs.Grammar.Build
import GrammarRefs.Proofs.Checking

/-! The verdict of a check and the diagnostics that come with it tell the same. -/
namespace GrammarRefs

def Verdict.isAccepted {α : Type} : Verdict α → Bool
  | .accepted _ => true
  | .flawed _ | .rejected => false

/-- What is not accepted has an error, and the other way round. -/
structure Verdict.AgreesWith (v : Verdict Grammar) (added : List Diagnostic) : Prop where
  accepted : (∃ g, v = .accepted g) ↔ ∀ d ∈ added, d.level ≠ .error
  refused : (v = .rejected ∨ ∃ g, v = .flawed g) ↔ ∃ d ∈ added, d.level = .error

/-- The pass agrees with its diagnostics on every grammar, after whatever was reported before. -/
def Pass.Sound (pass : Pass) : Prop :=
  ∀ g, ∃ v added, Reports (pass g) v added ∧ v.AgreesWith added

variable {g : Grammar} {v : Verdict Grammar} {pass : Pass} {passes earlier later : List Pass}
  {xs : List Diagnostic}

theorem Verdict.isAccepted_iff : v.isAccepted = true ↔ ∃ g, v = .accepted g := by
  cases v <;> simp [isAccepted]

theorem Verdict.agreesWith_iff :
    v.AgreesWith xs ↔ v.isAccepted = !Diagnostics.hasErrors xs := by
  have hr : (v = .rejected ∨ ∃ g, v = .flawed g) ↔ v.isAccepted = false := by
    cases v <;> simp [isAccepted]
  have hn : (∀ d ∈ xs, d.level ≠ .error) ↔ Diagnostics.hasErrors xs = false := by
    simp [Diagnostics.hasErrors, Diagnostic.isError]
  constructor
  · intro h
    have ha := h.accepted
    rw [← isAccepted_iff, hn] at ha
    rwa [Bool.eq_iff_iff, Bool.not_eq_true']
  · intro h
    refine ⟨?_, ?_⟩
    · rw [← isAccepted_iff, hn, h, Bool.not_eq_true']
    · rw [hr, ← hasErrors_iff, h, Bool.not_eq_false']

theorem Pass.Yields.agrees {g₁ : Grammar} (h : pass.Yields g g₁ xs) :
    ∃ v added, Reports (pass g) v added ∧ v.AgreesWith added := by
  refine ⟨_, xs, h, Verdict.agreesWith_iff.2 ?_⟩
  cases Diagnostics.hasErrors xs <;> rfl

/-- A verdict that was not accepted is not taken back by the pass that follows. -/
theorem Pass.Sound.andThen (h : pass.Sound) (v : Verdict Grammar) :
    ∃ w added, Reports (v.andThen pass) w added ∧
      w.isAccepted = (v.isAccepted && !Diagnostics.hasErrors added) := by
  cases v with
  | accepted g =>
    obtain ⟨w, added, hr, ha⟩ := h g
    exact ⟨w, added, hr, Verdict.agreesWith_iff.1 ha⟩
  | flawed g =>
    obtain ⟨w, added, hr, _⟩ := h g
    exact ⟨w.weaken, added, hr.after_flaw, by cases w <;> rfl⟩
  | rejected => exact ⟨.rejected, [], reports_pure _, rfl⟩

theorem Pass.Sound.foldlM (h : ∀ pass ∈ passes, pass.Sound) (v : Verdict Grammar) :
    ∃ w added, Reports (passes.foldlM (fun v pass => v.andThen pass) v) w added ∧
      w.isAccepted = (v.isAccepted && !Diagnostics.hasErrors added) := by
  induction passes generalizing v with
  | nil => exact ⟨v, [], reports_pure v, by simp [Diagnostics.hasErrors]⟩
  | cons pass rest ih =>
    obtain ⟨u, xs, hu, ha⟩ := (h pass (by simp)).andThen v
    obtain ⟨w, ys, hw, hb⟩ := ih (fun q hq => h q (by simp [hq])) u
    refine ⟨w, xs ++ ys, hu.bind hw, ?_⟩
    rw [hb, ha, hasErrors_append, Bool.not_or, Bool.and_assoc]

theorem Pass.Sound.chain (h : ∀ pass ∈ passes, pass.Sound) : (Pass.chain passes).Sound := by
  intro g
  obtain ⟨w, added, hr, ha⟩ := Pass.Sound.foldlM h (.accepted g)
  exact ⟨w, added, hr, Verdict.agreesWith_iff.2 ha⟩

theorem Verdict.weaken_andThen :
    v.weaken.andThen pass = Verdict.weaken <$> v.andThen pass := by
  cases v with
  | accepted g => rfl
  | flawed g =>
    have hw : (weaken ∘ weaken : Verdict Grammar → Verdict Grammar) = weaken := by
      funext u
      cases u <;> rfl
    simp only [weaken, andThen, Functor.map_map]
    exact congrArg (· <$> pass g) hw.symm
  | rejected => rfl

theorem Verdict.weaken_foldlM (v : Verdict Grammar) :
    passes.foldlM (fun v pass => v.andThen pass) v.weaken =
      Verdict.weaken <$> passes.foldlM (fun v pass => v.andThen pass) v := by
  induction passes generalizing v with
  | nil => rfl
  | cons pass rest ih =>
    simp only [List.foldlM_cons, weaken_andThen, map_bind, bind_map_left, ih]

/-- Passes that stand together can as well be one. -/
theorem Verdict.andThen_chain (v : Verdict Grammar) :
    v.andThen (Pass.chain passes) = passes.foldlM (fun v pass => v.andThen pass) v := by
  have hr : passes.foldlM (fun v pass => v.andThen pass) (.rejected : Verdict Grammar) =
      pure .rejected := by
    induction passes with
    | nil => rfl
    | cons pass rest ih => simpa [andThen] using ih
  cases v with
  | accepted g => rfl
  | flawed g => exact (Verdict.weaken_foldlM (.accepted g)).symm
  | rejected => exact hr.symm

theorem Pass.chain_append (earlier later : List Pass) (g : Grammar) :
    Pass.chain (earlier ++ later) g =
      Pass.chain earlier g >>= fun v => v.andThen (Pass.chain later) := by
  simp only [Pass.chain, List.foldlM_append]
  exact congrArg _ (funext fun v => (Verdict.andThen_chain v).symm)

namespace Check

/-- The passes of a check, one after the other. -/
def checkPasses (directives : List Directive) : List Pass := [
  requireRule,
  decorate directives,
  ruleDuplicates,
  attributeDuplicates,
  undeclaredRules,
  markStartRules,
  labelConflicts,
  attributeReferences]

theorem check_eq_chain (directives : List Directive) :
    check directives = .chain (checkPasses directives) := by
  funext g
  have hl := Pass.chain_append [requireRule, decorate directives] [ruleDuplicates,
    attributeDuplicates, undeclaredRules, markStartRules, labelConflicts, attributeReferences] g
  have hr := Pass.chain_append [requireRule, decorate directives] [analyse] g
  have ha : Pass.chain [analyse] = analyse := by
    funext g
    simp [Pass.chain, Verdict.andThen]
  rw [ha] at hr
  exact hr.trans hl.symm

theorem requireRule_sound : requireRule.Sound := by
  intro g
  by_cases hg : g.rules = []
  · refine ⟨.rejected, [.error {} .noRule], ?_, Verdict.agreesWith_iff.2 rfl⟩
    intro log
    simp [requireRule, hg]
    rfl
  · exact (requireRule_yields hg).agrees

theorem checkPasses_sound (directives : List Directive) :
    ∀ pass ∈ checkPasses directives, pass.Sound := by
  have hm : markStartRules.Sound := by
    intro g
    exact ⟨_, [], reports_pure _, Verdict.agreesWith_iff.2 rfl⟩
  simp only [checkPasses, List.forall_mem_cons, List.not_mem_nil, false_imp_iff, implies_true,
    and_true]
  exact ⟨requireRule_sound, fun g => (decorate_yields directives g).agrees,
    fun g => (ruleDuplicates_finds.yields g).agrees,
    fun g => (attributeDuplicates_finds.yields g).agrees,
    fun g => (undeclaredRules_finds.yields g).agrees, hm,
    fun g => (labelConflicts_finds.yields g).agrees,
    fun g => (attributeReferences_finds.yields g).agrees⟩

theorem analyse_sound : analyse.Sound := fun g => (analyse_yields g).agrees

theorem check_sound (directives : List Directive) : (check directives).Sound := by
  rw [check_eq_chain]
  exact Pass.Sound.chain (checkPasses_sound directives)

/-- An error of the first passes is among those of the whole, and keeps it from being accepted. -/
theorem errors_of_earlier_passes (directives : List Directive) (g : Grammar)
    (hp : checkPasses directives = earlier ++ later) :
    ∃ v xs w ys, Reports (Pass.chain earlier g) v xs ∧ Reports (check directives g) w (xs ++ ys) ∧
      ((∃ d ∈ xs, d.level = .error) → ∀ h, w ≠ .accepted h) := by
  have hs : ∀ pass ∈ earlier ++ later, pass.Sound := by
    rw [← hp]
    exact checkPasses_sound directives
  obtain ⟨v, xs, hv, ha⟩ := Pass.Sound.chain (fun p hp => hs p (List.mem_append_left _ hp)) g
  obtain ⟨w, ys, hw, hb⟩ :=
    (Pass.Sound.chain fun p hp => hs p (List.mem_append_right _ hp)).andThen v
  refine ⟨v, xs, w, ys, hv, ?_, ?_⟩
  · rw [check_eq_chain, hp, Pass.chain_append]
    exact hv.bind hw
  · intro he h hw
    rw [hw, Verdict.agreesWith_iff.1 ha, hasErrors_iff.2 he] at hb
    simp [Verdict.isAccepted] at hb

/-- Directives cannot spoil the verdict. -/
theorem accepted_check_iff_accepted_analyse (directives : List Directive) (hg : g.rules ≠ [])
    (log : Diagnostics) : (∃ h, ((check directives g).run log).1 = .accepted h) ↔
      ∃ h, ((analyse g).run log).1 = .accepted h := by
  rw [check_yields hg directives log, analyse_yields g log, hasErrors_append, hasErrors_warnings,
    Bool.false_or]
  cases Diagnostics.hasErrors (errors g) <;> simp [Verdict.ofMark]

/-- The verdict and the diagnostics of a check never disagree, and neither depends on what was
reported before. -/
theorem verdict_agrees_with_diagnostics (directives : List Directive) (g : Grammar) :
    (∃ v added, Reports (check directives g) v added ∧ v.AgreesWith added) ∧
    (∃ v added, Reports (analyse g) v added ∧ v.AgreesWith added) ∧
    (∀ earlier later, checkPasses directives = earlier ++ later →
      ∃ v xs w ys, Reports (Pass.chain earlier g) v xs ∧
        Reports (check directives g) w (xs ++ ys) ∧
        ((∃ d ∈ xs, d.level = .error) → ∀ h, w ≠ .accepted h)) ∧
    (g.rules ≠ [] → ∀ log, (∃ h, ((check directives g).run log).1 = .accepted h) ↔
      ∃ h, ((analyse g).run log).1 = .accepted h) :=
  ⟨check_sound directives g, analyse_sound g,
    fun _ _ hp => errors_of_earlier_passes directives g hp,
    fun hg log => accepted_check_iff_accepted_analyse directives hg log⟩

/-- A directive that is not understood, and a rule that nothing is wrong with. -/
theorem verdict_agrees_after_warning :
    let g := ((Grammar.empty "T" .parser).run [.defineRule ⟨"start", {}⟩ 1]).1
    ∃ h, ((check [{ path := ["trace"] }] g).run []).1 = .accepted h := by
  have hg : ((Grammar.empty "T" .parser).run [.defineRule ⟨"start", {}⟩ 1]).1.rules ≠ [] := by
    decide
  exact ((verdict_agrees_with_diagnostics _ _).2.2.2 hg []).2 ⟨_, rfl⟩

end Check
end GrammarRefs
