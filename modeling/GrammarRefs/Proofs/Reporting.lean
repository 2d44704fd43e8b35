import GrammarRefs.Check.Inspection

/-! What a computation adds to the diagnostics of the session, and what an inspection finds. -/
namespace GrammarRefs

variable {α β : Type} {c : Reporting α} {f : α → Reporting β} {a : α} {b : β}
  {xs ys : List Diagnostic} {i j : Inspection Unit} {d : Diagnostic}

/-- Neither the value nor what is added at the end depends on what was reported before. -/
def Reports (c : Reporting α) (a : α) (added : List Diagnostic) : Prop :=
  ∀ log, c.run log = (a, log ++ added)

theorem reports_pure (a : α) : Reports (pure a) a [] := by
  intro log
  rw [List.append_nil]
  rfl

theorem reports_report (d : Diagnostic) : Reports (report d) () [d] := by
  intro log
  rfl

theorem Reports.bind (hc : Reports c a xs) (hf : Reports (f a) b ys) :
    Reports (c >>= f) b (xs ++ ys) := by
  intro log
  rw [StateT.run_bind, hc log]
  exact (hf (log ++ xs)).trans (by rw [List.append_assoc])

theorem Reports.map (g : α → β) (hc : Reports c a xs) :
    Reports (do return g (← c)) (g a) xs := by
  have hr := hc.bind (f := fun a => pure (g a)) (reports_pure (g a))
  rwa [List.append_nil] at hr

/-- The inspection reports these errors. The mark agrees with them: it is set if there was one, and
never taken back. -/
structure Finds (i : Inspection Unit) (found : List Diagnostic) : Prop where
  errors : ∀ d ∈ found, d.isError
  reports : ∀ marked, Reports (i.run marked) ((), marked || !found.isEmpty) found

theorem finds_pure : Finds (pure ()) [] := by
  refine ⟨by simp, ?_⟩
  intro marked
  simpa using reports_pure ((), marked)

theorem finds_fault (hd : d.isError) : Finds (Inspection.fault d) [d] := by
  refine ⟨by simpa using hd, ?_⟩
  intro marked log
  rw [List.isEmpty_cons, Bool.not_false, Bool.or_true]
  rfl

theorem Finds.bind (hi : Finds i xs) (hj : Finds j ys) : Finds (do i; j) (xs ++ ys) := by
  refine ⟨?_, ?_⟩
  · intro d hd
    rcases List.mem_append.1 hd with hd | hd
    · exact hi.errors d hd
    · exact hj.errors d hd
  · intro marked
    have he : ((marked || !xs.isEmpty) || !ys.isEmpty) = (marked || !(xs ++ ys).isEmpty) := by
      cases xs <;> simp
    rw [StateT.run_bind, ← he]
    exact (hi.reports marked).bind (hj.reports _)

theorem finds_forM {ι : Type} {items : List ι} {inspect : ι → Inspection Unit}
    {found : ι → List Diagnostic} (h : ∀ x ∈ items, Finds (inspect x) (found x)) :
    Finds (items.forM inspect) (items.flatMap found) := by
  induction items with
  | nil => exact finds_pure
  | cons x rest ih =>
    rw [List.flatMap_cons]
    exact (h x (by simp)).bind (ih fun y hy => h y (by simp [hy]))

theorem finds_ite {p : Prop} [Decidable p] (hi : Finds i xs) :
    Finds (if p then i else pure ()) (if p then xs else []) := by
  split
  · exact hi
  · exact finds_pure

/-- What an inspection hands on once it is over. -/
structure Concludes (marked : Reporting Bool) (found : List Diagnostic) : Prop where
  errors : ∀ d ∈ found, d.isError
  reports : Reports marked (!found.isEmpty) found

theorem Finds.marked (hi : Finds i xs) : Concludes i.marked xs :=
  ⟨hi.errors, (hi.reports false).map Prod.snd⟩

theorem finds_join {marked : Reporting Bool} (hm : Concludes marked xs) :
    Finds (Inspection.join marked) xs := by
  refine ⟨hm.errors, ?_⟩
  intro before
  exact hm.reports.map fun found => ((), before || found)

/-- The pass reports these errors, and hands the grammar on as it is: flawed if there are any. -/
structure Pass.Finds (pass : Pass) (find : Grammar → List Diagnostic) : Prop where
  errors : ∀ g, ∀ d ∈ find g, d.isError
  reports : ∀ g, Reports (pass g) (.ofMark (!(find g).isEmpty) g) (find g)

theorem Pass.finds_ofInspection {inspect : Grammar → Inspection Unit}
    {find : Grammar → List Diagnostic} (h : ∀ g, GrammarRefs.Finds (inspect g) (find g)) :
    (Pass.ofInspection inspect).Finds find := by
  refine ⟨fun g => (h g).errors, ?_⟩
  intro g
  exact (h g).marked.reports.map (Verdict.ofMark · g)

end GrammarRefs
