import GrammarRefs.Declaration.Nesting

/-! How the scan goes through a text. A text is cut where the scan meets the separator at the top, so
a list of texts comes back from its concatenation if the scan meets no separator at the top of any
of them, and leaves all but the last at the top. -/
namespace GrammarRefs.Nesting

variable {separator c : Char} {s : Nesting} {text before rest : List Char}
  {pieces : List (List Char)}

/-- Where the scan stands after a text. -/
def after (s : Nesting) (text : List Char) : Nesting := text.foldl step s

@[simp] theorem after_nil : s.after [] = s := rfl

@[simp] theorem after_cons : s.after (c :: text) = (s.step c).after text := rfl

@[simp] theorem after_append : s.after (text ++ rest) = (s.after text).after rest :=
  List.foldl_append

/-- What the scan takes note of outside of literals: quotation marks and brackets. -/
def markers : List Char := ['"', '\'', '<', '(', '[', '{', '>', ')', ']', '}']

theorem not_mem_markers_iff :
    c ∉ markers ↔ isQuotationMark c = false ∧ opens c = false ∧ closes c = false := by
  simp [markers, isQuotationMark, opens, closes, and_assoc]

theorem step_outside (h : c ∉ markers) (depth : Int32) :
    (outside depth).step c = outside depth := by
  simp [step, not_mem_markers_iff.1 h]

theorem outside_eq_top_iff {depth : Int32} : outside depth = top ↔ depth = 0 := by
  rw [top, outside.injEq]

/-- How often the count has gone round does not show. -/
theorem ofNat_depth_eq_zero_iff (n : Nat) : Int32.ofNat n = 0 ↔ Int32.size ∣ n := by
  rw [← Int32.ofInt_eq_ofNat, Int32.ofInt_eq_iff_bmod_eq_toInt, Int32.toInt_zero,
    ← Int.dvd_iff_bmod_eq_zero]
  exact Int.natCast_dvd_natCast

/-- The scan of the text does not meet the separator at the top. -/
def Quiet (separator : Char) (s : Nesting) (text : List Char) : Prop :=
  cutFrom separator s text = none

theorem quiet_nil : Quiet separator s [] := rfl

theorem quiet_cons :
    Quiet separator s (c :: text) ↔ ¬ (c = separator ∧ s = top) ∧
      Quiet separator (s.step c) text := by
  rw [Quiet, cutFrom, Quiet]
  split
  · next h => simp [h]
  · next h => simp [h]

theorem quiet_append : Quiet separator s (text ++ rest) ↔
    Quiet separator s text ∧ Quiet separator (s.after text) rest := by
  induction text generalizing s with
  | nil => simp [quiet_nil]
  | cons c text ih => simp only [List.cons_append, quiet_cons, ih, after_cons, and_assoc]

theorem quiet_of_not_mem (h : separator ∉ text) : Quiet separator s text := by
  induction text generalizing s with
  | nil => exact quiet_nil
  | cons c text ih =>
    rw [List.mem_cons, not_or] at h
    exact quiet_cons.2 ⟨fun hc => h.1 hc.1.symm, ih h.2⟩

theorem cutFrom_append (h : Quiet separator s text) : cutFrom separator s (text ++ rest) =
    (cutFrom separator (s.after text) rest).map fun cut => (text ++ cut.1, cut.2) := by
  induction text generalizing s with
  | nil => simp
  | cons c text ih =>
    rw [quiet_cons] at h
    rw [List.cons_append, cutFrom, if_neg h.1, ih h.2, Option.map_map]
    rfl

theorem cutFrom_eq_some_iff : cutFrom separator s text = some (before, rest) ↔
    text = before ++ separator :: rest ∧ Quiet separator s before ∧ s.after before = top := by
  constructor
  · intro h
    refine ⟨cutFrom_eq_some h, ?_⟩
    induction text generalizing s before with
    | nil => simp [cutFrom] at h
    | cons c text ih =>
      rw [cutFrom] at h
      split at h
      · next hc =>
        cases h
        exact ⟨quiet_nil, hc.2⟩
      · next hc =>
        obtain ⟨cut, hcut, he⟩ := Option.map_eq_some_iff.1 h
        cases he
        obtain ⟨hq, ha⟩ := ih hcut
        exact ⟨quiet_cons.2 ⟨hc, hq⟩, ha⟩
  · rintro ⟨rfl, hq, ha⟩
    rw [cutFrom_append hq, ha, cutFrom, if_pos ⟨rfl, rfl⟩]
    simp

/-- A text that can stand before a separator: the scan comes back to the top, and meets none on the
way. -/
structure Closed (separator : Char) (text : List Char) : Prop where
  quiet : Quiet separator top text
  returns : top.after text = top

theorem Closed.append (h : Closed separator text) (hr : Closed separator rest) :
    Closed separator (text ++ rest) where
  quiet := quiet_append.2 ⟨h.quiet, h.returns.symm ▸ hr.quiet⟩
  returns := by rw [after_append, h.returns, hr.returns]

theorem Closed.quiet_append (h : Closed separator text) (hr : Quiet separator top rest) :
    Quiet separator top (text ++ rest) :=
  Nesting.quiet_append.2 ⟨h.quiet, h.returns.symm ▸ hr⟩

/-- Only quotation marks and brackets move the scan. -/
theorem closed_of_no_marker (hm : ∀ c ∈ text, c ∉ markers) (hs : separator ∉ text) :
    Closed separator text where
  quiet := quiet_of_not_mem hs
  returns := by
    induction text with
    | nil => rfl
    | cons c text ih =>
      rw [after_cons, top, step_outside (hm c (by simp))]
      exact ih (fun d hd => hm d (by simp [hd])) fun hc => hs (by simp [hc])

theorem cut?_eq_some_iff : cut? separator text = some (before, rest) ↔
    text = before ++ separator :: rest ∧ Closed separator before := by
  rw [cut?, cutFrom_eq_some_iff]
  exact and_congr_right fun _ => ⟨fun h => ⟨h.1, h.2⟩, fun h => ⟨h.1, h.2⟩⟩

theorem split_of_quiet (h : Quiet separator top text) : split separator text = [text] := by
  have hc : cut? separator text = none := h
  rw [split]
  split
  · rfl
  · next hs => simp [hc] at hs

theorem split_of_closed (h : Closed separator before) :
    split separator (before ++ separator :: rest) = before :: split separator rest := by
  have hc := cut?_eq_some_iff.2 ⟨(rfl : before ++ separator :: rest = _), h⟩
  rw [split]
  split
  · next hs => simp [hc] at hs
  · next hs =>
    rw [hc] at hs
    cases hs
    rfl

/-- Texts between separators. Only what stands last may leave a bracket or a literal open. -/
inductive Row (separator : Char) : List (List Char) → Prop
  | last {text : List Char} (h : Quiet separator top text) : Row separator [text]
  | cons {text : List Char} {pieces : List (List Char)} (h : Closed separator text)
    (hr : Row separator pieces) : Row separator (text :: pieces)

theorem row_split (separator : Char) (text : List Char) : Row separator (split separator text) := by
  fun_induction split separator text with
  | case1 text h => exact .last h
  | case2 text before rest h ih => exact .cons (cut?_eq_some_iff.1 h).2 ih

theorem subset_of_mem_split {piece : List Char} (h : piece ∈ split separator text) :
    piece ⊆ text := by
  fun_induction split separator text with
  | case1 text => rw [List.mem_singleton.1 h]; exact fun _ => id
  | case2 text before rest hc ih =>
    obtain ⟨rfl, _⟩ := cut?_eq_some_iff.1 hc
    intro c hm
    rcases List.mem_cons.1 h with rfl | h
    · exact List.mem_append_left _ hm
    · exact List.mem_append_right _ (List.mem_cons_of_mem _ (ih h hm))

theorem split_intercalate (h : Row separator pieces) :
    split separator ([separator].intercalate pieces) = pieces := by
  induction h with
  | last h => rw [List.intercalate_singleton, split_of_quiet h]
  | @cons text pieces h hr ih =>
    cases pieces with
    | nil => cases hr
    | cons next pieces =>
      rw [List.intercalate_cons_cons, List.append_assoc, List.singleton_append,
        split_of_closed h, ih]

/-- A text that can stand in a row in the place of another. -/
structure Fits (separator : Char) (text other : List Char) : Prop where
  quiet : Quiet separator top text → Quiet separator top other
  closed : Closed separator text → Closed separator other

theorem Closed.fits_append (h : Closed separator text) (rest : List Char) :
    Fits separator rest (text ++ rest) where
  quiet := h.quiet_append
  closed := h.append

theorem Row.map {f : List Char → List Char} (h : Row separator pieces)
    (hf : ∀ p, Fits separator p (f p)) : Row separator (pieces.map f) := by
  induction h with
  | last h => exact .last ((hf _).quiet h)
  | cons h _ ih => exact .cons ((hf _).closed h) ih

/-- What is made of the pieces one by one stands in a row again. -/
theorem Row.filterMap {f : List Char → Option (List Char)} (h : Row separator pieces)
    (hf : ∀ p ∈ pieces, ∀ t ∈ f p, Fits separator p t) :
    pieces.filterMap f = [] ∨ Row separator (pieces.filterMap f) := by
  induction h with
  | @last text h =>
    cases ht : f text with
    | none => simp [ht]
    | some t =>
      have hr := Row.last ((hf text (by simp) t ht).quiet h)
      simp [ht, hr]
  | @cons text pieces h hr ih =>
    have hi := ih fun p hp => hf p (by simp [hp])
    cases ht : f text with
    | none => simpa [ht] using hi
    | some t =>
      have ht' := (hf text (by simp) t ht).closed h
      rw [List.filterMap_cons, ht]
      rcases hi with hi | hi
      -- When all the pieces behind it are left out, it is the last one.
      · exact .inr (hi ▸ .last ht'.quiet)
      · exact .inr (.cons ht' hi)

end GrammarRefs.Nesting
