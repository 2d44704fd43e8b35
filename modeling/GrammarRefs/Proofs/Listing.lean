import GrammarRefs.Proofs.Reading
import Mathlib.Data.List.Basic

/-! Printed declarations are read back. Printing moves what stands behind a name before it, and drops
white space: the marks that the scan takes note of stay in their order, so it cuts at the same
places. -/
namespace GrammarRefs

namespace Nesting

variable {s : Nesting} {c separator : Char} {text rest : List Char}

open Declaration

/-- States in which a name or white space changes nothing: those not reached by a backslash. -/
inductive Steady : Nesting → Prop
  | outside (depth : Int32) : Steady (.outside depth)
  | quoted (depth : Int32) {mark : Char} (hm : mark ∈ markers) : Steady (.quoted depth mark)

theorem Steady.step (h : s.Steady) (hc : c ≠ '\\') : (s.step c).Steady := by
  cases h with
  | outside depth =>
    rw [Nesting.step]
    split
    · next hq =>
      refine .quoted depth ?_
      rcases Bool.or_eq_true_iff.1 hq with hq | hq <;> rw [eq_of_beq hq] <;> decide
    · split
      · exact .outside _
      · split <;> exact .outside _
  | quoted depth hm =>
    rw [Nesting.step, if_neg hc]
    split
    · exact .outside depth
    · exact .quoted depth hm

theorem Steady.step_eq (h : s.Steady) (hc : c ∉ signs) : s.step c = s := by
  cases h with
  | outside depth => exact step_outside (not_mem_markers_of_not_mem_signs hc) depth
  | quoted depth hm =>
    have hb : c ≠ '\\' := by
      rintro rfl
      exact hc (by decide)
    have hq : c ≠ _ := fun he => not_mem_markers_of_not_mem_signs hc (he ▸ hm)
    rw [Nesting.step, if_neg hb, if_neg hq]

/-- A text without what the scan takes no note of. -/
def skeleton (text : List Char) : List Char := text.filter (· ∈ signs)

theorem skeleton_append (text rest : List Char) :
    skeleton (text ++ rest) = skeleton text ++ skeleton rest := List.filter_append ..

theorem skeleton_cons_of_mem (hc : c ∈ signs) (text : List Char) :
    skeleton (c :: text) = c :: skeleton text := List.filter_cons_of_pos (by simpa using hc)

theorem skeleton_cons_of_not_mem (hc : c ∉ signs) (text : List Char) :
    skeleton (c :: text) = skeleton text := List.filter_cons_of_neg (by simpa using hc)

theorem skeleton_eq_nil (h : ∀ c ∈ text, c ∉ signs) : skeleton text = [] :=
  List.filter_eq_nil_iff.2 (by simpa using h)

theorem skeleton_trim (text : List Char) : skeleton (Text.trim text) = skeleton text := by
  obtain ⟨before, rest, hb, hr, ht, _⟩ := Text.exists_trim text
  have hs := congrArg skeleton ht
  rw [skeleton_append, skeleton_append,
    skeleton_eq_nil fun c hc => not_mem_signs_of_isWhiteSpace (hb c hc),
    skeleton_eq_nil fun c hc => not_mem_signs_of_isWhiteSpace (hr c hc), List.append_nil,
    List.nil_append] at hs
  exact hs.symm

/-- The scan of a text without a backslash is the scan of its skeleton. -/
theorem Steady.skeleton (h : s.Steady) (hs : separator ∈ signs) (hb : '\\' ∉ text) :
    s.after (skeleton text) = s.after text ∧
      (Quiet separator s (skeleton text) ↔ Quiet separator s text) := by
  induction text generalizing s with
  | nil => exact ⟨rfl, Iff.rfl⟩
  | cons c text ih =>
    rw [List.mem_cons, not_or] at hb
    -- After a backslash every character would count: without one the scan stays steady.
    by_cases hc : c ∈ signs
    · obtain ⟨ha, hq⟩ := ih (h.step (Ne.symm hb.1)) hb.2
      rw [skeleton_cons_of_mem hc, after_cons, after_cons, quiet_cons, quiet_cons, ha, hq]
      exact ⟨rfl, Iff.rfl⟩
    · obtain ⟨ha, hq⟩ := ih h hb.2
      have hn : ¬ (c = separator ∧ s = top) := fun he => hc (he.1 ▸ hs)
      rw [skeleton_cons_of_not_mem hc, after_cons, quiet_cons, h.step_eq hc, ha, hq]
      exact ⟨rfl, by simp [hn]⟩

theorem not_mem_of_skeleton_eq (h : skeleton text = skeleton rest) (hb : '\\' ∉ text) :
    '\\' ∉ rest := by
  intro hr
  have hm : '\\' ∈ skeleton text := h ▸ List.mem_filter.2 ⟨hr, by decide⟩
  exact hb (List.mem_filter.1 hm).1

theorem Fits.of_skeleton_eq (h : skeleton text = skeleton rest) (hs : separator ∈ signs)
    (hb : '\\' ∉ text) : Fits separator text rest := by
  have ht : top.Steady := .outside 0
  obtain ⟨ha, hq⟩ := ht.skeleton hs hb
  obtain ⟨hra, hrq⟩ := ht.skeleton hs (not_mem_of_skeleton_eq h hb)
  have hf : Quiet separator top text → Quiet separator top rest := by
    rw [← hq, ← hrq, h]
    exact id
  exact ⟨hf, fun hc => ⟨hf hc.quiet, by rw [← hra, ← h, ha, hc.returns]⟩⟩

end Nesting

namespace Declaration

open Text Nesting

variable {p : Parts} {text : List Char} {pos pos' : Position} {a : Attribute}

namespace Parts

/-- The parts as they are printed: all of the type stands before the name. -/
def arranged (p : Parts) : Parts where
  before := if p.type = [] then [] else p.type ++ [' ']
  name := p.name
  after := []

theorem trimmed_type (p : Parts) : Trimmed p.type := (trimmed_trim _).append (trimmed_trim _)

theorem Proper.arranged (h : p.Proper) : p.arranged.Proper where
  named := h.named
  name := h.name
  before := by
    intro c hc
    rw [Parts.arranged] at hc
    split at hc
    · simp at hc
    · have hs : ' ' = c := by simpa using hc
      exact hs ▸ not_isNameChar_of_isWhiteSpace (blank_space ' ' (by simp))
  after := by simp [Parts.arranged]

theorem type_arranged (p : Parts) : p.arranged.type = p.type := by
  have ht : trim p.arranged.before = p.type := by
    rw [arranged]
    split
    · next he => rw [he, trim_of_trimmed trimmed_nil]
    · have hs := trim_around blank_nil p.trimmed_type blank_space
      rwa [List.nil_append] at hs
  have ha : trim p.arranged.after = [] := trim_of_trimmed trimmed_nil
  rw [type, ht, ha, List.append_nil]

theorem Proper.skeleton_arranged (h : p.Proper) : skeleton p.arranged.whole = skeleton p.whole := by
  have hn : skeleton p.name = [] :=
    skeleton_eq_nil fun c hc => not_mem_signs_of_isNameChar (h.name c hc)
  have hb : skeleton p.arranged.before = skeleton p.type := by
    rw [Parts.arranged]
    split
    · next he => rw [he]
    · rw [skeleton_append, skeleton_cons_of_not_mem (by decide)]
      exact List.append_nil _
  have hm : skeleton p.arranged.name = [] := hn
  have ha : skeleton p.arranged.after = [] := rfl
  simp only [whole, skeleton_append, hb, hm, ha, hn, type, skeleton_trim, List.nil_append,
    List.append_nil]

end Parts

theorem toList_display_of_plain (p : Parts) (pos : Position) :
    (Attribute.display { name := .ofList p.name, type := nonempty? p.type, pos }).toList =
      p.arranged.whole := by
  rw [Parts.whole, Parts.arranged, Attribute.display]
  split
  · next he => simp [he, nonempty?]
  · next he => simp [nonempty?_of_ne he]

theorem toList_display_of_valued (p : Parts) (value : List Char) (pos : Position) :
    (Attribute.display
      { name := .ofList p.name, type := nonempty? p.type, init := nonempty? (trim value),
        pos }).toList = p.arranged.whole ++ if trim value = [] then [] else '=' :: trim value := by
  rw [← toList_display_of_plain p pos, Attribute.display, Attribute.display]
  split
  · next he => simp [he, nonempty?]
  · next he => simp [nonempty?_of_ne he]

/-- A printed attribute is read back. -/
theorem Reads.display (h : Reads pos text a) (hb : '\\' ∉ text) (pos' : Position) :
    Reads pos' a.display.toList { a with pos := pos' } := by
  have hs : '=' ∈ signs := by decide
  cases h with
  | @plain p hp hq =>
    rw [toList_display_of_plain p pos, ← p.type_arranged]
    dsimp only
    have hf : Fits '=' p.whole p.arranged.whole :=
      .of_skeleton_eq hp.skeleton_arranged.symm hs hb
    exact .plain hp.arranged (hf.quiet hq)
  | @valued p value hp hc =>
    have hw : '\\' ∉ p.whole := fun hm => hb (List.mem_append_left _ hm)
    have hf : Fits '=' p.whole p.arranged.whole :=
      .of_skeleton_eq hp.skeleton_arranged.symm hs hw
    have hr := hf.closed hc
    rw [toList_display_of_valued p value pos, ← p.type_arranged]
    dsimp only
    split
    · next hv =>
      rw [hv, List.append_nil]
      exact .plain hp.arranged hr.quiet
    · have ht : nonempty? (trim value) = nonempty? (trim (trim value)) := by
        rw [trim_of_trimmed (trimmed_trim value)]
      rw [ht]
      exact .valued hp.arranged hr

/-- A printed attribute has the marks of its declaration, but for an equals sign without a value. -/
theorem Reads.skeleton_display (h : Reads pos text a) :
    skeleton a.display.toList = skeleton text ∨
      ∃ declared value, text = declared ++ '=' :: value ∧ Closed '=' declared ∧
        skeleton a.display.toList = skeleton declared := by
  cases h with
  | @plain p hp =>
    rw [toList_display_of_plain p pos]
    exact .inl hp.skeleton_arranged
  | @valued p value hp hc =>
    rw [toList_display_of_valued p value pos, skeleton_append, hp.skeleton_arranged]
    split
    · exact .inr ⟨p.whole, value, rfl, hc, List.append_nil _⟩
    · refine .inl ?_
      rw [skeleton_append, skeleton_cons_of_mem (by decide), skeleton_cons_of_mem (by decide),
        skeleton_trim]

theorem Reads.fits_display (h : Reads pos text a) (hb : '\\' ∉ text) :
    Fits ',' text a.display.toList := by
  have hs : ',' ∈ signs := by decide
  rcases h.skeleton_display with he | ⟨declared, value, rfl, hd, he⟩
  · exact .of_skeleton_eq he.symm hs hb
  · have hf : Fits ',' declared a.display.toList :=
      .of_skeleton_eq he.symm hs fun hm => hb (List.mem_append_left _ hm)
    exact {
      quiet hq := hf.quiet (Nesting.quiet_append.1 hq).1
      closed hc := hf.closed ⟨(Nesting.quiet_append.1 hc.quiet).1, hd.returns⟩ }

theorem intercalate_comma_space (piece : List Char) (pieces : List (List Char)) :
    [',', ' '].intercalate (piece :: pieces) =
      [','].intercalate (piece :: pieces.map (' ' :: ·)) := by
  induction pieces generalizing piece with
  | nil => rfl
  | cons next pieces ih =>
    have hn : ∀ t ts, [','].intercalate ((' ' :: t) :: ts) = ' ' :: [','].intercalate (t :: ts) := by
      intro t ts
      cases ts <;> simp [List.intercalate_cons_cons]
    rw [List.intercalate_cons_cons, ih, List.map_cons, List.intercalate_cons_cons, hn]
    simp

theorem pos_of_mem_attributes (h : a ∈ attributes pos text) : a.pos = pos := by
  rw [attributes_eq_filterMap] at h
  obtain ⟨piece, _, ha⟩ := List.mem_filterMap.1 h
  cases reads_of_read? ha <;> rfl

/-- A space behind each comma does not matter. -/
theorem attributes_intercalate {pieces : List (List Char)} (h : Row ',' pieces)
    (pos : Position) : attributes pos ([',', ' '].intercalate pieces) =
      pieces.filterMap (read? pos) := by
  have hs : Closed ',' [' '] := closed_of_blank (by decide) blank_space
  rw [attributes_eq_filterMap]
  cases h with
  | last hq => rw [List.intercalate_singleton, split_of_quiet hq]
  | @cons piece pieces hc hr =>
    have hm : Row ',' (pieces.map (' ' :: ·)) := hr.map hs.fits_append
    have hf : read? pos ∘ (' ' :: ·) = read? pos := by
      funext piece
      have hp := read?_around pos piece blank_space blank_nil
      rwa [List.append_nil] at hp
    rw [intercalate_comma_space, split_intercalate (.cons hc hm), List.filterMap_cons,
      List.filterMap_map, hf, ← List.filterMap_cons]

/-- What has been read is read again from what it is printed as. -/
theorem attributes_printed (hb : '\\' ∉ text) (pos pos' : Position) :
    attributes pos' ([',', ' '].intercalate ((attributes pos text).map (·.display.toList))) =
      (attributes pos text).map fun a => { a with pos := pos' } := by
  have hr : ∀ piece ∈ split ',' text, ∀ a, read? pos piece = some a →
      Reads pos piece a ∧ '\\' ∉ piece :=
    fun piece hp a ha => ⟨reads_of_read? ha, fun hm => hb (subset_of_mem_split hp hm)⟩
  have hrow : (attributes pos text).map (·.display.toList) = [] ∨
      Row ',' ((attributes pos text).map (·.display.toList)) := by
    rw [attributes_eq_filterMap, List.map_filterMap]
    refine (row_split ',' text).filterMap ?_
    intro piece hp t ht
    obtain ⟨a, ha, rfl⟩ := Option.map_eq_some_iff.1 ht
    obtain ⟨hd, hn⟩ := hr piece hp a ha
    exact hd.fits_display hn
  have ha : ∀ a ∈ attributes pos text, read? pos' a.display.toList =
      some { a with pos := pos' } := by
    intro a ha
    rw [attributes_eq_filterMap] at ha
    obtain ⟨piece, hp, ha⟩ := List.mem_filterMap.1 ha
    obtain ⟨hd, hn⟩ := hr piece hp a ha
    exact read?_of_reads (hd.display hn pos')
  rcases hrow with hrow | hrow
  · rw [List.map_eq_nil_iff.1 hrow, List.map_nil, List.intercalate_nil, attributes_nil]
    rfl
  · rw [attributes_intercalate hrow, List.filterMap_map,
      List.filterMap_eq_map_iff_forall_eq_some]
    intro a hm
    rw [Function.comp_apply]
    exact ha a hm

end Declaration

namespace Dict

/-- What is printed between the brackets. -/
def listing (d : Dict) : String := ", ".intercalate (d.attributes.map Attribute.display)

theorem same_of_attributes {kind : DictKind} {declared : List Attribute} {pos : Position} :
    (ofAttributes kind (declared.map fun a => { a with pos })).same
      (ofAttributes kind declared) = true := by
  have hu : ∀ a : Attribute, Attribute.unplaced { a with pos } = a.unplaced := fun _ => rfl
  simp [same, kind_ofAttributes, name_ofAttributes, attributes_ofAttributes, hu]

/-- Printing declarations and reading them again gives them back, however badly they are formed. -/
theorem ofDeclarations_listing (kind : DictKind) (text : String) (hb : '\\' ∉ text.toList)
    (pos pos' : Position) :
    let d := ofDeclarations kind text pos
    d.display = "[" ++ d.listing ++ "]" ∧
    (ofDeclarations kind d.listing pos').same d = true ∧
    ofDeclarations kind d.listing pos = d := by
  intro d
  have hl : ∀ pos', ofDeclarations kind d.listing pos' = ofAttributes kind
      ((Declaration.attributes pos text.toList).map fun a => { a with pos := pos' }) := by
    intro pos'
    have ht : d.listing.toList = [',', ' '].intercalate
        ((Declaration.attributes pos text.toList).map (·.display.toList)) := by
      rw [listing, String.toList_intercalate, List.map_map]
      simp only [d, ofDeclarations, attributes_ofAttributes]
      rfl
    rw [ofDeclarations, ht, Declaration.attributes_printed hb]
  refine ⟨rfl, ?_, ?_⟩
  · rw [hl]
    exact same_of_attributes
  · have hp : (Declaration.attributes pos text.toList).map (fun a => { a with pos }) =
        Declaration.attributes pos text.toList := by
      refine (List.map_congr_left fun a ha => ?_).trans (List.map_id _)
      rw [← Declaration.pos_of_mem_attributes ha]
      rfl
    rw [hl, hp]
    rfl

/-- Names inside brackets and a literal, a bracket closed too often, and a name given twice. -/
theorem ofDeclarations_listing_of_ragged_text :
    let text := "int x[] , , y= ,  x(<y>) = f(1, 2) = z, <a>> b, \"c ="
    let d := Dict.ofDeclarations .argument text {}
    '\\' ∉ text.toList ∧
    d.display = "[int[] x, y, x(<>) y=f(1, 2) = z, <a>> b, \"= c]" ∧
    Dict.ofDeclarations .argument d.listing {} = d := by
  intro text d
  have hb : '\\' ∉ text.toList := by decide
  refine ⟨hb, by decide +kernel, ?_⟩
  exact (ofDeclarations_listing .argument text hb {} {}).2.2

end Dict
end GrammarRefs
