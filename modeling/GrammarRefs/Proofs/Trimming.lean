import GrammarRefs.Declaration
import GrammarRefs.Proofs.Scanning

/-! White space around a text, and which characters are not white space. -/
namespace GrammarRefs

namespace CharRanges

variable {ranges others : CharRanges} {c : Char}

theorem not_covers_of_disjoint (hr : ranges.ascending = true) (ho : others.ascending = true)
    (h : ∀ r ∈ ranges, ∀ s ∈ others, r.2 < s.1 ∨ s.2 < r.1) (hc : ranges.covers c = true) :
    others.covers c = false := by
  refine Bool.eq_false_iff.2 fun hn => ?_
  obtain ⟨s, hs, hl, hu⟩ := (covers_iff ho).1 hn
  obtain ⟨r, hm, hrl, hru⟩ := (covers_iff hr).1 hc
  have := h r hm s hs
  omega

end CharRanges

namespace Text

variable {text before rest : List Char} {c : Char}

/-- Only white space. -/
def Blank (text : List Char) : Prop := ∀ c ∈ text, isWhiteSpace c = true

/-- No white space at either end. -/
structure Trimmed (text : List Char) : Prop where
  head : ∀ c ∈ text.head?, isWhiteSpace c = false
  last : ∀ c ∈ text.getLast?, isWhiteSpace c = false

theorem blank_nil : Blank [] := by
  intro c hc
  simp at hc

theorem blank_space : Blank [' '] := by
  intro c hc
  rw [List.mem_singleton.1 hc]
  decide

theorem Blank.append (hb : Blank before) (hr : Blank rest) : Blank (before ++ rest) := by
  intro c hc
  rcases List.mem_append.1 hc with hc | hc
  · exact hb c hc
  · exact hr c hc

theorem Blank.reverse (h : Blank text) : Blank text.reverse :=
  fun c hc => h c (List.mem_reverse.1 hc)

theorem trimmed_iff : Trimmed text ↔
    text.head?.all (!isWhiteSpace ·) = true ∧ text.getLast?.all (!isWhiteSpace ·) = true := by
  simp only [Option.all_eq_true, Bool.not_eq_true']
  exact ⟨fun h => ⟨h.head, h.last⟩, fun h => ⟨h.1, h.2⟩⟩

instance : Decidable (Trimmed text) := decidable_of_iff _ trimmed_iff.symm

theorem trimmed_nil : Trimmed [] := ⟨by simp, by simp⟩

theorem Trimmed.append (hb : Trimmed before) (hr : Trimmed rest) : Trimmed (before ++ rest) where
  head := by
    cases before with
    | nil => exact hr.head
    | cons c before => exact hb.head
  last := by
    have hl := hr.last
    rw [List.getLast?_append]
    cases he : rest.getLast? with
    | none => exact hb.last
    | some c =>
      rw [he] at hl
      exact hl

theorem trimStart_of_blank (hb : Blank before) : trimStart (before ++ rest) = trimStart rest :=
  List.dropWhile_append_of_pos hb

theorem trimStart_of_head (h : ∀ c ∈ text.head?, isWhiteSpace c = false) :
    trimStart text = text := by
  cases text with
  | nil => rfl
  | cons c text =>
    have hc : isWhiteSpace c = false := h c rfl
    rw [trimStart, List.dropWhile_cons, hc]
    rfl

theorem trimEnd_of_blank (hr : Blank rest) : trimEnd (before ++ rest) = trimEnd before := by
  rw [trimEnd, List.reverse_append, trimStart_of_blank hr.reverse, trimEnd]

theorem trimEnd_of_last (h : ∀ c ∈ text.getLast?, isWhiteSpace c = false) :
    trimEnd text = text := by
  rw [← List.head?_reverse] at h
  rw [trimEnd, trimStart_of_head h, List.reverse_reverse]

theorem trim_around (hb : Blank before) (ht : Trimmed text) (hr : Blank rest) :
    trim (before ++ (text ++ rest)) = text := by
  rw [trim, trimStart_of_blank hb]
  cases text with
  | nil =>
    have hn : trimStart rest = [] := by
      rw [← List.append_nil rest, trimStart_of_blank hr]
      rfl
    rw [List.nil_append, hn]
    rfl
  | cons c text =>
    have hh : ∀ d ∈ (c :: text ++ rest).head?, isWhiteSpace d = false := ht.head
    rw [trimStart_of_head hh, trimEnd_of_blank hr, trimEnd_of_last ht.last]

theorem exists_trimStart (text : List Char) : ∃ before, Blank before ∧
    text = before ++ trimStart text ∧ ∀ c ∈ (trimStart text).head?, isWhiteSpace c = false := by
  refine ⟨text.takeWhile isWhiteSpace, ?_, List.takeWhile_append_dropWhile.symm, ?_⟩
  · exact List.all_eq_true.1 List.all_takeWhile
  · intro c hc
    have hn := List.head?_dropWhile_not isWhiteSpace text
    rw [show (text.dropWhile isWhiteSpace).head? = some c from hc] at hn
    exact hn

theorem exists_trimEnd (text : List Char) : ∃ rest, Blank rest ∧
    text = trimEnd text ++ rest ∧ ∀ c ∈ (trimEnd text).getLast?, isWhiteSpace c = false := by
  obtain ⟨before, hb, ht, hh⟩ := exists_trimStart text.reverse
  refine ⟨before.reverse, hb.reverse, ?_, ?_⟩
  · rw [trimEnd, ← List.reverse_append, ← ht, List.reverse_reverse]
  · rw [trimEnd, List.getLast?_reverse]
    exact hh

/-- Trimming takes away the white space at both ends, and nothing else. -/
theorem exists_trim (text : List Char) : ∃ before rest, Blank before ∧ Blank rest ∧
    text = before ++ (trim text ++ rest) ∧ Trimmed (trim text) := by
  obtain ⟨before, hb, ht, hh⟩ := exists_trimStart text
  obtain ⟨rest, hr, hs, hl⟩ := exists_trimEnd (trimStart text)
  refine ⟨before, rest, hb, hr, ?_, ?_, hl⟩
  · rw [trim, ← hs, ← ht]
  · intro c hc
    refine hh c ?_
    rw [hs, List.head?_append, show (trimEnd (trimStart text)).head? = some c from hc]
    rfl

theorem trimmed_trim (text : List Char) : Trimmed (trim text) := by
  obtain ⟨_, _, _, _, _, h⟩ := exists_trim text
  exact h

theorem trim_of_trimmed (h : Trimmed text) : trim text = text := by
  have ht := trim_around blank_nil h blank_nil
  rwa [List.append_nil, List.nil_append] at ht

/-- White space around a text does not matter to what is left of it. -/
theorem trim_of_blank (text : List Char) (hb : Blank before) (hr : Blank rest) :
    trim (before ++ (text ++ rest)) = trim text := by
  obtain ⟨b, r, hb', hr', ht, hm⟩ := exists_trim text
  have he : before ++ (text ++ rest) = (before ++ b) ++ (trim text ++ (r ++ rest)) := by
    have h := congrArg (fun t => before ++ (t ++ rest)) ht
    simpa only [List.append_assoc] using h
  rw [he, trim_around (hb.append hb') hm (hr'.append hr)]

theorem not_isAlphanumeric_of_isWhiteSpace (h : isWhiteSpace c = true) :
    isAlphanumeric c = false :=
  CharRanges.not_covers_of_disjoint whiteSpaceRanges_ascending alphanumericRanges_ascending
    (by decide +kernel) h

end Text

namespace Declaration

open Text Nesting

variable {c : Char} {text : List Char}

/-- The separators of declarations, and what the scan takes note of. -/
def signs : List Char := ',' :: '=' :: '\\' :: markers

theorem not_isNameChar_of_isWhiteSpace (h : isWhiteSpace c = true) : isNameChar c = false := by
  have hu : c ≠ '_' := by
    rintro rfl
    revert h
    decide
  simp [isNameChar, not_isAlphanumeric_of_isWhiteSpace h, hu]

theorem signs_are_solid (h : c ∈ signs) : isWhiteSpace c = false ∧ isNameChar c = false := by
  have ha : signs.all (fun c => !isWhiteSpace c && !isNameChar c) = true := by decide +kernel
  simpa using List.all_eq_true.1 ha c h

theorem not_mem_signs_of_isWhiteSpace (h : isWhiteSpace c = true) : c ∉ signs := by
  intro hc
  rw [(signs_are_solid hc).1] at h
  cases h

theorem not_mem_signs_of_isNameChar (h : isNameChar c = true) : c ∉ signs := by
  intro hc
  rw [(signs_are_solid hc).2] at h
  cases h

theorem not_mem_markers_of_not_mem_signs (h : c ∉ signs) : c ∉ markers :=
  fun hc => h (by simp [signs, hc])

theorem closed_of_no_sign {separator : Char} (hs : separator ∈ signs) (h : ∀ c ∈ text, c ∉ signs) :
    Closed separator text :=
  closed_of_no_marker (fun c hc => not_mem_markers_of_not_mem_signs (h c hc)) fun hc => h _ hc hs

theorem closed_of_blank {separator : Char} (hs : separator ∈ signs) (h : Blank text) :
    Closed separator text :=
  closed_of_no_sign hs fun c hc => not_mem_signs_of_isWhiteSpace (h c hc)

end Declaration
end GrammarRefs
