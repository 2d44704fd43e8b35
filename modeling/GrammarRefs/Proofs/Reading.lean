import GrammarRefs.Proofs.Trimming

/-! How one declaration is read. White space around it does not matter. -/
namespace GrammarRefs
namespace Declaration

open Text Nesting

section Runs

variable {α : Type} {p : α → Bool} {run rest : List α}

theorem dropWhile_run (hw : ∀ a ∈ run, p a = true) (hr : ∀ a ∈ rest.head?, p a = false) :
    (run ++ rest).dropWhile p = rest := by
  rw [List.dropWhile_append_of_pos hw]
  cases rest with
  | nil => rfl
  | cons a rest => simp [hr a rfl]

theorem takeWhile_run (hw : ∀ a ∈ run, p a = true) (hr : ∀ a ∈ rest.head?, p a = false) :
    (run ++ rest).takeWhile p = run := by
  rw [List.takeWhile_append_of_pos hw]
  cases rest with
  | nil => simp
  | cons a rest => simp [hr a rfl]

end Runs

variable {p : Parts} {c : Char} {text before rest value : List Char} {pos : Position}
  {a : Attribute}

namespace Parts

/-- The text that has these parts. -/
def whole (p : Parts) : List Char := p.before ++ (p.name ++ p.after)

/-- What stands around the name. -/
def type (p : Parts) : List Char := trim p.before ++ trim p.after

/-- The name is there, cannot be longer, and is the last one. -/
structure Proper (p : Parts) : Prop where
  named : p.name ≠ []
  name : ∀ c ∈ p.name, isNameChar c = true
  before : ∀ c ∈ p.before.getLast?, isNameChar c = false
  after : ∀ c ∈ p.after, isNameChar c = false

theorem whole_ofText (text : List Char) : (ofText text).whole = text := by
  have hr : ∀ t : List Char, (t.dropWhile isNameChar).reverse ++
      (t.takeWhile isNameChar).reverse = t.reverse := by
    intro t
    rw [← List.reverse_append, List.takeWhile_append_dropWhile]
  rw [Parts.whole, ofText, ← List.append_assoc, hr, ← List.reverse_append,
    List.takeWhile_append_dropWhile, List.reverse_reverse]

theorem Proper.ofText_whole (h : p.Proper) : ofText p.whole = p := by
  have hr : p.whole.reverse = p.after.reverse ++ (p.name.reverse ++ p.before.reverse) := by
    simp [Parts.whole]
  have ha : ∀ c ∈ p.after.reverse, (!isNameChar c) = true := by
    intro c hc
    rw [h.after c (List.mem_reverse.1 hc)]
    rfl
  have hn : ∀ c ∈ (p.name.reverse ++ p.before.reverse).head?, (!isNameChar c) = false := by
    intro c hc
    rw [List.head?_append, List.head?_reverse] at hc
    cases hl : p.name.getLast? with
    | none => exact absurd (List.getLast?_eq_none_iff.1 hl) h.named
    | some d =>
      rw [hl] at hc
      cases hc
      rw [h.name c (List.mem_of_getLast? hl)]
      rfl
  have hm : ∀ c ∈ p.name.reverse, isNameChar c = true :=
    fun c hc => h.name c (List.mem_reverse.1 hc)
  have hb : ∀ c ∈ p.before.reverse.head?, isNameChar c = false := by
    rw [List.head?_reverse]
    exact h.before
  rw [ofText, hr, dropWhile_run ha hn, takeWhile_run ha hn, dropWhile_run hm hb,
    takeWhile_run hm hb]
  simp

theorem name_ofText_eq_nil_iff : (ofText text).name = [] ↔ ∀ c ∈ text, isNameChar c = false := by
  constructor
  · intro h c hc
    have hd : text.reverse.dropWhile (!isNameChar ·) = [] := by
      have hh := List.head?_dropWhile_not (!isNameChar ·) text.reverse
      rw [ofText, List.reverse_eq_nil_iff] at h
      cases ht : text.reverse.dropWhile (!isNameChar ·) with
      | nil => rfl
      | cons d rest =>
        rw [ht] at hh h
        simp at hh
        simp [hh] at h
    have hw := List.takeWhile_append_dropWhile (p := (!isNameChar ·)) (l := text.reverse)
    rw [hd, List.append_nil] at hw
    have hm : c ∈ text.reverse.takeWhile (!isNameChar ·) := by
      rw [hw]
      exact List.mem_reverse.2 hc
    simpa using List.all_eq_true.1 List.all_takeWhile c hm
  · intro h
    have hd : text.reverse.dropWhile (!isNameChar ·) = [] := by
      rw [← List.append_nil text.reverse, List.dropWhile_append_of_pos]
      · rfl
      · intro c hc
        rw [h c (List.mem_reverse.1 hc)]
        rfl
    rw [ofText, hd]
    rfl

theorem proper_ofText (h : (ofText text).name ≠ []) : (ofText text).Proper where
  named := h
  name c hc := List.all_eq_true.1 List.all_takeWhile c (List.mem_reverse.1 hc)
  before := by
    intro c hc
    rw [ofText, List.getLast?_reverse] at hc
    have hn := List.head?_dropWhile_not isNameChar (text.reverse.dropWhile (!isNameChar ·))
    rw [hc] at hn
    exact hn
  after c hc := by
    have hn := List.all_eq_true.1 List.all_takeWhile c (List.mem_reverse.1 hc)
    simpa using hn

/-- White space around a text goes to its parts around the name. -/
theorem Proper.around (h : p.Proper) (hb : Blank before) (hr : Blank rest) :
    Proper { before := before ++ p.before, name := p.name, after := p.after ++ rest } where
  named := h.named
  name := h.name
  before := by
    intro c hc
    rw [List.getLast?_append] at hc
    cases hl : p.before.getLast? with
    | none =>
      rw [hl] at hc
      exact not_isNameChar_of_isWhiteSpace (hb c (List.mem_of_getLast? hc))
    | some d =>
      rw [hl] at hc
      cases hc
      exact h.before c hl
  after := by
    intro c hc
    rcases List.mem_append.1 hc with hc | hc
    · exact h.after c hc
    · exact not_isNameChar_of_isWhiteSpace (hr c hc)

theorem ofText_around (hn : (ofText text).name ≠ []) (hb : Blank before) (hr : Blank rest) :
    ofText (before ++ (text ++ rest)) = { ofText text with
      before := before ++ (ofText text).before, after := (ofText text).after ++ rest } := by
  have hw := ((proper_ofText hn).around hb hr).ofText_whole
  simp only [whole, List.append_assoc] at hw
  have ht : before ++ ((ofText text).before ++ ((ofText text).name ++ ((ofText text).after ++
      rest))) = before ++ (text ++ rest) := by
    have h := congrArg (fun t => before ++ (t ++ rest)) (whole_ofText text)
    simpa only [whole, List.append_assoc] using h
  rwa [ht] at hw

theorem type_around (hb : Blank before) (hr : Blank rest) :
    type { before := before ++ p.before, name := p.name, after := p.after ++ rest } = p.type := by
  have ht : trim (before ++ p.before) = trim p.before := by
    have h := trim_of_blank p.before hb blank_nil
    rwa [List.append_nil] at h
  have hs : trim (p.after ++ rest) = trim p.after := trim_of_blank p.after blank_nil hr
  rw [type, ht, hs, type]

end Parts

/-- What a declaration is read as. Around the name stands the type, and a value may follow. -/
inductive Reads (pos : Position) : List Char → Attribute → Prop
  | plain {p : Parts} (hp : p.Proper) (hq : Quiet '=' top p.whole) :
    Reads pos p.whole { name := .ofList p.name, type := nonempty? p.type, pos }
  | valued {p : Parts} {value : List Char} (hp : p.Proper) (hc : Closed '=' p.whole) :
    Reads pos (p.whole ++ '=' :: value)
      { name := .ofList p.name, type := nonempty? p.type, init := nonempty? (trim value), pos }

theorem nonempty?_of_ne (h : text ≠ []) : nonempty? text = some (.ofList text) := by
  cases text with
  | nil => exact absurd rfl h
  | cons => rfl

theorem cutInit_of_quiet (h : Quiet '=' top text) : cutInit text = (text, none) := by
  rw [cutInit, show cut? '=' text = none from h]

theorem cutInit_of_closed (h : Closed '=' text) :
    cutInit (text ++ '=' :: value) = (text, nonempty? (trim value)) := by
  rw [cutInit, cut?_eq_some_iff.2 ⟨rfl, h⟩]

theorem read?_eq (pos : Position) (text : List Char) : read? pos text =
    (nonempty? (Parts.ofText (cutInit text).1).name).map fun name =>
      { name, type := nonempty? (Parts.ofText (cutInit text).1).type, init := (cutInit text).2,
        pos } := rfl

theorem read?_of_reads (h : Reads pos text a) : read? pos text = some a := by
  cases h with
  | plain hp hq =>
    rw [read?_eq, cutInit_of_quiet hq, hp.ofText_whole, nonempty?_of_ne hp.named]
    rfl
  | valued hp hc =>
    rw [read?_eq, cutInit_of_closed hc, hp.ofText_whole, nonempty?_of_ne hp.named]
    rfl

theorem reads_of_read? (h : read? pos text = some a) : Reads pos text a := by
  rw [read?_eq] at h
  have hn : (Parts.ofText (cutInit text).1).name ≠ [] := by
    intro hn
    rw [hn] at h
    cases h
  have hp := Parts.proper_ofText hn
  have hw := Parts.whole_ofText (cutInit text).1
  rw [nonempty?_of_ne hn] at h
  cases h
  cases hc : cut? '=' text with
  | none =>
    have hi := cutInit_of_quiet hc
    rw [hi] at hp hw ⊢
    have hr : Reads pos _ _ := .plain hp (hw.symm ▸ hc)
    rwa [hw] at hr
  | some cut =>
    obtain ⟨rfl, hb⟩ := cut?_eq_some_iff.1 hc
    rw [cutInit_of_closed hb] at hp hw ⊢
    have hr : Reads pos (_ ++ '=' :: cut.2) _ := .valued hp (hw.symm ▸ hb)
    rwa [hw] at hr

theorem cutInit_around (text : List Char) (hb : Blank before) (hr : Blank rest) :
    ∃ r, Blank r ∧
      cutInit (before ++ (text ++ rest)) = (before ++ ((cutInit text).1 ++ r), (cutInit text).2) := by
  have hs : '=' ∈ signs := by simp [signs]
  have hc := closed_of_blank hs hb
  cases ht : cut? '=' text with
  | none =>
    have hq : Quiet '=' top (text ++ rest) := by
      refine quiet_append.2 ⟨ht, quiet_of_not_mem fun he => ?_⟩
      exact not_mem_signs_of_isWhiteSpace (hr _ he) hs
    rw [cutInit_of_quiet ht, cutInit_of_quiet (hc.quiet_append hq)]
    exact ⟨rest, hr, rfl⟩
  | some cut =>
    obtain ⟨rfl, hcut⟩ := cut?_eq_some_iff.1 ht
    have he : before ++ (cut.1 ++ '=' :: cut.2 ++ rest) =
        (before ++ cut.1) ++ '=' :: (cut.2 ++ rest) := by simp
    have hv : trim (cut.2 ++ rest) = trim cut.2 := trim_of_blank cut.2 blank_nil hr
    rw [he, cutInit_of_closed (hc.append hcut), cutInit_of_closed hcut, hv]
    exact ⟨[], blank_nil, by rw [List.append_nil]⟩

theorem read?_around (pos : Position) (text : List Char) (hb : Blank before) (hr : Blank rest) :
    read? pos (before ++ (text ++ rest)) = read? pos text := by
  obtain ⟨r, hr, hc⟩ := cutInit_around text hb hr
  rw [read?_eq, hc, read?_eq]
  by_cases hn : (Parts.ofText (cutInit text).1).name = []
  · have hm : (Parts.ofText (before ++ ((cutInit text).1 ++ r))).name = [] := by
      rw [Parts.name_ofText_eq_nil_iff] at hn ⊢
      intro c hc
      rcases List.mem_append.1 hc with hc | hc
      · exact not_isNameChar_of_isWhiteSpace (hb c hc)
      · rcases List.mem_append.1 hc with hc | hc
        · exact hn c hc
        · exact not_isNameChar_of_isWhiteSpace (hr c hc)
    rw [hm, hn]
    rfl
  · rw [Parts.ofText_around hn hb hr, Parts.type_around hb hr]

theorem read?_trim (pos : Position) (text : List Char) : read? pos (trim text) = read? pos text := by
  obtain ⟨before, rest, hb, hr, ht, _⟩ := exists_trim text
  have h := read?_around pos (trim text) hb hr
  rwa [← ht, eq_comm] at h

/-- Trimming the pieces and leaving out empty ones only spares work. -/
theorem attributes_eq_filterMap (pos : Position) (text : List Char) :
    attributes pos text = (split ',' text).filterMap (read? pos) := by
  rw [attributes, pieces, List.filterMap_filter, List.filterMap_map]
  congr 1
  funext piece
  rw [Function.comp_apply, ← read?_trim pos piece]
  cases trim piece <;> rfl

theorem attributes_nil (pos : Position) : attributes pos [] = [] := by
  rw [attributes_eq_filterMap, split_of_quiet quiet_nil]
  rfl

end Declaration

namespace Dict

variable {kind : DictKind} {d : Dict} {attributes : List Attribute}

theorem foldl_add (d : Dict) (attributes : List Attribute) :
    (attributes.foldl add d).attributes = d.attributes ++ attributes ∧
      (attributes.foldl add d).kind = d.kind ∧ (attributes.foldl add d).name = d.name := by
  induction attributes generalizing d with
  | nil => exact ⟨(List.append_nil _).symm, rfl, rfl⟩
  | cons a attributes ih =>
    obtain ⟨ha, hk, hn⟩ := ih (d.add a)
    refine ⟨?_, hk, hn⟩
    rw [List.foldl_cons, ha, add, List.append_assoc, List.singleton_append]

theorem attributes_ofAttributes : (ofAttributes kind attributes).attributes = attributes :=
  (foldl_add { kind } attributes).1

theorem kind_ofAttributes : (ofAttributes kind attributes).kind = kind :=
  (foldl_add { kind } attributes).2.1

theorem name_ofAttributes : (ofAttributes kind attributes).name = none :=
  (foldl_add { kind } attributes).2.2

end Dict
end GrammarRefs
