import GrammarRefs.Proofs.Reading

/-! Well-formed declarations and the ways to write them. They are read as what they declare. What is
inside of brackets is told by a count of 32 bits, so that behind 2 ^ 32 open brackets a separator
counts as outside of them. -/
namespace GrammarRefs

namespace Nesting

variable {c mark separator : Char} {bars text : List Char} {depth : Int32} {n : Nat}

/-- What can stand between two quotation marks. -/
inductive Quotable (mark : Char) : List Char → Prop
  | nil : Quotable mark []
  | plain {c : Char} {text : List Char} (hm : c ≠ mark) (hb : c ≠ '\\') (ht : Quotable mark text) :
    Quotable mark (c :: text)
  | escaped (c : Char) {text : List Char} (ht : Quotable mark text) :
    Quotable mark ('\\' :: c :: text)

/-- Texts, so many brackets deep, in which brackets and literals are closed, with no bar where the
depth counts as 0. Any closing bracket closes the last bracket that is open. -/
inductive Balanced (bars : List Char) : Nat → List Char → Prop
  | nil {depth : Nat} : Balanced bars depth []
  | plain {depth : Nat} {text : List Char} {c : Char} (hm : c ∉ markers)
    (hc : Int32.size ∣ depth → c ∉ bars) (ht : Balanced bars depth text) :
    Balanced bars depth (c :: text)
  | literal {depth : Nat} {quoted text : List Char} {mark : Char}
    (hm : isQuotationMark mark = true) (hq : Quotable mark quoted) (ht : Balanced bars depth text) :
    Balanced bars depth (mark :: (quoted ++ mark :: text))
  | group {depth : Nat} {inner text : List Char} {opening closing : Char}
    (ho : opens opening = true) (hc : closes closing = true) (hi : Balanced bars (depth + 1) inner)
    (ht : Balanced bars depth text) : Balanced bars depth (opening :: (inner ++ closing :: text))

theorem step_mark (h : isQuotationMark c = true) : (outside depth).step c = .quoted depth c := by
  rw [step, if_pos h]

theorem step_opening (h : opens c = true) : (outside depth).step c = outside (depth + 1) := by
  simp only [opens, Bool.or_eq_true, beq_iff_eq] at h
  rcases h with ((rfl | rfl) | rfl) | rfl <;> rfl

theorem step_closing (h : closes c = true) : (outside depth).step c = outside (depth - 1) := by
  simp only [closes, Bool.or_eq_true, beq_iff_eq] at h
  rcases h with ((rfl | rfl) | rfl) | rfl <;> rfl

theorem step_same_mark (h : isQuotationMark mark = true) :
    (Nesting.quoted depth mark).step mark = outside depth := by
  have hb : mark ≠ '\\' := by
    rintro rfl
    cases h
  rw [step, if_neg hb, if_pos rfl]

/-- Inside of a literal the scan stays inside, and cuts nowhere. -/
theorem Quotable.scan (h : Quotable mark text) (depth : Int32) (separator : Char) :
    (Nesting.quoted depth mark).after text = .quoted depth mark ∧
      Quiet separator (.quoted depth mark) text := by
  induction h with
  | nil => exact ⟨rfl, quiet_nil⟩
  | @plain c text hm hb ht ih =>
    have hs : (Nesting.quoted depth mark).step c = .quoted depth mark := by
      rw [step, if_neg hb, if_neg hm]
    rw [after_cons, quiet_cons, hs]
    exact ⟨ih.1, by simp [top], ih.2⟩
  | @escaped c text ht ih =>
    have hs : (Nesting.quoted depth mark).step '\\' = .escaped depth mark := by
      rw [step, if_pos rfl]
    have hn : (Nesting.escaped depth mark).step c = .quoted depth mark := rfl
    rw [after_cons, after_cons, quiet_cons, quiet_cons, hs, hn]
    exact ⟨ih.1, by simp [top], by simp [top], ih.2⟩

/-- Over a balanced text the scan comes back to its depth, and cuts at no bar. -/
theorem Balanced.scan (h : Balanced bars n text) (hs : separator ∉ markers)
    (hb : separator ∈ bars) : (outside (.ofNat n)).after text = outside (.ofNat n) ∧
      Quiet separator (outside (.ofNat n)) text := by
  induction h with
  | nil => exact ⟨rfl, quiet_nil⟩
  | @plain n text c hm hc ht ih =>
    have hn : ¬ (c = separator ∧ outside (.ofNat n) = top) := by
      rintro ⟨rfl, ht⟩
      exact hc ((ofNat_depth_eq_zero_iff n).1 (outside_eq_top_iff.1 ht)) hb
    obtain ⟨ha, hq⟩ := ih
    rw [after_cons, quiet_cons, step_outside hm]
    exact ⟨ha, hn, hq⟩
  | @literal n quoted text mark hm hq ht ih =>
    have hn : mark ≠ separator := fun he => by simp [he, not_mem_markers_iff.1 hs] at hm
    obtain ⟨ha, hl⟩ := hq.scan (.ofNat n) separator
    obtain ⟨hr, hi⟩ := ih
    rw [after_cons, after_append, after_cons, quiet_cons, quiet_append, quiet_cons, step_mark hm,
      ha, step_same_mark hm]
    exact ⟨hr, by simp [hn], hl, by simp [top], hi⟩
  | @group n inner text opening closing ho hc hi ht ihi iht =>
    have hn : opening ≠ separator := fun he => by simp [he, not_mem_markers_iff.1 hs] at ho
    have hm : closing ≠ separator := fun he => by simp [he, not_mem_markers_iff.1 hs] at hc
    obtain ⟨ha, hq⟩ := ihi
    obtain ⟨hr, hl⟩ := iht
    have hp : (outside (.ofNat n)).step opening = outside (.ofNat (n + 1)) := by
      rw [step_opening ho, Int32.ofNat_add]
      rfl
    have hd : (outside (.ofNat (n + 1))).step closing = outside (.ofNat n) := by
      rw [step_closing hc, Int32.ofNat_add]
      exact congrArg outside (Int32.add_sub_cancel _ _)
    rw [after_cons, after_append, after_cons, quiet_cons, quiet_append, quiet_cons, hp, ha, hd]
    exact ⟨hr, by simp [hn], hq, by simp [hm], hl⟩

theorem Balanced.closed (h : Balanced bars 0 text) (hm : separator ∉ markers)
    (hb : separator ∈ bars) : Closed separator text := by
  obtain ⟨ha, hq⟩ := h.scan hm hb
  exact ⟨hq, ha⟩

end Nesting

namespace Declaration

open Text Nesting

/-- A declaration that is meant: brackets and literals are closed, and a separator inside of them is
none. -/
structure Entry where
  type : List Char
  name : List Char
  /-- What of the type stands behind the name. -/
  suffix : List Char
  init : Option (List Char)
  type_trimmed : Trimmed type
  type_balanced : Balanced [',', '='] 0 type
  name_ne : name ≠ []
  name_chars : ∀ c ∈ name, isNameChar c = true
  suffix_trimmed : Trimmed suffix
  suffix_balanced : Balanced [',', '='] 0 suffix
  suffix_chars : ∀ c ∈ suffix, isNameChar c = false
  init_sound : ∀ value ∈ init, value ≠ [] ∧ Trimmed value ∧ Balanced [','] 0 value

/-- White space, or nothing at all. -/
abbrev Gap := { gap : List Char // Blank gap }

/-- The gaps of a written declaration, from left to right. -/
structure Spacing where
  lead : Gap
  afterType : Gap
  afterName : Gap
  afterSuffix : Gap
  beforeInit : Gap
  afterInit : Gap

/-- What stands between commas: a declaration, or nothing. -/
inductive Item
  | blank (gap : Gap)
  | entry (e : Entry) (s : Spacing) (apart : e.type ≠ [] → s.afterType.val ≠ [])

/-- The parts of a written declaration without its value. -/
def Entry.parts (e : Entry) (s : Spacing) : Parts where
  before := s.lead.val ++ (e.type ++ s.afterType.val)
  name := e.name
  after := s.afterName.val ++ (e.suffix ++ s.afterSuffix.val)

def Item.text : Item → List Char
  | .blank gap => gap.val
  | .entry e s _ =>
    s.lead.val ++ e.type ++ s.afterType.val ++ e.name ++ s.afterName.val ++ e.suffix ++
      s.afterSuffix.val ++
      match e.init with
      | none => []
      | some value => '=' :: (s.beforeInit.val ++ value ++ s.afterInit.val)

def Item.attribute? (pos : Position) : Item → Option Attribute
  | .blank _ => none
  | .entry e _ _ => some {
    name := .ofList e.name
    type := if e.type = [] ∧ e.suffix = [] then none else some (.ofList (e.type ++ e.suffix))
    init := e.init.map .ofList
    pos }

namespace Entry

variable {e : Entry} {s : Spacing} {separator : Char}

end Entry

namespace Item

end Item

end Declaration

end GrammarRefs
