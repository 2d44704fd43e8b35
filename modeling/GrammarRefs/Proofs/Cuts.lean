import GrammarRefs.Declaration
import GrammarRefs.Proofs.Scanning

/-! One scan of a whole text. Where it meets a separator at the top it stands as it did at first, so
that a text is cut at the same places if the scan begins anew behind each of them. -/
namespace GrammarRefs

/-- Where a scan from the left stands. -/
structure Scan where
  /-- How many brackets have been opened outside of literals, less those closed, in 32 bits. -/
  depth : Int32 := 0
  /-- The quotation mark of the literal that has been begun. -/
  mark : Option Char := none
  /-- Whether a backslash stands before the next character of the literal. -/
  escaped : Bool := false
deriving DecidableEq

namespace Scan

open Nesting

def step (s : Scan) (c : Char) : Scan :=
  match s.mark with
  | some mark =>
    if s.escaped then { s with escaped := false }
    else if c = '\\' then { s with escaped := true }
    else if c = mark then { s with mark := none }
    else s
  | none =>
    if isQuotationMark c then { s with mark := some c }
    else if opens c then { s with depth := s.depth + 1 }
    else if closes c then { s with depth := s.depth - 1 }
    else s

/-- What a character adds to the depth outside of literals. -/
def rise (c : Char) : Int32 := if opens c then 1 else if closes c then -1 else 0

/-- The ways in which a character moves the scan. -/
inductive Moves : Char → Scan → Scan → Prop
  | outside {c : Char} (depth : Int32) (escaped : Bool) (hq : isQuotationMark c = false) :
    Moves c ⟨depth, none, escaped⟩ ⟨depth + rise c, none, escaped⟩
  | begins {c : Char} (depth : Int32) (escaped : Bool) (hq : isQuotationMark c = true) :
    Moves c ⟨depth, none, escaped⟩ ⟨depth, some c, escaped⟩
  | inside {c mark : Char} (depth : Int32) (hb : c ≠ '\\') (hc : c ≠ mark) :
    Moves c ⟨depth, some mark, false⟩ ⟨depth, some mark, false⟩
  | ends {mark : Char} (depth : Int32) (hb : mark ≠ '\\') :
    Moves mark ⟨depth, some mark, false⟩ ⟨depth, none, false⟩
  | escapes (mark : Char) (depth : Int32) :
    Moves '\\' ⟨depth, some mark, false⟩ ⟨depth, some mark, true⟩
  | spared (c mark : Char) (depth : Int32) :
    Moves c ⟨depth, some mark, true⟩ ⟨depth, some mark, false⟩

theorem Moves.step_eq {s t : Scan} {c : Char} (h : Moves c s t) : s.step c = t := by
  cases h with
  | outside depth escaped hq =>
    by_cases hp : opens c
    · simp [step, hq, hp, rise]
    · by_cases hc : closes c <;> simp [step, hq, hp, hc, rise, Int32.sub_eq_add_neg]
  | begins depth escaped hq => simp [step, hq]
  | inside depth hb hc => simp [step, hb, hc]
  | ends depth hb => simp [step, hb]
  | escapes => rfl
  | spared => rfl

theorem moves_step (s : Scan) (c : Char) : Moves c s (s.step c) := by
  obtain ⟨t, h⟩ : ∃ t, Moves c s t := by
    obtain ⟨depth, mark, escaped⟩ := s
    cases mark with
    | none =>
      cases hq : isQuotationMark c with
      | false => exact ⟨_, .outside depth escaped hq⟩
      | true => exact ⟨_, .begins depth escaped hq⟩
    | some mark =>
      cases escaped with
      | true => exact ⟨_, .spared c mark depth⟩
      | false =>
        by_cases hb : c = '\\'
        · subst hb
          exact ⟨_, .escapes mark depth⟩
        · by_cases hc : c = mark
          · subst hc
            exact ⟨_, .ends depth hb⟩
          · exact ⟨_, .inside depth hb hc⟩
  rwa [h.step_eq]

def after (s : Scan) (text : List Char) : Scan := text.foldl step s

/-- Where the scan of a text stands at its end. -/
def final (text : List Char) : Scan := after {} text

/-- Outside of brackets and of literals. -/
def AtTop (s : Scan) : Prop := s.depth = 0 ∧ s.mark = none

instance (s : Scan) : Decidable s.AtTop := inferInstanceAs (Decidable (_ ∧ _))

/-- The places where the scan meets the separator at the top. It stands at place `i`. -/
def cutsFrom (separator : Char) : Scan → Nat → List Char → List Nat
  | _, _, [] => []
  | s, i, c :: rest =>
    if c = separator ∧ s.AtTop then i :: cutsFrom separator (s.step c) (i + 1) rest
    else cutsFrom separator (s.step c) (i + 1) rest

def cuts (separator : Char) (text : List Char) : List Nat := cutsFrom separator {} 0 text

/-- The pieces of a text between the places, from place `i` on. -/
def between (text : List Char) (i : Nat) : List Nat → List (List Char)
  | [] => [text.drop i]
  | cut :: cuts => (text.drop i).take (cut - i) :: between text (cut + 1) cuts

end Scan

namespace Nesting

/-- The same in three variables. -/
def scan : Nesting → Scan
  | .outside depth => { depth }
  | .quoted depth mark => { depth, mark := some mark }
  | .escaped depth mark => { depth, mark := some mark, escaped := true }

variable {separator c : Char} {s : Nesting} {text rest : List Char} {i k : Nat}

@[simp] theorem scan_top : top.scan = {} := rfl

theorem scan_step (s : Nesting) (c : Char) : (s.step c).scan = s.scan.step c := by
  cases s with
  | outside depth =>
    by_cases hq : isQuotationMark c
    · simp [step, scan, Scan.step, hq]
    · by_cases ho : opens c
      · simp [step, scan, Scan.step, hq, ho]
      · by_cases hc : closes c <;> simp [step, scan, Scan.step, hq, ho, hc]
  | quoted depth mark =>
    by_cases hb : c = '\\'
    · simp [step, scan, Scan.step, hb]
    · by_cases hm : c = mark
      · subst hm
        simp [step, scan, Scan.step, hb]
      · simp [step, scan, Scan.step, hb, hm]
  | escaped depth mark => rfl

theorem scan_after (s : Nesting) (text : List Char) : (s.after text).scan = s.scan.after text := by
  induction text generalizing s with
  | nil => rfl
  | cons c text ih =>
    rw [after_cons, ih, scan_step]
    rfl

theorem scan_atTop_iff : s.scan.AtTop ↔ s = top := by
  cases s <;> simp [scan, Scan.AtTop, top]

/-- All three variables are back at what they were at first. -/
theorem scan_of_atTop (h : s.scan.AtTop) : s.scan = {} := by
  rw [scan_atTop_iff.1 h, scan_top]

theorem scan_final (text : List Char) : (top.after text).scan = Scan.final text := scan_after top text

theorem final_atTop_iff : (Scan.final text).AtTop ↔ top.after text = top := by
  rw [← scan_final, scan_atTop_iff]

theorem cutsFrom_append (h : Quiet separator s text) (i : Nat) (rest : List Char) :
    Scan.cutsFrom separator s.scan i (text ++ rest) =
      Scan.cutsFrom separator (s.after text).scan (i + text.length) rest := by
  induction text generalizing s i with
  | nil => rfl
  | cons c text ih =>
    rw [quiet_cons] at h
    have hc : ¬ (c = separator ∧ s.scan.AtTop) := by
      rw [scan_atTop_iff]
      exact h.1
    rw [List.cons_append, Scan.cutsFrom, if_neg hc, ← scan_step, ih h.2, after_cons,
      List.length_cons, Nat.add_right_comm, Nat.add_assoc]

theorem cutsFrom_of_quiet (h : Quiet separator s text) (i : Nat) :
    Scan.cutsFrom separator s.scan i text = [] := by
  have ha := cutsFrom_append h i []
  rwa [List.append_nil] at ha

/-- Behind a separator the scan of the whole text stands where a new one begins. -/
theorem cutsFrom_of_closed (hs : separator ∉ markers) (h : Closed separator text) (i : Nat)
    (rest : List Char) : Scan.cutsFrom separator {} i (text ++ separator :: rest) =
      (i + text.length) :: Scan.cutsFrom separator {} (i + text.length + 1) rest := by
  have hc : separator = separator ∧ top.scan.AtTop := ⟨rfl, scan_atTop_iff.2 rfl⟩
  have hn : top.step separator = top := step_outside hs 0
  rw [← scan_top, cutsFrom_append h.quiet, h.returns, Scan.cutsFrom, if_pos hc, ← scan_step, hn]

theorem split_eq_between_from (hs : separator ∉ markers) (before text : List Char) :
    split separator text = Scan.between (before ++ text) before.length
      (Scan.cutsFrom separator {} before.length text) := by
  fun_induction split separator text generalizing before with
  | case1 text h =>
    rw [← scan_top, cutsFrom_of_quiet h, Scan.between, List.drop_left]
  | case2 text piece rest h ih =>
    obtain ⟨rfl, hc⟩ := cut?_eq_some_iff.1 h
    have hd := ih (before ++ piece ++ [separator])
    have hl : (before ++ piece ++ [separator]).length = before.length + piece.length + 1 := by
      simp [Nat.add_assoc]
    have hw : before ++ piece ++ [separator] ++ rest = before ++ (piece ++ separator :: rest) := by
      simp
    rw [hl, hw] at hd
    rw [cutsFrom_of_closed hs hc, Scan.between, ← hd, List.drop_left, Nat.add_sub_cancel_left,
      List.take_left]

theorem split_ne_nil (separator : Char) (text : List Char) : split separator text ≠ [] := by
  have hr := row_split separator text
  intro hn
  rw [hn] at hr
  cases hr

theorem intercalate_split (separator : Char) (text : List Char) :
    [separator].intercalate (split separator text) = text := by
  fun_induction split separator text with
  | case1 text h => rw [List.intercalate_singleton]
  | case2 text piece rest h ih =>
    obtain ⟨rfl, _⟩ := cut?_eq_some_iff.1 h
    obtain ⟨next, pieces, hp⟩ := List.exists_cons_of_ne_nil (split_ne_nil separator rest)
    rw [hp] at ih ⊢
    rw [List.intercalate_cons_cons, ih, List.append_assoc, List.singleton_append]

end Nesting

namespace Scan

variable {separator c : Char} {s : Scan} {text : List Char} {i k : Nat}

theorem step_of_not_mem_markers (hc : c ∉ Nesting.markers) (h : s.AtTop) : s.step c = s := by
  simp [step, h.2, Nesting.not_mem_markers_iff.1 hc]

theorem mem_cutsFrom : i ∈ cutsFrom separator s k text ↔
    ∃ j, i = k + j ∧ text[j]? = some separator ∧ (s.after (text.take j)).AtTop := by
  induction text generalizing s k with
  | nil => simp [cutsFrom]
  | cons c rest ih =>
    have ht : i ∈ cutsFrom separator (s.step c) (k + 1) rest ↔ ∃ j, i = k + (j + 1) ∧
        (c :: rest)[j + 1]? = some separator ∧ (s.after ((c :: rest).take (j + 1))).AtTop := by
      simp only [ih, Nat.add_assoc, Nat.add_comm 1]
      rfl
    -- The first place is the head of the text, all others are places of its tail.
    have hh : (∃ j, i = k + j ∧ (c :: rest)[j]? = some separator ∧
        (s.after ((c :: rest).take j)).AtTop) ↔
        (i = k ∧ c = separator ∧ s.AtTop) ∨ i ∈ cutsFrom separator (s.step c) (k + 1) rest := by
      rw [ht]
      constructor
      · rintro ⟨j, hi, hc, hs⟩
        cases j with
        | zero => exact .inl ⟨hi, by simpa using hc, hs⟩
        | succ j => exact .inr ⟨j, hi, hc, hs⟩
      · rintro (⟨hi, rfl, hs⟩ | ⟨j, hi, hc, hs⟩)
        · exact ⟨0, hi, rfl, hs⟩
        · exact ⟨j + 1, hi, hc, hs⟩
    rw [hh, cutsFrom]
    split
    · next hc => simp [hc]
    · next hc => simp [hc]

theorem le_of_mem_cutsFrom (h : i ∈ cutsFrom separator s k text) : k ≤ i := by
  obtain ⟨j, rfl, _⟩ := mem_cutsFrom.1 h
  omega

theorem cutsFrom_ascend (s : Scan) (k : Nat) (text : List Char) :
    (cutsFrom separator s k text).Pairwise (· < ·) := by
  induction text generalizing s k with
  | nil => exact .nil
  | cons c rest ih =>
    rw [cutsFrom]
    split
    · refine .cons ?_ (ih _ _)
      intro i hi
      have := le_of_mem_cutsFrom hi
      omega
    · exact ih _ _

theorem mem_cuts :
    i ∈ cuts separator text ↔ text[i]? = some separator ∧ (final (text.take i)).AtTop := by
  simp [cuts, mem_cutsFrom, final]

theorem final_take_succ (h : text[i]? = some c) :
    final (text.take (i + 1)) = (final (text.take i)).step c := by
  obtain ⟨hi, rfl⟩ := List.getElem?_eq_some_iff.1 h
  rw [List.take_succ_eq_append_getElem hi, final, after, List.foldl_append]
  rfl

theorem final_of_atTop (h : (final text).AtTop) : final text = {} := by
  rw [← Nesting.scan_final] at h ⊢
  exact Nesting.scan_of_atTop h

/-- The scan stands as at first before the separator of a cut, and behind it. -/
theorem final_of_mem_cuts (hs : separator ∉ Nesting.markers) (h : i ∈ cuts separator text) :
    final (text.take i) = {} ∧ final (text.take (i + 1)) = {} := by
  obtain ⟨hc, ht⟩ := mem_cuts.1 h
  have hi := final_of_atTop ht
  refine ⟨hi, ?_⟩
  rw [final_take_succ hc, step_of_not_mem_markers hs ht, hi]

end Scan

open Nesting Text

/-- The pieces between separators, without the white space around them and the empty ones. -/
def Declaration.piecesAt (separator : Char) (text : List Char) : List (List Char) :=
  ((split separator text).map trim).filter (!·.isEmpty)

/-- Cutting a text by scans that begin anew behind each separator is cutting it by one scan of the
whole. Nothing of the text is lost. -/
theorem split_cuts_as_one_scan {separator : Char} (hs : separator ∉ markers) (text : List Char) :
    let cuts := Scan.cuts separator text
    (∀ i, i ∈ cuts ↔ text[i]? = some separator ∧ (Scan.final (text.take i)).AtTop) ∧
    cuts.Pairwise (· < ·) ∧
    (∀ i ∈ cuts, Scan.final (text.take i) = {} ∧ Scan.final (text.take (i + 1)) = {}) ∧
    split separator text = Scan.between text 0 cuts ∧
    Declaration.piecesAt separator text =
      ((Scan.between text 0 cuts).map trim).filter (!·.isEmpty) ∧
    Declaration.pieces text = Declaration.piecesAt ',' text ∧
    [separator].intercalate (split separator text) = text := by
  intro cuts
  have hb : split separator text = Scan.between text 0 cuts := split_eq_between_from hs [] text
  refine ⟨fun i => Scan.mem_cuts, Scan.cutsFrom_ascend _ _ _, ?_, hb, ?_, rfl,
    intercalate_split separator text⟩
  · intro i hi
    exact Scan.final_of_mem_cuts hs hi
  · rw [Declaration.piecesAt, hb]

/-- Brackets closed too often, a comma in a literal behind an escaped mark, and a literal left
open. -/
theorem split_cuts_ragged_text_as_one_scan :
    let text := "a>,<b , '\\',' ,c,\",".toList
    ',' ∉ markers ∧ Scan.cuts ',' text = [6, 14, 16] ∧
      split ',' text = Scan.between text 0 [6, 14, 16] := by
  intro text
  have hs : ',' ∉ markers := by decide
  have hc : Scan.cuts ',' text = [6, 14, 16] := by decide +kernel
  refine ⟨hs, hc, ?_⟩
  obtain ⟨-, -, -, hb, -⟩ := split_cuts_as_one_scan hs text
  rwa [hc] at hb

end GrammarRefs
