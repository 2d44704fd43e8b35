import GrammarRefs.Proofs.Cuts
import GrammarRefs.Proofs.Reading
import Mathlib.Data.Nat.Find

/-! What a declaration is named by. The search for the name goes back from the end of the declared
part and takes no note of brackets and literals, so the last name at the top is found only if no
brackets and no literals behind it hold a character of a name. -/
namespace GrammarRefs

open Nesting Declaration

namespace Scan

variable {s t : Scan} {c : Char} {text run : List Char}

theorem Moves.mark (h : Moves c s t) (hs : ∀ m ∈ s.mark, isQuotationMark m = true) :
    ∀ m ∈ t.mark, isQuotationMark m = true := by
  cases h with
  | outside | ends => simp
  | begins depth escaped hq => simpa using hq
  | inside | escapes | spared => exact hs

theorem mark_after (h : ∀ m ∈ s.mark, isQuotationMark m = true) (text : List Char) :
    ∀ m ∈ (s.after text).mark, isQuotationMark m = true := by
  induction text generalizing s with
  | nil => exact h
  | cons c text ih => exact ih ((moves_step s c).mark h)

theorem mark_final (text : List Char) : ∀ m ∈ (final text).mark, isQuotationMark m = true :=
  mark_after (by simp) text

theorem rise_of_isNameChar (hc : isNameChar c = true) : rise c = 0 := by
  have hm := not_mem_markers_of_not_mem_signs (not_mem_signs_of_isNameChar hc)
  simp [rise, not_mem_markers_iff.1 hm]

theorem not_isQuotationMark_of_isNameChar (hc : isNameChar c = true) :
    isQuotationMark c = false := by
  have hm := not_mem_markers_of_not_mem_signs (not_mem_signs_of_isNameChar hc)
  exact (not_mem_markers_iff.1 hm).1

theorem Moves.atTop_iff (h : Moves c s t) (hs : ∀ m ∈ s.mark, isQuotationMark m = true)
    (hc : isNameChar c = true) : t.AtTop ↔ s.AtTop := by
  have hn := not_isQuotationMark_of_isNameChar hc
  cases h with
  | outside depth escaped => simp [AtTop, rise_of_isNameChar hc]
  | begins depth escaped hq => simp [hn] at hq
  | ends depth => simp [hn] at hs
  | inside | escapes | spared => simp [AtTop]

/-- Names begin where they end: at the top, or not. -/
theorem final_append_atTop_iff (text : List Char) (h : ∀ c ∈ run, isNameChar c = true) :
    (final (text ++ run)).AtTop ↔ (final text).AtTop := by
  induction run generalizing text with
  | nil => rw [List.append_nil]
  | cons c run ih =>
    have hi := ih (text ++ [c]) fun d hd => h d (List.mem_cons_of_mem _ hd)
    have ht : final (text ++ [c]) = (final text).step c := List.foldl_append
    rw [List.append_assoc, List.singleton_append] at hi
    rw [hi, ht]
    exact (moves_step _ c).atTop_iff (mark_final text) (h c List.mem_cons_self)

end Scan

namespace Declaration

/-- What stands before the first `=` at the top. -/
def declaredPart (piece : List Char) : List Char :=
  piece.take ((Scan.cuts '=' piece).headD piece.length)

/-- A character of a name stands at place `i`, outside of brackets and of literals. -/
def NameAtTop (text : List Char) (i : Nat) : Prop :=
  text[i]?.any isNameChar = true ∧ (Scan.final (text.take i)).AtTop

instance (text : List Char) (i : Nat) : Decidable (NameAtTop text i) :=
  inferInstanceAs (Decidable (_ ∧ _))

/-- A text parted around the last whole name at the top. -/
structure Parts.LastAtTop (p : Parts) (text : List Char) : Prop where
  whole : p.whole = text
  named : p.name ≠ []
  name : ∀ c ∈ p.name, isNameChar c = true
  before : ∀ c ∈ p.before.getLast?, isNameChar c = false
  after : ∀ c ∈ p.after.head?, isNameChar c = false
  top : (Scan.final p.before).AtTop
  last : ∀ i < text.length, NameAtTop text i → i < p.before.length + p.name.length

instance (p : Parts) (text : List Char) : Decidable (p.LastAtTop text) :=
  decidable_of_iff (p.whole = text ∧ p.name ≠ [] ∧ p.name.all isNameChar = true ∧
      p.before.getLast?.any isNameChar = false ∧ p.after.head?.any isNameChar = false ∧
      (Scan.final p.before).AtTop ∧
      ∀ i < text.length, NameAtTop text i → i < p.before.length + p.name.length) (by
    simp only [List.all_eq_true, Option.any_eq_false]
    exact ⟨fun ⟨hw, hn, hc, hb, ha, ht, hl⟩ => ⟨hw, hn, hc, hb, ha, ht, hl⟩,
      fun h => ⟨h.whole, h.named, h.name, h.before, h.after, h.top, h.last⟩⟩)

variable {text : List Char} {p q : Parts} {i : Nat}

theorem cutInit_fst (piece : List Char) : (cutInit piece).1 = declaredPart piece := by
  rw [declaredPart, Scan.cuts]
  cases hc : cut? '=' piece with
  | none =>
    have hn := cutsFrom_of_quiet (s := top) hc 0
    rw [scan_top] at hn
    rw [cutInit_of_quiet hc, hn, List.headD_nil, List.take_length]
  | some cut =>
    obtain ⟨rfl, hb⟩ := cut?_eq_some_iff.1 hc
    rw [cutInit_of_closed hb, cutsFrom_of_closed (by decide) hb, List.headD_cons, Nat.zero_add,
      List.take_left]

theorem nameAtTop_iff : NameAtTop text i ↔
    ∃ c, text[i]? = some c ∧ isNameChar c = true ∧ (Scan.final (text.take i)).AtTop := by
  rw [NameAtTop, Option.any_eq_true]
  constructor
  · rintro ⟨⟨c, hc, hn⟩, ht⟩
    exact ⟨c, hc, hn, ht⟩
  · rintro ⟨c, hc, hn, ht⟩
    exact ⟨⟨c, hc, hn⟩, ht⟩

theorem NameAtTop.lt (h : NameAtTop text i) : i < text.length := by
  obtain ⟨c, hc, _⟩ := nameAtTop_iff.1 h
  exact (List.getElem?_eq_some_iff.1 hc).1

namespace Parts

/-- Parts with the name at the top. -/
theorem nameAtTop (hw : p.whole = text) (hn : p.name ≠ [])
    (hc : ∀ c ∈ p.name, isNameChar c = true) (ht : (Scan.final p.before).AtTop) :
    NameAtTop text p.before.length := by
  obtain ⟨c, name, he⟩ := List.exists_cons_of_ne_nil hn
  rw [nameAtTop_iff, ← hw, whole, he, List.take_left,
    List.getElem?_append_right (Nat.le_refl _), Nat.sub_self]
  exact ⟨c, rfl, hc c (by simp [he]), ht⟩

theorem proper_ofText_of_mem {c : Char} (h : c ∈ text) (hn : isNameChar c = true) :
    (ofText text).Proper := by
  refine proper_ofText fun he => ?_
  rw [name_ofText_eq_nil_iff] at he
  rw [he c h] at hn
  cases hn

/-- The text up to a character of a name ends with its name. -/
theorem after_ofText_take (h : NameAtTop text i) :
    (ofText (text.take (i + 1))).Proper ∧ (ofText (text.take (i + 1))).after = [] := by
  obtain ⟨c, hc, hn, _⟩ := nameAtTop_iff.1 h
  obtain ⟨hi, rfl⟩ := List.getElem?_eq_some_iff.1 hc
  have ht := List.take_succ_eq_append_getElem hi
  have hm : text[i] ∈ text.take (i + 1) := ht ▸ List.mem_concat_self
  have hp := proper_ofText_of_mem hm hn
  refine ⟨hp, ?_⟩
  have hw := whole_ofText (text.take (i + 1))
  generalize ofText (text.take (i + 1)) = q at hp hw ⊢
  cases hl : q.after.getLast? with
  | none => exact List.getLast?_eq_none_iff.1 hl
  | some d =>
    have hd : q.whole.getLast? = some d := by
      simp [whole, List.getLast?_append, hl]
    rw [hw, ht, List.getLast?_concat] at hd
    cases hd
    have := hp.after _ (List.mem_of_getLast? hl)
    simp [hn] at this

theorem exists_lastAtTop (h : NameAtTop text i) : ∃ p : Parts, p.LastAtTop text := by
  -- The last place where a character of a name stands at the top.
  obtain ⟨k, hk, hl⟩ : ∃ k, NameAtTop text k ∧ ∀ j, NameAtTop text j → j ≤ k :=
    ⟨Nat.findGreatest (NameAtTop text) text.length, Nat.findGreatest_spec (Nat.le_of_lt h.lt) h,
      fun j hj => Nat.le_findGreatest (Nat.le_of_lt hj.lt) hj⟩
  obtain ⟨hp, ha⟩ := after_ofText_take hk
  have hw := whole_ofText (text.take (k + 1))
  generalize ofText (text.take (k + 1)) = q at hp ha hw
  rw [whole, ha, List.append_nil] at hw
  have hlen := congrArg List.length hw
  rw [List.length_append, List.length_take, Nat.min_eq_left hk.lt] at hlen
  have ht : (Scan.final (text.take (k + 1))).AtTop := by
    obtain ⟨c, hc, hn, ht⟩ := nameAtTop_iff.1 hk
    rw [Scan.final_take_succ hc]
    exact ((Scan.moves_step _ c).atTop_iff (Scan.mark_final _) hn).2 ht
  refine ⟨⟨q.before, q.name, text.drop (k + 1)⟩, ?_, hp.named, hp.name, hp.before, ?_, ?_, ?_⟩
  · rw [whole, ← List.append_assoc, hw, List.take_append_drop]
  · intro c hc
    rw [List.head?_drop] at hc
    by_contra hn
    have := hl (k + 1) (nameAtTop_iff.2 ⟨c, hc, by simpa using hn, ht⟩)
    omega
  · rw [← hw, Scan.final_append_atTop_iff _ hp.name] at ht
    exact ht
  · intro j _ hj
    have := hl j hj
    simp only
    omega

/-- A name that is the last one at the top is the last one. -/
theorem LastAtTop.ofText_eq (h : p.LastAtTop text) (ha : ∀ c ∈ p.after, isNameChar c = false) :
    ofText text = p := by
  have hp : p.Proper := ⟨h.named, h.name, h.before, ha⟩
  rw [← h.whole, hp.ofText_whole]

/-- Otherwise the last one begins behind it, and not at the top. -/
theorem LastAtTop.not_atTop (h : p.LastAtTop text) (hq : q.Proper) (hw : q.whole = text)
    (hn : q ≠ p) : ¬ (Scan.final q.before).AtTop := by
  intro ht
  have hi := nameAtTop hw hq.named hq.name ht
  have hl := h.last _ hi.lt hi
  have he : q.before ++ (q.name ++ q.after) = (p.before ++ p.name) ++ p.after := by
    rw [List.append_assoc]
    exact hw.trans h.whole.symm
  have ha : ∀ c ∈ p.after, isNameChar c = false := by
    rcases List.append_eq_append_iff.1 he with ⟨m, hm, hr⟩ | ⟨m, hm, _⟩
    · rcases List.append_eq_append_iff.1 hr with ⟨l, _, ha⟩ | ⟨l, hl, ha⟩
      · intro c hc
        exact hq.after c (ha ▸ List.mem_append_right l hc)
      · -- A name that goes on behind the other would make that one longer.
        cases l with
        | nil => exact fun c hc => hq.after c (by rwa [ha] at hc)
        | cons c l =>
          have hc := h.after c (by simp [ha])
          have := hq.name c (by simp [hl])
          simp [hc] at this
    · have := congrArg List.length hm
      simp only [List.length_append] at this
      omega
  rw [← hq.ofText_whole, hw] at hn
  exact hn (h.ofText_eq ha)

end Parts
end Declaration

open Declaration

/-- If names stand at the top of the declared part of a piece, there is a last one. The attribute is
named by the last name of the part, at the top or not. This is the one at the top if no name stands
behind it, and stands in brackets or in a literal otherwise. -/
theorem named_by_last_at_top_or_from_inside (kind : DictKind) (text : String) (pos : Position) :
    (Dict.ofDeclarations kind text pos).attributes =
      (Scan.between text.toList 0 (Scan.cuts ',' text.toList)).filterMap (read? pos) ∧
    ∀ piece,
      ((∃ i, NameAtTop (declaredPart piece) i) ↔ ∃ p : Parts, p.LastAtTop (declaredPart piece)) ∧
      ∀ p : Parts, p.LastAtTop (declaredPart piece) →
        ∃ q : Parts, q.Proper ∧ q.whole = declaredPart piece ∧
          read? pos piece = some
            { name := .ofList q.name, type := nonempty? q.type, init := (cutInit piece).2, pos } ∧
          (q = p ↔ ∀ c ∈ p.after, isNameChar c = false) ∧
          (q ≠ p → ¬ (Scan.final q.before).AtTop) := by
  refine ⟨?_, fun piece => ⟨⟨fun ⟨_, hi⟩ => Parts.exists_lastAtTop hi, ?_⟩, ?_⟩⟩
  · rw [Dict.ofDeclarations, Dict.attributes_ofAttributes, attributes_eq_filterMap,
      split_eq_between_from (by decide) [] text.toList]
    rfl
  · rintro ⟨p, hp⟩
    exact ⟨_, Parts.nameAtTop hp.whole hp.named hp.name hp.top⟩
  · intro p hp
    obtain ⟨c, hc, hn, _⟩ := nameAtTop_iff.1 (Parts.nameAtTop hp.whole hp.named hp.name hp.top)
    have hq := Parts.proper_ofText_of_mem (List.mem_of_getElem? hc) hn
    have hw := Parts.whole_ofText (declaredPart piece)
    refine ⟨_, hq, hw, ?_, ?_, hp.not_atTop hq hw⟩
    · rw [read?_eq, cutInit_fst, nonempty?_of_ne hq.named]
      rfl
    · refine ⟨?_, hp.ofText_eq⟩
      rintro rfl
      exact hq.after

/-- A suffix without a name belongs to the type. -/
theorem named_before_plain_suffix :
    let p : Parts := ⟨"int ".toList, "x".toList, "[] ".toList⟩
    p.LastAtTop (declaredPart "int x[] = f(1)".toList) ∧
      read? {} "int x[] = f(1)".toList =
        some { name := "x", type := some "int[]", init := some "f(1)", pos := {} } := by
  intro p
  have hp : p.LastAtTop (declaredPart "int x[] = f(1)".toList) := by decide +kernel
  have ht := named_by_last_at_top_or_from_inside .argument "int x[] = f(1)" {}
  obtain ⟨q, -, -, hr, hq, -⟩ := (ht.2 _).2 p hp
  have ha : p.after.all (!isNameChar ·) = true := by decide +kernel
  refine ⟨hp, ?_⟩
  rw [hr, hq.2 (by simpa using List.all_eq_true.1 ha)]
  decide +kernel

/-- The size of an array is taken for the name. -/
theorem named_by_size_of_array :
    let p : Parts := ⟨"int ".toList, "x".toList, "[N]".toList⟩
    p.LastAtTop (declaredPart "int x[N]".toList) ∧
      (Dict.ofDeclarations .argument "int x[N], int y" {}).names = ["N", "y"] ∧
      read? {} "int x[N]".toList = some { name := "N", type := some "int x[]", pos := {} } ∧
      (read? {} "int x[N]".toList).map (·.name) ≠ some (.ofList p.name) := by
  decide +kernel

end GrammarRefs
