import GrammarRefs.Proofs.Cuts
import GrammarRefs.Proofs.Reading

/-! Closing brackets that close none. The scan counts each of them, so that behind it the top is as
many opening brackets away, unless the count of 32 bits has gone all the way round. -/
namespace GrammarRefs

open Nesting

/-- The brackets of a text, where a closing one closes the nearest open one of its own pair. -/
structure Brackets where
  /-- The opening brackets that are still open, the innermost first. -/
  opened : List Char := []
  /-- How many closing brackets have closed none. -/
  strays : Nat := 0
deriving DecidableEq

namespace Scan

/-- The same place with more brackets open around it. -/
def raise (s : Scan) (n : Int32) : Scan := { s with depth := s.depth + n }

variable {s t : Scan} {c : Char} {text : List Char}

theorem rise_of_isQuotationMark (h : isQuotationMark c = true) : rise c = 0 := by
  rcases Bool.or_eq_true_iff.1 h with h | h
  · rw [eq_of_beq h]
    decide
  · rw [eq_of_beq h]
    decide

theorem Moves.depth_eq (h : Moves c s t) :
    t.depth = if s.mark.isSome then s.depth else s.depth + rise c := by
  cases h with
  | begins depth escaped hq => simp [rise_of_isQuotationMark hq]
  | _ => rfl

theorem Moves.raise (h : Moves c s t) (n : Int32) : Moves c (s.raise n) (t.raise n) := by
  cases h with
  | outside depth escaped hq =>
    have hn : depth + rise c + n = depth + n + rise c := by grind
    rw [Scan.raise, Scan.raise, hn]
    exact .outside _ _ hq
  | begins depth escaped hq => exact .begins _ _ hq
  | inside depth hb hc => exact .inside _ hb hc
  | ends depth hb => exact .ends _ hb
  | escapes => exact .escapes _ _
  | spared => exact .spared _ _ _

theorem after_raise (s : Scan) (n : Int32) (text : List Char) :
    (s.raise n).after text = (s.after text).raise n := by
  induction text generalizing s with
  | nil => rfl
  | cons c text ih =>
    have hn := ih (s.step c)
    rw [← ((moves_step s c).raise n).step_eq] at hn
    exact hn

theorem final_append (text rest : List Char) : final (text ++ rest) = (final text).after rest :=
  List.foldl_append

/-- No backslash counts outside of literals. -/
theorem final_of_mark (h : (final text).mark = none) :
    final text = ({} : Scan).raise (final text).depth := by
  rw [← Nesting.scan_final] at h ⊢
  cases hs : top.after text with
  | outside depth => simp [Nesting.scan, raise]
  | quoted => simp [hs, Nesting.scan] at h
  | escaped => simp [hs, Nesting.scan] at h

theorem final_append_of_mark (h : (final text).mark = none) (rest : List Char) :
    final (text ++ rest) = (final rest).raise (final text).depth := by
  have ht : (final text).after rest = (({} : Scan).raise (final text).depth).after rest :=
    congrArg (·.after rest) (final_of_mark h)
  rw [final_append, ht, after_raise]
  rfl

end Scan

namespace Brackets

def partner : Char → Char
  | '>' => '<'
  | ')' => '('
  | ']' => '['
  | '}' => '{'
  | c => c

/-- The scan stands before the character. In a literal it is no bracket. -/
def meet (b : Brackets) (s : Scan) (c : Char) : Brackets :=
  if s.mark.isSome then b
  else if opens c then { b with opened := c :: b.opened }
  else if closes c then
    if partner c ∈ b.opened then { b with opened := b.opened.erase (partner c) }
    else { b with strays := b.strays + 1 }
  else b

def after : Brackets → Scan → List Char → Brackets
  | b, _, [] => b
  | b, s, c :: rest => after (b.meet s c) (s.step c) rest

def final (text : List Char) : Brackets := after {} {} text

/-- What the scan makes of it. -/
def depth (b : Brackets) : Int32 := .ofNat b.opened.length - .ofNat b.strays

variable {b : Brackets} {s : Scan}

theorem depth_meet (b : Brackets) (s : Scan) (c : Char) :
    (b.meet s c).depth = if s.mark.isSome then b.depth else b.depth + Scan.rise c := by
  rw [meet]
  split
  · rfl
  · rw [Scan.rise]
    split
    · simp only [depth, List.length_cons, Int32.ofNat_add]
      grind
    · split
      · split
        · next hp =>
          -- A bracket that closes one counts like one that closes none.
          have hl : b.opened.length = (b.opened.erase (partner c)).length + 1 := by
            rw [List.length_erase_of_mem hp]
            exact (Nat.sub_add_cancel (List.length_pos_of_mem hp)).symm
          simp only [depth, hl, Int32.ofNat_add]
          grind
        · simp only [depth, Int32.ofNat_add]
          grind
      · simp

theorem depth_step (h : s.depth = b.depth) (c : Char) : (s.step c).depth = (b.meet s c).depth := by
  rw [(Scan.moves_step s c).depth_eq, depth_meet, h]

theorem depth_after (h : s.depth = b.depth) (text : List Char) :
    (s.after text).depth = (b.after s text).depth := by
  induction text generalizing b s with
  | nil => exact h
  | cons c text ih => exact ih (depth_step h c)

theorem depth_final (text : List Char) : (Scan.final text).depth = (final text).depth :=
  depth_after rfl text

end Brackets

namespace Nesting

variable {separator : Char} {s : Nesting} {text rest : List Char}

theorem split_append_of_returns (hs : separator ∉ markers) (h : top.after text = top)
    (rest : List Char) :
    split separator (text ++ separator :: rest) = split separator text ++ split separator rest := by
  fun_induction split separator text with
  | case1 text hq => exact split_of_closed ⟨hq, h⟩
  | case2 text piece tail hc ih =>
    obtain ⟨rfl, hp⟩ := cut?_eq_some_iff.1 hc
    have ht : top.after tail = top := by
      rwa [after_append, hp.returns, after_cons, top, step_outside hs] at h
    rw [List.append_assoc, List.cons_append, split_of_closed hp, ih ht, List.cons_append]

theorem split_append_of_quiet (hs : separator ∉ markers)
    (h : Quiet separator (top.after text) rest) :
    ∃ before last, split separator text = before ++ [last] ∧
      split separator (text ++ rest) = before ++ [last ++ rest] := by
  fun_induction split separator text with
  | case1 text hq => exact ⟨[], text, rfl, split_of_quiet (quiet_append.2 ⟨hq, h⟩)⟩
  | case2 text piece tail hc ih =>
    obtain ⟨rfl, hp⟩ := cut?_eq_some_iff.1 hc
    rw [after_append, hp.returns, after_cons, top, step_outside hs] at h
    obtain ⟨before, last, hb, ha⟩ := ih h
    refine ⟨piece :: before, last, by rw [hb]; rfl, ?_⟩
    rw [List.append_assoc, List.cons_append, split_of_closed hp, ha, List.cons_append]

/-- All but the last piece of a text come back to the top. -/
theorem Row.closed_of_append {pieces others : List (List Char)}
    (h : Row separator (pieces ++ others)) (ho : others ≠ []) : ∀ p ∈ pieces, Closed separator p := by
  induction pieces with
  | nil => exact fun _ hp => absurd hp List.not_mem_nil
  | cons piece pieces ih =>
    obtain ⟨other, others, rfl⟩ := List.exists_cons_of_ne_nil ho
    cases hq : pieces ++ other :: others with
    | nil => simp at hq
    | cons q qs =>
      rw [List.cons_append, hq] at h
      cases h with
      | cons hc hr =>
        rw [← hq] at hr
        intro p hp
        rcases List.mem_cons.1 hp with rfl | hp
        · exact hc
        · exact ih hr p hp

theorem returns_intercalate {pieces : List (List Char)} (hs : separator ∉ markers)
    (h : ∀ p ∈ pieces, Closed separator p) : top.after ([separator].intercalate pieces) = top := by
  induction pieces with
  | nil => rfl
  | cons piece pieces ih =>
    have hp := (h piece (by simp)).returns
    cases pieces with
    | nil => rwa [List.intercalate_singleton]
    | cons next pieces =>
      have hn := ih fun p hp => h p (by simp [hp])
      rw [List.intercalate_cons_cons, after_append, after_append, hp, after_cons, top,
        step_outside hs]
      exact hn

theorem split_append_iff (hs : separator ∉ markers) (text rest : List Char) :
    split separator (text ++ separator :: rest) = split separator text ++ split separator rest ↔
      top.after text = top := by
  refine ⟨fun h => ?_, fun h => split_append_of_returns hs h rest⟩
  have hr := row_split separator (text ++ separator :: rest)
  rw [h] at hr
  have hc := hr.closed_of_append (split_ne_nil separator rest)
  have ht := returns_intercalate hs hc
  rwa [intercalate_split] at ht

/-- Below the top only an opening bracket leads back to it, or as many closing ones as the count has
values. -/
theorem quiet_of_below {n : Nat} (hd : s.scan.depth = - .ofNat n) (hn : 0 < n)
    (hl : n + text.countP closes < Int32.size) (h : ∀ c ∈ text, opens c = false) :
    Quiet separator s text := by
  induction text generalizing s n with
  | nil => exact quiet_nil
  | cons c text ih =>
    rw [List.countP_cons] at hl
    have ht : s ≠ top := by
      rintro rfl
      have hz : Int32.ofNat n = 0 := by
        rw [scan_top] at hd
        grind
      have := Nat.le_of_dvd hn ((ofNat_depth_eq_zero_iff n).1 hz)
      omega
    have hr : Scan.rise c = if closes c then -1 else 0 := by
      rw [Scan.rise, h c (by simp)]
      rfl
    refine quiet_cons.2 ⟨fun hc => ht hc.2, ?_⟩
    have hs := (Scan.moves_step s.scan c).depth_eq
    rw [← scan_step, hr, hd] at hs
    by_cases hm : s.scan.mark.isSome = false ∧ closes c = true
    · refine ih (n := n + 1) ?_ (by omega) ?_ fun d hd => h d (by simp [hd])
      · rw [hs, hm.1, hm.2, Int32.ofNat_add]
        simp
        grind
      · simp only [hm.2, ↓reduceIte] at hl
        omega
    · refine ih (n := n) ?_ hn (by omega) fun d hd => h d (by simp [hd])
      grind

end Nesting

namespace Scan

variable {separator : Char} {a : List Char} {i : Nat}

theorem mem_cuts_left (h : i < a.length) (b : List Char) :
    i ∈ cuts separator (a ++ b) ↔ i ∈ cuts separator a := by
  have hl := Nat.le_of_lt h
  rw [mem_cuts, mem_cuts, List.getElem?_append_left h, List.take_append_of_le_length hl]

theorem mem_cuts_right (hm : (final a).mark = none) (b : List Char) (j : Nat) :
    a.length + j ∈ cuts separator (a ++ b) ↔ b[j]? = some separator ∧
      (final (b.take j)).mark = none ∧ (final (b.take j)).depth + (final a).depth = 0 := by
  rw [mem_cuts, List.getElem?_append_right (Nat.le_add_right _ _), Nat.add_sub_cancel_left,
    List.take_length_add_append, final_append_of_mark hm]
  exact and_congr_right fun _ => and_comm

end Scan

variable {a b : List Char}

theorem Dict.attributes_append (kind : DictKind) (pos : Position)
    (h : split ',' (a ++ ',' :: b) = split ',' a ++ split ',' b) :
    (ofDeclarations kind (.ofList (a ++ ',' :: b)) pos).attributes =
      (ofDeclarations kind (.ofList a) pos).attributes ++
        (ofDeclarations kind (.ofList b) pos).attributes := by
  simp only [ofDeclarations, attributes_ofAttributes, Declaration.attributes, Declaration.pieces,
    String.toList_ofList, h, List.map_append, List.filter_append, List.filterMap_append]

/-- After a text that leaves nothing open the declarations go on if no closing bracket of it closes
none, or so many that the count comes round to 0. Otherwise they go on behind a comma where as
many more brackets are open, and if no bracket opens any more and the count does not come round, all
that follows belongs to the last declaration of the text. -/
theorem declarations_go_on_iff_no_strays (kind : DictKind) (pos : Position) (b : List Char)
    (hm : (Scan.final a).mark = none) (ho : (Brackets.final a).opened = []) :
    let text := a ++ ',' :: b
    let strays := (Brackets.final a).strays
    (Int32.size ∣ strays → (Dict.ofDeclarations kind (.ofList text) pos).attributes =
      (Dict.ofDeclarations kind (.ofList a) pos).attributes ++
        (Dict.ofDeclarations kind (.ofList b) pos).attributes) ∧
    (split ',' text = split ',' a ++ split ',' b ↔ Int32.size ∣ strays) ∧
    (∀ i, i < a.length → (i ∈ Scan.cuts ',' text ↔ i ∈ Scan.cuts ',' a)) ∧
    (∀ j, a.length + (j + 1) ∈ Scan.cuts ',' text ↔ b[j]? = some ',' ∧
      (Scan.final (b.take j)).mark = none ∧ (Scan.final (b.take j)).depth = .ofNat strays) ∧
    (strays ≠ 0 → strays + b.countP closes < Int32.size → (∀ c ∈ b, opens c = false) →
      ∃ before last,
        split ',' a = before ++ [last] ∧ split ',' text = before ++ [last ++ ',' :: b]) := by
  intro text strays
  have hs : ',' ∉ markers := by decide
  have hd : (Scan.final a).depth = - .ofNat strays := by
    rw [Brackets.depth_final, Brackets.depth, ho]
    exact Int32.zero_sub _
  have ht : top.after a = top ↔ Int32.size ∣ strays := by
    rw [← final_atTop_iff, Scan.AtTop, hd, hm, ← ofNat_depth_eq_zero_iff]
    grind
  have hi : split ',' text = split ',' a ++ split ',' b ↔ Int32.size ∣ strays :=
    (split_append_iff hs a b).trans ht
  refine ⟨fun h => Dict.attributes_append kind pos (hi.2 h), hi,
    fun i h => Scan.mem_cuts_left h _, ?_, ?_⟩
  · intro j
    -- The comma behind the text leaves the scan where it stands.
    have hc : Scan.final (',' :: b.take j) = Scan.final (b.take j) := rfl
    rw [Scan.mem_cuts_right hm, List.getElem?_cons_succ, List.take_succ_cons, hc, hd]
    refine and_congr_right fun _ => and_congr_right fun _ => ?_
    grind
  · intro hn hl hb
    apply split_append_of_quiet hs
    apply quiet_of_below (n := strays)
    · rw [scan_final, hd]
    · exact Nat.pos_of_ne_zero hn
    · simpa [List.countP_cons, closes] using hl
    · simpa [opens] using hb

/-- Pairs that cross each other, and brackets in a literal, leave no stray behind. -/
theorem declarations_go_on_behind_crossing_pairs :
    let a := "int x = (y < 2) > '])'".toList
    (Scan.final a).mark = none ∧ (Brackets.final a).opened = [] ∧
      (Dict.ofDeclarations .argument (.ofList (a ++ ',' :: " int z".toList)) {}).attributes =
        (Dict.ofDeclarations .argument (.ofList a) {}).attributes ++
          (Dict.ofDeclarations .argument (.ofList " int z".toList) {}).attributes := by
  intro a
  have hm : (Scan.final a).mark = none := by decide +kernel
  have ho : (Brackets.final a).opened = [] := by decide +kernel
  exact ⟨hm, ho, (declarations_go_on_iff_no_strays .argument {} " int z".toList hm ho).1
    (by decide +kernel)⟩

/-- An initial value with a comparison takes the declaration behind it. -/
theorem comparison_takes_next_declaration :
    let a := "int x = a > b".toList
    let b := " int y".toList
    (Scan.final a).mark = none ∧ (Brackets.final a).opened = [] ∧
      (Dict.ofDeclarations .argument (.ofList a) {}).names = ["x"] ∧
      (Dict.ofDeclarations .argument (.ofList b) {}).names = ["y"] ∧
      (Dict.ofDeclarations .argument (.ofList (a ++ ',' :: b)) {}).names = ["x"] ∧
      ¬ (Dict.ofDeclarations .argument (.ofList (a ++ ',' :: b)) {}).attributes =
        (Dict.ofDeclarations .argument (.ofList a) {}).attributes ++
          (Dict.ofDeclarations .argument (.ofList b) {}).attributes := by
  decide +kernel

end GrammarRefs
