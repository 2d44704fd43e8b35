import GrammarRefs.Emission
import Mathlib.Algebra.Order.BigOperators.Group.List
import Mathlib.Algebra.Order.Group.Nat

/-! What can be read on a terminal. In colours or plain, the text of a diagnostic is the same; only a
terminal that refuses the colours shows the place of each diagnostic a second time. -/
namespace GrammarRefs

variable {terminal : Terminal} {grammar label : String} {pos : Position} {colour : Colour}
  {fault : Fault} {d : Diagnostic} {log : Diagnostics} {xs ys : List Output}

namespace Output

@[simp] theorem texts_append : texts (xs ++ ys) = texts xs ++ texts ys := by
  simp [texts]

theorem texts_flatMap {α : Type} (items : List α) (f : α → List Output) :
    texts (items.flatMap f) = String.join (items.map fun x => texts (f x)) := by
  induction items with
  | nil => rfl
  | cons x rest ih => simp [ih]

end Output

namespace Diagnostic

/-- What a terminal shows in front of a diagnostic without being asked to. -/
def stray (terminal : Terminal) (grammar : String) (d : Diagnostic) : String :=
  if terminal = .colourless then place grammar d.pos else ""

theorem texts_line : Output.texts (line grammar pos colour label fault) =
    place grammar pos ++ label ++ ": " ++ fault.message ++ "\n" := by
  simp [line, Output.texts, Output.text?, List.filterMap_cons, String.append_assoc]

/-- In colours a line ends with a line feed, and a rendered note begins with one. -/
theorem texts_notes (notes : List Note) : "\n" ++ Output.texts (notes.flatMap fun note =>
      line grammar note.pos .green "note" note.fault) =
    String.join (notes.map fun note =>
      "\n" ++ place grammar note.pos ++ "note: " ++ note.fault.message) ++ "\n" := by
  induction notes with
  | nil => rfl
  | cons note rest ih =>
    have hn : ∀ rest : String, "note" ++ (": " ++ rest) = "note: " ++ rest := by
      intro rest
      rw [← String.append_assoc]
      rfl
    rw [List.flatMap_cons, Output.texts_append, texts_line, List.map_cons, String.join_cons]
    simp only [String.append_assoc, ih, hn]

theorem texts_colouredOutput (grammar : String) (d : Diagnostic) :
    Output.texts (d.colouredOutput grammar) = d.render grammar ++ "\n" := by
  rw [colouredOutput, Output.texts_append, texts_line, render]
  simp only [String.append_assoc, texts_notes]

theorem texts_plainOutput (grammar : String) (d : Diagnostic) :
    Output.texts (d.plainOutput grammar) = d.render grammar ++ "\n" := by
  simp [plainOutput, Output.texts, Output.text?]

theorem emit_absent : d.emit .absent grammar = d.plainOutput grammar := rfl

theorem emit_coloured : d.emit .coloured grammar = d.colouredOutput grammar := by
  have ha : (d.colouredOutput grammar).all Terminal.coloured.accepts = true :=
    List.all_eq_true.2 fun _ _ => rfl
  simp [emit, ha]

/-- The place of the diagnostic is out before the first command is refused. -/
theorem emit_colourless : d.emit .colourless grammar =
    .text (place grammar d.pos) :: d.plainOutput grammar := by
  simp [emit, colouredOutput, line, Terminal.accepts, List.takeWhile_cons]

theorem texts_emit (terminal : Terminal) (grammar : String) (d : Diagnostic) :
    Output.texts (d.emit terminal grammar) =
      d.stray terminal grammar ++ d.render grammar ++ "\n" := by
  cases terminal with
  | absent => simp [emit_absent, texts_plainOutput, stray]
  | coloured => simp [emit_coloured, texts_colouredOutput, stray]
  | colourless =>
    rw [emit_colourless, ← List.singleton_append, Output.texts_append, texts_plainOutput,
      stray, if_pos rfl, String.append_assoc]
    simp [Output.texts, Output.text?]

theorem accepts_of_mem_emit {output : Output} (h : output ∈ d.emit terminal grammar) :
    terminal.accepts output = true := by
  cases terminal with
  | coloured => rfl
  | absent =>
    rw [emit_absent, plainOutput, List.mem_singleton] at h
    rw [h]
    rfl
  | colourless =>
    rw [emit_colourless, plainOutput, List.mem_cons, List.mem_singleton] at h
    rcases h with rfl | rfl <;> rfl

theorem length_place_pos (grammar : String) (pos : Position) : 0 < (place grammar pos).length := by
  have hl : ": ".length = 2 := rfl
  rw [place, String.length_append, hl]
  omega

end Diagnostic

/-- No place is empty, so what is shown once more can be seen. -/
theorem strays_are_seen (grammar : String) (hl : log ≠ []) :
    String.join (log.map fun d => d.stray .colourless grammar ++ d.render grammar ++ "\n") ≠
      String.join (log.map fun d => d.render grammar ++ "\n") := by
  intro he
  have hlt : (log.map fun d => (d.render grammar ++ "\n").length).sum <
      (log.map fun d =>
        (d.stray .colourless grammar ++ d.render grammar ++ "\n").length).sum := by
    apply List.sum_lt_sum_of_ne_nil hl
    intro d _
    have hp := Diagnostic.length_place_pos grammar d.pos
    simp only [Diagnostic.stray, if_pos, String.length_append]
    omega
  have hs := congrArg String.length he
  simp only [String.length_join, List.map_map, Function.comp_def] at hs
  omega

/-- What can be read of a log are its diagnostics as they are rendered, a line feed behind each. On
a terminal that refuses the colours, the place of each diagnostic stands in front of it once more,
so what can be read there is only what is rendered if nothing is. -/
theorem diagnostics_are_read_as_rendered (terminal : Terminal) (grammar : String)
    (log : Diagnostics) :
    let read := Output.texts (Diagnostics.emit terminal grammar log)
    (∀ output ∈ Diagnostics.emit terminal grammar log, terminal.accepts output = true) ∧
    read = String.join (log.map fun d => d.stray terminal grammar ++ d.render grammar ++ "\n") ∧
    (read = String.join (log.map fun d => d.render grammar ++ "\n") ↔
      terminal ≠ .colourless ∨ log = []) := by
  intro read
  have hr : read = String.join
      (log.map fun d => d.stray terminal grammar ++ d.render grammar ++ "\n") := by
    simp only [read, Diagnostics.emit, Output.texts_flatMap, Diagnostic.texts_emit]
  refine ⟨?_, hr, ?_⟩
  · intro output ho
    obtain ⟨d, -, hd⟩ := List.mem_flatMap.1 ho
    exact Diagnostic.accepts_of_mem_emit hd
  · by_cases ht : terminal = .colourless
    · subst ht
      simp only [ne_eq, not_true_eq_false, false_or]
      constructor
      · intro he
        by_contra hl
        exact strays_are_seen grammar hl (hr.symm.trans he)
      · rintro rfl
        rfl
    · simp [hr, Diagnostic.stray, ht]

/-- The place of a diagnostic without notes is shown twice. -/
theorem place_is_shown_twice_without_colours :
    let d : Diagnostic := .error {} .noRule
    Output.texts (Diagnostics.emit .colourless "G" [d]) ≠ String.join ([d].map fun d =>
      d.render "G" ++ "\n") := by
  decide +kernel

end GrammarRefs
