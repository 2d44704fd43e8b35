import GrammarRefs.Proofs.Acceptance
import GrammarRefs.Proofs.Coherence
import GrammarRefs.Proofs.Repetition
import GrammarRefs.Proofs.Sorting
import Mathlib.Data.Finset.Card

/-! What is said of names that are declared again: one error for each item that has an earlier one
of its name, with a note at the first. -/
namespace GrammarRefs.Check

/-- The items that are not the first of their name, each reported with the first one. -/
def redeclarations (what : String) (items : List Token) : List Diagnostic :=
  items.zipIdx.filterMap fun (item, i) =>
    ((items.take i).find? (·.text == item.text)).map fun first =>
      { level := .error, fault := .duplicate what item.text, pos := item.pos
        notes := [⟨first.pos, .previousDefinition first.text⟩] }

def redeclarationsInDict (what : String) (dict : Dict) : List Diagnostic :=
  redeclarations what (dict.attributes.map (·.token))

variable {g : Grammar} {what : String} {seen : NameTable Token} {before items : List Token}
  {item : Token} {n : String} {log : Diagnostics}

/-- The table of what has been seen, with one more item. -/
theorem get?_insert_eq_find? (hs : ∀ n, seen.get? n = before.find? (·.text == n))
    (hi : seen.get? item.text = none) (n : String) :
    (seen.insert item.text item).get? n = (before ++ [item]).find? (·.text == n) := by
  rw [NameTable.get?_insert, List.find?_append, ← hs]
  by_cases hn : n = item.text
  · subst hn
    simp [hi]
  · simp [hn, Ne.symm hn]

theorem get?_eq_find?_append {first : Token} (hs : ∀ n, seen.get? n = before.find? (·.text == n))
    (hi : seen.get? item.text = some first) (n : String) :
    seen.get? n = (before ++ [item]).find? (·.text == n) := by
  rw [List.find?_append, ← hs]
  by_cases hn : n = item.text
  · subst hn
    simp [hi]
  · simp [Ne.symm hn]

/-- The table of what has been seen is as good as what stands before. -/
theorem duplicatesAfter_eq (hs : ∀ n, seen.get? n = before.find? (·.text == n)) :
    duplicatesAfter what seen items = (items.zipIdx before.length).filterMap fun e =>
      (((before ++ items).take e.2).find? (·.text == e.1.text)).map (duplicate what · e.1) := by
  induction items generalizing seen before with
  | nil => rfl
  | cons item rest ih =>
    have ha : before ++ item :: rest = (before ++ [item]) ++ rest := by simp
    have hl : before.length + 1 = (before ++ [item]).length := by simp
    rw [duplicatesAfter, List.zipIdx_cons, List.filterMap_cons, List.take_left', ← hs, hl, ha]
    · cases hi : seen.get? item.text with
      | none => exact ih (get?_insert_eq_find? hs hi)
      | some first => exact congrArg _ (ih (get?_eq_find?_append hs hi))
    · rfl

theorem duplicates_eq_redeclarations : duplicates what items = redeclarations what items := by
  have hs : ∀ n, ({} : NameTable Token).get? n = [].find? (·.text == n) := fun _ => rfl
  exact duplicatesAfter_eq hs

theorem redeclarations_concat (what : String) (items : List Token) (item : Token) :
    redeclarations what (items ++ [item]) = redeclarations what items ++
      ((items.find? (·.text == item.text)).map (duplicate what · item)).toList := by
  rw [redeclarations, List.zipIdx_append, List.filterMap_append]
  refine congrArg₂ (· ++ ·) (List.filterMap_congr ?_) ?_
  · rintro ⟨earlier, i⟩ hm
    have hi : i < items.length := by simpa using (List.mem_zipIdx hm).2.1
    simp only [List.take_append_of_le_length hi.le]
  · have ht : (items ++ [item]).take items.length = items := List.take_left' rfl
    simp only [List.zipIdx_singleton, filterMap_singleton, Nat.zero_add, ht]
    rfl

/-- All items but the first of each name are reported. -/
theorem length_redeclarations (what : String) (items : List Token) :
    (redeclarations what items).length + (items.map (·.text)).toFinset.card = items.length := by
  induction items using List.reverseRecOn with
  | nil => rfl
  | append_singleton items item ih =>
    have hs : (items.map (·.text) ++ [item.text]).toFinset =
        insert item.text (items.map (·.text)).toFinset := by
      rw [List.toFinset_append, Finset.union_comm]
      rfl
    rw [redeclarations_concat, List.length_append, List.map_append, List.map_singleton, hs,
      List.length_append, List.length_singleton, ← ih]
    cases hf : items.find? (·.text == item.text) with
    | none =>
      have hn : item.text ∉ (items.map (·.text)).toFinset := by
        rw [List.mem_toFinset, List.mem_map]
        rintro ⟨other, hm, hn⟩
        exact List.find?_eq_none.1 hf other hm (beq_iff_eq.2 hn)
      rw [Finset.card_insert_of_notMem hn]
      rfl
    | some first =>
      have hm : item.text ∈ (items.map (·.text)).toFinset := by
        rw [List.mem_toFinset, List.mem_map]
        exact ⟨first, List.mem_of_find?_eq_some hf, by simpa using List.find?_some hf⟩
      rw [Finset.insert_eq_of_mem hm]
      exact Nat.add_right_comm ..

theorem redeclarations_nonempty_iff :
    (!(redeclarations what items).isEmpty) = true ↔ ¬ (items.map (·.text)).Nodup := by
  rw [Bool.not_eq_true', ← Bool.not_eq_true, List.isEmpty_iff, ← duplicates_eq_redeclarations,
    duplicates_eq_nil_iff]

/-- Global scopes come in the order of their names, which no two of them share. -/
theorem exists_sortedScopes_eq (hg : g.Placed) : ∃ scopes : List (String × Dict),
    scopes.Pairwise (·.1 < ·.1) ∧ (∀ n scope, (n, scope) ∈ scopes ↔ g.scopes.get? n = some scope) ∧
      sortedScopes g = scopes.map Prod.snd := by
  let key := fun e : String × Dict => e.2.name.getD ""
  have hk : ∀ e ∈ g.scopes.entries, key e = e.1 := by
    intro e he
    have hn := hg.scopes e.1 e.2 (NameTable.get?_eq_some_iff.2 he)
    exact congrArg (·.getD "") hn
  have hd : (g.scopes.entries.map key).Nodup := by
    rw [List.map_congr_left hk]
    exact g.scopes.nodup
  refine ⟨sortByName key g.scopes.entries, ?_, ?_, sortByName_map (fun _ => rfl) _⟩
  · refine (pairwise_lt_sortByName hd).imp_of_mem fun ha hb hlt => ?_
    rwa [hk _ (mem_sortByName.1 ha), hk _ (mem_sortByName.1 hb)] at hlt
  · intro n scope
    rw [mem_sortByName, NameTable.get?_eq_some_iff]

/-- Of each name that is declared again all but the first item are reported, in order. So it is with
the rules, with the attributes of each rule and with those of the global scopes, name by name. -/
theorem redeclarations_are_reported_exactly :
    (∀ what items log, ∃ again,
      (reportDuplicates what items).run log = (again, log ++ redeclarations what items) ∧
      (again = true ↔ ¬ (items.map (·.text)).Nodup) ∧
      (redeclarations what items).length + (items.map (·.text)).toFinset.card = items.length) ∧
    ∀ g : Grammar, g.Reachable →
      (∀ log, (ruleDuplicates g).run log =
        (.ofMark (!(redeclarations "rule" (g.rules.map (·.head))).isEmpty) g,
          log ++ redeclarations "rule" (g.rules.map (·.head)))) ∧
      ∃ scopes : List (String × Dict), scopes.Pairwise (·.1 < ·.1) ∧
        (∀ n scope, (n, scope) ∈ scopes ↔ g.scopes.get? n = some scope) ∧
        let found := (g.rules.flatMap fun r =>
            r.dicts.flatMap fun (what, dict) => redeclarationsInDict what dict) ++
          scopes.flatMap fun (_, scope) => redeclarationsInDict "scope attribute" scope
        ∀ log, (attributeDuplicates g).run log = (.ofMark (!found.isEmpty) g, log ++ found) := by
  refine ⟨?_, ?_⟩
  · intro what items log
    have hc : Concludes (reportDuplicates what items) (redeclarations what items) :=
      duplicates_eq_redeclarations ▸ concludes_reportDuplicates items
    exact ⟨_, hc.reports log, redeclarations_nonempty_iff, length_redeclarations what items⟩
  · intro g hg
    obtain ⟨scopes, hs, hm, he⟩ := exists_sortedScopes_eq (Grammar.placed_reachable hg)
    refine ⟨?_, scopes, hs, hm, ?_⟩
    · intro log
      rw [← duplicates_eq_redeclarations]
      exact ruleDuplicates_finds.reports g log
    · intro found log
      have hd : ∀ what dict, duplicatesInDict what dict = redeclarationsInDict what dict :=
        fun _ _ => duplicates_eq_redeclarations
      have hf : duplicateAttributes g = found := by
        simp only [duplicateAttributes, funext duplicatesInRule_eq, he, List.flatMap_map, hd, found]
      rw [← hf]
      exact attributeDuplicates_finds.reports g log

/-- Three rules of one name with another between them: the second and the third are reported, both
with the place of the first. -/
theorem redeclarations_are_reported_exactly_for_three_rules :
    let scope : Dict := { Dict.ofNames .ruleScope ["p", "p"] with name := some "S" }
    let again (line : Nat) : Diagnostic := ⟨.error, .duplicate "rule" "a", ⟨line, 0⟩,
      [⟨⟨1, 0⟩, .previousDefinition "a"⟩]⟩
    let g := ((Grammar.empty "P" .parser).run [.defineRule ⟨"a", ⟨1, 0⟩⟩ 1,
      .defineRule ⟨"b", ⟨2, 0⟩⟩ 1, .defineRule ⟨"a", ⟨3, 0⟩⟩ 1, .defineRule ⟨"a", ⟨4, 0⟩⟩ 1,
      .defineScope "T" scope, .defineScope "S" scope]).1
    (ruleDuplicates g).run [] = (.flawed g, [again 3, again 4]) ∧
      ∃ scopes : List (String × Dict), scopes.Pairwise (·.1 < ·.1) ∧ ("S", scope) ∈ scopes ∧
        ((attributeDuplicates g).run []).2 =
          scopes.flatMap fun (_, dict) => redeclarationsInDict "scope attribute" dict := by
  intro scope again g
  have hg : g.Reachable := ⟨_, _, _, rfl⟩
  obtain ⟨hr, scopes, hs, hm, ha⟩ := redeclarations_are_reported_exactly.2 g hg
  refine ⟨(hr []).trans rfl, scopes, hs, (hm _ _).2 rfl, ?_⟩
  rw [ha []]
  rfl

end GrammarRefs.Check
