import GrammarRefs.Proofs.Records

/-! What is said of the labels of a rule: the first definition of each is held against the rules of
the grammar, and the later ones against the first. -/
namespace GrammarRefs

/-- The definitions of a label in rule `i`, by alternative and then in the order of time. -/
def labelHistory (past : List Deed) (i alternatives : Nat) (n : String) : List Label :=
  (List.range' 1 alternatives).flatMap fun k => Catalogue.labels.filed past i k n

namespace Check

/-- What is said of a label with these definitions. -/
def labelComplaints (g : Grammar) (n : String) : List Label → List Diagnostic
  | [] => []
  | first :: later =>
    (if n ∈ g.rules.map Rule.name then
      [{ level := .error, fault := .labelNamesRule n, pos := first.name.pos, notes := [] }]
    else []) ++
      (later.filter (·.kind != first.kind)).map fun label =>
        { level := .error, fault := .labelKindConflict n first.kind label.kind
          pos := label.name.pos, notes := [⟨first.name.pos, .previousDefinition n⟩] }

end Check

variable {g : Grammar} {past : List Deed} {r : Rule} {i : Nat} {n : String}

/-- The labels come in the order of their names. -/
theorem Rule.map_fst_sorted_labels (hf : ∀ alt ∈ r.alternatives, alt.Filed) :
    r.labels.sorted.map Prod.fst = r.labelNames := by
  have hp : r.labels.names.Perm (r.alternatives.flatMap (·.labels.names)).eraseDups :=
    (r.labelNames_perm hf).symm.trans sortByName_perm
  have hs : sortByName id (r.labels.entries.map Prod.fst) = r.labels.sorted.map Prod.fst :=
    sortByName_map (fun _ => rfl) r.labels.entries
  rw [← hs]
  exact sortByName_id_eq_of_perm hp

theorem Catalogue.Recorded.definitionsOf_eq_labelHistory (hg : Catalogue.labels.Recorded past g)
    (ht : g.Tabled) (hr : g.rules[i]? = some r) (n : String) :
    r.definitionsOf n = labelHistory past i r.alternatives.length n :=
  hg.definitionsOf ht hr

theorem Rule.mem_labelNames_iff (hf : ∀ alt ∈ r.alternatives, alt.Filed) :
    n ∈ r.labelNames ↔ r.definitionsOf n ≠ [] := by
  rw [(r.labelNames_perm hf).mem_iff, mem_names_labels hf]
  constructor
  · rintro ⟨label, hl⟩
    exact List.ne_nil_of_mem (mem_definitionsOf.2 hl)
  · intro hne
    obtain ⟨label, hl⟩ := List.exists_mem_of_ne_nil _ hne
    exact ⟨label, mem_definitionsOf.1 hl⟩

namespace Check

theorem conflictsOfLabel_eq_labelComplaints (hg : g.Tabled) (n : String) (labels : List Label) :
    conflictsOfLabel g n labels = labelComplaints g n labels := by
  cases labels with
  | nil => rfl
  | cons first later =>
    have hl : later.flatMap (conflictsOfLater n first) =
        (later.filter (·.kind != first.kind)).map (labelKindConflict n first) :=
      flatMap_ite_singleton (Label.kind · != first.kind) (labelKindConflict n first) later
    rw [conflictsOfLabel, labelComplaints, hl]
    simp only [hg.declares_iff_mem]
    rfl

theorem conflictsInRule_eq (hg : g.Tabled) (hr : r ∈ g.rules) : conflictsInRule g r =
    r.labelNames.flatMap fun n => labelComplaints g n (r.definitionsOf n) := by
  have hf := hg.filed r hr
  rw [conflictsInRule, ← Rule.map_fst_sorted_labels hf, List.flatMap_map]
  refine List.flatMap_congr fun e he => ?_
  have hd := (Rule.get?_labels_eq_some_iff hf).1 (NameTable.mem_sorted.1 he)
  rw [conflictsOfLabel_eq_labelComplaints hg, hd.2]

/-- Of each label of a rule, name by name, it is said first if it has the name of a rule, and then
which of its later definitions are of another kind than the first one. Nothing else is said. -/
theorem label_conflicts_are_reported_exactly (name : String) (kind : GrammarKind)
    (steps : List BuildStep) :
    let g := ((Grammar.empty name kind).run steps).1
    let past := (Grammar.empty name kind).history steps
    let found := g.rules.zipIdx.flatMap fun (r, i) => r.labelNames.flatMap fun n =>
      labelComplaints g n (labelHistory past i r.alternatives.length n)
    (∀ i (r : Rule), g.rules[i]? = some r → r.labelNames.Pairwise (· < ·) ∧
      ∀ n, n ∈ r.labelNames ↔ labelHistory past i r.alternatives.length n ≠ []) ∧
    ∀ log, (labelConflicts g).run log = (.ofMark (!found.isEmpty) g, log ++ found) := by
  intro g past found
  have ht : g.Tabled := Grammar.tabled_reachable ⟨name, kind, steps, rfl⟩
  have hl : Catalogue.labels.Recorded past g := Catalogue.labels.recorded_run name kind steps
  refine ⟨?_, ?_⟩
  · intro i r hr
    refine ⟨Rule.pairwise_distinct _, fun n => ?_⟩
    rw [Rule.mem_labelNames_iff (ht.filed r (List.mem_of_getElem? hr)),
      hl.definitionsOf_eq_labelHistory ht hr]
  · intro log
    have hf : conflictsOfLabels g = found := by
      rw [conflictsOfLabels, ← List.zipIdx_map_fst 0 g.rules, List.flatMap_map]
      refine List.flatMap_congr ?_
      rintro ⟨r, i⟩ hm
      have hr : g.rules[i]? = some r := List.mem_zipIdx_iff_getElem?.1 hm
      rw [conflictsInRule_eq ht (List.mem_of_getElem? hr)]
      refine List.flatMap_congr fun n _ => ?_
      rw [hl.definitionsOf_eq_labelHistory ht hr]
    rw [← hf]
    exact labelConflicts_finds.reports g log

/-- A label with the name of a rule, in two alternatives of which the second one is filled first:
the definition that the others are held against is the one that came second. -/
theorem label_conflicts_are_reported_exactly_across_alternatives :
    let x (column : Nat) (kind : LabelKind) : Label := ⟨⟨"x", ⟨1, column⟩⟩, ⟨"x", {}⟩, kind⟩
    let g := ((Grammar.empty "P" .parser).run [.defineRule ⟨"a", {}⟩ 2,
      .addLabel 0 2 (x 0 .ruleList), .addLabel 0 1 (x 1 .rule), .addLabel 0 2 (x 2 .rule),
      .addLabel 0 1 (x 3 .token), .defineRule ⟨"x", {}⟩ 1]).1
    let found : List Diagnostic := [⟨.error, .labelNamesRule "x", ⟨1, 1⟩, []⟩,
      ⟨.error, .labelKindConflict "x" .rule .token, ⟨1, 3⟩, [⟨⟨1, 1⟩, .previousDefinition "x"⟩]⟩,
      ⟨.error, .labelKindConflict "x" .rule .ruleList, ⟨1, 0⟩, [⟨⟨1, 1⟩, .previousDefinition "x"⟩]⟩]
    (∃ r, g.rules[0]? = some r ∧ "x" ∈ r.labelNames) ∧
      ∀ log, (labelConflicts g).run log = (.flawed g, log ++ found) := by
  intro x g found
  have h := label_conflicts_are_reported_exactly "P" .parser [.defineRule ⟨"a", {}⟩ 2,
    .addLabel 0 2 (x 0 .ruleList), .addLabel 0 1 (x 1 .rule), .addLabel 0 2 (x 2 .rule),
    .addLabel 0 1 (x 3 .token), .defineRule ⟨"x", {}⟩ 1]
  obtain ⟨hn, hr⟩ := h
  refine ⟨⟨_, rfl, ((hn 0 _ rfl).2 "x").2 nofun⟩, ?_⟩
  obtain ⟨ds, hd⟩ : ∃ ds, ∀ log, (labelConflicts g).run log =
      (.ofMark (!ds.isEmpty) g, log ++ ds) := ⟨_, hr⟩
  have hf : ds = found := (congrArg Prod.snd (hd [])).symm
  rw [hf] at hd
  exact hd

end Check
end GrammarRefs
