import GrammarRefs.Proofs.Acceptance
import GrammarRefs.Proofs.Catalogues
import GrammarRefs.Proofs.Sorting

/-! The labels and references of a rule are those that a run has filed, each once and in order. -/
namespace GrammarRefs

variable {α : Type} {c : Catalogue α} {g : Grammar} {past : List Deed} {r : Rule} {i k : Nat}
  {n : String} {alt : Alternative}

section Parts

variable {β γ : Type} {key : α → Nat} {keys : List Nat} {xs : List α}

/-- A list taken apart by a number that every item has. -/
theorem flatMap_filter_perm (hd : keys.Nodup) (h : ∀ x ∈ xs, key x ∈ keys) :
    (keys.flatMap fun k => xs.filter (key · == k)).Perm xs := by
  induction keys generalizing xs with
  | nil =>
    cases xs with
    | nil => exact .refl _
    | cons x _ => exact absurd (h x (by simp)) (by simp)
  | cons k keys ih =>
    rw [List.nodup_cons] at hd
    have hm : ∀ x ∈ xs.filter fun x => !(key x == k), key x ∈ keys := by grind
    have he : (keys.flatMap fun m => xs.filter (key · == m)) =
        keys.flatMap fun m => (xs.filter fun x => !(key x == k)).filter (key · == m) := by
      refine List.flatMap_congr fun m hm => ?_
      have hn : m ≠ k := fun hc => hd.1 (hc ▸ hm)
      rw [List.filter_filter]
      refine List.filter_congr fun x _ => ?_
      grind
    rw [List.flatMap_cons, he]
    exact ((ih hd.2 hm).append_left _).trans (List.filter_append_perm _ _)

theorem flatMap_ite_singleton (p : α → Bool) (f : α → β) (xs : List α) :
    (xs.flatMap fun x => if p x then [f x] else []) = (xs.filter p).map f := by
  induction xs with
  | nil => rfl
  | cons x xs ih =>
    rw [List.flatMap_cons, List.filter_cons, ih]
    split <;> rfl

/-- The items one by one, by place. -/
theorem flatMap_eq_range (f : α → List β) (xs : List α) :
    xs.flatMap f = (List.range xs.length).flatMap fun j => (xs[j]?.map f).getD [] := by
  rw [List.flatMap_def, List.flatMap_def]
  congr 1
  apply List.ext_getElem
  · simp
  · intro j hj _
    rw [List.length_map] at hj
    simp [hj]

/-- What does not depend on the place can be read off before. -/
theorem map_mapIdx_eq {change : Nat → α → β} {f : α → γ} {f' : β → γ}
    (h : ∀ k x, f' (change k x) = f x) : (xs.mapIdx change).map f' = xs.map f := by
  apply List.ext_getElem
  · simp
  · intro k _ _
    simp [h]

end Parts

namespace Rule

/-- The alternatives one by one, by number. -/
theorem flatMap_alternatives {β : Type} (r : Rule) (f : Alternative → List β) :
    r.alternatives.flatMap f =
      (List.range' 1 r.alternatives.length).flatMap
        fun k => ((r.alternative? k).map f).getD [] := by
  rw [flatMap_eq_range, List.range'_eq_map_range, List.flatMap_map]
  refine List.flatMap_congr fun j _ => ?_
  simp [alternative?]

end Rule

namespace Catalogue

theorem mem_successes {f : Filing α} : f ∈ past.filterMap c.success? ↔
    ∃ answer, (c.step f.rule f.alternative f.item, .ok answer) ∈ past := by
  rw [List.mem_filterMap]
  constructor
  · rintro ⟨⟨step, answer⟩, hm, hf⟩
    cases answer with
    | error e => cases hf
    | ok answer => exact ⟨answer, (c.filing?_iff _ _).1 hf ▸ hm⟩
  · rintro ⟨answer, hm⟩
    exact ⟨_, hm, (c.filing?_iff _ _).2 rfl⟩

theorem mem_filed {item : α} : item ∈ c.filed past i k n ↔ ∃ f ∈ past.filterMap c.success?,
    f.rule = i ∧ f.alternative = k ∧ f.item = item ∧ c.text item = n := by
  simp only [filed, List.mem_map, List.mem_filter, Bool.and_eq_true, beq_iff_eq]
  constructor
  · rintro ⟨f, ⟨hm, ⟨hi, hk⟩, hn⟩, rfl⟩
    exact ⟨f, hm, hi, hk, rfl, hn⟩
  · rintro ⟨f, hm, hi, hk, rfl, hn⟩
    exact ⟨f, ⟨hm, ⟨hi, hk⟩, hn⟩, rfl⟩

/-- What has been filed stands in an alternative of a rule. -/
theorem Recorded.exists_rule (hg : c.Recorded past g) (hn : c.filed past i k n ≠ []) :
    ∃ r alt, g.rules[i]? = some r ∧ r.alternative? k = some alt := by
  rw [← hg, found] at hn
  cases ha : g.rules[i]?.bind (·.alternative? k) with
  | none => simp [ha] at hn
  | some alt =>
    obtain ⟨r, hr, ha⟩ := Option.bind_eq_some_iff.1 ha
    exact ⟨r, alt, hr, ha⟩

theorem Recorded.exists_alternative (hg : c.Recorded past g) (hr : g.rules[i]? = some r)
    (hn : c.filed past i k n ≠ []) : ∃ alt, r.alternative? k = some alt := by
  obtain ⟨q, alt, hq, ha⟩ := hg.exists_rule hn
  cases hr.symm.trans hq
  exact ⟨alt, ha⟩

theorem filed_table (ht : g.Tabled) (hr : g.rules[i]? = some r)
    (ha : r.alternative? k = some alt) : (c.table alt).Filed c.text :=
  c.table_filed alt (ht.filed r (List.mem_of_getElem? hr) alt
    (List.mem_of_getElem? (Rule.alternative?_eq_some_iff.1 ha).2))

theorem Recorded.getD_get? (hg : c.Recorded past g) (hr : g.rules[i]? = some r)
    (ha : r.alternative? k = some alt) : ((c.table alt).get? n).getD [] = c.filed past i k n := by
  rw [← hg, found_of_rule hr, ha, Option.bind_some]

/-- What stands under a name in an alternative is what has been filed there. -/
theorem Recorded.get?_eq_some_iff {items : List α} (hg : c.Recorded past g) (ht : g.Tabled)
    (hr : g.rules[i]? = some r) (ha : r.alternative? k = some alt) :
    (c.table alt).get? n = some items ↔ items ≠ [] ∧ items = c.filed past i k n := by
  rw [(filed_table ht hr ha).get?_eq_some_iff_getD, hg.getD_get? hr ha, eq_comm (a := items)]

/-- The alternatives one after the other have what has been filed in the rule. -/
theorem Recorded.perm (hg : c.Recorded past g) (hr : g.rules[i]? = some r) (n : String) :
    ((List.range' 1 r.alternatives.length).flatMap fun k => c.filed past i k n).Perm
      (c.filedInRule past i n) := by
  have hs : ∀ k, c.filed past i k n = (((past.filterMap c.success?).filter fun f =>
      f.rule == i && c.text f.item == n).filter (·.alternative == k)).map Filing.item := by
    intro k
    rw [filed, List.filter_filter]
    congr 2
    funext f
    grind
  simp only [hs, ← List.map_flatMap]
  refine (flatMap_filter_perm List.nodup_range' ?_).map _
  intro f hm
  simp only [List.mem_filter, Bool.and_eq_true, beq_iff_eq] at hm
  have hf : f.item ∈ c.filed past i f.alternative n :=
    mem_filed.2 ⟨f, hm.1, hm.2.1, rfl, rfl, hm.2.2⟩
  obtain ⟨alt, ha⟩ := hg.exists_alternative hr (List.ne_nil_of_mem hf)
  obtain ⟨h0, hl⟩ := Rule.alternative?_eq_some_iff.1 ha
  have := (List.getElem?_eq_some_iff.1 hl).1
  rw [List.mem_range'_1]
  omega

/-- A name stands in some alternative if it has been filed with success. -/
theorem Recorded.any_contains_iff (hg : c.Recorded past g) (ht : g.Tabled)
    (hr : g.rules[i]? = some r) : r.alternatives.any (fun alt => (c.table alt).contains n) = true ↔
      ∃ k item answer, (c.step i k item, .ok answer) ∈ past ∧ c.text item = n := by
  rw [List.any_eq_true]
  constructor
  · rintro ⟨alt, hm, hc⟩
    obtain ⟨j, hj⟩ := List.mem_iff_getElem?.1 hm
    have ha : r.alternative? (j + 1) = some alt := Rule.alternative?_eq_some_iff.2 ⟨by simp, hj⟩
    obtain ⟨items, hi⟩ := Option.isSome_iff_exists.1 hc
    obtain ⟨hne, he⟩ := (hg.get?_eq_some_iff ht hr ha).1 hi
    obtain ⟨item, hx⟩ := List.exists_mem_of_ne_nil items hne
    obtain ⟨f, hf, rfl, _, rfl, hn⟩ := mem_filed.1 (he ▸ hx)
    obtain ⟨answer, hp⟩ := mem_successes.1 hf
    exact ⟨_, _, answer, hp, hn⟩
  · rintro ⟨k, item, answer, hp, hn⟩
    have hm : item ∈ c.filed past i k n :=
      mem_filed.2 ⟨⟨i, k, item⟩, mem_successes.2 ⟨answer, hp⟩, rfl, rfl, rfl, hn⟩
    obtain ⟨alt, ha⟩ := hg.exists_alternative hr (List.ne_nil_of_mem hm)
    have hs := (hg.get?_eq_some_iff ht hr ha).2 ⟨List.ne_nil_of_mem hm, rfl⟩
    refine ⟨alt, List.mem_of_getElem? (Rule.alternative?_eq_some_iff.1 ha).2, ?_⟩
    rw [NameTable.contains, hs, Option.isSome_some]

end Catalogue

theorem Rule.mem_distinct_names (r : Rule) (table : Alternative → NameTable (List α)) (n : String) :
    n ∈ distinct (r.alternatives.flatMap fun alt => (table alt).names) ↔
      r.alternatives.any (fun alt => (table alt).contains n) = true := by
  simp only [mem_distinct, List.mem_flatMap, List.any_eq_true, NameTable.mem_names_iff,
    NameTable.contains]

namespace Rule

theorem get?_labels_eq_some_iff {found : List Label} (hf : ∀ alt ∈ r.alternatives, alt.Filed) :
    r.labels.get? n = some found ↔ found ≠ [] ∧ found = r.definitionsOf n := by
  rw [(filed_labels hf).get?_eq_some_iff_getD, getD_get?_labels hf, eq_comm (a := found)]

theorem definitionsOf_eq_flatMap (hf : ∀ alt ∈ r.alternatives, alt.Filed) :
    r.definitionsOf n = r.alternatives.flatMap fun alt => (alt.labels.get? n).getD [] := by
  rw [definitionsOf, labelDefinitions, List.filter_flatMap]
  exact List.flatMap_congr fun alt ha => ((hf alt ha).labels.getD_get? n).symm

theorem firstLabel?_eq_head?_definitionsOf (hf : ∀ alt ∈ r.alternatives, alt.Filed) :
    r.firstLabel? n = (r.definitionsOf n).head? := by
  rw [definitionsOf, List.head?_filter]
  exact findSome?_head?_eq_find? (fun alt ha => (hf alt ha).labels) n

theorem firstLabel?_eq_head? (hf : ∀ alt ∈ r.alternatives, alt.Filed) :
    r.firstLabel? n = (r.labels.get? n).bind List.head? := by
  have hb : (r.labels.get? n).bind List.head? = ((r.labels.get? n).getD []).head? := by
    cases r.labels.get? n <;> rfl
  rw [hb, getD_get?_labels hf, firstLabel?_eq_head?_definitionsOf hf]

theorem mem_names_labels (hf : ∀ alt ∈ r.alternatives, alt.Filed) :
    n ∈ r.labels.names ↔ ∃ label ∈ r.labelDefinitions, label.name.text = n := by
  rw [NameTable.mem_names_iff, Option.isSome_iff_exists]
  simp only [get?_labels_eq_some_iff hf]
  constructor
  · rintro ⟨found, hn, rfl⟩
    obtain ⟨label, hl⟩ := List.exists_mem_of_ne_nil _ hn
    exact ⟨label, mem_definitionsOf.1 hl⟩
  · rintro ⟨label, hl⟩
    exact ⟨_, List.ne_nil_of_mem (mem_definitionsOf.2 hl), rfl⟩

theorem firstLabel?_eq_none_iff (hf : ∀ alt ∈ r.alternatives, alt.Filed) :
    r.firstLabel? n = none ↔ n ∉ r.labels.names := by
  rw [firstLabel?_eq_head? hf, NameTable.mem_names_iff]
  cases hl : r.labels.get? n with
  | none => simp
  | some found =>
    have hn := ((get?_labels_eq_some_iff hf).1 hl).1
    simpa using hn

/-- The names of the labels are the keys of the table of labels. -/
theorem labelNames_perm (hf : ∀ alt ∈ r.alternatives, alt.Filed) :
    r.labelNames.Perm r.labels.names := by
  have hd : r.labels.names.Nodup := r.labels.nodup
  rw [labelNames, List.perm_ext_iff_of_nodup (nodup_distinct _) hd]
  intro n
  rw [mem_distinct_names, mem_names_labels hf]
  exact any_contains_iff fun alt ha => (hf alt ha).labels

end Rule

theorem Catalogue.Recorded.definitionsOf (hg : Catalogue.labels.Recorded past g) (ht : g.Tabled)
    (hr : g.rules[i]? = some r) : r.definitionsOf n =
      (List.range' 1 r.alternatives.length).flatMap fun k => Catalogue.labels.filed past i k n := by
  have hf := ht.filed r (List.mem_of_getElem? hr)
  rw [Rule.definitionsOf_eq_flatMap hf, Rule.flatMap_alternatives]
  refine List.flatMap_congr fun k _ => ?_
  rw [← hg, found_of_rule hr]
  cases r.alternative? k <;> rfl

/-- The tables of a rule are what a run has filed there: the labels by alternative and then in the
order of time, the references of each alternative in the order of time. All that is asked of the
names agrees with them. -/
theorem catalogues_record_history (name : String) (kind : GrammarKind) (steps : List BuildStep) :
    let g := ((Grammar.empty name kind).run steps).1
    let past := (Grammar.empty name kind).history steps
    ∀ i (r : Rule), g.rules[i]? = some r →
      (∀ n, (∀ found, r.labels.get? n = some found ↔ found ≠ [] ∧
          found = (List.range' 1 r.alternatives.length).flatMap fun k =>
            Catalogue.labels.filed past i k n) ∧
        ((List.range' 1 r.alternatives.length).flatMap fun k =>
          Catalogue.labels.filed past i k n).Perm (Catalogue.labels.filedInRule past i n) ∧
        r.firstLabel? n = (r.labels.get? n).bind List.head? ∧
        (r.firstLabel? n = none ↔ n ∉ r.labels.names)) ∧
      r.labelNames.Perm r.labels.names ∧
      (∀ k alt, r.alternative? k = some alt → ∀ n found,
        (alt.tokenRefs.get? n = some found ↔
          found ≠ [] ∧ found = Catalogue.tokenRefs.filed past i k n) ∧
        (alt.ruleRefs.get? n = some found ↔
          found ≠ [] ∧ found = Catalogue.ruleRefs.filed past i k n)) ∧
      ∀ n, (r.refersToToken n = true ↔ n ∈ r.tokenNames) ∧
        (n ∈ r.tokenNames ↔ ∃ k token answer,
          (.addTokenRef i k token, .ok answer) ∈ past ∧ token.text = n) ∧
        (r.refersToRule n = true ↔ n ∈ r.ruleNames) ∧
        (n ∈ r.ruleNames ↔ ∃ k token answer,
          (.addRuleRef i k token, .ok answer) ∈ past ∧ token.text = n) := by
  intro g past i r hr
  have ht : g.Tabled := Grammar.tabled_reachable ⟨name, kind, steps, rfl⟩
  have hf := ht.filed r (List.mem_of_getElem? hr)
  have hl := Catalogue.labels.recorded_run name kind steps
  have hts := Catalogue.tokenRefs.recorded_run name kind steps
  have hrs := Catalogue.ruleRefs.recorded_run name kind steps
  refine ⟨fun n => ⟨?_, hl.perm hr n, r.firstLabel?_eq_head? hf, r.firstLabel?_eq_none_iff hf⟩,
    r.labelNames_perm hf, ?_, ?_⟩
  · intro found
    rw [Rule.get?_labels_eq_some_iff hf, hl.definitionsOf ht hr]
  · intro k alt ha n found
    exact ⟨hts.get?_eq_some_iff ht hr ha, hrs.get?_eq_some_iff ht hr ha⟩
  · intro n
    have hn := r.mem_distinct_names Alternative.tokenRefs n
    have hm := r.mem_distinct_names Alternative.ruleRefs n
    exact ⟨hn.symm, hn.trans (hts.any_contains_iff ht hr), hm.symm,
      hm.trans (hrs.any_contains_iff ht hr)⟩

/-- A label of two alternatives, the second one filled first, beside another rule and a failure. -/
theorem catalogues_record_interleaved_steps :
    let x (column : Nat) : Label := ⟨⟨"x", ⟨1, column⟩⟩, ⟨"ID", {}⟩, .tokenList⟩
    let steps : List BuildStep := [.defineRule ⟨"a", {}⟩ 2, .defineRule ⟨"b", {}⟩ 1,
      .addLabel 0 2 (x 0), .addLabel 1 1 (x 1), .addLabel 0 3 (x 2), .addLabel 0 1 (x 3),
      .addTokenRef 0 2 ⟨"ID", {}⟩, .addLabel 0 2 (x 4)]
    ∃ r, ((Grammar.empty "P" .parser).run steps).1.rules[0]? = some r ∧
      r.labels.get? "x" = some [x 3, x 0, x 4] ∧ r.firstLabel? "x" = some (x 3) ∧
      "ID" ∈ r.tokenNames ∧ "x" ∉ r.ruleNames := by
  intro x steps
  have h := catalogues_record_history "P" .parser steps 0 _ rfl
  obtain ⟨hl, _, _, hn⟩ := h
  have hx := ((hl "x").1 [x 3, x 0, x 4]).2 ⟨nofun, rfl⟩
  refine ⟨_, rfl, hx, (hl "x").2.2.1.trans (congrArg (·.bind List.head?) hx), ?_, ?_⟩
  · exact (hn "ID").2.1.2 ⟨2, ⟨"ID", {}⟩, .done, by decide, rfl⟩
  · rw [← (hn "x").2.2.1]
    decide

end GrammarRefs
