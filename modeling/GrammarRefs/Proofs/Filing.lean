import GrammarRefs.NameTable

/-! Tables of lists, in which every item is filed under its own name. -/
namespace GrammarRefs.NameTable

/-- All the items, those of a name together. -/
def items {α : Type} (t : NameTable (List α)) : List α := t.entries.flatMap (·.2)

/-- No name stands without an item, and no item under the name of another. -/
def Filed {α : Type} (text : α → String) (t : NameTable (List α)) : Prop :=
  ∀ name items, t.get? name = some items → items ≠ [] ∧ ∀ item ∈ items, text item = name

variable {α : Type} {text : α → String} {name n : String} {item : α} {found : List α}
  {t : NameTable (List α)}

theorem not_mem_of_name {v : α} {rest : List (String × α)} (hn : n ∉ rest.map Prod.fst) :
    (n, v) ∉ rest :=
  fun h => hn (List.mem_map.2 ⟨(n, v), h, rfl⟩)

theorem lookup_eq_some_iff_mem {entries : List (String × α)}
    (hn : (entries.map Prod.fst).Nodup) :
    entries.lookup name = some item ↔ (name, item) ∈ entries := by
  induction entries with
  | nil => simp
  | cons e rest ih =>
    obtain ⟨n, v⟩ := e
    rw [List.map_cons, List.nodup_cons] at hn
    by_cases he : name = n
    · subst he
      have hr := not_mem_of_name (v := item) hn.1
      simp [hr, eq_comm]
    · simp [List.lookup_cons, beq_eq_false_iff_ne.2 he, he, ih hn.2]

theorem get?_eq_some_iff {t : NameTable α} : t.get? name = some item ↔ (name, item) ∈ t.entries :=
  lookup_eq_some_iff_mem t.nodup

theorem mem_names_iff {t : NameTable α} : n ∈ t.names ↔ (t.get? n).isSome = true := by
  rw [Option.isSome_iff_exists]
  simp only [get?_eq_some_iff, names, List.mem_map]
  constructor
  · rintro ⟨⟨name, v⟩, hm, rfl⟩
    exact ⟨v, hm⟩
  · rintro ⟨v, hm⟩
    exact ⟨(n, v), hm, rfl⟩

theorem mem_sorted {t : NameTable α} {entry : String × α} :
    entry ∈ t.sorted ↔ t.get? entry.1 = some entry.2 := by
  rw [sorted, mem_sortByName, get?_eq_some_iff]

theorem filed_empty : Filed text {} := by
  intro name items h
  simp [get?] at h

theorem Filed.extend (h : t.Filed text) (hi : found ≠ [])
    (hn : ∀ item ∈ found, text item = name) : (t.extend name found).Filed text := by
  intro other items hf
  rw [get?_extend] at hf
  split at hf
  · next he =>
    subst he
    cases hf
    cases hg : t.get? other with
    | none => exact ⟨hi, hn⟩
    | some earlier =>
      refine ⟨by simp [hi], ?_⟩
      intro item hm
      rcases List.mem_append.1 hm with hm | hm
      · exact (h other earlier hg).2 item hm
      · exact hn item hm
  · exact h other items hf

theorem filter_of_name (name : String) (h : ∀ item ∈ found, text item = n) :
    found.filter (text · == name) = if name = n then found else [] := by
  split
  · next he =>
    rw [List.filter_eq_self]
    intro item hm
    simp [h item hm, he]
  · next he =>
    rw [List.filter_eq_nil_iff]
    intro item hm
    simpa [h item hm] using fun hc => he hc.symm

theorem getD_lookup_eq_filter {entries : List (String × List α)}
    (hn : (entries.map Prod.fst).Nodup) (ht : ∀ e ∈ entries, ∀ item ∈ e.2, text item = e.1) :
    (entries.lookup name).getD [] = (entries.flatMap (·.2)).filter (text · == name) := by
  induction entries with
  | nil => rfl
  | cons e rest ih =>
    obtain ⟨n, found⟩ := e
    rw [List.map_cons, List.nodup_cons] at hn
    have hr := ih hn.2 fun e he => ht e (by simp [he])
    have hf := filter_of_name name (ht (n, found) (by simp))
    rw [List.flatMap_cons, List.filter_append, ← hr, hf]
    by_cases he : name = n
    · subst he
      cases hl : rest.lookup name with
      | none => simp
      | some later =>
        have hm := (lookup_eq_some_iff_mem hn.2).1 hl
        exact absurd hm (not_mem_of_name hn.1)
    · simp [List.lookup_cons, beq_eq_false_iff_ne.2 he, he]

/-- What stands under a name are the items of that name. -/
theorem Filed.getD_get? (h : t.Filed text) (name : String) :
    (t.get? name).getD [] = t.items.filter (text · == name) := by
  refine getD_lookup_eq_filter t.nodup ?_
  intro e hm item hi
  exact (h e.1 e.2 (get?_eq_some_iff.2 hm)).2 item hi

theorem Filed.get?_eq_some_iff_getD (h : t.Filed text) :
    t.get? name = some found ↔ found ≠ [] ∧ (t.get? name).getD [] = found := by
  constructor
  · intro hs
    exact ⟨(h name found hs).1, by rw [hs]; rfl⟩
  · rintro ⟨hn, hg⟩
    cases hs : t.get? name with
    | none => exact absurd (by rw [← hg, hs]; rfl) hn
    | some items => rw [← hg, hs]; rfl

/-- The first item under a name is the first one of the name. -/
theorem Filed.head?_get? (h : t.Filed text) (name : String) :
    (t.get? name).bind List.head? = t.items.find? (text · == name) := by
  rw [← List.head?_filter, ← h.getD_get?]
  cases t.get? name <;> rfl

theorem Filed.contains_iff (h : t.Filed text) :
    t.contains name = true ↔ ∃ item ∈ t.items, text item = name := by
  rw [contains, Option.isSome_iff_exists]
  constructor
  · rintro ⟨found, hf⟩
    obtain ⟨hn, hm⟩ := h.get?_eq_some_iff_getD.1 hf
    obtain ⟨item, hi⟩ := List.exists_mem_of_ne_nil found hn
    rw [← hm, h.getD_get?, List.mem_filter] at hi
    exact ⟨item, hi.1, by simpa using hi.2⟩
  · rintro ⟨item, hi, hn⟩
    refine ⟨_, h.get?_eq_some_iff_getD.2 ⟨?_, rfl⟩⟩
    have hm : item ∈ t.items.filter (text · == name) := List.mem_filter.2 ⟨hi, by simp [hn]⟩
    rw [h.getD_get?]
    exact List.ne_nil_of_mem hm

section Merging

variable {entries : List (String × List α)}

/-- Tables merged entry by entry. -/
theorem filed_foldl_extend (h : t.Filed text)
    (he : ∀ e ∈ entries, e.2 ≠ [] ∧ ∀ item ∈ e.2, text item = e.1) :
    (entries.foldl (fun t e => t.extend e.1 e.2) t).Filed text := by
  induction entries generalizing t with
  | nil => exact h
  | cons e rest ih =>
    obtain ⟨hn, ht⟩ := he e (by simp)
    exact ih (h.extend hn ht) fun e hm => he e (by simp [hm])

theorem getD_get?_foldl_extend (he : ∀ e ∈ entries, ∀ item ∈ e.2, text item = e.1)
    (t : NameTable (List α)) (name : String) :
    ((entries.foldl (fun t e => t.extend e.1 e.2) t).get? name).getD [] =
      (t.get? name).getD [] ++ (entries.flatMap (·.2)).filter (text · == name) := by
  induction entries generalizing t with
  | nil => simp
  | cons e rest ih =>
    have hf := filter_of_name name (he e (by simp))
    rw [List.foldl_cons, ih fun e hm => he e (by simp [hm]), get?_extend, List.flatMap_cons,
      List.filter_append, hf]
    split
    · next hn => simp [hn]
    · simp

end Merging

end GrammarRefs.NameTable
