import GrammarRefs.Proofs.Sorting

/-! Tables whose values are changed one by one. The names and their order stay. -/
namespace GrammarRefs.NameTable

variable {α β : Type} {t u : NameTable α} {f : α → β} {n : String}

def map (f : α → β) (t : NameTable α) : NameTable β where
  entries := t.entries.map fun e => (e.1, f e.2)
  nodup := by
    rw [List.map_map]
    exact t.nodup

theorem eq_of_entries (h : t.entries = u.entries) : t = u := by
  cases t
  cases u
  simpa using h

@[simp] theorem names_map : (t.map f).names = t.names := by
  rw [names, map, List.map_map]
  rfl

theorem lookup_map (f : α → β) (n : String) (entries : List (String × α)) :
    (entries.map fun e => (e.1, f e.2)).lookup n = (entries.lookup n).map f := by
  induction entries with
  | nil => rfl
  | cons e rest ih =>
    rw [List.map_cons, List.lookup_cons, List.lookup_cons, ih]
    cases n == e.1 <;> rfl

@[simp] theorem get?_map : (t.map f).get? n = (t.get? n).map f := lookup_map f n t.entries

@[simp] theorem contains_map : (t.map f).contains n = t.contains n := by
  rw [contains, get?_map, Option.isSome_map, contains]

@[simp] theorem sorted_map : (t.map f).sorted = t.sorted.map fun e => (e.1, f e.2) :=
  sortByName_map (fun _ => rfl) t.entries

theorem alterEntries_map {change : Option α → α} {change' : Option β → β}
    (h : ∀ o, f (change o) = change' (o.map f)) (n : String) (entries : List (String × α)) :
    alterEntries n change' (entries.map fun e => (e.1, f e.2)) =
      (alterEntries n change entries).map fun e => (e.1, f e.2) := by
  induction entries with
  | nil => simp [alterEntries, h]
  | cons e rest ih =>
    rw [List.map_cons, alterEntries, alterEntries, ih]
    split
    · rw [List.map_cons, h, Option.map_some]
    · rw [List.map_cons]

theorem map_alter {change : Option α → α} {change' : Option β → β}
    (h : ∀ o, f (change o) = change' (o.map f)) :
    (t.alter n change).map f = (t.map f).alter n change' :=
  eq_of_entries (alterEntries_map h n t.entries).symm

@[simp] theorem map_insert (v : α) : (t.insert n v).map f = (t.map f).insert n (f v) :=
  map_alter fun _ => rfl

@[simp] theorem map_extend {t : NameTable (List α)} (vs : List α) :
    (t.extend n vs).map (List.map f) = (t.map (List.map f)).extend n (vs.map f) := by
  refine map_alter fun o => ?_
  cases o <;> simp

theorem map_foldl_extend (f : α → β) (entries : List (String × List α)) (t : NameTable (List α)) :
    (entries.foldl (fun t e => t.extend e.1 e.2) t).map (List.map f) =
      (entries.map fun e => (e.1, e.2.map f)).foldl (fun t e => t.extend e.1 e.2)
        (t.map (List.map f)) := by
  induction entries generalizing t with
  | nil => rfl
  | cons e rest ih => rw [List.foldl_cons, ih, map_extend, List.map_cons, List.foldl_cons]

end GrammarRefs.NameTable
