import GrammarRefs.NameOrder

/-! Tables from names to values. A name stands in at most one entry, so look-up does not depend on
the order of the entries. -/
namespace GrammarRefs

structure NameTable (α : Type) where
  entries : List (String × α) := []
  nodup : (entries.map Prod.fst).Nodup := by exact List.nodup_nil
deriving DecidableEq

namespace NameTable

variable {α : Type} {t : NameTable α} {name other : String} {f : Option α → α} {v : α}
  {entries : List (String × α)}

/-- Changes the value under a name; a new name gets an entry at the end. -/
def alterEntries (name : String) (f : Option α → α) : List (String × α) → List (String × α)
  | [] => [(name, f none)]
  | (n, v) :: rest =>
    if n = name then (n, f (some v)) :: rest else (n, v) :: alterEntries name f rest

theorem names_alterEntries : (alterEntries name f entries).map Prod.fst =
    if name ∈ entries.map Prod.fst then entries.map Prod.fst
    else entries.map Prod.fst ++ [name] := by
  induction entries with
  | nil => simp [alterEntries]
  | cons e rest ih =>
    by_cases he : e.1 = name
    · simp [alterEntries, he]
    · have hn : ¬ name = e.1 := fun h => he h.symm
      simp only [alterEntries, he, ↓reduceIte, List.map_cons, ih, List.mem_cons, hn, false_or]
      split <;> simp

theorem lookup_alterEntries : (alterEntries name f entries).lookup other =
    if other = name then some (f (entries.lookup name)) else entries.lookup other := by
  induction entries with
  | nil =>
    simp only [alterEntries, List.lookup_cons, List.lookup_nil]
    split <;> simp_all
  | cons e rest ih =>
    by_cases he : e.1 = name <;> by_cases ho : other = e.1 <;>
      simp_all [alterEntries, List.lookup_cons] <;> grind

def names (t : NameTable α) : List String := t.entries.map Prod.fst

def get? (t : NameTable α) (name : String) : Option α := t.entries.lookup name

def contains (t : NameTable α) (name : String) : Bool := (t.get? name).isSome

def alter (t : NameTable α) (name : String) (f : Option α → α) : NameTable α where
  entries := alterEntries name f t.entries
  nodup := by
    rw [names_alterEntries]
    split
    · exact t.nodup
    · next h =>
      refine List.nodup_append.2 ⟨t.nodup, by simp, fun n hn m hm => ?_⟩
      rintro rfl
      exact h (List.mem_singleton.1 hm ▸ hn)

/-- The value replaces an earlier one. -/
def insert (t : NameTable α) (name : String) (v : α) : NameTable α := t.alter name fun _ => v

/-- An earlier value stays. -/
def insertNew (t : NameTable α) (name : String) (v : α) : NameTable α := t.alter name (·.getD v)

/-- The values are added at the end of the list under the name. -/
def extend (t : NameTable (List α)) (name : String) (vs : List α) : NameTable (List α) :=
  t.alter name (·.getD [] ++ vs)

/-- The entries in the order of their names. -/
def sorted (t : NameTable α) : List (String × α) := sortByName Prod.fst t.entries

theorem get?_alter :
    (t.alter name f).get? other = if other = name then some (f (t.get? name)) else t.get? other :=
  lookup_alterEntries

theorem get?_insert :
    (t.insert name v).get? other = if other = name then some v else t.get? other :=
  get?_alter

theorem get?_insertNew : (t.insertNew name v).get? other =
    if other = name then some ((t.get? name).getD v) else t.get? other :=
  get?_alter

/-- A table of where the first item of each name stands, with one more item at the end. -/
theorem get?_insertNew_eq_findIdx? {t : NameTable Nat} {key : α → String} {xs : List α}
    (h : ∀ n, t.get? n = xs.findIdx? (key · == n)) (x : α) (n : String) :
    (t.insertNew (key x) xs.length).get? n = (xs ++ [x]).findIdx? (key · == n) := by
  rw [get?_insertNew, List.findIdx?_append, h, h]
  by_cases hn : n = key x
  · subst hn
    cases xs.findIdx? (key · == key x) <;> simp [List.findIdx?_cons]
  · have hx : (key x == n) = false := beq_eq_false_iff_ne.2 fun h => hn h.symm
    simp [hn, hx, List.findIdx?_cons]

theorem get?_extend {t : NameTable (List α)} {vs : List α} : (t.extend name vs).get? other =
    if other = name then some ((t.get? name).getD [] ++ vs) else t.get? other :=
  get?_alter

end NameTable
end GrammarRefs
