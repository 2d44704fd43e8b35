/-! Lists put in the order of names, code point by code point; equal names keep their order. -/
namespace GrammarRefs

variable {α : Type} {key : α → String} {a x : α} {xs : List α}

/-- The item goes before the first one whose name is not smaller. -/
def insertByName (key : α → String) (x : α) : List α → List α
  | [] => [x]
  | y :: ys => if key x ≤ key y then x :: y :: ys else y :: insertByName key x ys

def sortByName (key : α → String) (xs : List α) : List α :=
  xs.foldr (insertByName key) []

theorem insertByName_perm : (insertByName key x xs).Perm (x :: xs) := by
  induction xs with
  | nil => exact .refl _
  | cons y ys ih =>
    rw [insertByName]
    split
    · exact .refl _
    · exact (ih.cons y).trans (.swap x y ys)

theorem sortByName_perm : (sortByName key xs).Perm xs := by
  induction xs with
  | nil => exact .refl _
  | cons x xs ih => exact insertByName_perm.trans (ih.cons x)

theorem mem_sortByName : a ∈ sortByName key xs ↔ a ∈ xs := sortByName_perm.mem_iff

end GrammarRefs
