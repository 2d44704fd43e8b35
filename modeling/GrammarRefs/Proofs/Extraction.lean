import GrammarRefs.Reference

/-! References are found wherever they begin. Where one is found, the search goes on behind it, and
misses none. -/
namespace GrammarRefs.Code

/-- Only a sign with a name behind it begins a reference. -/
theorem references_leaf {l : Leaf} {pos : Position} {rest : Code}
    (h : ∀ joint x px after, l = .mark '$' joint → rest ≠ .leaf (.identifier x) px after) :
    (leaf l pos rest).references = rest.references := by
  rw [references]
  · intro _ _ _ _ _ _ _ _ hl
    exact h _ _ _ _ hl
  · intro _ _ _ _ _ _ _ _ _ hl
    exact h _ _ _ _ hl
  · intro _ _ _ _ hl
    exact h _ _ _ _ hl

/-- One piece of code: a leaf, or a group with all that is in it. -/
inductive Tree
  | leaf (leaf : Leaf) (pos : Position)
  | group (delimiter : Option Delimiter) (body : Code)

/-- The pieces of the outermost level in a row. -/
def trees : Code → List Tree
  | .nil => []
  | .leaf l pos rest => .leaf l pos :: rest.trees
  | .group delimiter body rest => .group delimiter body :: rest.trees

/-- The reference that begins with `$x`, by what follows, and how many more pieces it spans. -/
def qualify (x : Token) : List Tree → Reference × Nat
  | .leaf (.mark '.' _) _ :: .leaf (.identifier y) py :: _ => (.qualified x ⟨y, py⟩, 2)
  | .leaf (.mark ':' true) _ :: .leaf (.mark ':' _) _ :: .leaf (.identifier y) py :: _ =>
    (.dynamic x ⟨y, py⟩, 3)
  | _ => (.simple x, 0)

/-- What begins with the first of the pieces, whatever stands before it. -/
def beginning : List Tree → List Reference
  | .group _ body :: _ => body.references
  | .leaf (.mark '$' _) _ :: .leaf (.identifier x) px :: rest => [(qualify ⟨x, px⟩ rest).1]
  | _ => []

/-- What begins anywhere in the row. -/
def begun (row : List Tree) : List Reference :=
  (List.range row.length).flatMap fun i => beginning (row.drop i)

/-- How many signs `$` have an identifier right behind them, groups included. -/
def signs : Code → Nat
  | .leaf (.mark '$' _) _ (.leaf (.identifier _) _ rest) => rest.signs + 1
  | .leaf _ _ rest => rest.signs
  | .group _ body rest => body.signs + rest.signs
  | .nil => 0

variable {row : List Tree} {tree : Tree} {code body : Code} {x : Token} {i : Nat}

theorem begun_cons (tree : Tree) (row : List Tree) :
    begun (tree :: row) = beginning (tree :: row) ++ begun row := by
  rw [begun, List.length_cons, List.range_succ_eq_map, List.flatMap_cons, List.flatMap_map]
  rfl

theorem trees_eq_leaf {l : Leaf} {pos : Position} (h : code.trees = .leaf l pos :: row) :
    ∃ rest, code = .leaf l pos rest ∧ rest.trees = row := by
  cases code with
  | nil | group => cases h
  | leaf l' pos' rest =>
    obtain ⟨ht, hr⟩ := List.cons.inj h
    cases ht
    exact ⟨rest, rfl, hr⟩

/-- References begin in groups, or with a sign before a name. -/
theorem beginning_eq_nil (hg : ∀ delimiter body, tree ≠ .group delimiter body)
    (hd : ∀ joint pos x px rest, tree = .leaf (.mark '$' joint) pos →
      row ≠ .leaf (.identifier x) px :: rest) : beginning (tree :: row) = [] := by
  rw [beginning]
  · intro _ _ _ h
    exact hg _ _ (List.cons.inj h).1
  · intro _ _ _ _ _ h
    exact hd _ _ _ _ _ (List.cons.inj h).1 (List.cons.inj h).2

theorem references_eq_begun (code : Code) : code.references = begun code.trees := by
  fun_induction references code with
  | case1 _ _ _ _ _ _ _ _ _ ih => simp [trees, begun_cons, beginning, qualify, ih]
  | case2 _ _ _ _ _ _ _ _ _ _ ih => simp [trees, begun_cons, beginning, qualify, ih]
  | case3 joint pos x px rest hq hd ih =>
    have hs : qualify ⟨x, px⟩ rest.trees = (.simple ⟨x, px⟩, 0) := by
      rw [qualify]
      · intro _ _ _ _ _ h₁
        obtain ⟨_, rfl, h₂⟩ := trees_eq_leaf h₁
        obtain ⟨_, rfl, _⟩ := trees_eq_leaf h₂
        exact hq _ _ _ _ _ rfl
      · intro _ _ _ _ _ _ h₁
        obtain ⟨_, rfl, h₂⟩ := trees_eq_leaf h₁
        obtain ⟨_, rfl, h₃⟩ := trees_eq_leaf h₂
        obtain ⟨_, rfl, _⟩ := trees_eq_leaf h₃
        exact hd _ _ _ _ _ _ rfl
    simp [trees, begun_cons, beginning, hs, ih]
  | case4 l pos rest hq hd hs ih =>
    have hn : beginning (.leaf l pos :: rest.trees) = [] := by
      apply beginning_eq_nil
      · rintro _ _ ⟨⟩
      · rintro _ _ _ _ _ ⟨⟩ h
        obtain ⟨_, rfl, _⟩ := trees_eq_leaf h
        exact hs _ _ _ _ rfl rfl
    simp [trees, begun_cons, hn, ih]
  | case5 _ _ _ _ hr => simp [trees, begun_cons, beginning, hr]
  | case6 => rfl

theorem length_references (code : Code) : code.references.length = code.signs := by
  fun_induction references code with
  | case1 _ _ _ _ _ _ _ _ _ ih => simp [signs, ih]
  | case2 _ _ _ _ _ _ _ _ _ _ ih => simp [signs, ih]
  | case3 _ _ _ _ _ _ _ ih => simp [signs, ih]
  | case4 _ _ _ _ _ hs ih => rw [signs, ih]; exact hs
  | case5 _ _ _ hb hr => rw [signs, List.length_append, hb, hr]
  | case6 => rfl

/-- What a reference spans begins no other one. -/
theorem begun_drop_qualify (x : Token) (row : List Tree) :
    begun (row.drop (qualify x row).2) = begun row := by
  fun_cases qualify x row with
  -- Points, colons and names begin nothing.
  | case1 => simp [begun_cons, beginning]
  | case2 => simp [begun_cons, beginning]
  | case3 => rfl

/-- The part of a row from a place on, if the row is as long as that. -/
def slice? (row : List Tree) (i : Nat) : Option (List Tree) :=
  if i ≤ row.length then some (row.drop i) else none

theorem sizeOf_lt_of_mem_trees {delimiter : Option Delimiter}
    (h : .group delimiter body ∈ code.trees) : sizeOf body < sizeOf code := by
  induction code with
  | nil => cases h
  | leaf l pos rest ih =>
    have hr := ih (by simpa [trees] using h)
    rw [Code.leaf.sizeOf_spec]
    omega
  | group delimiter' body' rest _ ih =>
    rw [Code.group.sizeOf_spec]
    rcases List.mem_cons.1 h with hb | hr
    · cases hb
      omega
    · have := ih hr
      omega

/-- The references from a place on, found by a loop that goes on behind each of them. Were it to
read beyond the end of the row, it would come to nothing. -/
def loop (code : Code) (i : Nat) : Option (List Reference) :=
  if _ : i < code.trees.length then
    match h : code.trees[i]? with
    | none => none
    | some (.group _ body) => do
      let inner ← loop body 0
      let outer ← loop code (i + 1)
      return inner ++ outer
    | some (.leaf (.mark '$' _) _) =>
      match code.trees[i + 1]? with
      | some (.leaf (.identifier x) px) => do
        let rest ← slice? code.trees (i + 2)
        let (ref, spanned) := qualify ⟨x, px⟩ rest
        let refs ← loop code (i + 2 + spanned)
        return ref :: refs
      | _ => loop code (i + 1)
    | some _ => loop code (i + 1)
  else some []
termination_by (sizeOf code, code.trees.length - i)
decreasing_by
  · exact .left _ _ (sizeOf_lt_of_mem_trees (List.mem_of_getElem? h))
  all_goals exact .right _ (by omega)

theorem drop_eq_cons (h : row[i]? = some tree) : row.drop i = tree :: row.drop (i + 1) := by
  obtain ⟨hi, rfl⟩ := List.getElem?_eq_some_iff.1 h
  exact List.drop_eq_getElem_cons hi

theorem loop_eq (code : Code) (i : Nat) : code.loop i = some (begun (code.trees.drop i)) := by
  fun_induction loop code i with
  | case1 code i hi h =>
    rw [List.getElem?_eq_none_iff] at h
    omega
  | case2 code i _ _ body h hb hr =>
    rw [hb, hr, drop_eq_cons h, begun_cons, beginning, references_eq_begun]
    rfl
  | case3 code i _ joint pos h x px hx hr =>
    have hl : i + 2 ≤ code.trees.length := (List.getElem?_eq_some_iff.1 hx).1
    have hs : slice? code.trees (i + 2) = some (code.trees.drop (i + 2)) := if_pos hl
    have hq := begun_drop_qualify ⟨x, px⟩ (code.trees.drop (i + 2))
    rw [List.drop_drop] at hq
    rw [drop_eq_cons h, drop_eq_cons hx, begun_cons, begun_cons, ← hq]
    simp [hs, hr, beginning]
  | case4 code i _ joint pos h hx hr =>
    have hn : beginning (.leaf (.mark '$' joint) pos :: code.trees.drop (i + 1)) = [] := by
      apply beginning_eq_nil
      · rintro _ _ ⟨⟩
      · intro _ _ x px _ _ he
        rw [← List.head?_drop, he] at hx
        exact hx x px rfl
    rw [hr, drop_eq_cons h, begun_cons, hn]
    rfl
  | case5 code i _ tree hg hd h hr =>
    have hn : beginning (tree :: code.trees.drop (i + 1)) = [] :=
      beginning_eq_nil hg fun _ _ _ _ _ ht => absurd ht (hd _ _)
    rw [hr, drop_eq_cons h, begun_cons, hn]
    rfl
  | case6 code i hi =>
    rw [List.drop_eq_nil_of_le (Nat.le_of_not_lt hi)]
    rfl

/-- A reference is found wherever one begins, whatever stands before it, and nothing else is found.
So there are as many as there are signs with a name behind them, and the loop, which goes on behind
each reference, finds them all and never reads beyond the end. -/
theorem references_are_those_that_begin (code : Code) :
    code.references =
      ((List.range code.trees.length).flatMap fun i => beginning (code.trees.drop i)) ∧
    code.references.length = code.signs ∧
    code.loop 0 = some code.references := by
  refine ⟨references_eq_begun code, length_references code, ?_⟩
  rw [loop_eq, references_eq_begun]
  rfl

/-- In `$ $x.$y:::z` two references begin, and both of them are simple. -/
example :
    let mark := fun c rest => Code.leaf (.mark c true) {} rest
    let name := fun x rest => Code.leaf (.identifier x) {} rest
    references (mark '$' (mark '$' (name "x" (mark '.' (mark '$' (name "y" (mark ':' (mark ':'
      (mark ':' (name "z" .nil)))))))))) = [.simple ⟨"x", {}⟩, .simple ⟨"y", {}⟩] := by
  decide

end GrammarRefs.Code
