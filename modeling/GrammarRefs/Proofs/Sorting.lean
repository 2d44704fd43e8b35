import GrammarRefs.Rule

/-! Lists in the order of names. What is put in order is told by the items of each name alone. -/
namespace GrammarRefs

variable {α β : Type} {key : α → String} {x : α} {xs ys : List α} {n : String}

/-- No item stands before one of a smaller name. -/
def Ascending (key : α → String) (xs : List α) : Prop := xs.Pairwise fun a b => key a ≤ key b

/-- Name by name the lists have the same items in the same order. -/
def SameByName (key : α → String) (xs ys : List α) : Prop :=
  ∀ n, xs.filter (key · == n) = ys.filter (key · == n)

theorem ascending_insertByName (h : Ascending key xs) : Ascending key (insertByName key x xs) := by
  induction xs with
  | nil => exact List.pairwise_singleton ..
  | cons y ys ih =>
    obtain ⟨hy, hs⟩ := List.pairwise_cons.1 h
    rw [insertByName]
    split
    · next hx =>
      refine List.pairwise_cons.2 ⟨?_, h⟩
      intro z hz
      rcases List.mem_cons.1 hz with rfl | hz
      · exact hx
      · exact String.le_trans hx (hy z hz)
    · next hx =>
      refine List.pairwise_cons.2 ⟨?_, ih hs⟩
      intro z hz
      rcases List.mem_cons.1 (insertByName_perm.mem_iff.1 hz) with rfl | hz
      · exact (String.le_total (key z) (key y)).resolve_left hx
      · exact hy z hz

theorem ascending_sortByName (key : α → String) (xs : List α) :
    Ascending key (sortByName key xs) := by
  induction xs with
  | nil => exact .nil
  | cons x xs ih => exact ascending_insertByName ih

theorem filter_insertByName (x : α) (xs : List α) (n : String) :
    (insertByName key x xs).filter (key · == n) = (x :: xs).filter (key · == n) := by
  induction xs with
  | nil => rfl
  | cons y ys ih =>
    rw [insertByName]
    split
    · rfl
    · next hx =>
      -- The two items have different names, so at most one of them is of the name.
      have hne : key x ≠ key y := fun he => hx (he ▸ String.le_refl _)
      rw [List.filter_cons, ih]
      by_cases hn : key y = n
      · have hf : key x ≠ n := fun h => hne (h.trans hn.symm)
        simp [hn, hf]
      · simp [List.filter_cons, hn]

/-- Items of one name keep their order. -/
theorem sameByName_sortByName (key : α → String) (xs : List α) :
    SameByName key (sortByName key xs) xs := by
  intro n
  induction xs with
  | nil => rfl
  | cons x xs ih =>
    refine (filter_insertByName x (sortByName key xs) n).trans ?_
    rw [List.filter_cons, List.filter_cons, ih]

theorem SameByName.le_head {a b : α} (h : SameByName key (a :: xs) (b :: ys))
    (hb : Ascending key (b :: ys)) : key b ≤ key a := by
  have ha : a ∈ (b :: ys).filter (key · == key a) := by
    rw [← h (key a)]
    simp
  rcases List.mem_cons.1 (List.mem_filter.1 ha).1 with rfl | hm
  · exact String.le_refl _
  · exact (List.pairwise_cons.1 hb).1 a hm

/-- An ordered list is known by the items of each name. -/
theorem Ascending.eq (hx : Ascending key xs) (hy : Ascending key ys) (h : SameByName key xs ys) :
    xs = ys := by
  induction xs generalizing ys with
  | nil =>
    cases ys with
    | nil => rfl
    | cons b ys => simpa using h (key b)
  | cons a xs ih =>
    cases ys with
    | nil => simpa using h (key a)
    | cons b ys =>
      have hk : key a = key b :=
        String.le_antisymm (SameByName.le_head (fun n => (h n).symm) hx) (h.le_head hy)
      have ha := h (key a)
      simp only [List.filter_cons, hk, beq_self_eq_true, if_true, List.cons.injEq] at ha
      obtain ⟨rfl, _⟩ := ha
      rw [ih (List.pairwise_cons.1 hx).2 (List.pairwise_cons.1 hy).2]
      intro n
      have hn := h n
      simp only [List.filter_cons] at hn
      split at hn
      · exact (List.cons.inj hn).2
      · exact hn

theorem SameByName.sortByName (h : SameByName key xs ys) :
    sortByName key xs = sortByName key ys := by
  refine (ascending_sortByName key xs).eq (ascending_sortByName key ys) fun n => ?_
  rw [sameByName_sortByName key xs n, sameByName_sortByName key ys n, h n]

theorem filter_eq_of_nodup (hd : (xs.map key).Nodup) (hx : x ∈ xs) :
    xs.filter (key · == key x) = [x] := by
  induction xs with
  | nil => cases hx
  | cons y ys ih =>
    rw [List.map_cons, List.nodup_cons] at hd
    rcases List.mem_cons.1 hx with rfl | hm
    · have hn : ys.filter (key · == key x) = [] := by
        rw [List.filter_eq_nil_iff]
        intro z hz he
        exact hd.1 (List.mem_map.2 ⟨z, hz, by simpa using he⟩)
      simp [hn]
    · have hne : key y ≠ key x := fun he => hd.1 (List.mem_map.2 ⟨x, hm, he.symm⟩)
      simp [hne, ih hd.2 hm]

/-- Items of different names are in one order only. -/
theorem pairwise_lt_sortByName (hd : (xs.map key).Nodup) :
    (sortByName key xs).Pairwise fun a b => key a < key b := by
  have hn : ((sortByName key xs).map key).Nodup := (sortByName_perm.map key).nodup_iff.2 hd
  refine ((ascending_sortByName key xs).and (List.pairwise_map.1 hn)).imp ?_
  rintro a b ⟨hle, hne⟩
  exact String.not_le.1 fun h => hne (String.le_antisymm hle h)

/-- Where no two items have one name, the order of the list does not matter. -/
theorem SameByName.of_perm (hp : xs.Perm ys) (hd : (xs.map key).Nodup) : SameByName key xs ys := by
  intro n
  by_cases hn : ∃ x ∈ xs, key x = n
  · obtain ⟨x, hx, rfl⟩ := hn
    rw [filter_eq_of_nodup hd hx,
      filter_eq_of_nodup ((hp.map key).nodup_iff.1 hd) (hp.mem_iff.1 hx)]
  · have he : xs.filter (key · == n) = [] := by
      rw [List.filter_eq_nil_iff]
      intro x hx hk
      exact hn ⟨x, hx, by simpa using hk⟩
    rw [he]
    exact ((hp.filter (key · == n)).symm.trans (.of_eq he)).eq_nil.symm

theorem sortByName_eq_of_perm (hp : xs.Perm ys) (hd : (xs.map key).Nodup) :
    sortByName key xs = sortByName key ys :=
  (SameByName.of_perm hp hd).sortByName

/-- A list of names has one order, however often they occur. -/
theorem sortByName_id_eq_of_perm {ns ms : List String} (hp : ns.Perm ms) :
    sortByName id ns = sortByName id ms := by
  refine SameByName.sortByName fun n => ?_
  simp only [id, List.filter_beq, hp.count_eq]

section Mapping

variable {other : β → String} {f : α → β}

theorem insertByName_map (h : ∀ a, other (f a) = key a) (x : α) (xs : List α) :
    insertByName other (f x) (xs.map f) = (insertByName key x xs).map f := by
  induction xs with
  | nil => rfl
  | cons y ys ih =>
    rw [List.map_cons, insertByName, insertByName, h, h, ih]
    split <;> rfl

/-- What leaves the names alone can as well be done after the sorting. -/
theorem sortByName_map (h : ∀ a, other (f a) = key a) (xs : List α) :
    sortByName other (xs.map f) = (sortByName key xs).map f := by
  induction xs with
  | nil => rfl
  | cons x xs ih =>
    refine (congrArg (insertByName other (f x)) ih).trans ?_
    exact insertByName_map h x (sortByName key xs)

end Mapping

theorem nodup_eraseDups : (names : List String) → names.eraseDups.Nodup
  | [] => by simp
  | n :: names => by
    rw [List.eraseDups_cons, List.nodup_cons]
    refine ⟨?_, nodup_eraseDups _⟩
    simp
termination_by names => names.length
decreasing_by exact Nat.lt_succ_of_le (List.length_filter_le ..)

namespace Rule

variable {n : String} {names others : List String}

theorem mem_distinct : n ∈ distinct names ↔ n ∈ names := by
  rw [distinct, mem_sortByName, List.mem_eraseDups]

theorem nodup_distinct (names : List String) : (distinct names).Nodup :=
  sortByName_perm.nodup_iff.2 (nodup_eraseDups names)

theorem pairwise_distinct (names : List String) : (distinct names).Pairwise (· < ·) :=
  pairwise_lt_sortByName (by simpa using nodup_eraseDups names)

/-- Names in order are determined by what names there are. -/
theorem distinct_congr (h : ∀ n, n ∈ names ↔ n ∈ others) : distinct names = distinct others := by
  refine sortByName_id_eq_of_perm ?_
  rw [List.perm_ext_iff_of_nodup (nodup_eraseDups names) (nodup_eraseDups others)]
  simpa using h

end Rule
end GrammarRefs
