import GrammarRefs.Proofs.Erasure
import GrammarRefs.Proofs.Reading
import GrammarRefs.Proofs.Resolution

/-! Dictionaries as lists of what has been inserted into them. The index of names answers as a search
through the list would, so dictionaries with equal lists cannot be told apart. -/
namespace GrammarRefs

namespace Dict

/-- How a dictionary is made before anything is added to it. -/
inductive Origin
  | new (kind : DictKind)
  | scope (name : String)
  | names (kind : DictKind) (names : List String)
  | declarations (kind : DictKind) (text : String) (pos : Position)

namespace Origin

def dict : Origin → Dict
  | .new kind => ofAttributes kind []
  | .scope name => emptyScope name
  | .names kind ns => ofNames kind ns
  | .declarations kind text pos => ofDeclarations kind text pos

/-- What has been inserted by then. -/
def inserted : Origin → List Attribute
  | .new _ | .scope _ => []
  | .names _ ns => ns.map fun name => { name }
  | .declarations _ text pos => Declaration.attributes pos text.toList

/-- The dictionary after these attributes have been added, one after the other. -/
def adding (o : Origin) (added : List Attribute) : Dict := added.foldl add o.dict

end Origin

/-- Everything that is asked of the dictionary is answered from the list. -/
structure Lists (d : Dict) (inserted : List Attribute) : Prop where
  attributes : d.attributes = inserted
  names : d.names = inserted.map Attribute.name
  size : d.size = inserted.length
  isEmpty : d.isEmpty = inserted.isEmpty
  display : d.display = "[" ++ ", ".intercalate (inserted.map Attribute.display) ++ "]"
  get? : ∀ n, d.get? n = inserted.find? (·.name == n)
  contains : ∀ n, d.contains n = true ↔ ∃ a ∈ inserted, a.name = n
  positions : ∀ n i, (n, i) ∈ d.index.entries → ∃ h : i < inserted.length, inserted[i].name = n

/-- The two dictionaries give equal answers, attributes being equal up to their positions. -/
structure Agrees (d e : Dict) : Prop where
  same : d.same e = true
  names : d.names = e.names
  size : d.size = e.size
  isEmpty : d.isEmpty = e.isEmpty
  display : d.display = e.display
  contains : ∀ n, d.contains n = e.contains n
  get? : ∀ n, Option.Rel (fun a b => a.same b = true) (d.get? n) (e.get? n)

variable {d e : Dict} {a : Attribute} {n : String} {more more' : List Attribute}

theorem Origin.attributes_dict (o : Origin) : o.dict.attributes = o.inserted := by
  cases o with
  | new | scope => rfl
  | names | declarations => exact attributes_ofAttributes

theorem Origin.attributes_adding (o : Origin) (added : List Attribute) :
    (o.adding added).attributes = o.inserted ++ added := by
  rw [adding, (foldl_add _ _).1, o.attributes_dict]

/-- The index only holds places, and what stands there has the name. -/
theorem positions_of_index {i : Nat} (h : (n, i) ∈ d.index.entries) :
    ∃ h : i < d.attributes.length, d.attributes[i].name = n := by
  rw [← NameTable.get?_eq_some_iff, d.indexed, List.findIdx?_eq_some_iff_getElem] at h
  obtain ⟨hi, hn, -⟩ := h
  exact ⟨hi, by simpa using hn⟩

theorem lists_attributes (d : Dict) : d.Lists d.attributes where
  attributes := rfl
  names := rfl
  size := rfl
  isEmpty := rfl
  display := rfl
  get? _ := get?_eq_find?
  contains n := by
    rw [contains_iff_mem_names, Dict.names, List.mem_map]
  positions _ _ := positions_of_index

/-- What is added is only found if nothing has the name yet. -/
theorem get?_add (d : Dict) (a : Attribute) (n : String) :
    (d.add a).get? n = (d.get? n <|> if a.name = n then some a else none) := by
  rw [get?_eq_find?, get?_eq_find?, add, List.find?_append, List.find?_singleton]
  simp

theorem get?_foldl_add_of_some (h : d.get? n = some a) :
    (more.foldl add d).get? n = some a := by
  induction more generalizing d with
  | nil => exact h
  | cons b more ih =>
    apply ih
    rw [get?_add, h]
    rfl

theorem same_iff : d.same e = true ↔
    d.kind = e.kind ∧ d.name = e.name ∧ d.unplaced.attributes = e.unplaced.attributes := by
  simp only [same, unplaced, Bool.and_eq_true, beq_iff_eq, and_assoc]

theorem same_add (b c : Attribute) (h : d.same e = true) (hb : b.same c = true) :
    (d.add b).same (e.add c) = true := by
  obtain ⟨hk, hn, ha⟩ := same_iff.1 h
  rw [same_iff, add_unplaced, add_unplaced, eq_of_beq hb]
  exact ⟨hk, hn, congrArg (· ++ [c.unplaced]) ha⟩

theorem same_foldl_add (h : d.same e = true)
    (hm : List.Forall₂ (fun b c => b.same c = true) more more') :
    (more.foldl add d).same (more'.foldl add e) = true := by
  induction hm generalizing d e with
  | nil => exact h
  | cons hb _ ih => exact ih (same_add _ _ h hb)

theorem get?_unplaced_eq (h : d.same e = true) (n : String) :
    (d.get? n).map Attribute.unplaced = (e.get? n).map Attribute.unplaced := by
  rw [← get?_unplaced, ← get?_unplaced, get?_eq_find?, get?_eq_find?, (same_iff.1 h).2.2]

/-- Equality looks at the list and not at the index, and that is enough. -/
theorem agrees_of_same (h : d.same e = true) : d.Agrees e := by
  have ha := (same_iff.1 h).2.2
  have hs : d.attributes.length = e.attributes.length := by
    simpa [unplaced] using congrArg List.length ha
  refine ⟨h, ?_, hs, ?_, ?_, ?_, ?_⟩
  · have hn := congrArg (List.map Attribute.name) ha
    rwa [unplaced, unplaced, List.map_map, List.map_map] at hn
  · rw [isEmpty, isEmpty, Bool.eq_iff_iff, List.isEmpty_iff_length_eq_zero,
      List.isEmpty_iff_length_eq_zero, hs]
  · rw [← display_unplaced, display, ha, ← display, display_unplaced]
  · intro n
    have hn := congrArg Option.isSome (get?_unplaced_eq h n)
    rwa [Option.isSome_map, Option.isSome_map, ← contains_eq_isSome_get?,
      ← contains_eq_isSome_get?] at hn
  · intro n
    have hn := get?_unplaced_eq h n
    revert hn
    cases d.get? n <;> cases e.get? n <;> intro hn
    · exact .none
    · cases hn
    · cases hn
    · exact .some (by simpa [Attribute.same] using hn)

/-- However a dictionary has come about, it answers as the list of what was inserted into it. Two of
them that are equal give equal answers, and stay so when equal attributes are added to both. -/
theorem dictionaries_are_lists_of_insertions (o : Origin) (added : List Attribute) :
    (o.adding added).Lists (o.inserted ++ added) ∧
    (∀ more n, ((o.adding added).get? n).isSome = true →
      (o.adding (added ++ more)).get? n = (o.adding added).get? n) ∧
    ∀ (o' : Origin) (added' : List Attribute), (o.adding added).same (o'.adding added') = true →
      ∀ more more', List.Forall₂ (fun a b => a.same b = true) more more' →
        (o.adding (added ++ more)).Agrees (o'.adding (added' ++ more')) := by
  refine ⟨?_, ?_, ?_⟩
  · rw [← o.attributes_adding added]
    exact lists_attributes _
  · intro more n hn
    obtain ⟨a, ha⟩ := Option.isSome_iff_exists.1 hn
    rw [ha, Origin.adding, List.foldl_append]
    exact get?_foldl_add_of_some ha
  · intro o' added' hs more more' hm
    apply agrees_of_same
    rw [Origin.adding, Origin.adding, List.foldl_append, List.foldl_append]
    exact same_foldl_add hs hm

/-- Two dictionaries made in different ways, and a name that is inserted into both once more. -/
theorem dictionaries_made_differently_agree :
    let x : Attribute := { name := "x" }
    let later : Attribute := { name := "x", type := some "int" }
    let d := Origin.names .argument ["x", "y"]
    let e := Origin.new .argument
    let earlier : List Attribute := [{ name := "x", pos := ⟨2, 4⟩ }, { name := "y", pos := ⟨2, 7⟩ }]
    (d.adding [later]).Agrees (e.adding (earlier ++ [later])) ∧
    (d.adding [later]).get? "x" = some x := by
  intro x later d e earlier
  have hd := dictionaries_are_lists_of_insertions d []
  have hl : List.Forall₂ (fun a b => a.same b = true) [later] [later] := .cons (by decide) .nil
  refine ⟨hd.2.2 e earlier (by decide) [later] [later] hl, ?_⟩
  exact (hd.2.1 [later] "x" (by decide)).trans (by decide)

end Dict
end GrammarRefs
