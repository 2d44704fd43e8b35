import GrammarRefs.Proofs.Records
import GrammarRefs.Proofs.Repetition
import Mathlib.Data.List.Perm.Basic

/-! The references of a run to rules that it does not declare, in the order in which they are
reported: by place, then by name, and then in the order of time. -/
namespace GrammarRefs

/-- The same items in order. Those that the order does not tell apart stay as they were. -/
structure StableOrder {α : Type} (le : α → α → Prop) (ys xs : List α) : Prop where
  perm : ys.Perm xs
  pairwise : ys.Pairwise le
  stable : ∀ p : α → Bool, (∀ a b, p a = true → p b = true → le a b) → ys.filter p = xs.filter p

/-- By a number first, and where it is the same as before. -/
def ByNumber {α : Type} (key : α → Nat) (le : α → α → Prop) (a b : α) : Prop :=
  key a < key b ∨ key a = key b ∧ le a b

/-- By rule, then by alternative, and then by name. -/
def Filing.Before : Filing Token → Filing Token → Prop :=
  ByNumber Filing.rule (ByNumber Filing.alternative fun a b => a.item.text ≤ b.item.text)

/-- The references to rules, in the order of time, that no rule of the run is declared for. -/
def undeclaredFilings (past : List Deed) : List (Filing Token) :=
  (past.filterMap Catalogue.ruleRefs.success?).filter
    fun f => f.item.text ∉ past.filterMap declaredRule?

section Order

variable {α : Type} {le : α → α → Prop} {key : α → Nat} {keys : List Nat} {xs : List α}

/-- What is left out can be left out before the sorting as well. -/
theorem filter_sortByName {text : α → String} (p : α → Bool) (xs : List α) :
    (sortByName text xs).filter p = sortByName text (xs.filter p) := by
  have ha : Ascending text ((sortByName text xs).filter p) :=
    List.Pairwise.filter p (ascending_sortByName text xs)
  refine ha.eq (ascending_sortByName text (xs.filter p)) fun n => ?_
  rw [sameByName_sortByName text _ n, List.filter_comm, sameByName_sortByName text _ n,
    List.filter_comm]

theorem stableOrder_sortByName (text : α → String) (xs : List α) :
    StableOrder (fun a b => text a ≤ text b) (sortByName text xs) xs where
  perm := sortByName_perm
  pairwise := ascending_sortByName text xs
  stable p hp := by
    have ha : Ascending text (xs.filter p) :=
      List.pairwise_of_forall_mem_list fun a ha b hb =>
        hp a b (List.of_mem_filter ha) (List.of_mem_filter hb)
    rw [filter_sortByName]
    exact (ascending_sortByName text _).eq ha (sameByName_sortByName text _)

/-- Of a list whose items have one number nothing is moved when it is taken apart. -/
theorem flatMap_filter_eq_self (hd : keys.Nodup) (h : ∀ x ∈ xs, key x ∈ keys)
    (he : ∀ x ∈ xs, ∀ y ∈ xs, key x = key y) :
    (keys.flatMap fun k => xs.filter (key · == k)) = xs := by
  cases xs with
  | nil => simp
  | cons x rest =>
    obtain ⟨before, after, rfl⟩ := List.append_of_mem (h x (by simp))
    have hx : ∀ y ∈ x :: rest, key y = key x := fun y hy => he y hy x (by simp)
    have hs : (x :: rest).filter (key · == key x) = x :: rest :=
      List.filter_eq_self.2 fun y hy => beq_iff_eq.2 (hx y hy)
    have hn : ∀ ks : List Nat, key x ∉ ks →
        (ks.flatMap fun k => (x :: rest).filter (key · == k)) = [] := by
      intro ks hm
      rw [List.flatMap_eq_nil_iff]
      intro k hk
      rw [List.filter_eq_nil_iff]
      intro y hy hc
      exact hm ((hx y hy).symm.trans (beq_iff_eq.1 hc) ▸ hk)
    have hm := (List.nodup_cons.1 (List.nodup_middle.1 hd)).1
    rw [List.mem_append, not_or] at hm
    rw [List.flatMap_append, List.flatMap_cons, hs, hn before hm.1, hn after hm.2, List.nil_append,
      List.append_nil]

/-- Lists that are in order one by one, put in the order of a number. -/
theorem StableOrder.byNumber {part : Nat → List α} (hk : keys.Pairwise (· < ·))
    (h : ∀ x ∈ xs, key x ∈ keys)
    (hp : ∀ k ∈ keys, StableOrder le (part k) (xs.filter (key · == k))) :
    StableOrder (ByNumber key le) (keys.flatMap part) xs := by
  have hd : keys.Nodup := hk.imp Nat.ne_of_lt
  have hkey : ∀ k ∈ keys, ∀ x ∈ part k, key x = k := by
    intro k hm x hx
    simpa using (List.mem_filter.1 ((hp k hm).perm.mem_iff.1 hx)).2
  constructor
  case perm =>
    exact (List.Perm.flatMap_left keys fun k hm => (hp k hm).perm).trans (flatMap_filter_perm hd h)
  case pairwise =>
    refine List.pairwise_flatMap.2 ⟨?_, ?_⟩
    · intro k hm
      refine (hp k hm).pairwise.imp_of_mem fun ha hb hle => .inr ⟨?_, hle⟩
      rw [hkey k hm _ ha, hkey k hm _ hb]
    · refine hk.imp_of_mem fun ha hb hlt x hx y hy => .inl ?_
      rwa [hkey _ ha x hx, hkey _ hb y hy]
  case stable =>
    intro p hle
    have hone : ∀ a b, p a = true → p b = true → key a = key b ∧ le a b := by
      intro a b ha hb
      rcases hle a b ha hb with hab | hab
      · rcases hle b a hb ha with hba | hba <;> omega
      · exact hab
    calc (keys.flatMap part).filter p
      _ = keys.flatMap fun k => (part k).filter p := List.filter_flatMap ..
      _ = keys.flatMap fun k => (xs.filter p).filter (key · == k) := by
        refine List.flatMap_congr fun k hm => ?_
        rw [(hp k hm).stable p fun a b ha hb => (hone a b ha hb).2, List.filter_filter,
          List.filter_filter]
        simp only [Bool.and_comm]
      _ = xs.filter p := by
        refine flatMap_filter_eq_self hd (fun x hx => h x (List.mem_of_mem_filter hx)) ?_
        intro x hx y hy
        exact (hone x y (List.of_mem_filter hx) (List.of_mem_filter hy)).1

end Order

variable {α : Type} {c : Catalogue α} {g : Grammar} {past : List Deed} {r : Rule} {i k : Nat}
  {alt : Alternative}

/-- An alternative has under each name what has been filed there, in the order of time. -/
theorem Catalogue.Recorded.sameByName (hg : c.Recorded past g) (ht : g.Tabled)
    (hr : g.rules[i]? = some r) (ha : r.alternative? k = some alt) :
    SameByName c.text (c.table alt).items (((past.filterMap c.success?).filter
      fun f => f.rule == i && f.alternative == k).map Filing.item) := by
  intro n
  rw [← (filed_table ht hr ha).getD_get?, hg.getD_get? hr ha, filed, List.filter_map,
    List.filter_filter]
  congr 2
  funext f
  exact Bool.and_comm ..

/-- The references of an alternative come by name, those to one rule as they have been filed. -/
theorem Catalogue.Recorded.sortedRuleRefs (hg : Catalogue.ruleRefs.Recorded past g) (ht : g.Tabled)
    (hr : g.rules[i]? = some r) (ha : r.alternative? k = some alt) : Check.sortedRuleRefs alt =
      (sortByName (·.item.text) ((past.filterMap Catalogue.ruleRefs.success?).filter
        fun f => f.rule == i && f.alternative == k)).map Filing.item := by
  refine (hg.sameByName ht hr ha).sortByName.trans ?_
  exact sortByName_map (fun _ => rfl) _

/-- The undeclared references of an alternative. -/
def undeclaredIn (past : List Deed) (i k : Nat) : List (Filing Token) :=
  sortByName (·.item.text) (((undeclaredFilings past).filter (·.rule == i)).filter
    (·.alternative == k))

/-- The undeclared references of the rules one by one. -/
def undeclaredInOrder (past : List Deed) (g : Grammar) : List (Filing Token) :=
  (List.range g.rules.length).flatMap fun i =>
    (List.range' 1 (g.rules[i]?.elim 0 (·.alternatives.length))).flatMap (undeclaredIn past i)

theorem stableOrder_undeclaredInOrder (hg : Catalogue.ruleRefs.Recorded past g) :
    StableOrder Filing.Before (undeclaredInOrder past g) (undeclaredFilings past) := by
  have hm : ∀ f ∈ undeclaredFilings past, ∃ r alt, g.rules[f.rule]? = some r ∧
      r.alternative? f.alternative = some alt := by
    intro f hf
    have hi : f.item ∈ Catalogue.ruleRefs.filed past f.rule f.alternative f.item.text :=
      Catalogue.mem_filed.2 ⟨f, (List.mem_filter.1 hf).1, rfl, rfl, rfl, rfl⟩
    exact hg.exists_rule (List.ne_nil_of_mem hi)
  refine .byNumber List.pairwise_lt_range ?_ fun i _ => .byNumber List.pairwise_lt_range' ?_
    fun k _ => stableOrder_sortByName ..
  · intro f hf
    obtain ⟨r, _, hr, _⟩ := hm f hf
    exact List.mem_range.2 (List.getElem?_eq_some_iff.1 hr).1
  · intro f hf
    obtain ⟨hf, hi⟩ := List.mem_filter.1 hf
    obtain ⟨r, alt, hr, ha⟩ := hm f hf
    obtain ⟨h0, hl⟩ := Rule.alternative?_eq_some_iff.1 ha
    have hk := (List.getElem?_eq_some_iff.1 hl).1
    rw [← beq_iff_eq.1 hi, hr, Option.elim_some, List.mem_range'_1]
    omega

namespace Check

theorem undeclaredRefs_in_alternative (hg : Catalogue.ruleRefs.Recorded past g) (ht : g.Tabled)
    (hp : g.Retains past) (hr : g.rules[i]? = some r) (ha : r.alternative? k = some alt) :
    ((sortedRuleRefs alt).flatMap fun ref =>
      if !g.declares ref.text then [undeclaredRule ref] else []) =
      (undeclaredIn past i k).map (undeclaredRule ∘ Filing.item) := by
  have hd : ∀ f : Filing Token,
      (!g.declares f.item.text) = decide (f.item.text ∉ past.filterMap declaredRule?) := by
    intro f
    rw [Bool.eq_iff_iff, Bool.not_eq_true', decide_eq_true_iff, ← hp.rules, ← ht.declares_iff_mem,
      Bool.not_eq_true]
  rw [flatMap_ite_singleton fun ref : Token => !g.declares ref.text, hg.sortedRuleRefs ht hr ha,
    List.filter_map, filter_sortByName, List.map_map, undeclaredIn, undeclaredFilings]
  simp only [List.filter_filter]
  refine congrArg (fun fs => (sortByName _ fs).map (undeclaredRule ∘ Filing.item)) ?_
  refine List.filter_congr fun f _ => ?_
  rw [Function.comp_apply, hd]
  grind

theorem undeclaredRefs_eq (hg : Catalogue.ruleRefs.Recorded past g) (ht : g.Tabled)
    (hp : g.Retains past) :
    undeclaredRefs g = (undeclaredInOrder past g).map (undeclaredRule ∘ Filing.item) := by
  rw [undeclaredRefs, undeclaredInOrder, flatMap_eq_range, List.map_flatMap]
  refine List.flatMap_congr fun i hi => ?_
  obtain ⟨r, hr⟩ : ∃ r, g.rules[i]? = some r :=
    ⟨_, List.getElem?_eq_getElem (List.mem_range.1 hi)⟩
  rw [hr, Option.map_some, Option.getD_some, Option.elim_some, Rule.flatMap_alternatives,
    List.map_flatMap]
  refine List.flatMap_congr fun k hk => ?_
  have hk : r.HasAlternative k := by
    rw [List.mem_range'_1] at hk
    exact ⟨by omega, by omega⟩
  obtain ⟨alt, hl⟩ := hk.exists_alternative
  have ha := Rule.alternative?_eq_some_iff.2 ⟨hk.1, hl⟩
  rw [ha, Option.map_some, Option.getD_some]
  exact undeclaredRefs_in_alternative hg ht hp hr ha

/-- Each reference to a rule that the run does not declare, be it before or after, is reported once
and where it stands. Nothing else is reported. -/
theorem undeclared_references_are_reported_exactly (name : String) (kind : GrammarKind)
    (steps : List BuildStep) :
    let g := ((Grammar.empty name kind).run steps).1
    let past := (Grammar.empty name kind).history steps
    ∃ refs, StableOrder Filing.Before refs (undeclaredFilings past) ∧
      ∀ log, (undeclaredRules g).run log = (.ofMark (!refs.isEmpty) g, log ++ refs.map fun f =>
        { level := .error, fault := .unknownRule f.item.text
          pos := f.item.pos, notes := [] }) := by
  intro g past
  have ht : g.Tabled := Grammar.tabled_reachable ⟨name, kind, steps, rfl⟩
  have hl : Catalogue.ruleRefs.Recorded past g := Catalogue.ruleRefs.recorded_run name kind steps
  have hp : g.Retains past := Grammar.retains_run name kind steps
  refine ⟨undeclaredInOrder past g, stableOrder_undeclaredInOrder hl, fun log => ?_⟩
  have hf := undeclaredRules_finds.reports g log
  rw [undeclaredRefs_eq hl ht hp, List.isEmpty_map] at hf
  exact hf

example :
    let g := ((Grammar.empty "P" .parser).run [.defineRule ⟨"a", {}⟩ 2,
      .addRuleRef 0 2 ⟨"c", ⟨1, 0⟩⟩, .addRuleRef 0 1 ⟨"z", ⟨1, 1⟩⟩, .addRuleRef 0 1 ⟨"b", ⟨1, 2⟩⟩,
      .addRuleRef 0 1 ⟨"c", ⟨1, 3⟩⟩, .addRuleRef 0 1 ⟨"c", ⟨1, 4⟩⟩, .defineRule ⟨"b", {}⟩ 1]).1
    (undeclaredRules g).run [] = (.flawed g, [⟨.error, .unknownRule "c", ⟨1, 3⟩, []⟩,
      ⟨.error, .unknownRule "c", ⟨1, 4⟩, []⟩, ⟨.error, .unknownRule "z", ⟨1, 1⟩, []⟩,
      ⟨.error, .unknownRule "c", ⟨1, 0⟩, []⟩]) := rfl

end Check
end GrammarRefs
