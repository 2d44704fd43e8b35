/-! How much of a checked grammar is printed. -/
namespace GrammarRefs

inductive PrintLevel
  | quiet
  | rules
  | alternatives
deriving DecidableEq

namespace PrintLevel

/-- The more talkative of two levels. -/
def merge : PrintLevel → PrintLevel → PrintLevel
  | .quiet, level => level
  | .rules, .alternatives => .alternatives
  | level, _ => level

def printsAlternatives (level : PrintLevel) : Bool := level == .alternatives

/-- Rules without their alternatives. -/
def printsRulesOnly (level : PrintLevel) : Bool := level == .rules

theorem merge_self (a : PrintLevel) : a.merge a = a := by
  cases a <;> rfl

theorem merge_assoc (a b c : PrintLevel) : (a.merge b).merge c = a.merge (b.merge c) := by
  cases a <;> cases b <;> cases c <;> rfl

instance : Std.Associative merge := ⟨merge_assoc⟩

theorem merge_quiet (a : PrintLevel) : a.merge .quiet = a := by
  cases a <;> rfl

/-- To merge the same levels again adds nothing. -/
theorem foldl_merge_again (levels : List PrintLevel) (a : PrintLevel) :
    levels.foldl merge (levels.foldl merge a) = levels.foldl merge a := by
  have hm : ∀ b : PrintLevel, levels.foldl merge b = b.merge (levels.foldl merge .quiet) := by
    intro b
    calc
      levels.foldl merge b = levels.foldl merge (b.merge .quiet) := by rw [merge_quiet]
      _ = b.merge (levels.foldl merge .quiet) := List.foldl_assoc
  rw [hm (levels.foldl merge a), hm a, merge_assoc, merge_self]

end PrintLevel
end GrammarRefs
