/-! Sets of characters given by ascending ranges of code points, searched from the lowest. -/
namespace GrammarRefs

/-- Ranges of code points, first and last included. -/
abbrev CharRanges := List (Nat × Nat)

namespace CharRanges

variable {ranges : CharRanges} {c : Char}

/-- Every range is inhabited and ends before the next one begins. -/
def ascending : CharRanges → Bool
  | [] => true
  | [(low, high)] => low ≤ high
  | (low, high) :: (low', high') :: rest =>
    decide (low ≤ high) && decide (high < low') && ascending ((low', high') :: rest)

/-- The search stops at the first range that begins after the character. -/
def covers : CharRanges → Char → Bool
  | [], _ => false
  | (low, high) :: rest, c =>
    if c.toNat < low then false else decide (c.toNat ≤ high) || covers rest c

theorem ascending_tail {r : Nat × Nat} (h : ascending (r :: ranges) = true) :
    ascending ranges = true := by
  cases ranges <;> simp_all [ascending]

theorem head_lt_of_ascending {r s : Nat × Nat} (h : ascending (r :: ranges) = true)
    (hs : s ∈ ranges) : r.2 < s.1 := by
  induction ranges generalizing r with
  | nil => simp at hs
  | cons t rest ih =>
    have ht : t.1 ≤ t.2 := by cases rest <;> simp_all [ascending]
    have hrt : r.2 < t.1 := by simp_all [ascending]
    obtain rfl | hs := List.mem_cons.1 hs
    · exact hrt
    · have := ih (ascending_tail h) hs
      omega

/-- Stopping early loses nothing. -/
theorem covers_iff (h : ascending ranges = true) :
    ranges.covers c = true ↔ ∃ r ∈ ranges, r.1 ≤ c.toNat ∧ c.toNat ≤ r.2 := by
  induction ranges with
  | nil => simp [covers]
  | cons r rest ih =>
    have hr : r.1 ≤ r.2 := by cases rest <;> simp_all [ascending]
    simp only [covers, List.mem_cons, exists_eq_or_imp, ← ih (ascending_tail h)]
    split
    · have : ¬ covers rest c = true := by
        rw [ih (ascending_tail h)]
        rintro ⟨s, hs, hle, -⟩
        have := head_lt_of_ascending h hs
        omega
      simp [this]
      omega
    · simp only [Bool.or_eq_true, decide_eq_true_eq]
      have : r.1 ≤ c.toNat := by omega
      simp [this]

end CharRanges
end GrammarRefs
