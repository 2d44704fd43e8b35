import GrammarRefs.Check.Verdict

/-! Passes that look for errors. An inspection is marked once it has found one; the mark is kept
apart from the diagnostics, which go to the session. -/
namespace GrammarRefs

abbrev Inspection := StateT Bool Reporting

namespace Inspection

def mark : Inspection Unit := set true

def fault (d : Diagnostic) : Inspection Unit := do
  report d
  mark

/-- Takes over the mark of an inspection that is over. -/
def join (marked : Reporting Bool) : Inspection Unit := do
  let found ← marked
  modify (· || found)

/-- Whether the inspection, unmarked at first, has found an error. -/
def marked (inspection : Inspection Unit) : Reporting Bool := do
  let (_, found) ← inspection.run false
  return found

end Inspection

/-- Leaves the grammar as it is. -/
def Pass.ofInspection (inspect : Grammar → Inspection Unit) : Pass := fun g => do
  let flawed ← (inspect g).marked
  return .ofMark flawed g

end GrammarRefs
