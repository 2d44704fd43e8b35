import GrammarRefs.Diagnostic
import GrammarRefs.Grammar

/-! Verdicts, and passes that reach one. A pass that finds an error hands its grammar on, so that
the passes after it report their own errors in the same run. -/
namespace GrammarRefs

inductive Verdict (α : Type)
  | accepted (value : α)
  | flawed (value : α)
  | rejected
deriving DecidableEq

namespace Verdict

variable {α β : Type}

def value? : Verdict α → Option α
  | .accepted a | .flawed a => some a
  | .rejected => none

def weaken : Verdict α → Verdict α
  | .accepted a | .flawed a => .flawed a
  | .rejected => .rejected

def ofMark (flawed : Bool) (a : α) : Verdict α := if flawed then .flawed a else .accepted a

/-- Stands for `and_then` of the `partial` library: what is flawed stays flawed, and what is rejected
is not looked at again. -/
def andThen (v : Verdict α) (f : α → Reporting (Verdict β)) : Reporting (Verdict β) :=
  match v with
  | .accepted a => f a
  | .flawed a => weaken <$> f a
  | .rejected => return .rejected

end Verdict

abbrev Pass := Grammar → Reporting (Verdict Grammar)

namespace Pass

def chain (passes : List Pass) : Pass := fun g =>
  passes.foldlM (fun v pass => v.andThen pass) (.accepted g)

end Pass
end GrammarRefs
