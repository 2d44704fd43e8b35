import GrammarRefs.Code.Reader
import GrammarRefs.Diagnostic
import GrammarRefs.Reference

/-! Actions: target code embedded in a grammar, of which only the references are looked at. -/
namespace GrammarRefs

inductive ActionKind
  | action
  /-- Fires whichever alternative is selected. -/
  | forced
  | predicate
deriving DecidableEq

/-- Code as it is written, before the grammar numbers it. -/
structure Snippet where
  kind : ActionKind
  code : Code
  pos : Position := {}
deriving DecidableEq

/-- Actions and predicates are numbered apart, from 1, over the whole grammar. -/
structure Action extends Snippet where
  index : Option Nat := none
deriving DecidableEq

namespace Snippet

def isForced (s : Snippet) : Bool := s.kind == .forced

def numbered (s : Snippet) (index : Option Nat) : Action := { s with index }

def references (s : Snippet) : List Reference := s.code.references

def read? (kind : ActionKind) (text : String) (pos : Position) : Option Snippet :=
  (Code.ofText? text).map fun code => { kind, code, pos }

/-- Why a text is refused. -/
def unreadable : String := "cannot parse string into token stream"

/-- Code that cannot be read is reported and dropped. -/
def read (kind : ActionKind) (text : String) (pos : Position) : Reporting (Option Snippet) :=
  match read? kind text pos with
  | some snippet => return some snippet
  | none => do
    report (.error pos (.unreadableAction unreadable))
    return none

end Snippet
end GrammarRefs
