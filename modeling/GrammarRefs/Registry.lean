import GrammarRefs.Action

/-! The numbering of actions and of predicates over a whole grammar. -/
namespace GrammarRefs

/-- The numbered actions and predicates in the order of their numbers. -/
structure Registry where
  /-- Of a lexer every action is numbered. -/
  lexer : Bool
  actions : List Action := []
  predicates : List Action := []
deriving DecidableEq

namespace Registry

def numbered? (actions : List Action) (index : Nat) : Option Action :=
  if index = 0 then none else actions[index - 1]?

def action? (r : Registry) (index : Nat) : Option Action := numbered? r.actions index

def predicate? (r : Registry) (index : Nat) : Option Action := numbered? r.predicates index

/-- The next number, which counts from 1, and the action that has it from now on. -/
def addAction (r : Registry) (snippet : Snippet) : Nat × Action × Registry :=
  let index := r.actions.length + 1
  let action := snippet.numbered (some index)
  (index, action, { r with actions := r.actions ++ [action] })

def addPredicate (r : Registry) (snippet : Snippet) : Nat × Action × Registry :=
  let index := r.predicates.length + 1
  let predicate := snippet.numbered (some index)
  (index, predicate, { r with predicates := r.predicates ++ [predicate] })

end Registry
end GrammarRefs
