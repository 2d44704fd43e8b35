import GrammarRefs.Grammar
import GrammarRefs.Rule.Edit

/-! Grammars built step by step. -/
namespace GrammarRefs

/-- Rules are given by index and alternatives by number. -/
inductive BuildStep
  | defineRule (head : Token) (alts : Nat)
  | setArguments (rule : Nat) (dict : Option Dict)
  | setReturns (rule : Nat) (dict : Option Dict)
  | setScope (rule : Nat) (dict : Option Dict)
  | setModifiers (rule : Nat) (modifiers : List Token)
  | setUsedScopes (rule : Nat) (names : List Token)
  | setMode (rule : Nat) (mode : Option String)
  | addAction (rule alt : Nat) (snippet : Snippet)
  | addPredicate (rule alt : Nat) (snippet : Snippet)
  | setNamedAction (rule : Nat) (name : String) (snippet : Snippet)
  | addExceptionAction (rule : Nat) (snippet : Snippet)
  | setFinallyAction (rule : Nat) (snippet : Snippet)
  | addLabel (rule alt : Nat) (label : Label)
  | addTokenRef (rule alt : Nat) (token : Token)
  | addRuleRef (rule alt : Nat) (token : Token)
  | defineScope (name : String) (scope : Dict)
  | raisePrintLevel (level : PrintLevel)
deriving DecidableEq

inductive BuildError
  | structural (fault : StructuralFault)
  /-- The step needs a rule that has been declared. -/
  | noSuchRule (index : Nat)
deriving DecidableEq

inductive BuildAnswer
  | done
  /-- The index of a new rule, or the number of an action or predicate. -/
  | index (n : Nat)
  /-- Whether an earlier action had the name. -/
  | replaced (before : Bool)
deriving DecidableEq

/-- What has been written when it fails stays written. -/
abbrev Building := ExceptT BuildError (StateM Grammar)

namespace Grammar

def declareRule (head : Token) (alts : Nat) : Building Nat := do
  let index := (← get).rules.length
  match Rule.create index head alts with
  | .error fault => throw (.structural fault)
  | .ok rule =>
    modify fun g => { g with ruleIndex := g.ruleIndex.insertNew rule.name index }
    modify fun g => { g with rules := g.rules ++ [rule] }
    return index

/-- Rules that take numbered actions are looked for first. -/
def requireRule (i : Nat) : Building Unit := do
  let rules := (← get).rules.length
  if rules ≤ i then throw (.structural (.ruleOutOfRange i rules))

def editRule {α : Type} (i : Nat) (edit : Editing α) : Building α := fun g =>
  match g.rules[i]? with
  | none => (.error (.noSuchRule i), g)
  | some rule =>
    let (result, rule, registry) := edit (rule, g.registry)
    (result.mapError .structural, { g with rules := g.rules.set i rule, registry })

def changeRule (i : Nat) (f : Rule → Rule) : Building Unit := editRule i (Rule.change f)

def addAction (i alt : Nat) (snippet : Snippet) : Building (Option Nat) := do
  requireRule i
  editRule i (Rule.addAction alt snippet)

def addPredicate (i alt : Nat) (snippet : Snippet) : Building Nat := do
  requireRule i
  editRule i (Rule.addPredicate alt snippet)

def silent (change : Building Unit) : Building BuildAnswer := do
  change
  return .done

def build : BuildStep → Building BuildAnswer
  | .defineRule head alts => .index <$> declareRule head alts
  | .setArguments i dict => silent <| changeRule i ({ · with arguments := dict })
  | .setReturns i dict => silent <| changeRule i ({ · with returns := dict })
  | .setScope i dict => silent <| changeRule i ({ · with scope := dict })
  | .setModifiers i modifiers => silent <| changeRule i ({ · with modifiers := modifiers })
  | .setUsedScopes i names => silent <| changeRule i ({ · with usedScopes := names })
  | .setMode i mode => silent <| changeRule i ({ · with mode := mode })
  | .addAction i alt snippet => (·.elim .done .index) <$> addAction i alt snippet
  | .addPredicate i alt snippet => .index <$> addPredicate i alt snippet
  | .setNamedAction i name snippet => .replaced <$> editRule i (Rule.setNamedAction name snippet)
  | .addExceptionAction i snippet =>
    silent <| changeRule i fun rule =>
      { rule with exceptionActions := rule.exceptionActions ++ [snippet.numbered none] }
  | .setFinallyAction i snippet =>
    silent <| changeRule i ({ · with finallyAction := some (snippet.numbered none) })
  | .addLabel i alt label => silent <| editRule i (Rule.addLabel alt label)
  | .addTokenRef i alt token => silent <| editRule i (Rule.addTokenRef alt token)
  | .addRuleRef i alt token => silent <| editRule i (Rule.addRuleRef alt token)
  | .defineScope name scope => silent <| modify (·.defineScope name scope)
  | .raisePrintLevel level => silent <| modify (·.raisePrintLevel level)

def perform (g : Grammar) (step : BuildStep) : Grammar × Except BuildError BuildAnswer :=
  let (answer, g) := build step g
  (g, answer)

/-- Every step is tried, whatever became of the ones before it. -/
def run (g : Grammar) : List BuildStep → Grammar × List (Except BuildError BuildAnswer)
  | [] => (g, [])
  | step :: steps =>
    let (g, answer) := g.perform step
    let (g, answers) := g.run steps
    (g, answer :: answers)

/-- What a run of building steps makes of an empty grammar. -/
def Reachable (g : Grammar) : Prop := ∃ name kind steps, ((empty name kind).run steps).1 = g

end Grammar
end GrammarRefs
