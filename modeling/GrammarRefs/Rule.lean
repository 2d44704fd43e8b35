import GrammarRefs.Alternative
import GrammarRefs.Dict

/-! Rules of a grammar, with everything that their actions can refer to. -/
namespace GrammarRefs

structure Rule where
  /-- The name, at the place of the declaration. -/
  head : Token
  /-- The place in the order of declaration, from 0. -/
  index : Nat
  alternatives : List Alternative
  modifiers : List Token := []
  arguments : Option Dict := none
  returns : Option Dict := none
  scope : Option Dict := none
  /-- Names of global scopes. -/
  usedScopes : List Token := []
  mode : Option String := none
  namedActions : NameTable Action := {}
  exceptionActions : List Action := []
  finallyAction : Option Action := none
  /-- No other rule refers to this one. -/
  isStart : Bool := true
  /-- The last index that an action of this rule was given. -/
  lastAction : Option Nat := none
deriving DecidableEq

namespace Rule

def name (r : Rule) : String := r.head.text

def create (index : Nat) (head : Token) (alts : Nat) : Except StructuralFault Rule :=
  if alts = 0 then .error (.noAlternative head.text)
  else .ok {
    head, index
    alternatives := (List.range alts).map fun i => { owner := index, number := i + 1 } }

def alternative? (r : Rule) (number : Nat) : Option Alternative :=
  if number = 0 then none else r.alternatives[number - 1]?

/-- Names without repetition, in order. -/
def distinct (names : List String) : List String := sortByName id names.eraseDups

def tokenNames (r : Rule) : List String := distinct (r.alternatives.flatMap (·.tokenRefs.names))

def ruleNames (r : Rule) : List String := distinct (r.alternatives.flatMap (·.ruleRefs.names))

def labelNames (r : Rule) : List String := distinct (r.alternatives.flatMap (·.labels.names))

/-- All the definitions of each label, by alternative and then in the order of definition. -/
def labels (r : Rule) : NameTable (List Label) :=
  (r.alternatives.flatMap (·.labels.entries)).foldl (fun t entry => t.extend entry.1 entry.2) {}

/-- The definition that counts; later ones only matter for diagnostics. -/
def firstLabel? (r : Rule) (name : String) : Option Label :=
  r.alternatives.findSome? fun alt => (alt.labels.get? name).bind List.head?

def refersToToken (r : Rule) (name : String) : Bool :=
  r.alternatives.any (·.tokenRefs.contains name)

def refersToRule (r : Rule) (name : String) : Bool :=
  r.alternatives.any (·.ruleRefs.contains name)

/-- Those of the alternatives come first, then the named ones by name, those for exceptions, and the
final one. -/
def actions (r : Rule) : List Action :=
  r.alternatives.flatMap (·.actions) ++ r.namedActions.sorted.map (·.2) ++ r.exceptionActions ++
    r.finallyAction.toList

def isFragment (r : Rule) : Bool := r.modifiers.any (·.text == "fragment")

def displayPart (title : String) (dict : Option Dict) : String :=
  (dict.map fun d => ", " ++ title ++ "=" ++ d.display).getD ""

def display (r : Rule) : String :=
  "Rule\x7bname=" ++ r.name ++ displayPart "args" r.arguments ++
    displayPart "retvals" r.returns ++ displayPart "scope" r.scope ++ "\x7d"

end Rule
end GrammarRefs
