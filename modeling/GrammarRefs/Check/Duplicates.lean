import GrammarRefs.Check.Inspection

/-! Names that are declared more than once: rules, attributes of a rule, attributes of a scope. -/
namespace GrammarRefs.Check

/-- The error is placed at the later item, with a note at the first one of the name. -/
def duplicate (what : String) (first later : Token) : Diagnostic :=
  .error later.pos (.duplicate what later.text) [⟨first.pos, .previousDefinition first.text⟩]

/-- The table of what has been seen holds the first item of each name. -/
def inspectItems (what : String) (seen : NameTable Token) : List Token → Inspection Unit
  | [] => return
  | item :: rest =>
    match seen.get? item.text with
    | some first => do
      report (duplicate what first item)
      Inspection.mark
      inspectItems what seen rest
    | none => inspectItems what (seen.insert item.text item) rest

def reportDuplicates (what : String) (items : List Token) : Reporting Bool :=
  (inspectItems what {} items).marked

def reportDuplicateAttributes (what : String) (dict : Dict) : Reporting Bool :=
  reportDuplicates what (dict.attributes.map (·.token))

def reportOptional (what : String) : Option Dict → Reporting Bool
  | none => return false
  | some dict => reportDuplicateAttributes what dict

def ruleDuplicates : Pass := fun g => do
  let found ← reportDuplicates "rule" (g.rules.map (·.head))
  return .ofMark found g

def inspectAttributes (r : Rule) : Inspection Unit := do
  Inspection.join (reportOptional "argument" r.arguments)
  Inspection.join (reportOptional "return value" r.returns)
  Inspection.join (reportOptional "scope attribute" r.scope)

/-- Global scopes by name. -/
def sortedScopes (g : Grammar) : List Dict :=
  sortByName (·.name.getD "") (g.scopes.entries.map (·.2))

/-- Rules come before global scopes. -/
def attributeDuplicates : Pass := .ofInspection fun g => do
  g.rules.forM inspectAttributes
  (sortedScopes g).forM fun scope =>
    Inspection.join (reportDuplicateAttributes "scope attribute" scope)

end GrammarRefs.Check
