import GrammarRefs.Grammar

/-! Grammars written out rule by rule, with what each alternative defines if that is asked for. -/
namespace GrammarRefs

def listed (names : List String) : String :=
  "[" ++ ", ".intercalate (sortByName id names) ++ "]"

def Alternative.render (alt : Alternative) : String :=
  s!"    alt {alt.number}: labels={listed alt.labels.names} " ++
    s!"tokens={listed alt.tokenRefs.names} rules={listed alt.ruleRefs.names} " ++
    s!"actions={alt.actions.length}\n"

def Rule.render (r : Rule) (level : PrintLevel) : String :=
  "  " ++ r.display ++ (if r.isStart then " (start)" else "") ++
    (if r.isFragment then " (fragment)" else "") ++ "\n" ++
    if level.printsAlternatives then String.join (r.alternatives.map Alternative.render) else ""

namespace Grammar

def render (g : Grammar) (level : PrintLevel) : String :=
  s!"{g.kind.name} grammar {g.name}\n" ++ String.join (g.rules.map (·.render level))

/-- What is printed once the grammar has been checked. -/
def printout (g : Grammar) : String :=
  if g.printLevel = .quiet then "" else g.render g.printLevel ++ "\n"

end Grammar
end GrammarRefs
