import GrammarRefs.Check.Verdict

/-! Directives at the head of a grammar, such as `#[show_rules]`, which configure its checking. -/
namespace GrammarRefs

/-- The path is rooted if it begins with `::`. The position is that of the `#`. -/
structure Directive where
  path : List String
  rooted : Bool := false
  /-- Whether a segment has arguments, as in `a<T>::b`. -/
  hasArguments : Bool := false
  pos : Position := {}
  /-- Where the name stands, of a path that is nothing but a name. -/
  namePos : Position := {}
deriving DecidableEq

namespace Directive

/-- A path that is nothing but a name. -/
def name? (d : Directive) : Option String :=
  match d.path with
  | [name] => if d.rooted || d.hasArguments then none else some name
  | _ => none

/-- A path with its segments joined, without their arguments. -/
def display (d : Directive) : String := "::".intercalate d.path

end Directive

namespace Check

def ignore (pos : Position) (name : String) : Reporting Unit :=
  report (.warning pos (.unknownDirective name))

/-- A directive that is not understood is only warned of: a name where it stands, and any other path
at the `#`. -/
def obey (g : Grammar) (d : Directive) : Reporting Grammar :=
  match d.name? with
  | some "debug_rules" => return g.raisePrintLevel .alternatives
  | some "show_rules" => return g.raisePrintLevel .rules
  | some name => do
    ignore d.namePos name
    return g
  | none => do
    ignore d.pos d.display
    return g

def decorate (directives : List Directive) : Pass := fun g =>
  Verdict.accepted <$> directives.foldlM obey g

end Check
end GrammarRefs
