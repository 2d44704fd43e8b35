import GrammarRefs.Check
import GrammarRefs.Declaration
import GrammarRefs.Grammar.Build

/-! Sessions: a grammar is built, checked and asked about in any order, and the diagnostics of all
the checks are collected. -/
namespace GrammarRefs

/-- All that resolution has to say about `$x`, `$x.y` and `$x::y`. -/
structure Resolution where
  simple : Option Attribute
  qualified : Option Attribute
  rule : Option Rule
  /-- What `$x.y` can be if `x` is a rule in whatever way. -/
  result : Option Attribute
  dynamicScope : Option Dict
  isLabel : Bool
  isListLabel : Bool
  isTokenLabel : Bool
  hasAttributes : Bool

def Site.resolve (s : Site) (x y : String) : Resolution where
  simple := s.attribute? x
  qualified := s.qualified? x y
  rule := s.rule? x
  result := (s.rule? x).bind (s.result? · y)
  dynamicScope := s.dynamicScope? x
  isLabel := s.isLabel x
  isListLabel := s.isListLabel x
  isTokenLabel := s.isTokenLabel x
  hasAttributes := s.hasAttributes x

inductive Request
  | readDeclarations (kind : DictKind) (text : String) (pos : Position)
  | readAction (kind : ActionKind) (text : String) (pos : Position)
  | build (step : BuildStep)
  | check (directives : List Directive)
  | analyse
  | decorate (directives : List Directive)
  /-- What `x` and `y` stand for in the actions of the rule with the index. -/
  | resolve (rule : Nat) (x y : String)
  | print (level : PrintLevel)
deriving DecidableEq

inductive Reply
  | declared (dict : Dict)
  | read (snippet : Option Snippet) (reported : List Diagnostic)
  | built (answer : Except BuildError BuildAnswer)
  | passed (verdict : Verdict Grammar) (reported : List Diagnostic) (output : String)
  /-- Nothing is resolved from a rule that is not there. -/
  | resolved (resolution : Option Resolution)
  | printed (text : String)

structure Session where
  grammar : Grammar
  log : Diagnostics := []

namespace Session

def start (name : String) (kind : GrammarKind) : Session := { grammar := .empty name kind }

/-- What has been reported since. -/
def reported (s : Session) (log : Diagnostics) : List Diagnostic := log.drop s.log.length

/-- A grammar that is rejected stays as it is. -/
def pass (s : Session) (pass : Pass) (output : Verdict Grammar → String) : Session × Reply :=
  let (verdict, log) := (pass s.grammar).run s.log
  ({ grammar := verdict.value?.getD s.grammar, log },
    .passed verdict (s.reported log) (output verdict))

def answer (s : Session) : Request → Session × Reply
  | .readDeclarations kind text pos => (s, .declared (.ofDeclarations kind text pos))
  | .readAction kind text pos =>
    let (snippet, log) := (Snippet.read kind text pos).run s.log
    ({ s with log }, .read snippet (s.reported log))
  | .build step =>
    let (grammar, answer) := s.grammar.perform step
    ({ s with grammar }, .built answer)
  | .check directives => s.pass (Check.check directives) Check.printed
  | .analyse => s.pass Check.analyse fun _ => ""
  | .decorate directives => s.pass (Check.decorate directives) fun _ => ""
  | .resolve i x y => (s, .resolved ((s.grammar.site? i).map (·.resolve x y)))
  | .print level => (s, .printed (s.grammar.render level))

def run (s : Session) : List Request → Session × List Reply
  | [] => (s, [])
  | request :: requests =>
    let (s, reply) := s.answer request
    let (s, replies) := s.run requests
    (s, reply :: replies)

end Session
end GrammarRefs
