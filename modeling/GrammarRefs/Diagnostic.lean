import GrammarRefs.Fault

/-! Diagnostics: faults at their places, with notes. They are collected and stop nothing. -/
namespace GrammarRefs

inductive Level
  | error
  | warning
deriving DecidableEq

def Level.name : Level → String
  | .error => "error"
  | .warning => "warning"

structure Note where
  pos : Position
  fault : Fault
deriving DecidableEq

structure Diagnostic where
  level : Level
  fault : Fault
  pos : Position
  notes : List Note := []
deriving DecidableEq

namespace Diagnostic

def error (pos : Position) (fault : Fault) (notes : List Note := []) : Diagnostic :=
  { level := .error, fault, pos, notes }

def warning (pos : Position) (fault : Fault) (notes : List Note := []) : Diagnostic :=
  { level := .warning, fault, pos, notes }

/-- The first place has the error, the others have notes. -/
def ofPlaces? : List Note → Option Diagnostic
  | [] => none
  | first :: notes => some (error first.pos first.fault notes)

def isError (d : Diagnostic) : Bool := d.level == .error

/-- The grammar and the place that a line of output is about. -/
def place (grammar : String) (pos : Position) : String := grammar ++ ":" ++ pos.display ++ ": "

/-- One line, and one for each note. -/
def render (grammar : String) (d : Diagnostic) : String :=
  place grammar d.pos ++ d.level.name ++ ": " ++ d.fault.message ++
    String.join (d.notes.map fun note =>
      "\n" ++ place grammar note.pos ++ "note: " ++ note.fault.message)

end Diagnostic

/-- The diagnostics of a session in the order of their reports. -/
abbrev Diagnostics := List Diagnostic

namespace Diagnostics

def hasErrors (log : Diagnostics) : Bool := log.any Diagnostic.isError

def errorCount (log : Diagnostics) : Nat := (log.filter Diagnostic.isError).length

def faults (level : Level) (log : Diagnostics) : List Fault :=
  (log.filter (·.level == level)).map (·.fault)

end Diagnostics

/-- A computation that may add to the diagnostics of the session. -/
abbrev Reporting := StateM Diagnostics

def report (d : Diagnostic) : Reporting Unit := modify (· ++ [d])

end GrammarRefs
