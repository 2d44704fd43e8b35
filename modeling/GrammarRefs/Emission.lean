import GrammarRefs.Diagnostic

/-! Diagnostics written out, in colours where the terminal has them. -/
namespace GrammarRefs

inductive Colour
  | red
  | yellow
  | green
deriving DecidableEq

/-- What is sent to a terminal: text, or a command about the colour of what follows. -/
inductive Output
  | text (content : String)
  | colour (colour : Colour)
  | plain
deriving DecidableEq

inductive Terminal
  /-- The output is no terminal. -/
  | absent
  | coloured
  /-- Refuses every command about colours. -/
  | colourless
deriving DecidableEq

namespace Output

def text? : Output → Option String
  | .text content => some content
  | _ => none

/-- What the `term` library writes to a terminal that has the colours. -/
def sequence : Output → String
  | .text content => content
  | .colour .red => "\x1b[31m"
  | .colour .yellow => "\x1b[33m"
  | .colour .green => "\x1b[32m"
  | .plain => "\x1b[0m"

/-- The text without the commands about colours. -/
def texts (outputs : List Output) : String := String.join (outputs.filterMap text?)

def sequences (outputs : List Output) : String := String.join (outputs.map sequence)

end Output

def Terminal.accepts : Terminal → Output → Bool
  | .coloured, _ => true
  | _, .text _ => true
  | _, _ => false

def Level.colour : Level → Colour
  | .error => .red
  | .warning => .yellow

namespace Diagnostic

def line (grammar : String) (pos : Position) (colour : Colour) (label : String) (fault : Fault) :
    List Output :=
  [.text (place grammar pos), .colour colour, .text (label ++ ": "), .plain,
    .text (fault.message ++ "\n")]

def colouredOutput (grammar : String) (d : Diagnostic) : List Output :=
  line grammar d.pos d.level.colour d.level.name d.fault ++
    d.notes.flatMap fun note => line grammar note.pos .green "note" note.fault

def plainOutput (grammar : String) (d : Diagnostic) : List Output :=
  [.text (d.render grammar ++ "\n")]

/-- At the first command that the terminal refuses, the plain form follows what has already been
written. -/
def emit (terminal : Terminal) (grammar : String) (d : Diagnostic) : List Output :=
  let coloured := d.colouredOutput grammar
  if terminal = .absent then d.plainOutput grammar
  else if coloured.all terminal.accepts then coloured
  else coloured.takeWhile terminal.accepts ++ d.plainOutput grammar

end Diagnostic

def Diagnostics.emit (terminal : Terminal) (grammar : String) (log : Diagnostics) : List Output :=
  log.flatMap (Diagnostic.emit terminal grammar)

end GrammarRefs
