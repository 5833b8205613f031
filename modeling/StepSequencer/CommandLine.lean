/-
This file holds the command line: a document, and the name of what to play from it. Without a name
the default playable of the document plays. A request is answered by the lines to print, the
warnings of the document, or the reason why nothing can be played.
-/

import StepSequencer.Playback.Transcript

namespace StepSequencer

/-- What the command line asks for. -/
structure CommandLine where
  document : Option String
  playable : Option String
deriving DecidableEq

namespace CommandLine

/-- The command line without arguments. -/
def empty : CommandLine := ⟨none, none⟩

/-- Reads arguments: `--play` or `-p` with a name, and the path of a document. -/
def ofArguments : List String → CommandLine
  | [] => empty
  | "--play" :: name :: rest => { ofArguments rest with playable := some name }
  | "-p" :: name :: rest => { ofArguments rest with playable := some name }
  | path :: rest => { ofArguments rest with document := some path }

end CommandLine

/-- What is printed for a document. -/
structure Printout where
  warnings : List String
  lines : List String
deriving DecidableEq

/-- Why a document is not loaded. -/
def loadMessage : LoadFailure → String
  | .fault fault => fault.message
  | .breakdown _ => "a number is out of range"

/-- What is to be played from a document. -/
def choose (sequence : Sequence) : Option String → Except String Playable
  | some name =>
    match sequence.find? name with
    | some playable => .ok playable
    | none => .error ("no part or arrangement named '" ++ name ++ "'")
  | none =>
    match sequence.default? with
    | some playable => .ok playable
    | none => .error "document has no parts or arrangements"

/-- Loads a document and writes down a play of it. -/
def printout (document : String) (name : Option String) : Except String Printout := do
  let sequence ← (Sequence.load document).mapError loadMessage
  let playable ← choose sequence name
  return {
    warnings := sequence.warnings.map fun warning => "warning: " ++ warning
    lines := playable.title :: transcript sequence.settings.forPlay playable }

end StepSequencer
