/-
This file reads a header as a list of keys with typed values. A header may open with a directive,
which is passed over; then every key is followed by a colon and a value. When a key is repeated the
last value counts.
-/

import StepSequencer.Fault
import StepSequencer.Header.Token

namespace StepSequencer

/-- A value of a header. -/
inductive Value where
  | number (value : Float)
  | boolean (value : Bool)
  | text (value : String)

/-- A value as text. -/
def Value.show : Value → String
  | .number value => Numeric.floatText value
  | .boolean value => Header.booleanText value
  | .text value => value

/-- The keys and values of a header, the latest first. -/
structure Metadata where
  entries : List (String × Value)

namespace Metadata

/-- A header that says nothing. -/
def empty : Metadata := ⟨[]⟩

/-- Adds a key, hiding the values that the key had before. -/
def insert (metadata : Metadata) (key : String) (value : Value) : Metadata :=
  ⟨(key, value) :: metadata.entries⟩

/-- The value of a key. -/
def get? (metadata : Metadata) (key : String) : Option Value :=
  (metadata.entries.find? fun entry => entry.1 == key).map Prod.snd

/-- The value of a key if it is a number. -/
def number? (metadata : Metadata) (key : String) : Option Float :=
  match metadata.get? key with
  | some (.number value) => some value
  | _ => none

/-- The value of a key if it is a truth value. -/
def boolean? (metadata : Metadata) (key : String) : Option Bool :=
  match metadata.get? key with
  | some (.boolean value) => some value
  | _ => none

/-- The value of a key as text, whatever its type, so that a name may be a number. -/
def text? (metadata : Metadata) (key : String) : Option String :=
  (metadata.get? key).map Value.show

/-- The value of a key as text, or a default. -/
def textOr (metadata : Metadata) (key default : String) : String :=
  (metadata.text? key).getD default

/-- The number of a key; another type of value is a fault. -/
def requireNumber (metadata : Metadata) (key : String) : Except SyntaxFault (Option Float) :=
  match metadata.get? key with
  | none => .ok none
  | some (.number value) => .ok (some value)
  | some other => .error (.invalidValue key other.show)

/-- The truth value of a key; another type of value is a fault. -/
def requireBoolean (metadata : Metadata) (key : String) : Except SyntaxFault (Option Bool) :=
  match metadata.get? key with
  | none => .ok none
  | some (.boolean value) => .ok (some value)
  | some other => .error (.invalidValue key other.show)

end Metadata

namespace Header

/-- Reads the token of a value. -/
def readValue : List Token → Except SyntaxFault Value
  | .number literal :: _ =>
    match Numeric.readFloat? literal with
    | some value => .ok (.number value)
    | none => .error (.invalidNumber (String.ofList literal))
  | .boolean value :: _ => .ok (.boolean value)
  | .identifier text :: _ => .ok (.text (String.ofList text))
  | .quoted text :: _ => .ok (.text (String.ofList text))
  | .unterminated text :: _ => .error (.unterminatedString (String.ofList text))
  | tokens => .error (.unexpectedToken .value (headText tokens))

/-- Adds the keys and values of some tokens to what has been read. -/
def readEntries (metadata : Metadata) : List Token → Except SyntaxFault Metadata
  | [] => .ok metadata
  | .identifier key :: .colon :: tokens => do
    let value ← readValue tokens
    match tokens with
    | [] => .ok metadata
    | _ :: rest => readEntries (metadata.insert (String.ofList key) value) rest
  | .identifier _ :: tokens => .error (.unexpectedToken .colon (headText tokens))
  | .unterminated text :: _ => .error (.unterminatedString (String.ofList text))
  | token :: _ => .error (.unexpectedToken .identifier token.text)

/-- The tokens behind a leading directive, if the line opens with one. -/
def withoutDirective (line : List Char) (tokens : List Token) : List Token :=
  match tokens with
  | .identifier _ :: rest => if (Text.trimStart line).head? = some '.' then rest else tokens
  | _ => tokens

/-- Reads a header line. -/
def readMetadata (line : List Char) : Except SyntaxFault Metadata :=
  readEntries Metadata.empty (withoutDirective line (tokens line))

end Header

end StepSequencer
