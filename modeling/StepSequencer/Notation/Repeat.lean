/-
This file holds the repeat of a step line. A line may end in `*N`, which plays it N times, or carry
`*N%M` anywhere, which lets only every M-th of the N copies sound. The leftmost `*N%M` wins over a
final `*N`; without either a line plays once. The expansion of a repeat into its copies is shared by
everything that has step lines.
-/

import StepSequencer.Numeric.Reading
import StepSequencer.Text.Blank
import StepSequencer.Text.DecimalDigit
import StepSequencer.Fault

namespace StepSequencer

/-- How many copies of a step line play, and which of them sound. -/
structure Repeat where
  times : Nat
  /-- With 0 every copy sounds. -/
  modulo : Nat
deriving DecidableEq

/-- A line without a repeat plays once. -/
def Repeat.once : Repeat := ⟨1, 0⟩

/-- Whether the copy with the given position, counted from 1, sounds. -/
def Repeat.sounds (repetition : Repeat) (position : Nat) : Bool :=
  repetition.modulo == 0 || position % repetition.modulo == 0

/-- The texts of the copies: the first one carries the line, the others are empty. -/
def Repeat.texts (repetition : Repeat) (line : String) : List String :=
  (List.range repetition.times).map fun index => if index = 0 then line else ""

/-- The contents of the copies: those that sound carry the content, the others the rest. -/
def Repeat.contents {Content : Type} (repetition : Repeat) (sounding resting : Content) :
    List Content :=
  (List.range repetition.times).map fun index =>
    if repetition.sounds (index + 1) then sounding else resting

namespace Notation

/-- The two runs of digits of `N%M` at the front of a text, of which neither may be empty. -/
def moduloDigits? (text : List Char) : Option (List Char × List Char) :=
  let times := text.takeWhile Text.isDecimalDigit
  match text.dropWhile Text.isDecimalDigit with
  | '%' :: rest =>
    let modulo := rest.takeWhile Text.isDecimalDigit
    if times.isEmpty || modulo.isEmpty then none else some (times, modulo)
  | _ => none

/-- The digits of the leftmost `*N%M` of a text. -/
def findModulo? : List Char → Option (List Char × List Char)
  | [] => none
  | character :: rest =>
    if character == '*' then (moduloDigits? rest).or (findModulo? rest) else findModulo? rest

/-- The digits of a `*N` that ends a text. -/
def findTimes? (text : List Char) : Option (List Char) :=
  let digits := (text.reverse.takeWhile Text.isDecimalDigit).reverse
  match text.reverse.dropWhile Text.isDecimalDigit with
  | '*' :: _ => if digits.isEmpty then none else some digits
  | _ => none

/-- Reads a count of copies; only the digits `0` to `9` make a number, and it must fit 64 bits. -/
def readCount (digits : List Char) : Except SyntaxFault Nat :=
  match Numeric.readNaturalBelow? (Nat.pow 2 64) digits with
  | some value => .ok value
  | none => .error (.invalidNumber (String.ofList digits))

/-- The repeat that is written on a line, before its count is checked. -/
def writtenRepeat (line : List Char) : Except SyntaxFault Repeat :=
  match findModulo? line with
  | some (times, modulo) => do return ⟨← readCount times, ← readCount modulo⟩
  | none =>
    match findTimes? (Text.trimEnd line) with
    | some times => do return ⟨← readCount times, 0⟩
    | none => .ok Repeat.once

/-- The repeat of a line; a line must play at least once. -/
def readRepeat (line : List Char) : Except SyntaxFault Repeat := do
  let repetition ← writtenRepeat line
  if repetition.times = 0 then .error (.zeroMultiplier (String.ofList line)) else .ok repetition

/-- Whether a word can be the name of a playable, by its first character. -/
def looksLikeName : List Char → Bool
  | character :: _ => character.isAlphanum || "'_-".toList.contains character
  | [] => false

/-- The words of a line that look like names of playables. -/
def nameWords (line : List Char) : List String :=
  ((Text.words line).filter looksLikeName).map String.ofList

end Notation

end StepSequencer
