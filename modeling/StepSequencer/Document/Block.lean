/-
This file finds the blocks of a document. A document is free text with fenced blocks: a line that
starts with the opening fence, any number of step lines, and the first line after it that starts
with three backticks. Behind the fence stands the header, whose first word says what the block is.
An opening fence without a closing one opens nothing.
-/

import StepSequencer.Text.Blank
import StepSequencer.Fault

namespace StepSequencer

/-- What a block describes. -/
inductive Directive where
  | sequence
  | part
  | arrangement
  /-- A part whose steps a named generator makes. -/
  | generated (generator : String)
deriving DecidableEq

/-- A fenced block of a document. -/
structure Block where
  directive : Directive
  /-- The whole header, directive included. -/
  header : String
  steps : List String
  /-- The line of the opening fence, counted from 1. -/
  line : Nat
deriving DecidableEq

namespace Document

/-- What opens a block at the start of a line. -/
def openingFence : List Char := "```beef".toList

/-- What closes a block at the start of a line. -/
def closingFence : List Char := "```".toList

/-- What the directive of a generated part starts with. -/
def generatedMark : List Char := ".func.".toList

/-- Reads a directive. -/
def readDirective (word : List Char) : Except SyntaxFault Directive :=
  if word = ".sequence".toList then .ok .sequence
  else if word = ".part".toList then .ok .part
  else if word = ".arrangement".toList then .ok .arrangement
  else if generatedMark.isPrefixOf word && generatedMark.length < word.length then
    .ok (.generated (String.ofList (word.drop generatedMark.length)))
  else .error (.unknownDirective (String.ofList word))

/-- The lines of a document, without their line feeds. -/
def lines (document : List Char) : List (List Char) :=
  Text.splitWhere (fun character => character == '\n') document

/-- A line without the carriage returns at its end. -/
def withoutReturns (line : List Char) : List Char :=
  (line.reverse.dropWhile (fun character => character == '\r')).reverse

/-- A block before its directive is read. -/
structure Fenced where
  line : Nat
  header : List Char
  steps : List (List Char)
deriving DecidableEq

/-- The step lines of the block that a line opens when `rest` follows it. A line that opens no block
and a fence that is never closed have none. -/
def openedSteps? (line : List Char) (rest : List (List Char)) : Option (List (List Char)) :=
  if openingFence.isPrefixOf line then
    let steps := rest.takeWhile fun other => !closingFence.isPrefixOf other
    if steps.length < rest.length then some steps else none
  else none

/-- The fenced blocks of some lines behind the first `skip`; `number` is the number of the first
line. The closing line of a block cannot open another one. -/
def fencedAfter : Nat → Nat → List (List Char) → List Fenced
  | _, _, [] => []
  | skip + 1, number, _ :: rest => fencedAfter skip (number + 1) rest
  | 0, number, line :: rest =>
    match openedSteps? line rest with
    | some steps =>
      ⟨number, Text.trim (line.drop openingFence.length), steps.map withoutReturns⟩ ::
        fencedAfter (steps.length + 1) (number + 1) rest
    | none => fencedAfter 0 (number + 1) rest

/-- Reads the directive of a fenced block. -/
def readBlock (fenced : Fenced) : Except DocumentFault Block :=
  match readDirective ((Text.words fenced.header).headD []) with
  | .ok directive =>
    .ok ⟨directive, String.ofList fenced.header, fenced.steps.map String.ofList, fenced.line⟩
  | .error cause => .error ⟨fenced.line, .grammar cause⟩

/-- The blocks of a document, in order. -/
def readBlocks (document : String) : Except DocumentFault (List Block) :=
  (fencedAfter 0 1 (lines document.toList)).mapM readBlock

end Document

end StepSequencer
