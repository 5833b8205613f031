/-
This file loads documents. The blocks of a document become a sequence: its settings, and its
playables in document order. Settings are read first, since parts need the tempo; the last block of
settings counts. Then all other blocks are read in order. Last, the words of the arrangement lines
are resolved: a name means the first part of that name, else the first arrangement of that name. An
arrangement is built when it is first needed, and once only. A reference to an arrangement that is
still being built closes a cycle; it is cut and leaves a warning, as does an unknown name.
-/

import StepSequencer.Document.Block
import StepSequencer.Pattern.Generation
import StepSequencer.Score.Playable

namespace StepSequencer

/-- How loading a document can fail. -/
abbrev LoadFailure := Failure DocumentFault

/-- A loaded document. -/
structure Sequence where
  settings : Settings
  /-- Every part and arrangement, in document order. -/
  playables : List Playable

namespace Sequence

/-- The parts, in document order. -/
def parts (sequence : Sequence) : List Part := sequence.playables.filterMap Playable.part?

/-- The arrangements, in document order. -/
def arrangements (sequence : Sequence) : List (Arrangement Playable) :=
  sequence.playables.filterMap Playable.arrangement?

/-- The first playable of a name. -/
def find? (sequence : Sequence) (name : String) : Option Playable :=
  sequence.playables.find? fun playable => playable.name == name

/-- What plays when nothing is asked for: the first arrangement, else the first part. -/
def default? (sequence : Sequence) : Option Playable :=
  (sequence.arrangements.head?.map Playable.arrangement).or
    (sequence.parts.head?.map Playable.part)

/-- The warnings of all playables, each behind the name of its playable. -/
def warnings (sequence : Sequence) : List String :=
  sequence.playables.flatMap fun playable =>
    playable.warnings.map fun warning => playable.name ++ ": " ++ warning.text

end Sequence

namespace Document

/-- A fault of a block in the notation, seen from the document. -/
def grammarFault (line : Nat) (cause : SyntaxFault) : DocumentFault := ⟨line, .grammar cause⟩

/-- Puts what failed in a block at the line of the block. -/
def locate {Value : Type} (line : Nat) (result : Except (Failure SyntaxFault) Value) :
    Except LoadFailure Value :=
  result.mapError (Failure.map (grammarFault line))

/-- Puts a fault of a block at the line of the block. -/
def locateFault {Value : Type} (line : Nat) (result : Except SyntaxFault Value) :
    Except LoadFailure Value :=
  result.mapError fun cause => .fault (grammarFault line cause)

/-- Reads the header of a block. -/
def blockMetadata (block : Block) : Except LoadFailure Metadata :=
  locateFault block.line (Header.readMetadata block.header.toList)

/-- The settings after a block: those of the block if it holds settings. -/
def settingsAfter (settings : Settings) (block : Block) : Except LoadFailure Settings :=
  if block.directive = .sequence then do
    let metadata ← blockMetadata block
    locateFault block.line (Settings.ofMetadata metadata)
  else .ok settings

/-- The settings of a document: those of its last block of settings. -/
def readSettings (blocks : List Block) : Except LoadFailure Settings :=
  blocks.foldlM settingsAfter Settings.default

/-- An arrangement whose lines have not been resolved. -/
structure Pending where
  header : ArrangementHeader
  steps : List String
  line : Nat
  slot : Nat
deriving DecidableEq

/-- A playable before references are resolved. -/
inductive Draft where
  | part (part : Part)
  | arrangement (pending : Pending)

/-- The step lines of a block that holds a part: the written ones, or those of its generator. -/
def partSteps (block : Block) (metadata : Metadata) : Except LoadFailure (List String) :=
  match block.directive with
  | .generated generator =>
    (Pattern.generate generator metadata).mapError fun cause =>
      .fault ⟨block.line, .pattern cause⟩
  | _ => .ok block.steps

/-- Reads a block that holds a playable. -/
def readDraft (bpm : Float) (slot : Nat) (block : Block) : Except LoadFailure Draft := do
  let metadata ← blockMetadata block
  if block.directive = .arrangement then
    return .arrangement ⟨ArrangementHeader.ofMetadata metadata, block.steps, block.line, slot⟩
  else
    let header ← locateFault block.line (PartHeader.ofMetadata metadata)
    let steps ← partSteps block metadata
    return .part (← locate block.line (Part.read header bpm (some slot) steps))

/-- The blocks that hold playables. -/
def playableBlocks (blocks : List Block) : List Block :=
  blocks.filter fun block => block.directive ≠ .sequence

/-- Reads all blocks that hold playables. -/
def readDrafts (bpm : Float) (blocks : List Block) : Except LoadFailure (List Draft) :=
  (playableBlocks blocks).zipIdx.mapM fun entry => readDraft bpm entry.2 entry.1

/-- What arrangement lines can refer to. -/
structure Scope where
  parts : List Part
  pending : List Pending

/-- The arrangements that are built so far, by their place among the pending ones. -/
abbrev Built := List (Nat × Arrangement Playable)

/-- The arrangement at a place, if it is built. -/
def Built.get? (built : Built) (index : Nat) : Option (Arrangement Playable) :=
  (built.find? fun entry => entry.1 == index).map Prod.snd

/-- A computation that builds arrangements on the way. -/
abbrev Building (Value : Type) := Built → Except LoadFailure (Value × Built)

/-- What a name in an arrangement line leads to. -/
inductive Reference where
  | voice (playable : Playable)
  | lost (warning : Warning)

/-- The playable of a reference. -/
def Reference.voice? : Reference → Option Playable
  | .voice playable => some playable
  | .lost _ => none

/-- The warning of a reference. -/
def Reference.warning? : Reference → Option Warning
  | .voice _ => none
  | .lost warning => some warning

/-- Resolves a name. The arrangements on `path` are being built; `build` builds another one. -/
def resolve (scope : Scope) (path : List Nat) (build : Nat → Building (Arrangement Playable))
    (name : String) : Building Reference := fun built =>
  match scope.parts.find? fun part => part.name == name with
  | some part => .ok (.voice (.part part), built)
  | none =>
    match scope.pending.findIdx? fun pending => pending.header.name == name with
    | none => .ok (.lost (.unknownReference name), built)
    | some index =>
      if index ∈ path then .ok (.lost (.cyclicReference name), built)
      else do
        let (arrangement, built) ← build index built
        return (.voice (.arrangement arrangement), built)

/-- Resolves the names of a line, in order. -/
def resolveNames (resolveName : String → Building Reference) :
    List String → Building (List Reference)
  | [], built => .ok ([], built)
  | name :: rest, built => do
    let (reference, built) ← resolveName name built
    let (references, built) ← resolveNames resolveName rest built
    return (reference :: references, built)

/-- Reads the lines of an arrangement and resolves their names; the repeat of a line is checked
before its names. -/
def resolveLines (line : Nat) (resolveName : String → Building Reference) :
    List String → Building (List (Line (List Reference)))
  | [], built => .ok ([], built)
  | text :: rest, built => do
    let repetition ← locateFault line (Notation.readRepeat text.toList)
    let (references, built) ← resolveNames resolveName (Notation.nameWords text.toList) built
    let (lines, built) ← resolveLines line resolveName rest built
    return (⟨text, repetition, references⟩ :: lines, built)

/-- A line with the voices that its references lead to. -/
def voicedLine (line : Line (List Reference)) : Line (List Playable) :=
  ⟨line.text, line.repetition, line.content.filterMap Reference.voice?⟩

/-- Builds a pending arrangement from its resolved lines. -/
def assemble (pending : Pending) (lines : List (Line (List Reference))) :
    Except LoadFailure (Arrangement Playable) :=
  Arrangement.ofLines pending.header.name pending.header.group
    (lines.flatMap fun line => line.content.filterMap Reference.warning?) (some pending.slot)
    (lines.map voicedLine)

/-- Builds the arrangement at a place, unless it is built already. Every arrangement on `path` waits
for this one, so the depth never exceeds the number of arrangements; that number is the first
argument of the outermost call, and the depth left is never used up. -/
def build (scope : Scope) : Nat → List Nat → Nat → Building (Arrangement Playable)
  | 0, _, _, _ => .error (.breakdown .depthOverflow)
  | depth + 1, path, index, built =>
    match built.get? index with
    | some arrangement => .ok (arrangement, built)
    | none =>
      match scope.pending[index]? with
      | none => .error (.breakdown .depthOverflow)
      | some pending => do
        let resolveName := resolve scope (index :: path) (build scope depth (index :: path))
        let (lines, built) ← resolveLines pending.line resolveName pending.steps built
        let arrangement ← assemble pending lines
        return (arrangement, (index, arrangement) :: built)

/-- Builds the arrangements at some places, in order. -/
def buildAll (scope : Scope) : List Nat → Building (List (Arrangement Playable))
  | [], built => .ok ([], built)
  | index :: rest, built => do
    let (arrangement, built) ← build scope scope.pending.length [] index built
    let (arrangements, built) ← buildAll scope rest built
    return (arrangement :: arrangements, built)

/-- The parts among some drafts. -/
def draftParts (drafts : List Draft) : List Part :=
  drafts.filterMap fun
    | .part part => some part
    | .arrangement _ => none

/-- The pending arrangements among some drafts. -/
def draftPending (drafts : List Draft) : List Pending :=
  drafts.filterMap fun
    | .part _ => none
    | .arrangement pending => some pending

/-- Puts the built arrangements where their drafts stood. -/
def placeArrangements : List Draft → List (Arrangement Playable) → List Playable
  | [], _ => []
  | .part part :: drafts, arrangements => .part part :: placeArrangements drafts arrangements
  | .arrangement _ :: drafts, arrangement :: arrangements =>
    .arrangement arrangement :: placeArrangements drafts arrangements
  | .arrangement _ :: _, [] => []

/-- The playables of some drafts. -/
def resolveDrafts (drafts : List Draft) : Except LoadFailure (List Playable) := do
  let scope : Scope := ⟨draftParts drafts, draftPending drafts⟩
  let (arrangements, _) ← buildAll scope (List.range scope.pending.length) []
  return placeArrangements drafts arrangements

/-- Loads the blocks of a document. -/
def loadBlocks (blocks : List Block) : Except LoadFailure Sequence := do
  let settings ← readSettings blocks
  let drafts ← readDrafts settings.bpm blocks
  return ⟨settings, ← resolveDrafts drafts⟩

end Document

/-- Loads a document. -/
def Sequence.load (document : String) : Except LoadFailure Sequence := do
  Document.loadBlocks (← (Document.readBlocks document).mapError .fault)

end StepSequencer
