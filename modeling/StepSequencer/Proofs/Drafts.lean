/-
This file says what the blocks of a document come to when their line numbers and the places of what
they hold are forgotten. A block says by itself what settings, what part or what pending arrangement
it holds, and a draft becomes a playable by itself once names have meanings. So reading all blocks
is reading each of them, and resolving all drafts is taking the meaning of each of them.
-/

import StepSequencer.Proofs.Meanings

namespace StepSequencer

/-- To ask for the members of a list by their indices is to ask for its members. -/
theorem mapM_getElem? {Member Value : Type} (members : List Member)
    (value? : Member → Option Value) :
    ((List.range members.length).mapM fun index => members[index]?.bind value?) =
      members.mapM value? := by
  have values : (List.range members.length).map (fun index => members[index]?.bind value?) =
      members.map value? := by
    refine List.ext_getElem (by simp) fun index first second => ?_
    have within : index < members.length := by simpa using second
    simp [List.getElem?_eq_getElem within]
  have read {Text : Type} (value? : Text → Option Value) (texts : List Text) :
      texts.mapM value? = (texts.map value?).mapM id := by
    rw [List.mapM_map]
    rfl
  rw [read, values, ← read]

namespace Document

/-! ### Drafts without places -/

namespace Draft

/-- The name of what a draft will be. -/
def name : Draft → String
  | .part single => single.name
  | .arrangement pending => pending.header.name

/-- A draft without its place. -/
def unplaced : Draft → Draft
  | .part single => .part single.unplaced
  | .arrangement pending => .arrangement pending.unplaced

/-- What a draft will be, without its place, when arrangements have some meaning. -/
def playable? (meaning : String → Option (Arrangement Playable)) : Draft → Option Playable
  | .part single => some (.part single.unplaced)
  | .arrangement pending => (meaning pending.header.name).map .arrangement

@[simp]
theorem name_unplaced (draft : Draft) : draft.unplaced.name = draft.name := by
  cases draft <;> rfl

theorem playable?_unplaced (meaning : String → Option (Arrangement Playable)) (draft : Draft) :
    draft.unplaced.playable? meaning = draft.playable? meaning := by
  cases draft <;> rfl

end Draft

/-- What the drafts of a document can refer to. -/
def draftScope (drafts : List Draft) : Scope := ⟨draftParts drafts, draftPending drafts⟩

section Placing

variable {meaning : String → Option (Arrangement Playable)}

theorem map_placeArrangements (drafts : List Draft)
    (arrangements : List (Arrangement Playable)) :
    (placeArrangements drafts arrangements).map Playable.unplaced =
      placeArrangements (drafts.map Draft.unplaced)
        (arrangements.map Playable.unplacedArrangement) := by
  induction drafts generalizing arrangements with
  | nil => rfl
  | cons draft rest inductionHypothesis =>
    cases draft with
    | part single => exact congrArg (List.cons _) (inductionHypothesis arrangements)
    | arrangement pending =>
      cases arrangements with
      | nil => rfl
      | cons arrangement others => exact congrArg (List.cons _) (inductionHypothesis others)

/-- When arrangements stand where their drafts stood, everything is what its draft will be. -/
theorem mapM_playable? (drafts : List Draft) :
    drafts.mapM (Draft.playable? meaning) =
      ((draftPending drafts).mapM fun pending => meaning pending.header.name).bind
        fun arrangements => some (placeArrangements (drafts.map Draft.unplaced) arrangements) := by
  induction drafts with
  | nil => rfl
  | cons draft rest inductionHypothesis =>
    rw [List.mapM_cons, inductionHypothesis]
    cases draft with
    | part single =>
      have same : draftPending (.part single :: rest) = draftPending rest := rfl
      rw [same]
      cases (draftPending rest).mapM fun pending => meaning pending.header.name <;> rfl
    | arrangement pending =>
      have more : draftPending (.arrangement pending :: rest) = pending :: draftPending rest := rfl
      rw [more, List.mapM_cons, Draft.playable?]
      cases meaning pending.header.name with
      | none => rfl
      | some arrangement =>
        cases (draftPending rest).mapM fun pending => meaning pending.header.name <;> rfl

/-- When references form no cycle, resolving the references of some drafts gives what the drafts
will be, if all of them will be something. -/
theorem toOption_resolveDrafts {drafts : List Draft}
    (distinct : ((draftPending drafts).map fun pending => pending.header.name).Nodup)
    (acyclic : ∀ name, ¬ Relation.TransGen (draftScope drafts).glossary.Refers name name)
    (isMeaning : (draftScope drafts).glossary.IsMeaning meaning) :
    (resolveDrafts drafts).toOption.map (List.map Playable.unplaced) =
      drafts.mapM (Draft.playable? meaning) := by
  have begun : Built.Means meaning (draftScope drafts) [] := nofun
  have computes := computes_buildAll distinct acyclic isMeaning
    (fun _ => List.mem_range.mp) begun
  rw [mapM_getElem?] at computes
  have resolved : resolveDrafts drafts =
      buildAll (draftScope drafts) (List.range (draftScope drafts).pending.length) [] >>=
        fun result => .ok (placeArrangements drafts result.1) := rfl
  have pending : draftPending drafts = (draftScope drafts).pending := rfl
  rw [mapM_playable?, resolved, pending]
  generalize buildAll _ _ _ = result at computes ⊢
  generalize ((draftScope drafts).pending.mapM fun pending => meaning pending.header.name) =
    expected at computes ⊢
  cases computes with
  | gives arrangements kept => exact congrArg some (map_placeArrangements drafts arrangements)
  | fails failure => rfl

end Placing

end Document

/-! ### Blocks without line numbers -/

namespace Block

/-- A block without its line number. -/
def unnumbered (block : Block) : Block := { block with line := 0 }

/-- The name of the playable that a block holds, if its header can be read. -/
def name? (block : Block) : Option String :=
  if block.directive = .sequence then none
  else (Header.readMetadata block.header.toList).toOption.map fun metadata =>
    metadata.textOr "name" defaultName

/-- The words in the lines of a block that may refer to something. -/
def words (block : Block) : List String :=
  block.steps.flatMap fun text => Notation.nameWords text.toList

/-- The settings in a block that holds settings. -/
def settings? (block : Block) : Option Settings := do
  let metadata ← (Header.readMetadata block.header.toList).toOption
  (Settings.ofMetadata metadata).toOption

/-- The steps in a block that holds a part. -/
def partSteps? (block : Block) (metadata : Metadata) : Option (List String) :=
  match block.directive with
  | .generated generator => (Pattern.generate generator metadata).toOption
  | _ => some block.steps

/-- What a block that holds a playable says of it, without its place. -/
def draft? (bpm : Float) (block : Block) : Option Document.Draft := do
  let metadata ← (Header.readMetadata block.header.toList).toOption
  if block.directive = .arrangement then
    return .arrangement ⟨ArrangementHeader.ofMetadata metadata, block.steps, 0, 0⟩
  else
    let header ← (PartHeader.ofMetadata metadata).toOption
    let steps ← block.partSteps? metadata
    let part ← (Part.read header bpm none steps).toOption
    return .part part

end Block

/-- The slot of a part that is read is written on it, and that is all. -/
theorem Part.toOption_read (header : PartHeader) (bpm : Float) (slot : Option Nat)
    (texts : List String) :
    (Part.read header bpm slot texts).toOption.map Part.unplaced =
      (Part.read header bpm none texts).toOption := by
  rw [Part.read, Part.read]
  cases texts.mapM readPartLine with
  | error failure => rfl
  | ok lines =>
    show (Part.ofLines header bpm slot lines).toOption.map Part.unplaced =
      (Part.ofLines header bpm none lines).toOption
    rw [Part.ofLines, Part.ofLines]
    generalize (pulsesSpan _ bpm : Except (Failure SyntaxFault) Span) = span
    cases span <;> rfl

namespace Document

theorem toOption_partSteps (block : Block) (metadata : Metadata) :
    (partSteps block metadata).toOption = block.partSteps? metadata := by
  rw [partSteps, Block.partSteps?]
  cases block.directive with
  | generated generator => exact toOption_mapError _ _
  | sequence | part | arrangement => rfl

/-- What a block says does not depend on its line or on its place. -/
theorem toOption_readDraft (bpm : Float) (slot : Nat) (block : Block) :
    (readDraft bpm slot block).toOption.map Draft.unplaced = block.draft? bpm := by
  rw [readDraft, Block.draft?, blockMetadata]
  cases Header.readMetadata block.header.toList with
  | error cause => rfl
  | ok metadata =>
    show (ite _ _ _ : Except LoadFailure Draft).toOption.map _ = ite _ _ _
    by_cases arranges : block.directive = .arrangement
    · rw [if_pos arranges, if_pos arranges]
      rfl
    · rw [if_neg arranges, if_neg arranges, ← toOption_partSteps]
      cases PartHeader.ofMetadata metadata with
      | error cause => rfl
      | ok header =>
        cases partSteps block metadata with
        | error failure => rfl
        | ok steps =>
          show ((locate block.line (Part.read header bpm (some slot) steps)) >>= fun part =>
              Except.ok (Draft.part part)).toOption.map Draft.unplaced =
            (Part.read header bpm none steps).toOption.bind fun part => some (.part part)
          rw [← Part.toOption_read header bpm (some slot)]
          cases Part.read header bpm (some slot) steps <;> rfl

theorem toOption_readDrafts (bpm : Float) (blocks : List Block) :
    (readDrafts bpm blocks).toOption.map (List.map Draft.unplaced) =
      (playableBlocks blocks).mapM (Block.draft? bpm) := by
  rw [readDrafts]
  generalize playableBlocks blocks = blocks
  generalize 0 = start
  induction blocks generalizing start with
  | nil => rfl
  | cons block rest inductionHypothesis =>
    rw [List.zipIdx_cons, List.mapM_cons, List.mapM_cons, ← inductionHypothesis (start + 1),
      ← toOption_readDraft bpm start]
    cases readDraft bpm start block with
    | error failure => rfl
    | ok draft =>
      cases (rest.zipIdx (start + 1)).mapM fun entry => readDraft bpm entry.2 entry.1 <;> rfl

/-- Whether a block holds settings. -/
def holdsSettings (block : Block) : Bool := block.directive = .sequence

theorem toOption_readSettings {blocks : List Block}
    (single : (blocks.filter holdsSettings).length ≤ 1) :
    (readSettings blocks).toOption =
      ((blocks.filter holdsSettings).head?.map Block.settings?).getD (some Settings.default) := by
  have filtered : readSettings blocks = (blocks.filter holdsSettings).foldlM
      (fun _ block => blockMetadata block >>= fun metadata =>
        locateFault block.line (Settings.ofMetadata metadata)) Settings.default := by
    rw [List.foldlM_filter, readSettings]
    congr 1
    funext settings block
    rw [settingsAfter, holdsSettings]
    by_cases holds : block.directive = .sequence
    · simp [holds]
    · simp [holds]
      rfl
  rw [filtered]
  generalize blocks.filter holdsSettings = settings at single ⊢
  match settings, single with
  | [], _ => rfl
  | [block], _ =>
    rw [List.foldlM_cons, blockMetadata]
    show _ = block.settings?
    rw [Block.settings?]
    cases Header.readMetadata block.header.toList with
    | error cause => rfl
    | ok metadata =>
      show (locateFault block.line (Settings.ofMetadata metadata) >>= pure).toOption =
        (Settings.ofMetadata metadata).toOption
      rw [bind_pure]
      exact toOption_mapError _ _

end Document

end StepSequencer
