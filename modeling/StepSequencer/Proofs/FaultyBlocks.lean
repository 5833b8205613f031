/-
This file says which block a faulty document is blamed on. The blocks are read in several passes,
and the arrangements are built in the order in which references lead to them. Whichever pass comes
upon a fault puts it at the line of the block in which it was found. That line is the line of an
opening fence, and the block behind it has the fault by itself: it is blamed for the same fault when
it is loaded alone, with nothing that it refers to and nothing that refers to it.
-/

import StepSequencer.Proofs.Accounts
import StepSequencer.Proofs.FirstFaults

namespace StepSequencer

/-! ### Faulty blocks -/

/-- Whether a step line of a part is faulty, in its repeat or in its notes. -/
def FaultyLine (text : String) (cause : SyntaxFault) : Prop :=
  Notation.readRepeat text.toList = .error cause ∨
    Notation.readNodes text.toList = .error (.fault cause)

/-- Whether a block has a fault by itself. -/
inductive Block.Faulty (block : Block) : BlockFault → Prop
  | header {cause : SyntaxFault} (failed : Header.readMetadata block.header.toList = .error cause) :
      Faulty block (.grammar cause)
  | settings {metadata : Metadata} {cause : SyntaxFault} (holds : block.directive = .sequence)
      (read : Header.readMetadata block.header.toList = .ok metadata)
      (failed : Settings.ofMetadata metadata = .error cause) :
      Faulty block (.grammar cause)
  | part {metadata : Metadata} {cause : SyntaxFault} (holds : block.holdsPart = true)
      (read : Header.readMetadata block.header.toList = .ok metadata)
      (failed : PartHeader.ofMetadata metadata = .error cause) :
      Faulty block (.grammar cause)
  | generator {metadata : Metadata} {generator : String} {cause : PatternFault}
      (holds : block.directive = .generated generator)
      (read : Header.readMetadata block.header.toList = .ok metadata)
      (failed : Pattern.generate generator metadata = .error cause) :
      Faulty block (.pattern cause)
  | line {metadata : Metadata} {texts : List String} {text : String} {cause : SyntaxFault}
      (holds : block.holdsPart = true)
      (read : Header.readMetadata block.header.toList = .ok metadata)
      (made : block.partSteps? metadata = some texts) (member : text ∈ texts)
      (failed : FaultyLine text cause) :
      Faulty block (.grammar cause)
  | arrangementLine {text : String} {cause : SyntaxFault} (holds : block.directive = .arrangement)
      (member : text ∈ block.steps) (failed : Notation.readRepeat text.toList = .error cause) :
      Faulty block (.grammar cause)

/-- Whether a block is to blame for a fault: it stands at the line of the fault and has the fault by
itself, also when it is loaded alone. -/
structure Block.ToBlame (block : Block) (fault : DocumentFault) : Prop where
  line : block.line = fault.line
  faulty : block.Faulty fault.cause
  alone : Document.loadBlocks [block] = .error (.fault fault)

namespace Document

/-- Whether a fenced block has a fault by itself: nobody knows its directive, or it is a faulty
block. -/
inductive Fenced.Faulty (fenced : Fenced) : BlockFault → Prop
  | directive {cause : SyntaxFault}
      (failed : readDirective ((Text.words fenced.header).headD []) = .error cause) :
      Faulty fenced (.grammar cause)
  | block {block : Block} {cause : BlockFault} (read : readBlock fenced = .ok block)
      (faulty : block.Faulty cause) :
      Faulty fenced cause

/-- Loads a fenced block alone. -/
def Fenced.loadAlone (fenced : Fenced) : Except LoadFailure Sequence := do
  loadBlocks [← (readBlock fenced).mapError .fault]

/-- Whether a fenced block stands in some lines, of which the first has a number: the block has the
number of the line that opens it, and says what that line and the lines behind it say. -/
def Fenced.StandsIn (fenced : Fenced) (number : Nat) (texts : List (List Char)) : Prop :=
  ∃ front line rest steps, texts = front ++ line :: rest ∧ fenced.line = number + front.length ∧
    openedSteps? line rest = some steps ∧
    fenced.header = Text.trim (line.drop openingFence.length) ∧
    fenced.steps = steps.map withoutReturns

theorem Fenced.StandsIn.cons {fenced : Fenced} {number : Nat} {texts : List (List Char)}
    (stands : fenced.StandsIn (number + 1) texts) (text : List Char) :
    fenced.StandsIn number (text :: texts) := by
  obtain ⟨front, line, rest, steps, rfl, numbered, opened⟩ := stands
  refine ⟨text :: front, line, rest, steps, rfl, ?_, opened⟩
  rw [numbered, List.length_cons, Nat.add_assoc, Nat.add_comm 1]

theorem standsIn_of_mem_fencedAfter {skip number : Nat} {texts : List (List Char)}
    {fenced : Fenced} (member : fenced ∈ fencedAfter skip number texts) :
    fenced.StandsIn number texts := by
  induction texts generalizing skip number with
  | nil => cases skip <;> cases member
  | cons line rest inductionHypothesis =>
    cases skip with
    | succ skip => exact (inductionHypothesis member).cons line
    | zero =>
      rw [fencedAfter] at member
      split at member
      next steps opened =>
        rcases List.mem_cons.mp member with rfl | behind
        · exact ⟨[], line, rest, steps, rfl, rfl, opened, rfl, rfl⟩
        · exact (inductionHypothesis behind).cons line
      next => exact (inductionHypothesis member).cons line

/-- A fenced block that is not read has an unknown directive. -/
theorem of_readBlock_eq_error {fenced : Fenced} {fault : DocumentFault}
    (failed : readBlock fenced = .error fault) :
    fenced.line = fault.line ∧ fenced.Faulty fault.cause := by
  unfold readBlock at failed
  split at failed
  next => cases failed
  next cause unknown =>
    obtain rfl := Except.error.inj failed
    exact ⟨rfl, .directive unknown⟩

theorem line_of_readBlock {fenced : Fenced} {block : Block} (read : readBlock fenced = .ok block) :
    block.line = fenced.line := by
  unfold readBlock at read
  split at read
  next =>
    obtain rfl := Except.ok.inj read
    rfl
  next => cases read

/-! ### Blocks of settings -/

theorem exists_of_foldlM_eq_error {Fault State Item : Type}
    {step : State → Item → Except Fault State} {items : List Item} {start : State} {failure : Fault}
    (failed : items.foldlM step start = .error failure) :
    ∃ state, ∃ item ∈ items, step state item = .error failure := by
  induction items generalizing start with
  | nil => cases failed
  | cons item rest inductionHypothesis =>
    rw [List.foldlM_cons] at failed
    rcases bind_eq_error_iff.mp failed with first | ⟨after, _, failed⟩
    · exact ⟨start, item, List.mem_cons_self, first⟩
    · obtain ⟨state, other, member, found⟩ := inductionHypothesis failed
      exact ⟨state, other, List.mem_cons_of_mem _ member, found⟩

/-- What is wrong with a block of settings does not depend on the settings before it. -/
theorem toBlame_of_settingsAfter {settings : Settings} {block : Block} {failure : LoadFailure}
    (failed : settingsAfter settings block = .error failure) :
    ∃ fault, failure = .fault fault ∧ block.ToBlame fault := by
  unfold settingsAfter at failed
  split at failed
  next holds =>
    have alone : loadBlocks [block] = .error failure := by
      have again : settingsAfter Settings.default block = .error failure :=
        (if_pos holds).trans failed
      have settingsFail : readSettings [block] = .error failure := by
        rw [readSettings, List.foldlM_cons]
        exact bind_eq_error_iff.mpr (.inl again)
      exact bind_eq_error_iff.mpr (.inl settingsFail)
    rcases bind_eq_error_iff.mp failed with unread | ⟨metadata, read, misshapen⟩
    · obtain ⟨cause, broken, rfl⟩ := mapError_eq_error_iff.mp unread
      exact ⟨_, rfl, rfl, .header broken, alone⟩
    · obtain ⟨cause, broken, rfl⟩ := mapError_eq_error_iff.mp misshapen
      exact ⟨_, rfl, rfl, .settings holds (mapError_eq_ok_iff.mp read) broken, alone⟩
  next => cases failed

/-! ### Blocks of parts -/

/-- A line that is not read for a fault is faulty. -/
theorem faultyLine_of_readPartLine {text : String} {cause : SyntaxFault}
    (failed : readPartLine text = .error (.fault cause)) : FaultyLine text cause := by
  rcases of_readPartLine_eq_error failed with ⟨other, unread, same⟩ | unread
  · cases same
    exact .inl unread
  · exact .inr unread

/-- A part has no fault but those of its lines. -/
theorem Part.read_eq_fault_iff {header : PartHeader} {bpm : Float} {slot : Option Nat}
    {texts : List String} {cause : SyntaxFault} :
    Part.read header bpm slot texts = .error (.fault cause) ↔
      texts.mapM readPartLine = .error (.fault cause) := by
  refine ⟨fun failed => ?_, fun failed => bind_eq_error_iff.mpr (.inl failed)⟩
  rcases Part.of_read_eq_error failed with inLine | other
  · exact inLine
  · cases other

theorem partSteps_eq_error {block : Block} {metadata : Metadata} {failure : LoadFailure}
    (failed : partSteps block metadata = .error failure) :
    ∃ generator cause, block.directive = .generated generator ∧
      Pattern.generate generator metadata = .error cause ∧
      failure = .fault ⟨block.line, .pattern cause⟩ := by
  unfold partSteps at failed
  split at failed
  next generator named =>
    obtain ⟨cause, unmade, rfl⟩ := mapError_eq_error_iff.mp failed
    exact ⟨generator, cause, named, unmade, rfl⟩
  next => cases failed

theorem readDraft_of_holdsPart {block : Block} {metadata : Metadata}
    (holds : block.holdsPart = true) (read : blockMetadata block = .ok metadata)
    (bpm : Float) (slot : Nat) :
    readDraft bpm slot block = (do
      let header ← locateFault block.line (PartHeader.ofMetadata metadata)
      let texts ← partSteps block metadata
      return .part (← locate block.line (Part.read header bpm (some slot) texts))) := by
  have arranges : block.directive ≠ .arrangement :=
    of_decide_eq_true (Bool.and_eq_true_iff.mp holds).2
  rw [readDraft, read, ok_bind, if_neg arranges]

/-- A part that is located at its block and has a fault has a faulty line, whatever its tempo. -/
theorem of_locate_read_eq_fault {line : Nat} {header : PartHeader} {bpm : Float} {slot : Option Nat}
    {texts : List String} {fault : DocumentFault}
    (failed : locate line (Part.read header bpm slot texts) = .error (.fault fault)) :
    ∃ cause, fault = grammarFault line cause ∧ (∃ text ∈ texts, FaultyLine text cause) ∧
      ∀ bpm slot, locate line (Part.read header bpm slot texts) = .error (.fault fault) := by
  obtain ⟨cause | reason, broken, same⟩ := mapError_eq_error_iff.mp failed
  · cases same
    have inLines := Part.read_eq_fault_iff.mp broken
    obtain ⟨text, member, inLine⟩ := exists_of_mapM_eq_error inLines
    refine ⟨cause, rfl, ⟨text, member, faultyLine_of_readPartLine inLine⟩, fun bpm slot => ?_⟩
    exact mapError_eq_error_iff.mpr ⟨.fault cause, Part.read_eq_fault_iff.mpr inLines, rfl⟩
  · cases same

/-- What is wrong with a block that holds a part does not depend on the tempo or on its place. -/
theorem of_readDraft_part_eq_fault {bpm : Float} {slot : Nat} {block : Block} {metadata : Metadata}
    {fault : DocumentFault} (holds : block.holdsPart = true)
    (read : blockMetadata block = .ok metadata)
    (failed : readDraft bpm slot block = .error (.fault fault)) :
    block.line = fault.line ∧ block.Faulty fault.cause ∧
      ∀ bpm slot, readDraft bpm slot block = .error (.fault fault) := by
  have known := mapError_eq_ok_iff.mp read
  rw [readDraft_of_holdsPart holds read] at failed
  simp only [readDraft_of_holdsPart holds read]
  -- every step that comes before the faulty one succeeds with any tempo
  rcases bind_eq_error_iff.mp failed with misshapen | ⟨header, headed, failed⟩
  · obtain ⟨cause, broken, same⟩ := mapError_eq_error_iff.mp misshapen
    cases same
    exact ⟨rfl, .part holds known broken, fun _ _ => bind_eq_error_iff.mpr (.inl misshapen)⟩
  rw [headed]
  simp only [ok_bind]
  rcases bind_eq_error_iff.mp failed with unmade | ⟨texts, made, failed⟩
  · obtain ⟨generator, cause, named, broken, same⟩ := partSteps_eq_error unmade
    cases same
    exact ⟨rfl, .generator named known broken, fun _ _ => bind_eq_error_iff.mpr (.inl unmade)⟩
  have some : block.partSteps? metadata = some texts := by
    rw [← toOption_partSteps, made]
    rfl
  rw [made]
  simp only [ok_bind]
  rcases bind_eq_error_iff.mp failed with located | ⟨_, _, done⟩
  · obtain ⟨cause, rfl, ⟨text, member, inLine⟩, everywhere⟩ := of_locate_read_eq_fault located
    exact ⟨rfl, .line holds known some member inLine,
      fun bpm slot => bind_eq_error_iff.mpr (.inl (everywhere bpm _))⟩
  · cases done

/-- What is wrong with a block that holds a playable does not depend on the tempo or on its
place. -/
theorem of_readDraft_eq_fault {bpm : Float} {slot : Nat} {block : Block} {fault : DocumentFault}
    (playable : block.directive ≠ .sequence)
    (failed : readDraft bpm slot block = .error (.fault fault)) :
    block.line = fault.line ∧ block.Faulty fault.cause ∧
      ∀ bpm slot, readDraft bpm slot block = .error (.fault fault) := by
  cases read : blockMetadata block with
  | error failure =>
    have again (bpm : Float) (slot : Nat) : readDraft bpm slot block = .error failure :=
      bind_eq_error_iff.mpr (.inl read)
    obtain ⟨cause, unread, rfl⟩ := mapError_eq_error_iff.mp read
    cases (again bpm slot).symm.trans failed
    exact ⟨rfl, .header unread, again⟩
  | ok metadata =>
    by_cases arranges : block.directive = .arrangement
    · -- the lines of an arrangement are not read yet
      rw [readDraft, read, ok_bind, if_pos arranges] at failed
      cases failed
    · have holds : block.holdsPart = true := by
        simp [Block.holdsPart, playable, arranges]
      exact of_readDraft_part_eq_fault holds read failed

/-- A playable that is loaded alone has the default settings. -/
theorem loadBlocks_singleton {block : Block} (playable : block.directive ≠ .sequence) :
    loadBlocks [block] = readDraft Settings.default.bpm 0 block >>= fun draft =>
      resolveDrafts [draft] >>= fun playables => .ok ⟨Settings.default, playables⟩ := by
  have settings : readSettings [block] = .ok Settings.default := by
    rw [readSettings, List.foldlM_cons, settingsAfter, if_neg playable]
    rfl
  have single : playableBlocks [block] = [block] := by
    simp [playableBlocks, playable]
  have drafts : readDrafts Settings.default.bpm [block] =
      readDraft Settings.default.bpm 0 block >>= fun draft => .ok [draft] := by
    rw [readDrafts, single]
    exact List.mapM_cons
  rw [loadBlocks, settings, ok_bind, drafts, bind_assoc]
  rfl

theorem toBlame_of_readDraft {bpm : Float} {slot : Nat} {block : Block} {fault : DocumentFault}
    (playable : block.directive ≠ .sequence)
    (failed : readDraft bpm slot block = .error (.fault fault)) : block.ToBlame fault := by
  obtain ⟨line, faulty, everywhere⟩ := of_readDraft_eq_fault playable failed
  refine ⟨line, faulty, ?_⟩
  rw [loadBlocks_singleton playable]
  exact bind_eq_error_iff.mpr (.inl (everywhere _ _))

/-! ### Blocks of arrangements -/

theorem exists_resolveNames {resolveName : String → Building Reference}
    (resolves : ∀ word built, ∃ result, resolveName word built = .ok result) (words : List String)
    (built : Built) : ∃ result, resolveNames resolveName words built = .ok result := by
  induction words generalizing built with
  | nil => exact ⟨_, rfl⟩
  | cons word rest inductionHypothesis =>
    obtain ⟨⟨reference, between⟩, first⟩ := resolves word built
    obtain ⟨⟨references, behind⟩, second⟩ := inductionHypothesis between
    exact ⟨_, bind_eq_ok_iff.mpr ⟨_, first, bind_eq_ok_iff.mpr ⟨_, second, rfl⟩⟩⟩

/-- Where all words are resolved, resolving lines stops at the first repeat that is not read. -/
theorem resolveLines_eq_error (line : Nat) {resolveName : String → Building Reference}
    (resolves : ∀ word built, ∃ result, resolveName word built = .ok result) {texts : List String}
    {cause : SyntaxFault} (failed : readRepeats texts = .error cause) (built : Built) :
    resolveLines line resolveName texts built = .error (.fault (grammarFault line cause)) := by
  induction texts generalizing built with
  | nil => cases failed
  | cons text rest inductionHypothesis =>
    rw [readRepeats_cons] at failed
    rcases bind_eq_error_iff.mp failed with unread | ⟨repetition, read, failed⟩
    · exact bind_eq_error_iff.mpr (.inl (mapError_eq_error_iff.mpr ⟨cause, unread, rfl⟩))
    rcases bind_eq_error_iff.mp failed with unread | ⟨_, _, done⟩
    · obtain ⟨result, resolved⟩ :=
        exists_resolveNames resolves (Notation.nameWords text.toList) built
      refine bind_eq_error_iff.mpr (.inr ⟨repetition, mapError_eq_ok_iff.mpr read, ?_⟩)
      refine bind_eq_error_iff.mpr (.inr ⟨result, resolved, bind_eq_error_iff.mpr (.inl ?_)⟩)
      exact inductionHypothesis unread result.2
    · cases done

/-- An arrangement alone has nothing to refer to but itself. -/
theorem exists_resolve_alone (pending : Pending) (build : Nat → Building (Arrangement Playable))
    (word : String) (built : Built) :
    ∃ result, resolve ⟨[], [pending]⟩ [0] build word built = .ok result := by
  by_cases named : pending.header.name = word
  · exact ⟨_, by simp [resolve, named]; rfl⟩
  · exact ⟨_, by simp [resolve, named]; rfl⟩

theorem resolveDrafts_alone {pending : Pending} {cause : SyntaxFault}
    (failed : readRepeats pending.steps = .error cause) :
    resolveDrafts [.arrangement pending] = .error (.fault (grammarFault pending.line cause)) := by
  have unresolved := resolveLines_eq_error pending.line
    (exists_resolve_alone pending (build ⟨[], [pending]⟩ 0 [0])) failed []
  refine bind_eq_error_iff.mpr (.inl (bind_eq_error_iff.mpr (.inl ?_)))
  exact bind_eq_error_iff.mpr (.inl unresolved)

/-- A pending arrangement comes from a block. -/
theorem exists_block_of_mem_draftPending {bpm : Float} {blocks : List Block} {drafts : List Draft}
    (read : readDrafts bpm blocks = .ok drafts) {pending : Pending}
    (member : pending ∈ draftPending drafts) :
    ∃ block ∈ blocks, block.directive = .arrangement ∧ block.line = pending.line ∧
      block.steps = pending.steps ∧
      ∃ metadata, Header.readMetadata block.header.toList = .ok metadata := by
  obtain ⟨⟨block, slot⟩, inBlocks, found⟩ := exists_of_mem_mapM read (mem_draftPending.mp member)
  obtain ⟨metadata, known, ⟨arranges, same⟩ | ⟨_, part, other, _⟩⟩ :=
    exists_metadata_of_readDraft found
  · cases same
    have inside := (List.mem_filter.mp (List.fst_mem_of_mem_zipIdx inBlocks)).1
    exact ⟨block, inside, arranges, rfl, rfl, metadata, known⟩
  · cases other

theorem toBlame_of_readRepeats {block : Block} {cause : SyntaxFault} {metadata : Metadata}
    (arranges : block.directive = .arrangement)
    (known : Header.readMetadata block.header.toList = .ok metadata)
    (failed : readRepeats block.steps = .error cause) :
    block.ToBlame (grammarFault block.line cause) := by
  obtain ⟨text, member, unread⟩ := exists_of_mapM_eq_error failed
  have read (bpm : Float) : readDraft bpm 0 block =
      .ok (.arrangement ⟨ArrangementHeader.ofMetadata metadata, block.steps, block.line, 0⟩) := by
    rw [readDraft, blockMetadata, known]
    exact if_pos arranges
  refine ⟨rfl, .arrangementLine arranges member unread, ?_⟩
  rw [loadBlocks_singleton (by simp [arranges]), read, ok_bind]
  exact bind_eq_error_iff.mpr (.inl (resolveDrafts_alone failed))

/-! ### Documents -/

/-- Some block of those that are not loaded for a fault is to blame for it. -/
theorem exists_toBlame_of_loadBlocks {blocks : List Block} {fault : DocumentFault}
    (failed : loadBlocks blocks = .error (.fault fault)) :
    ∃ block ∈ blocks, block.ToBlame fault := by
  -- the three passes: settings, then playables one by one, then references
  rcases bind_eq_error_iff.mp failed with settings | ⟨settings, _, failed⟩
  · obtain ⟨before, block, member, failed⟩ := exists_of_foldlM_eq_error settings
    obtain ⟨_, same, toBlame⟩ := toBlame_of_settingsAfter failed
    cases same
    exact ⟨block, member, toBlame⟩
  rcases bind_eq_error_iff.mp failed with drafts | ⟨drafts, read, failed⟩
  · obtain ⟨⟨block, slot⟩, member, failed⟩ := exists_of_mapM_eq_error drafts
    obtain ⟨inside, playable⟩ := List.mem_filter.mp (List.fst_mem_of_mem_zipIdx member)
    exact ⟨block, inside, toBlame_of_readDraft (of_decide_eq_true playable) failed⟩
  rcases bind_eq_error_iff.mp failed with unresolved | ⟨_, _, done⟩
  · cases buildFailure_of_resolveDrafts unresolved with
    | line member unread =>
      obtain ⟨block, inside, arranges, line, steps, metadata, known⟩ :=
        exists_block_of_mem_draftPending read member
      rw [← steps] at unread
      rw [← line]
      exact ⟨block, inside, toBlame_of_readRepeats arranges known unread⟩
  · cases done

end Document

namespace Sequence

/-- A document that is not loaded for a fault has a fenced block in the line of the fault. That
block has the fault by itself, and is not loaded for the same fault when it stands alone, wherever
in the document it is and whatever leads to it. -/
theorem load_blames_faulty_block {document : String} {fault : DocumentFault}
    (failed : Sequence.load document = .error (.fault fault)) :
    ∃ fenced ∈ Document.fencedAfter 0 1 (Document.lines document.toList),
      fenced.StandsIn 1 (Document.lines document.toList) ∧ fenced.line = fault.line ∧
      fenced.Faulty fault.cause ∧ fenced.loadAlone = .error (.fault fault) := by
  rcases bind_eq_error_iff.mp failed with unread | ⟨blocks, read, failed⟩
  · obtain ⟨other, unread, same⟩ := mapError_eq_error_iff.mp unread
    cases same
    obtain ⟨fenced, member, broken⟩ := exists_of_mapM_eq_error unread
    obtain ⟨line, faulty⟩ := Document.of_readBlock_eq_error broken
    refine ⟨fenced, member, Document.standsIn_of_mem_fencedAfter member, line, faulty, ?_⟩
    exact bind_eq_error_iff.mpr (.inl (mapError_eq_error_iff.mpr ⟨fault, broken, rfl⟩))
  · obtain ⟨block, inBlocks, toBlame⟩ := Document.exists_toBlame_of_loadBlocks failed
    obtain ⟨fenced, member, found⟩ := exists_of_mem_mapM (mapError_eq_ok_iff.mp read) inBlocks
    have line := (Document.line_of_readBlock found).symm.trans toBlame.line
    refine ⟨fenced, member, Document.standsIn_of_mem_fencedAfter member, line,
      .block found toBlame.faulty, ?_⟩
    rw [Document.Fenced.loadAlone, found]
    exact toBlame.alone

/-- To know the fault of a document it is enough to load it and to look. -/
theorem exists_load_eq_fault (document : String) (test : DocumentFault → Bool)
    (found : (match load document with
      | .error (.fault fault) => test fault
      | _ => false) = true) :
    ∃ fault, load document = .error (.fault fault) ∧ test fault = true := by
  split at found
  next fault failed => exact ⟨fault, failed, found⟩
  next => cases found

/-- A song that leads to the faulty verse behind it. -/
def faultyVerseSample : String :=
  "```beef .arrangement name:song\nverse *2\n```\n```beef .part name:kick\nc2:1\n```\n" ++
    "```beef .arrangement name:verse\nkick\nkick *0\n```\n"

/-- The song is built first, but it is not to blame. -/
theorem load_blames_faulty_block_verse :
    ∃ fault, ∃ fenced : Document.Fenced, load faultyVerseSample = .error (.fault fault) ∧
      fault.message = "line 7: step multiplier must be at least 1: kick *0" ∧
      fenced.header = ".arrangement name:verse".toList ∧ fenced.Faulty fault.cause ∧
      fenced.loadAlone = .error (.fault fault) := by
  obtain ⟨fault, failed, found⟩ := exists_load_eq_fault faultyVerseSample
    (fun fault => decide (fault.line = 7 ∧
      fault.message = "line 7: step multiplier must be at least 1: kick *0"))
    (by decide +kernel)
  obtain ⟨seventh, message⟩ := of_decide_eq_true found
  obtain ⟨fenced, member, _, line, faulty, alone⟩ := load_blames_faulty_block failed
  have verse : ∀ fenced ∈ Document.fencedAfter 0 1 (Document.lines faultyVerseSample.toList),
      fenced.line = 7 → fenced.header = ".arrangement name:verse".toList := by
    decide +kernel
  exact ⟨fault, fenced, failed, message, verse fenced member (line.trans seventh), faulty, alone⟩

end Sequence

end StepSequencer
