/-
This file proves that reading the blocks of a document undoes writing them. A manuscript is a
document as it is written: lines of prose, which open no block, and between them whole blocks, each
with its header, its step lines and its closing line. At the end a block may have been left open.
Reading gives back exactly the whole blocks, in order and at their lines. The lines of a document
are the lines of its manuscript, the first closing line behind a header is the one that was written
for it, and behind a block reading goes on at the line after the closing line.
-/

import StepSequencer.Document.Block
import Mathlib.Data.Bool.AllAny
import Mathlib.Data.List.TakeWhile

namespace StepSequencer

namespace Text

/-! ### Texts in pieces -/

theorem splitWhere_eq_splitOnP (separates : Char → Bool) (text : List Char) :
    splitWhere separates text = text.splitOnP separates := by
  induction text with
  | nil => rfl
  | cons character rest inductionHypothesis =>
    rw [splitWhere, List.splitOnP_cons_eq_if_modifyHead, inductionHypothesis]
    split
    · rfl
    · cases pieces : rest.splitOnP separates with
      | nil => exact absurd pieces (List.splitOnP_ne_nil _ _)
      | cons piece others => rfl

/-- The first piece of a text goes up to the first separator. -/
theorem headD_splitWhere (separates : Char → Bool) (text : List Char) :
    (splitWhere separates text).headD [] =
      text.takeWhile fun character => !separates character := by
  induction text with
  | nil => rfl
  | cons character rest inductionHypothesis =>
    rw [splitWhere]
    cases separated : separates character with
    | true => simp [separated]
    | false =>
      rw [List.takeWhile_cons_of_pos (by simp [separated]), ← inductionHypothesis]
      cases splitWhere separates rest <;> rfl

/-- The first word of a text stands behind the white space at its front. -/
theorem headD_words (text : List Char) :
    (words text).headD [] = (trimStart text).takeWhile fun character => !isBlank character := by
  induction text with
  | nil => rfl
  | cons character rest inductionHypothesis =>
    cases blank : isBlank character with
    | true =>
      have skipped : words (character :: rest) = words rest := by
        simp [words, splitWhere, blank]
      rw [skipped, inductionHypothesis, trimStart, trimStart, List.dropWhile_cons_of_pos blank]
    | false =>
      rw [trimStart, List.dropWhile_cons_of_neg (by simp [blank]), ← headD_splitWhere]
      have kept : ∃ piece pieces,
          splitWhere isBlank (character :: rest) = (character :: piece) :: pieces := by
        rw [splitWhere, if_neg (by simp [blank])]
        cases splitWhere isBlank rest with
        | nil => exact ⟨[], [], rfl⟩
        | cons piece pieces => exact ⟨piece, pieces, rfl⟩
      obtain ⟨piece, pieces, split⟩ := kept
      rw [words, split, List.filter_cons_of_pos rfl]
      rfl

/-- What is cut off the end of a text is white space. -/
theorem exists_trimEnd_append (text : List Char) :
    ∃ blanks, text = trimEnd text ++ blanks ∧ ∀ character ∈ blanks, isBlank character = true := by
  refine ⟨(text.reverse.takeWhile isBlank).reverse, ?_, fun character member => ?_⟩
  · rw [trimEnd, ← List.reverse_append, List.takeWhile_append_dropWhile, List.reverse_reverse]
  · exact List.mem_takeWhile_imp (List.mem_reverse.mp member)

/-- To cut off the white space at the end does not change the first word. -/
theorem takeWhile_trimEnd (text : List Char) :
    (trimEnd text).takeWhile (fun character => !isBlank character) =
      text.takeWhile fun character => !isBlank character := by
  obtain ⟨blanks, split, blank⟩ := exists_trimEnd_append text
  have none : blanks.takeWhile (fun character => !isBlank character) = [] := by
    cases blanks with
    | nil => rfl
    | cons character _ => exact List.takeWhile_cons_of_neg (by simp [blank character])
  have longer : (trimEnd text ++ blanks).takeWhile (fun character => !isBlank character) =
      (trimEnd text).takeWhile fun character => !isBlank character := by
    rw [List.takeWhile_append, none, List.append_nil]
    split
    next whole => exact ((List.takeWhile_prefix _).eq_of_length whole).symm
    next => rfl
  rw [← longer, ← split]

theorem trimStart_trim (text : List Char) : trimStart (trim text) = trim text := by
  rw [trim]
  obtain ⟨blanks, split, blank⟩ := exists_trimEnd_append (trimStart text)
  cases trimmed : trimEnd (trimStart text) with
  | nil => rfl
  | cons character rest =>
    rw [trimmed, List.cons_append] at split
    have first : isBlank character = false := by
      have stops := List.head?_dropWhile_not isBlank text
      rw [← trimStart, split] at stops
      simpa using stops
    exact List.dropWhile_cons_of_neg (by simp [first])

/-- A text and the same text trimmed have the same first word. -/
theorem headD_words_trim (text : List Char) :
    (words (trim text)).headD [] = (words text).headD [] := by
  rw [headD_words, headD_words, trimStart_trim, trim, takeWhile_trimEnd]

end Text

/-! ### Directives as they are written -/

namespace Directive

/-- A directive as it is written. -/
def word : Directive → List Char
  | .sequence => ".sequence".toList
  | .part => ".part".toList
  | .arrangement => ".arrangement".toList
  | .generated generator => Document.generatedMark ++ generator.toList

/-- Whether the generator of a directive, if there is one, has a name of one word. -/
def Nameable : Directive → Prop
  | .generated generator =>
    generator ≠ "" ∧ ∀ character ∈ generator.toList, Text.isBlank character = false
  | _ => True

/-- Whether a header starts with a directive: behind white space, if there is any, stands its word,
and then more white space or nothing. -/
structure Leads (directive : Directive) (header : List Char) : Prop where
  nameable : directive.Nameable
  written : ∃ front rest, header = front ++ directive.word ++ rest ∧
    (∀ character ∈ front, Text.isBlank character = true) ∧
    ∀ character ∈ rest.head?, Text.isBlank character = true

theorem exists_word_eq_cons (directive : Directive) : ∃ more, directive.word = '.' :: more := by
  cases directive <;> exact ⟨_, rfl⟩

theorem Nameable.isBlank_eq_false {directive : Directive} (nameable : directive.Nameable) :
    ∀ character ∈ directive.word, Text.isBlank character = false := by
  cases directive with
  | sequence | part | arrangement => exact List.all_iff_forall_prop.mp rfl
  | generated generator =>
    have mark : ∀ character ∈ Document.generatedMark, Text.isBlank character = false :=
      List.all_iff_forall_prop.mp rfl
    intro character member
    rcases List.mem_append.mp member with inMark | inName
    · exact mark character inMark
    · exact nameable.2 character inName

theorem Nameable.readDirective_word {directive : Directive} (nameable : directive.Nameable) :
    Document.readDirective directive.word = .ok directive := by
  cases directive with
  | sequence | part | arrangement => rfl
  | generated generator =>
    have named : 0 < generator.toList.length :=
      List.length_pos_iff.mpr fun empty => nameable.1 (String.toList_eq_nil_iff.mp empty)
    have mark : Document.generatedMark.isPrefixOf (Document.generatedMark ++ generator.toList) &&
        Document.generatedMark.length < (Document.generatedMark ++ generator.toList).length := by
      simp [named]
    have spelled : Document.generatedMark = '.' :: 'f' :: "unc.".toList := by decide
    have other (text : List Char) (second : text[1]? ≠ some 'f') :
        Document.generatedMark ++ generator.toList ≠ text := by
      rintro rfl
      simp [spelled] at second
    have sequence := other ".sequence".toList (by decide +kernel)
    have part := other ".part".toList (by decide +kernel)
    have arrangement := other ".arrangement".toList (by decide +kernel)
    show Document.readDirective (Document.generatedMark ++ generator.toList) = _
    rw [Document.readDirective, if_neg sequence, if_neg part, if_neg arrangement, if_pos mark,
      List.drop_left, String.ofList_toList]

theorem readDirective_eq_ok {word : List Char} {directive : Directive}
    (read : Document.readDirective word = .ok directive) :
    directive.word = word ∧ ((∀ character ∈ word, Text.isBlank character = false) →
      directive.Nameable) := by
  unfold Document.readDirective at read
  split at read
  next same =>
    obtain rfl := Except.ok.inj read
    exact ⟨same.symm, fun _ => trivial⟩
  split at read
  next same =>
    obtain rfl := Except.ok.inj read
    exact ⟨same.symm, fun _ => trivial⟩
  split at read
  next same =>
    obtain rfl := Except.ok.inj read
    exact ⟨same.symm, fun _ => trivial⟩
  split at read
  next marked =>
    obtain rfl := Except.ok.inj read
    obtain ⟨isPrefix, longer⟩ := Bool.and_eq_true_iff.mp marked
    obtain ⟨name, rfl⟩ := List.isPrefixOf_iff_prefix.mp isPrefix
    have named : name ≠ [] := by
      rintro rfl
      simp at longer
    have generator : (Document.generatedMark ++ name).drop Document.generatedMark.length = name :=
      List.drop_left
    rw [generator]
    refine ⟨?_, fun words => ⟨?_, ?_⟩⟩
    · exact congrArg (Document.generatedMark ++ ·) String.toList_ofList
    · exact fun empty => named (by rw [← String.toList_ofList (l := name), empty]; rfl)
    · rw [String.toList_ofList]
      exact fun character member => words character (List.mem_append_right _ member)
  next => cases read

/-- A header leads with a directive exactly if that directive is read from its first word. -/
theorem leads_iff {directive : Directive} {header : List Char} :
    directive.Leads header ↔
      Document.readDirective ((Text.words (Text.trim header)).headD []) = .ok directive := by
  rw [Text.headD_words_trim, Text.headD_words]
  constructor
  · rintro ⟨nameable, front, rest, rfl, blank, stops⟩
    obtain ⟨more, spelled⟩ := directive.exists_word_eq_cons
    have word := nameable.isBlank_eq_false
    have behind : Text.trimStart (front ++ directive.word ++ rest) = directive.word ++ rest := by
      rw [List.append_assoc, Text.trimStart, List.dropWhile_append_of_pos blank, spelled,
        List.cons_append, List.dropWhile_cons_of_neg (by decide)]
    have first : (directive.word ++ rest).takeWhile (fun character => !Text.isBlank character) =
        directive.word := by
      rw [List.takeWhile_append_of_pos fun character member => by simp [word character member]]
      cases rest with
      | nil => simp
      | cons character _ => simp [stops character rfl]
    rw [behind, first, nameable.readDirective_word]
  · intro read
    obtain ⟨spelled, nameable⟩ := readDirective_eq_ok read
    refine ⟨nameable fun character member => ?_, header.takeWhile Text.isBlank,
      (Text.trimStart header).dropWhile fun character => !Text.isBlank character, ?_,
      fun character => List.mem_takeWhile_imp, fun character first => ?_⟩
    · simpa using List.mem_takeWhile_imp member
    · rw [spelled, List.append_assoc, List.takeWhile_append_dropWhile, Text.trimStart,
        List.takeWhile_append_dropWhile]
    · have stops := List.head?_dropWhile_not (fun character => !Text.isBlank character)
        (Text.trimStart header)
      rw [first] at stops
      simpa using stops

end Directive

/-! ### Manuscripts -/

namespace Document

/-- A line that opens no block. It may open a fence of another kind. -/
structure Prose where
  text : String
  single : '\n' ∉ text.toList
  plain : ¬ openingFence <+: text.toList

/-- A block as it is written. -/
structure WrittenBlock where
  directive : Directive
  /-- What stands behind the fence on the opening line. -/
  header : String
  steps : List String
  /-- The whole closing line. -/
  closing : String
  headed : directive.Leads header.toList
  headerSingle : '\n' ∉ header.toList
  stepsSingle : ∀ step ∈ steps, '\n' ∉ step.toList
  stepsOpen : ∀ step ∈ steps, ¬ closingFence <+: step.toList
  closingSingle : '\n' ∉ closing.toList
  closes : closingFence <+: closing.toList

/-- An opening line with no closing line behind it, to the end of the document. -/
structure OpenEnd where
  header : String
  rest : List String
  headerSingle : '\n' ∉ header.toList
  restSingle : ∀ line ∈ rest, '\n' ∉ line.toList
  restOpen : ∀ line ∈ rest, ¬ closingFence <+: line.toList

/-- A piece of a manuscript. -/
inductive Passage where
  | prose (line : Prose)
  | block (written : WrittenBlock)

/-- A document as it is written. -/
structure Manuscript where
  passages : List Passage
  openEnd : Option OpenEnd

/-- The opening line with a header. -/
def openingLine (header : String) : String := String.ofList openingFence ++ header

/-- The lines of a block, the opening and the closing one included. -/
def WrittenBlock.lines (written : WrittenBlock) : List String :=
  openingLine written.header :: written.steps ++ [written.closing]

/-- The lines of a passage. -/
def Passage.lines : Passage → List String
  | .prose line => [line.text]
  | .block written => written.lines

/-- The lines of an open end. -/
def OpenEnd.lines (openEnd : OpenEnd) : List String := openingLine openEnd.header :: openEnd.rest

/-- The lines of a manuscript. -/
def Manuscript.lines (manuscript : Manuscript) : List String :=
  manuscript.passages.flatMap Passage.lines ++
    (manuscript.openEnd.map OpenEnd.lines).getD []

/-- The text of a manuscript. -/
def Manuscript.text (manuscript : Manuscript) : String := "\n".intercalate manuscript.lines

/-- The block that is written, at a line. -/
def WrittenBlock.block (written : WrittenBlock) (line : Nat) : Block where
  directive := written.directive
  header := String.ofList (Text.trim written.header.toList)
  steps := written.steps.map fun step => String.ofList (withoutReturns step.toList)
  line

/-- The blocks that are written in some passages, of which the first one starts at a line. -/
def passageBlocks : Nat → List Passage → List Block
  | _, [] => []
  | line, .prose _ :: rest => passageBlocks (line + 1) rest
  | line, .block written :: rest =>
    written.block line :: passageBlocks (line + written.lines.length) rest

/-- The blocks of a manuscript. -/
def Manuscript.blocks (manuscript : Manuscript) : List Block :=
  passageBlocks 1 manuscript.passages

/-! ### From lines to blocks -/

/-- The lines of a text that is put together from lines are these lines. -/
theorem lines_intercalate {texts : List String} (single : ∀ text ∈ texts, '\n' ∉ text.toList)
    (some : texts ≠ []) :
    lines ("\n".intercalate texts).toList = texts.map String.toList := by
  have singles : ∀ text ∈ texts.map String.toList, '\n' ∉ text := by
    intro text member
    obtain ⟨written, inTexts, rfl⟩ := List.mem_map.mp member
    exact single written inTexts
  rw [lines, Text.splitWhere_eq_splitOnP, String.toList_intercalate]
  exact List.splitOn_intercalate '\n' singles (by simpa using some)

theorem fencedAfter_length_append (front rest : List (List Char)) (number : Nat) :
    fencedAfter front.length number (front ++ rest) =
      fencedAfter 0 (number + front.length) rest := by
  induction front generalizing number with
  | nil => rfl
  | cons line others inductionHypothesis =>
    rw [List.length_cons, List.cons_append, fencedAfter, inductionHypothesis, Nat.add_right_comm,
      Nat.add_assoc]

theorem fencedAfter_of_plain {line : List Char} (plain : ¬ openingFence <+: line)
    (rest : List (List Char)) (number : Nat) :
    fencedAfter 0 number (line :: rest) = fencedAfter 0 (number + 1) rest := by
  have opensNone : openedSteps? line rest = none :=
    if_neg fun opens => plain (List.isPrefixOf_iff_prefix.mp opens)
  rw [fencedAfter, opensNone]

/-- The steps of a block go up to the first closing line. -/
theorem takeWhile_steps {steps : List (List Char)}
    (stepsOpen : ∀ step ∈ steps, ¬ closingFence <+: step) (rest : List (List Char)) :
    (steps ++ rest).takeWhile (fun line => !closingFence.isPrefixOf line) =
      steps ++ rest.takeWhile fun line => !closingFence.isPrefixOf line :=
  List.takeWhile_append_of_pos fun step member => by
    have stays : closingFence.isPrefixOf step = false := by
      refine Bool.eq_false_iff.mpr fun closes => ?_
      exact stepsOpen step member (List.isPrefixOf_iff_prefix.mp closes)
    rw [stays, Bool.not_false]

theorem fencedAfter_block {steps : List (List Char)} {closing : List Char}
    (stepsOpen : ∀ step ∈ steps, ¬ closingFence <+: step) (closes : closingFence <+: closing)
    (header : List Char) (rest : List (List Char)) (number : Nat) :
    fencedAfter 0 number ((openingFence ++ header) :: (steps ++ closing :: rest)) =
      ⟨number, Text.trim header, steps.map withoutReturns⟩ ::
        fencedAfter 0 (number + (steps.length + 2)) rest := by
  have taken : (steps ++ closing :: rest).takeWhile (fun line => !closingFence.isPrefixOf line) =
      steps := by
    rw [takeWhile_steps stepsOpen, List.takeWhile_cons_of_neg, List.append_nil]
    simpa using List.isPrefixOf_iff_prefix.mpr closes
  have opened : openedSteps? (openingFence ++ header) (steps ++ closing :: rest) = some steps := by
    rw [openedSteps?, if_pos (List.isPrefixOf_iff_prefix.mpr (List.prefix_append _ _)), taken]
    exact if_pos (by simp)
  -- The steps and the closing line are passed over together, so the closing line opens nothing.
  have behind := fencedAfter_length_append (steps ++ [closing]) rest (number + 1)
  rw [List.append_assoc, List.length_append, List.singleton_append, List.length_singleton] at behind
  rw [fencedAfter, opened]
  show _ :: fencedAfter (steps.length + 1) (number + 1) (steps ++ closing :: rest) = _
  rw [behind, List.drop_left, Nat.add_assoc, Nat.add_comm 1]

theorem openedSteps?_of_open {rest : List (List Char)}
    (restOpen : ∀ line ∈ rest, ¬ closingFence <+: line) (line : List Char) :
    openedSteps? line rest = none := by
  have taken := takeWhile_steps restOpen []
  rw [List.append_nil, List.takeWhile_nil, List.append_nil] at taken
  unfold openedSteps?
  rw [taken]
  simp

/-- Where no line closes, no line opens. -/
theorem fencedAfter_of_open {rest : List (List Char)}
    (restOpen : ∀ line ∈ rest, ¬ closingFence <+: line) (line : List Char) (number : Nat) :
    fencedAfter 0 number (line :: rest) = [] := by
  induction rest generalizing line number with
  | nil => rw [fencedAfter, openedSteps?_of_open restOpen, fencedAfter]
  | cons other others inductionHypothesis =>
    rw [fencedAfter, openedSteps?_of_open restOpen]
    exact inductionHypothesis (List.forall_mem_cons.mp restOpen).2 other (number + 1)

/-! ### The lines of a manuscript -/

theorem toList_openingLine (header : String) :
    (openingLine header).toList = openingFence ++ header.toList := by
  rw [openingLine, String.toList_append, String.toList_ofList]

theorem Manuscript.single (manuscript : Manuscript) :
    ∀ line ∈ manuscript.lines, '\n' ∉ line.toList := by
  have opening {header : String} (single : '\n' ∉ header.toList) :
      '\n' ∉ (openingLine header).toList := by
    rw [toList_openingLine]
    exact fun member => (List.mem_append.mp member).elim (by decide) single
  intro line member
  rcases List.mem_append.mp member with inPassages | inEnd
  · obtain ⟨passage, _, inPassage⟩ := List.mem_flatMap.mp inPassages
    cases passage with
    | prose line =>
      obtain rfl := List.mem_singleton.mp inPassage
      exact line.single
    | block written =>
      rcases List.mem_cons.mp inPassage with rfl | inside
      · exact opening written.headerSingle
      rcases List.mem_append.mp inside with isStep | isClosing
      · exact written.stepsSingle line isStep
      · obtain rfl := List.mem_singleton.mp isClosing
        exact written.closingSingle
  · cases openEnd : manuscript.openEnd with
    | none => simp [openEnd] at inEnd
    | some unclosed =>
      rw [openEnd] at inEnd
      rcases List.mem_cons.mp inEnd with rfl | inRest
      · exact opening unclosed.headerSingle
      · exact unclosed.restSingle line inRest

/-! ### The blocks of a manuscript -/

/-- A block that is written is found, and what follows it is looked at from the line after its
closing line. -/
theorem WrittenBlock.fencedAfter_lines (written : WrittenBlock) (rest : List (List Char))
    (number : Nat) :
    fencedAfter 0 number (written.lines.map String.toList ++ rest) =
      ⟨number, Text.trim written.header.toList,
        (written.steps.map String.toList).map withoutReturns⟩ ::
        fencedAfter 0 (number + written.lines.length) rest := by
  have stepsOpen : ∀ step ∈ written.steps.map String.toList, ¬ closingFence <+: step := by
    intro step member
    obtain ⟨text, inSteps, rfl⟩ := List.mem_map.mp member
    exact written.stepsOpen text inSteps
  have spelled : written.lines.map String.toList ++ rest =
      (openingFence ++ written.header.toList) ::
        (written.steps.map String.toList ++ written.closing.toList :: rest) := by
    simp [lines, toList_openingLine]
  have length : written.lines.length = (written.steps.map String.toList).length + 2 := by
    simp [lines]
  rw [spelled, length, fencedAfter_block stepsOpen written.closes]

theorem WrittenBlock.readBlock_eq (written : WrittenBlock) (line : Nat) :
    readBlock ⟨line, Text.trim written.header.toList,
        (written.steps.map String.toList).map withoutReturns⟩ = .ok (written.block line) := by
  rw [readBlock, Directive.leads_iff.mp written.headed, List.map_map, List.map_map]
  rfl

/-- Passages give their blocks if nothing behind them opens one. -/
theorem mapM_readBlock_passages {rest : List (List Char)}
    (nothing : ∀ number, fencedAfter 0 number rest = []) (passages : List Passage) (number : Nat) :
    (fencedAfter 0 number ((passages.flatMap Passage.lines).map String.toList ++ rest)).mapM
      readBlock = .ok (passageBlocks number passages) := by
  induction passages generalizing number with
  | nil =>
    rw [List.flatMap_nil, List.map_nil, List.nil_append, nothing]
    rfl
  | cons passage others inductionHypothesis =>
    rw [List.flatMap_cons, List.map_append, List.append_assoc]
    cases passage with
    | prose line =>
      rw [passageBlocks, ← inductionHypothesis]
      exact congrArg (List.mapM readBlock) (fencedAfter_of_plain line.plain _ number)
    | block written =>
      rw [Passage.lines, written.fencedAfter_lines, List.mapM_cons, written.readBlock_eq,
        inductionHypothesis]
      rfl

/-- Behind the last passage no line opens a block. -/
theorem Manuscript.fencedAfter_openEnd (manuscript : Manuscript) (number : Nat) :
    fencedAfter 0 number (((manuscript.openEnd.map OpenEnd.lines).getD []).map String.toList) =
      [] := by
  cases manuscript.openEnd with
  | none => rfl
  | some unclosed =>
    refine fencedAfter_of_open (fun line member => ?_) (openingLine unclosed.header).toList number
    obtain ⟨text, inRest, rfl⟩ := List.mem_map.mp member
    exact unclosed.restOpen text inRest

/-- The blocks that are read from the text of a manuscript are the blocks that were written into it,
in order, each with its header trimmed, with its directive, with its step lines without the carriage
returns at their ends, and with the line of its opening fence. An open end adds none. -/
theorem readBlocks_text (manuscript : Manuscript) :
    readBlocks manuscript.text = .ok manuscript.blocks := by
  have read := mapM_readBlock_passages manuscript.fencedAfter_openEnd manuscript.passages 1
  rw [← List.map_append] at read
  by_cases empty : manuscript.lines = []
  · have noPassages : fencedAfter 0 1 (manuscript.lines.map String.toList) =
        fencedAfter 0 1 (lines manuscript.text.toList) := by
      rw [Manuscript.text, empty]
      rfl
    rw [readBlocks, ← noPassages]
    exact read
  · rw [readBlocks, Manuscript.text, lines_intercalate manuscript.single empty]
    exact read

/-- A part with carriage returns at its ends of lines and two empty steps. -/
def bassBlock : WrittenBlock where
  directive := .part
  header := " .part name:bass ch:2\r"
  steps := ["c2 e2:2\r", "\r", "", "g2 *3%2\r"]
  closing := "```\r"
  headed := Directive.leads_iff.mpr rfl
  headerSingle := by decide
  stepsSingle := by decide
  stepsOpen := by decide
  closingSingle := by decide
  closes := by decide

/-- An arrangement without steps, closed by a fence that would open something elsewhere. -/
def songBlock : WrittenBlock where
  directive := .arrangement
  header := "\t.arrangement name:song  "
  steps := []
  closing := "```beef .part"
  headed := Directive.leads_iff.mpr rfl
  headerSingle := by decide
  stepsSingle := by decide
  stepsOpen := by decide
  closingSingle := by decide
  closes := by decide

/-- A line of text, a listing in another language, two blocks, and one that is left open. -/
def bassManuscript : Manuscript where
  passages := [.prose ⟨"A bass line:", by decide, by decide⟩,
    .prose ⟨"```rust", by decide, by decide⟩, .prose ⟨"```", by decide, by decide⟩,
    .block bassBlock, .prose ⟨"", by decide, by decide⟩, .block songBlock]
  openEnd := some {
    header := ".sequence bpm:90"
    rest := ["d4", "``"]
    headerSingle := by decide
    restSingle := by decide
    restOpen := by decide }

/-- The two blocks are read at their lines, the fourth and the eleventh. -/
theorem readBlocks_text_bassManuscript :
    bassManuscript.text = "A bass line:\n```rust\n```\n```beef .part name:bass ch:2\r\n" ++
      "c2 e2:2\r\n\r\n\ng2 *3%2\r\n```\r\n\n```beef\t.arrangement name:song  \n" ++
      "```beef .part\n```beef.sequence bpm:90\nd4\n``" ∧
    readBlocks bassManuscript.text = .ok [
      ⟨.part, ".part name:bass ch:2", ["c2 e2:2", "", "", "g2 *3%2"], 4⟩,
      ⟨.arrangement, ".arrangement name:song", [], 11⟩] :=
  ⟨by decide +kernel, readBlocks_text bassManuscript⟩

end Document

end StepSequencer
