/-
This file proves that step lines have a canonical form. The nodes of an accepted line can be written
out again, with single spaces between them, and are read back from that as the same nodes: reading a
line leaves no trace of how it was written. A node that was read can be spelled, since its numbers
fit and its quality is the one that its symbol stands for. What it is spelled as is cut into its own
tokens, whatever nodes follow, and those tokens are read as the node.
-/

import StepSequencer.Proofs.Loading
import StepSequencer.Proofs.Spelling

namespace StepSequencer

/-! ### Nodes that can be read -/

/-- Whether a tone can be read from what it is written as. -/
def Tone.Readable : Tone → Prop
  | .note _ octave => octave < Nat.pow 2 31
  | .chord _ quality _ => Quality.ofSymbol? quality.symbol = some quality

/-- Whether a node can be read from what it is written as. -/
structure Node.Readable (node : Node) : Prop where
  tone : node.tone.Readable
  hold : ∀ steps ∈ node.hold, steps < Nat.pow 2 32
  pitches : ∃ pitches, node.pitches = .ok pitches

namespace Notation

theorem lt_of_readNumber {bound value : Nat} {digits : List Char}
    (read : readNumber bound digits = .ok value) : value < bound := by
  unfold readNumber at read
  split at read
  next other found =>
    obtain rfl := Except.ok.inj read
    exact lt_of_readNaturalBelow?_eq_some found
  next => cases read

theorem lt_of_readHold {rest : List Token} {hold : Option Nat} (read : readHold rest = .ok hold) :
    ∀ steps ∈ hold, steps < Nat.pow 2 32 := by
  unfold readHold at read
  split at read
  next digits _ =>
    obtain ⟨value, found, read⟩ := bind_eq_ok_iff.mp read
    obtain rfl := Except.ok.inj read
    rintro _ ⟨⟩
    exact lt_of_readNumber found
  next => cases read
  next =>
    obtain rfl := Except.ok.inj read
    exact nofun

theorem lt_of_readOctave {name : PitchName} {rest : List Token} {octave : Nat}
    (read : readOctave name rest = .ok octave) : octave < Nat.pow 2 31 := by
  unfold readOctave at read
  split at read
  next => exact lt_of_readNumber read
  next => cases read

theorem readable_of_readChord {symbol : List Char} {tone : Tone}
    (read : readChord symbol = .ok tone) : tone.Readable := by
  obtain ⟨bass, _, read⟩ := bind_eq_ok_iff.mp read
  obtain ⟨⟨root, rest⟩, _, read⟩ := bind_eq_ok_iff.mp read
  obtain ⟨quality, found, read⟩ := bind_eq_ok_iff.mp read
  obtain rfl := Except.ok.inj read
  unfold readQuality at found
  split at found
  next other known =>
    obtain rfl := Except.ok.inj found
    have same := List.find?_some known
    have named : other.symbol = String.ofList rest := eq_of_beq same
    simpa [Tone.Readable, named] using known
  next => cases found

theorem eq_of_checkNode {node other : Node} (checked : checkNode node = .ok other) :
    node = other ∧ ∃ pitches, node.pitches = .ok pitches := by
  obtain ⟨pitches, found, checked⟩ := bind_eq_ok_iff.mp checked
  exact ⟨Except.ok.inj checked, pitches, found⟩

/-- Whatever is read can be read again. -/
theorem readable_of_nodesAfter {skip : Nat} {tokens : List Token} {nodes : List Node}
    (read : nodesAfter skip tokens = .ok nodes) : ∀ node ∈ nodes, node.Readable := by
  induction tokens generalizing skip nodes with
  | nil =>
    obtain rfl : [] = nodes := by cases skip <;> exact Except.ok.inj read
    exact nofun
  | cons token rest inductionHypothesis =>
    cases skip with
    | succ skip => exact inductionHypothesis read
    | zero =>
      cases token with
      | illegal fault => cases read
      | number digits => exact inductionHypothesis read
      | colon => exact inductionHypothesis read
      | note name =>
        obtain ⟨octave, octaveRead, read⟩ := bind_eq_ok_iff.mp read
        obtain ⟨hold, holdRead, read⟩ := bind_eq_ok_iff.mp read
        obtain ⟨node, checked, read⟩ := bind_eq_ok_iff.mp read
        obtain ⟨others, behind, read⟩ := bind_eq_ok_iff.mp read
        obtain rfl : node :: others = nodes := Except.ok.inj read
        obtain ⟨rfl, pitches⟩ := eq_of_checkNode checked
        exact List.forall_mem_cons.mpr
          ⟨⟨lt_of_readOctave octaveRead, lt_of_readHold holdRead, pitches⟩,
            inductionHypothesis behind⟩
      | chord symbol =>
        obtain ⟨tone, toneRead, read⟩ := bind_eq_ok_iff.mp read
        obtain ⟨hold, holdRead, read⟩ := bind_eq_ok_iff.mp read
        obtain ⟨node, checked, read⟩ := bind_eq_ok_iff.mp read
        obtain ⟨others, behind, read⟩ := bind_eq_ok_iff.mp read
        obtain rfl : node :: others = nodes := Except.ok.inj read
        obtain ⟨rfl, pitches⟩ := eq_of_checkNode checked
        exact List.forall_mem_cons.mpr
          ⟨⟨readable_of_readChord toneRead, lt_of_readHold holdRead, pitches⟩,
            inductionHypothesis behind⟩

end Notation

/-! ### Cutting up written nodes -/

/-- The characters of a hold behind its node. -/
def holdChars : Option Nat → List Char
  | some steps => ':' :: natChars steps
  | none => []

/-- The tokens that a hold is cut into. -/
def holdTokens : Option Nat → List Notation.Token
  | some steps => [.colon, .number (natChars steps)]
  | none => []

/-- The tokens that a tone is cut into. -/
def Tone.tokens : Tone → List Notation.Token
  | .note name octave => [.note name, .number (natChars octave)]
  | .chord root quality bass => [.chord (Tone.chord root quality bass).chars]

/-- The tokens that a node is cut into. -/
def Node.tokens (node : Node) : List Notation.Token := node.tone.tokens ++ holdTokens node.hold

theorem Node.chars_eq (node : Node) : node.chars = node.tone.chars ++ holdChars node.hold := by
  obtain ⟨tone, _ | steps⟩ := node <;> rfl

/-- No symbol in the table has a character that would end it, or starts with an accidental. -/
theorem Quality.spelled_of_mem_table {quality : Quality} (member : quality ∈ Quality.table) :
    (∀ character ∈ quality.symbol.toList,
        Notation.continuesSymbol character = true ∧ character ≠ '/') ∧
      Notation.Stops Notation.isAccidental quality.symbol.toList := by
  have computed : Quality.table.all (fun quality =>
      (quality.symbol.toList.all fun character =>
        Notation.continuesSymbol character && character != '/') &&
      quality.symbol.toList.head?.all fun character =>
        !Notation.isAccidental character) = true := by
    decide +kernel
  have spelled := List.all_eq_true.mp computed quality member
  simp only [Bool.and_eq_true, List.all_eq_true, bne_iff_ne, ne_eq] at spelled
  refine ⟨spelled.1, fun character first => ?_⟩
  have same : quality.symbol.toList.head? = some character := first
  simpa [same] using spelled.2

theorem Quality.mem_table_of_ofSymbol? {quality : Quality} {symbol : String}
    (found : Quality.ofSymbol? symbol = some quality) : quality ∈ Quality.table :=
  List.mem_of_find?_eq_some found

namespace Notation

/-- Whether a text may stand behind a node: it is empty, or a blank separates it. -/
def Apart (text : List Char) : Prop := ∀ character ∈ text.head?, character = ' '

/-- Whether a text may stand behind a tone: a hold, or what may stand behind a node. -/
def Ends (text : List Char) : Prop := ∀ character ∈ text.head?, character = ':' ∨ character = ' '

theorem Ends.stops {belongs : Char → Bool} {text : List Char} (ends : Ends text)
    (colon : belongs ':' = false) (blank : belongs ' ' = false) : Stops belongs text := by
  intro character member
  rcases ends character member with rfl | rfl
  · exact colon
  · exact blank

theorem ends_holdChars_append (hold : Option Nat) {text : List Char} (apart : Apart text) :
    Ends (holdChars hold ++ text) := by
  intro character member
  cases hold with
  | none => exact .inr (apart character member)
  | some steps => exact .inl (Option.some.inj member).symm

theorem tokens_hold_append (hold : Option Nat) {text : List Char} (apart : Apart text) :
    tokens (holdChars hold ++ text) = holdTokens hold ++ tokens text := by
  cases hold with
  | none => rfl
  | some steps =>
    have stops : Stops Numeric.isAsciiDigit text := fun character member => by
      rw [apart character member]
      decide
    rw [holdChars, List.cons_append, tokens_colon, tokens_natChars_append steps stops]
    rfl

/-- The characters of a chord behind its root letter. -/
def chordTail (root : PitchName) (quality : Quality) (bass : Option PitchName) : List Char :=
  root.accidentalChars ++ quality.symbol.toList ++
    match bass with
    | some bass => '/' :: bass.upperChars
    | none => []

theorem continuesSymbol_of_mem_accidentalChars {name : PitchName} {character : Char}
    (member : character ∈ name.accidentalChars) : continuesSymbol character = true := by
  obtain ⟨letter, _ | accidental⟩ := name
  · cases member
  · obtain rfl := List.mem_singleton.mp member
    cases accidental <;> rfl

theorem continuesSymbol_of_mem_upperChars {name : PitchName} {character : Char}
    (member : character ∈ name.upperChars) : continuesSymbol character = true := by
  rcases List.mem_cons.mp member with rfl | inAccidental
  · cases name.letter <;> decide
  · exact continuesSymbol_of_mem_accidentalChars inAccidental

theorem continuesSymbol_of_mem_chordTail {root : PitchName} {quality : Quality}
    {bass : Option PitchName} (known : quality ∈ Quality.table) {character : Char}
    (member : character ∈ chordTail root quality bass) : continuesSymbol character = true := by
  rcases List.mem_append.mp member with inFront | inBass
  · rcases List.mem_append.mp inFront with inRoot | inSymbol
    · exact continuesSymbol_of_mem_accidentalChars inRoot
    · exact ((Quality.spelled_of_mem_table known).1 character inSymbol).1
  · cases bass with
    | none => cases inBass
    | some bass =>
      rcases List.mem_cons.mp inBass with rfl | inName
      · decide
      · exact continuesSymbol_of_mem_upperChars inName

theorem tokens_tone_append {tone : Tone} (readable : tone.Readable) {text : List Char}
    (ends : Ends text) : tokens (tone.chars ++ text) = tone.tokens ++ tokens text := by
  cases tone with
  | note name octave =>
    have digits : Stops isAccidental (natChars octave ++ text) := by
      obtain ⟨digit, more, spelled⟩ := exists_natChars_eq_cons octave
      have first : Numeric.isAsciiDigit digit = true :=
        isAsciiDigit_of_mem_natChars (spelled ▸ List.mem_cons_self)
      rw [spelled]
      rintro _ ⟨⟩
      exact isAccidental_eq_false_of_isAsciiDigit first
    rw [Tone.chars, List.append_assoc, tokens_pitchName_append name digits,
      tokens_natChars_append octave (ends.stops (by decide) (by decide))]
    rfl
  | chord root quality bass =>
    have known := Quality.mem_table_of_ofSymbol? readable
    have spelled : (Tone.chord root quality bass).chars =
        root.letter.char.toUpper :: chordTail root quality bass := by
      cases bass <;> simp [Tone.chars, chordTail, PitchName.upperChars]
    rw [Tone.tokens, spelled]
    exact tokens_symbol_append root.letter (fun _ => continuesSymbol_of_mem_chordTail known)
      (ends.stops (by decide) (by decide))

/-- A node that is written out is cut into its own tokens. -/
theorem tokens_node_append {node : Node} (readable : node.Readable) {text : List Char}
    (apart : Apart text) : tokens (node.chars ++ text) = node.tokens ++ tokens text := by
  rw [node.chars_eq, List.append_assoc,
    tokens_tone_append readable.tone (ends_holdChars_append node.hold apart),
    tokens_hold_append node.hold apart, Node.tokens, List.append_assoc]

/-! ### Reading written nodes -/

theorem readNumber_natChars {bound value : Nat} (below : value < bound) :
    readNumber bound (natChars value) = .ok value := by
  unfold readNumber
  rw [readNaturalBelow?_natChars below]

/-- A hold is read back, and nothing is read as a hold behind a node that has none. -/
theorem readHold_holdTokens_append {hold : Option Nat}
    (below : ∀ steps ∈ hold, steps < Nat.pow 2 32) {rest : List Token}
    (apart : rest.head? ≠ some .colon) :
    readHold (holdTokens hold ++ rest) = .ok hold := by
  cases hold with
  | none =>
    cases rest with
    | nil => rfl
    | cons token rest =>
      cases token with
      | colon => exact absurd rfl apart
      | _ => rfl
  | some steps =>
    unfold holdTokens
    simp only [List.cons_append, readHold, readNumber_natChars (below steps rfl)]
    rfl

theorem splitSlash_append {front : List Char} (plain : ∀ character ∈ front, character ≠ '/')
    (back : List Char) : splitSlash (front ++ '/' :: back) = (front, some back) := by
  induction front with
  | nil => rfl
  | cons character rest inductionHypothesis =>
    obtain ⟨here, others⟩ := List.forall_mem_cons.mp plain
    simp [splitSlash, here, inductionHypothesis others]

theorem splitSlash_of_plain {front : List Char} (plain : ∀ character ∈ front, character ≠ '/') :
    splitSlash front = (front, none) := by
  induction front with
  | nil => rfl
  | cons character rest inductionHypothesis =>
    obtain ⟨here, others⟩ := List.forall_mem_cons.mp plain
    simp [splitSlash, here, inductionHypothesis others]

theorem ofChar?_toUpper (letter : Letter) : Letter.ofChar? letter.char.toUpper = some letter := by
  cases letter <;> rfl

/-- A root is read up to its accidental. A symbol behind a root without one starts with none. -/
theorem readRoot_upperChars_append (symbol : List Char) (root : PitchName) {quality : List Char}
    (stops : Stops isAccidental quality) :
    readRoot symbol (root.upperChars ++ quality) = .ok (root, quality) := by
  obtain ⟨letter, _ | accidental⟩ := root
  · cases quality with
    | nil => simp [readRoot, PitchName.upperChars, PitchName.accidentalChars, ofChar?_toUpper]
    | cons character rest =>
      have plain : Accidental.ofChar? character = none :=
        Option.not_isSome_iff_eq_none.mp (Bool.eq_false_iff.mp (stops character rfl))
      simp [readRoot, PitchName.upperChars, PitchName.accidentalChars, ofChar?_toUpper, plain]
  · have known : Accidental.ofChar? accidental.char = some accidental := by
      cases accidental <;> rfl
    simp [readRoot, PitchName.upperChars, PitchName.accidentalChars, ofChar?_toUpper, known]

theorem ne_slash_of_mem_upperChars {name : PitchName} {character : Char}
    (member : character ∈ name.upperChars) : character ≠ '/' := by
  have computed : name.upperChars.all (fun character => character != '/') = true := by
    obtain ⟨letter, _ | accidental⟩ := name
    · cases letter <;> decide
    · cases letter <;> cases accidental <;> decide
  exact bne_iff_ne.mp (List.all_eq_true.mp computed character member)

theorem readChord_chars {root : PitchName} {quality : Quality} {bass : Option PitchName}
    (known : Quality.ofSymbol? quality.symbol = some quality) :
    readChord (Tone.chord root quality bass).chars = .ok (.chord root quality bass) := by
  obtain ⟨spelled, stops⟩ :=
    Quality.spelled_of_mem_table (Quality.mem_table_of_ofSymbol? known)
  have plain : ∀ character ∈ root.upperChars ++ quality.symbol.toList, character ≠ '/' := by
    intro character member
    rcases List.mem_append.mp member with inRoot | inSymbol
    · exact ne_slash_of_mem_upperChars inRoot
    · exact (spelled character inSymbol).2
  have found : readQuality quality.symbol.toList = .ok quality := by
    unfold readQuality
    rw [String.ofList_toList, known]
  obtain ⟨behind, split, bassRead⟩ : ∃ behind, splitSlash (Tone.chord root quality bass).chars =
      (root.upperChars ++ quality.symbol.toList, behind) ∧ readBass behind = .ok bass := by
    cases bass with
    | none => exact ⟨none, by simpa [Tone.chars] using splitSlash_of_plain plain, rfl⟩
    | some bass =>
      refine ⟨some bass.upperChars, splitSlash_append plain _, ?_⟩
      simp [readBass, ofChars?_upperChars]
  unfold readChord
  rw [split]
  refine bind_eq_ok_iff.mpr ⟨bass, bassRead, ?_⟩
  refine bind_eq_ok_iff.mpr ⟨_, readRoot_upperChars_append _ root stops, ?_⟩
  exact bind_eq_ok_iff.mpr ⟨quality, found, rfl⟩

/-- The tokens of a node are read as the node. -/
theorem nodesAfter_tokens_append {node : Node} (readable : node.Readable) {rest : List Token}
    (apart : rest.head? ≠ some .colon) {nodes : List Node} (read : nodesAfter 0 rest = .ok nodes) :
    nodesAfter 0 (node.tokens ++ rest) = .ok (node :: nodes) := by
  obtain ⟨tone, hold⟩ := node
  obtain ⟨toneReadable, below, pitches, sounds⟩ := readable
  have heldFor := readHold_holdTokens_append below apart
  have checked : checkNode ⟨tone, hold⟩ = .ok ⟨tone, hold⟩ :=
    bind_eq_ok_iff.mpr ⟨pitches, sounds, rfl⟩
  have behind : nodesAfter (holdLength hold) (holdTokens hold ++ rest) = .ok nodes := by
    cases hold with
    | none => exact read
    | some steps => exact read
  cases tone with
  | note name octave =>
    have octaveRead : readOctave name (.number (natChars octave) :: (holdTokens hold ++ rest)) =
        .ok octave := readNumber_natChars toneReadable
    refine bind_eq_ok_iff.mpr ⟨octave, octaveRead, bind_eq_ok_iff.mpr ⟨hold, heldFor, ?_⟩⟩
    refine bind_eq_ok_iff.mpr ⟨_, checked, bind_eq_ok_iff.mpr ⟨nodes, ?_, rfl⟩⟩
    rw [Nat.add_comm]
    exact behind
  | chord root quality bass =>
    refine bind_eq_ok_iff.mpr ⟨_, readChord_chars toneReadable, ?_⟩
    refine bind_eq_ok_iff.mpr ⟨hold, heldFor, ?_⟩
    exact bind_eq_ok_iff.mpr ⟨_, checked, bind_eq_ok_iff.mpr ⟨nodes, behind, rfl⟩⟩

/-! ### Whole lines -/

/-- Some nodes as one line, with single spaces between them. -/
def canonicalLine (nodes : List Node) : String := " ".intercalate (nodes.map Node.text)

theorem canonicalLine_toList_cons (node other : Node) (rest : List Node) :
    (canonicalLine (node :: other :: rest)).toList =
      node.chars ++ ' ' :: (canonicalLine (other :: rest)).toList := by
  simp [canonicalLine, Node.text, String.toList_intercalate]

theorem tokens_canonicalLine {nodes : List Node} (readable : ∀ node ∈ nodes, node.Readable) :
    tokens (canonicalLine nodes).toList = nodes.flatMap Node.tokens := by
  induction nodes with
  | nil => rfl
  | cons node rest inductionHypothesis =>
    obtain ⟨here, others⟩ := List.forall_mem_cons.mp readable
    cases rest with
    | nil =>
      have alone : (canonicalLine [node]).toList = node.chars ++ [] := by
        simp [canonicalLine, Node.text]
      have apart : Apart [] := by simp [Apart]
      rw [alone, tokens_node_append here apart]
      rfl
    | cons other rest =>
      have apart : Apart (' ' :: (canonicalLine (other :: rest)).toList) := by
        rintro _ ⟨⟩
        rfl
      rw [canonicalLine_toList_cons, tokens_node_append here apart, tokens_blank,
        inductionHypothesis others]
      rfl

theorem head?_flatMap_tokens_ne_colon (nodes : List Node) :
    (nodes.flatMap Node.tokens).head? ≠ some .colon := by
  cases nodes with
  | nil => exact nofun
  | cons node rest =>
    obtain ⟨_ | _, hold⟩ := node <;> exact nofun

theorem nodesAfter_flatMap_tokens {nodes : List Node} (readable : ∀ node ∈ nodes, node.Readable) :
    nodesAfter 0 (nodes.flatMap Node.tokens) = .ok nodes := by
  induction nodes with
  | nil => rfl
  | cons node rest inductionHypothesis =>
    obtain ⟨here, others⟩ := List.forall_mem_cons.mp readable
    exact nodesAfter_tokens_append here (head?_flatMap_tokens_ne_colon rest)
      (inductionHypothesis others)

/-- The nodes of an accepted line are read back from their canonical line. So two accepted lines
have the same canonical line exactly if they say the same, and a canonical line is its own. -/
theorem readNodes_canonicalLine {line : String} {nodes : List Node}
    (read : readNodes line.toList = .ok nodes) :
    readNodes (canonicalLine nodes).toList = .ok nodes ∧
      (∀ (other : String) (others : List Node), readNodes other.toList = .ok others →
        (canonicalLine others = canonicalLine nodes ↔ others = nodes)) ∧
      ∀ again, readNodes (canonicalLine nodes).toList = .ok again →
        canonicalLine again = canonicalLine nodes := by
  have back {line : String} {nodes : List Node} (read : readNodes line.toList = .ok nodes) :
      readNodes (canonicalLine nodes).toList = .ok nodes := by
    have readable := readable_of_nodesAfter read
    rw [readNodes, tokens_canonicalLine readable, nodesAfter_flatMap_tokens readable]
  refine ⟨back read, fun other others readOther => ⟨fun same => ?_, congrArg canonicalLine⟩, ?_⟩
  · have readSame := back readOther
    rw [same] at readSame
    exact Except.ok.inj (readSame.symm.trans (back read))
  · intro again readAgain
    obtain rfl := Except.ok.inj ((back read).symm.trans readAgain)
    rfl

/-- A line with a leading zero, a rest, a bass in lower case and a number on its own. -/
theorem readNodes_canonicalLine_slash :
    ∃ nodes, readNodes "c#04 - Bbm7/e :01 *4".toList = .ok nodes ∧
      canonicalLine nodes = "c#4 Bbm7/E:1" ∧ readNodes "c#4 Bbm7/E:1".toList = .ok nodes := by
  have read : readNodes "c#04 - Bbm7/e :01 *4".toList =
      .ok [⟨.note ⟨.c, some .sharp⟩ 4, none⟩,
        ⟨.chord ⟨.b, some .flat⟩ ⟨"m7", [0, 3, 7, 10]⟩ (some ⟨.e, none⟩), some 1⟩] :=
    toOption_eq_some_iff.mp (by decide +kernel)
  have written : canonicalLine [⟨.note ⟨.c, some .sharp⟩ 4, none⟩,
      ⟨.chord ⟨.b, some .flat⟩ ⟨"m7", [0, 3, 7, 10]⟩ (some ⟨.e, none⟩), some 1⟩] =
        "c#4 Bbm7/E:1" := by
    decide +kernel
  refine ⟨_, read, written, ?_⟩
  rw [← written]
  exact (readNodes_canonicalLine read).1

end Notation

end StepSequencer
