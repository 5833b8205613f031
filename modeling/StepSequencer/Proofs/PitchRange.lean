/-
This file says what becomes of a pitch that is too high. The number of a pitch is computed in 32-bit
words before it is checked to lie between 0 and 127. The octave of a note may be any number that
fits such a word, so the number of its pitch may not: then the computation breaks down, and the note
is not rejected as it should be. Nothing else in a step line can break down. The root and the bass
of a chord have octaves of their own, and a note that fits is accepted with exactly its number, or
rejected for it.
-/

import StepSequencer.Proofs.FirstFaults

namespace StepSequencer

/-! ### Pitches -/

/-- The number of a name in an octave, of whatever size. -/
def PitchName.exactPitch (name : PitchName) (octave : Nat) : Int := octave * 12 + name.semitone

theorem PitchName.semitone_bounds (name : PitchName) : -1 ≤ name.semitone ∧ name.semitone ≤ 12 := by
  obtain ⟨letter, _ | accidental⟩ := name
  · cases letter <;> decide
  · cases letter <;> cases accidental <;> decide

theorem fitsWord_iff {value : Int} : fitsWord value = true ↔ -2 ^ 31 ≤ value ∧ value < 2 ^ 31 := by
  simp only [fitsWord, Bool.and_eq_true, decide_eq_true_eq]
  rfl

/-- The number of a pitch is computed exactly if it fits a signed word; no step on the way leaves
the words before the number itself does. -/
theorem PitchName.inOctave_eq (name : PitchName) (octave : Nat) :
    name.inOctave octave = if name.exactPitch octave < 2 ^ 31 then
      checkPitch (name.exactPitch octave) else .error (.breakdown .pitchOverflow) := by
  obtain ⟨low, high⟩ := name.semitone_bounds
  have fits : (fitsWord (octave * 12) && fitsWord (octave * 12 + name.semitone)) = true ↔
      name.exactPitch octave < 2 ^ 31 := by
    rw [Bool.and_eq_true, fitsWord_iff, fitsWord_iff, exactPitch]
    omega
  rw [inOctave, if_congr fits rfl rfl]
  rfl

theorem checkPitch_eq_ok_iff {number : Int} {pitch : UInt8} :
    checkPitch number = .ok pitch ↔ 0 ≤ number ∧ number ≤ 127 ∧ (pitch.toNat : Int) = number := by
  unfold checkPitch
  split
  next bounds =>
    have small : number.toNat < 256 := by omega
    have same : ((UInt8.ofNat number.toNat).toNat : Int) = number := by
      rw [UInt8.toNat_ofNat_of_lt' small]
      omega
    constructor
    · intro checked
      obtain rfl := Except.ok.inj checked
      exact ⟨bounds.1, bounds.2, same⟩
    · rintro ⟨_, _, equal⟩
      have nats : pitch.toNat = (UInt8.ofNat number.toNat).toNat := by omega
      exact congrArg Except.ok (UInt8.toNat_inj.mp nats.symm)
  next outside => exact iff_of_false nofun fun inside => outside ⟨inside.1, inside.2.1⟩

theorem checkPitch_eq_error_iff {number : Int} {failure : Failure SyntaxFault} :
    checkPitch number = .error failure ↔
      ¬ (0 ≤ number ∧ number ≤ 127) ∧ failure = .fault (.pitchOutOfRange number) := by
  unfold checkPitch
  split
  next bounds => exact iff_of_false nofun fun outside => outside.1 bounds
  next outside =>
    constructor
    · intro failed
      exact ⟨outside, (Except.error.inj failed).symm⟩
    · rintro ⟨_, rfl⟩
      rfl

/-- The root and the bass of a chord have octaves in which every name fits a word. -/
theorem exists_of_voiceChord_eq_error {root : PitchName} {quality : Quality}
    {bass : Option PitchName} {failure : Failure SyntaxFault}
    (failed : voiceChord root quality bass = .error failure) :
    ∃ number, failure = .fault (.pitchOutOfRange number) := by
  have named (name : PitchName) (octave : Nat) (low : octave ≤ 5)
      (failed : name.inOctave octave = .error failure) :
      ∃ number, failure = .fault (.pitchOutOfRange number) := by
    have small : name.exactPitch octave < 2 ^ 31 := by
      have high := name.semitone_bounds.2
      rw [PitchName.exactPitch]
      omega
    rw [name.inOctave_eq, if_pos small] at failed
    exact ⟨_, (checkPitch_eq_error_iff.mp failed).2⟩
  rcases bind_eq_error_iff.mp failed with noRoot | ⟨base, _, failed⟩
  · exact named root 5 (Nat.le_refl 5) noRoot
  rcases bind_eq_error_iff.mp failed with noTone | ⟨tones, _, failed⟩
  · obtain ⟨interval, _, noTone⟩ := exists_of_mapM_eq_error noTone
    exact ⟨_, (checkPitch_eq_error_iff.mp noTone).2⟩
  cases bass with
  | none => cases failed
  | some bass =>
    rcases bind_eq_error_iff.mp failed with noBass | ⟨_, _, done⟩
    · exact named bass 4 (Nat.le_succ 4) noBass
    · cases done

/-- A node without pitches has a number that does not fit. -/
theorem Node.isPitch_of_pitches {node : Node} {failure : Failure SyntaxFault}
    (failed : node.pitches = .error failure) : failure.IsPitch := by
  obtain ⟨tone, hold⟩ := node
  cases tone with
  | note name octave =>
    rcases bind_eq_error_iff.mp failed with wrong | ⟨_, _, done⟩
    · rw [name.inOctave_eq] at wrong
      split at wrong
      next =>
        obtain ⟨_, rfl⟩ := checkPitch_eq_error_iff.mp wrong
        trivial
      next =>
        obtain rfl := Except.error.inj wrong
        trivial
    · cases done
  | chord root quality bass =>
    obtain ⟨number, rfl⟩ := exists_of_voiceChord_eq_error failed
    trivial

namespace Notation

/-! ### What can break down -/

/-- Whether a computation has broken down. -/
def IsBreakdown : Failure SyntaxFault → Prop
  | .fault _ => False
  | .breakdown _ => True

theorem avoids_fault {Value : Type} (cause : SyntaxFault) :
    Avoids IsBreakdown (.error (.fault cause) : Except (Failure SyntaxFault) Value) := by
  rintro _ ⟨⟩
  exact id

theorem avoids_readNumber (bound : Nat) (digits : List Char) :
    Avoids IsBreakdown (readNumber bound digits) := by
  intro failure failed
  obtain rfl := eq_invalidNumber_of_readNumber failed
  exact id

theorem avoids_readOctave (name : PitchName) (rest : List Token) :
    Avoids IsBreakdown (readOctave name rest) := by
  unfold readOctave
  split
  · exact avoids_readNumber _ _
  · exact avoids_fault _

theorem avoids_readHold (rest : List Token) : Avoids IsBreakdown (readHold rest) := by
  unfold readHold
  split
  · exact (avoids_readNumber _ _).bind fun _ => avoids_ok _
  · exact avoids_fault _
  · exact avoids_ok _

theorem avoids_readBass (text : Option (List Char)) : Avoids IsBreakdown (readBass text) := by
  unfold readBass
  split
  · exact avoids_ok _
  split
  · exact avoids_ok _
  · exact avoids_fault _

theorem avoids_readRoot (symbol chord : List Char) :
    Avoids IsBreakdown (readRoot symbol chord) := by
  unfold readRoot
  split
  · exact avoids_fault _
  split
  · exact avoids_fault _
  split
  · exact avoids_ok _
  split <;> exact avoids_ok _

theorem avoids_readQuality (symbol : List Char) : Avoids IsBreakdown (readQuality symbol) := by
  unfold readQuality
  split
  · exact avoids_ok _
  · exact avoids_fault _

theorem avoids_readChord (symbol : List Char) : Avoids IsBreakdown (readChord symbol) := by
  refine (avoids_readBass _).bind fun _ => (avoids_readRoot _ _).bind fun root => ?_
  exact (avoids_readQuality root.2).bind fun _ => avoids_ok _

/-- A chord symbol is read as a chord. -/
theorem exists_chord_of_readChord {symbol : List Char} {tone : Tone}
    (read : readChord symbol = .ok tone) :
    ∃ root quality bass, tone = .chord root quality bass := by
  obtain ⟨bass, _, read⟩ := bind_eq_ok_iff.mp read
  obtain ⟨⟨root, _⟩, _, read⟩ := bind_eq_ok_iff.mp read
  obtain ⟨quality, _, read⟩ := bind_eq_ok_iff.mp read
  exact ⟨root, quality, bass, (Except.ok.inj read).symm⟩

/-! ### Notes -/

theorem checkNode_note (name : PitchName) (octave : Nat) (hold : Option Nat) :
    checkNode ⟨.note name octave, hold⟩ =
      name.inOctave octave >>= fun _ => .ok ⟨.note name octave, hold⟩ := by
  have single : Node.pitches ⟨.note name octave, hold⟩ =
      name.inOctave octave >>= fun pitch => .ok [pitch] := rfl
  rw [checkNode, single, bind_assoc]
  rfl

/-- A note whose octave and hold are read is then checked. -/
theorem readToken_note {name : PitchName} {rest : List Token} {octave : Nat} {hold : Option Nat}
    (octaveRead : readOctave name rest = .ok octave)
    (holdRead : readHold (rest.drop 1) = .ok hold) :
    readToken (.note name) rest = name.inOctave octave >>= fun _ =>
      .ok (some ⟨.note name octave, hold⟩, 1 + holdLength hold) := by
  rw [readToken, octaveRead, ok_bind, holdRead, ok_bind, checkNode_note, bind_assoc]
  rfl

/-- Whether the reader of a line comes to a note, and reads its octave and its hold. -/
def ReachesNote (line : List Char) (name : PitchName) (octave : Nat) : Prop :=
  ∃ rest hold, Reaches line (.note name) rest ∧ readOctave name rest = .ok octave ∧
    readHold (rest.drop 1) = .ok hold

/-- Whatever is wrong with a pitch of a note to which the reader comes is wrong with the line. -/
theorem ReachesNote.readNodes_eq_error {line : List Char} {name : PitchName} {octave : Nat}
    (reaches : ReachesNote line name octave) {failure : Failure SyntaxFault}
    (failed : name.inOctave octave = .error failure) : readNodes line = .error failure := by
  obtain ⟨rest, hold, comes, octaveRead, holdRead⟩ := reaches
  refine readNodes_eq_error_iff.mpr ⟨.note name, rest, comes, ?_⟩
  rw [readToken_note octaveRead holdRead, failed]
  rfl

/-- Only the check of a note can break down. -/
theorem exists_of_readToken_eq_breakdown {token : Token} {rest : List Token} {reason : Breakdown}
    (broke : readToken token rest = .error (.breakdown reason)) :
    ∃ name octave hold, token = .note name ∧ readOctave name rest = .ok octave ∧
      readHold (rest.drop 1) = .ok hold ∧
      name.inOctave octave = .error (.breakdown reason) := by
  cases token with
  | illegal fault | number digits | colon => cases broke
  | note name =>
    rcases bind_eq_error_iff.mp broke with noOctave | ⟨octave, octaveRead, further⟩
    · exact absurd trivial (avoids_readOctave _ _ _ noOctave)
    rcases bind_eq_error_iff.mp further with noHold | ⟨hold, holdRead, _⟩
    · exact absurd trivial (avoids_readHold _ _ noHold)
    refine ⟨name, octave, hold, rfl, octaveRead, holdRead, ?_⟩
    rw [readToken_note octaveRead holdRead] at broke
    rcases bind_eq_error_iff.mp broke with failed | ⟨_, _, done⟩
    · exact failed
    · cases done
  | chord symbol =>
    rcases bind_eq_error_iff.mp broke with noChord | ⟨tone, toneRead, broke⟩
    · exact absurd trivial (avoids_readChord _ _ noChord)
    rcases bind_eq_error_iff.mp broke with noHold | ⟨hold, _, broke⟩
    · exact absurd trivial (avoids_readHold _ _ noHold)
    rcases bind_eq_error_iff.mp broke with unchecked | ⟨_, _, done⟩
    · rcases bind_eq_error_iff.mp unchecked with noPitches | ⟨_, _, done⟩
      · obtain ⟨root, quality, bass, rfl⟩ := exists_chord_of_readChord toneRead
        obtain ⟨number, fault⟩ := exists_of_voiceChord_eq_error noPitches
        cases fault
      · cases done
    · cases done

/-- Only digits make a number. -/
theorem isAsciiDigit_of_readNumber {bound value : Nat} {digits : List Char}
    (read : readNumber bound digits = .ok value) :
    digits ≠ [] ∧ ∀ character ∈ digits, Numeric.isAsciiDigit character = true := by
  unfold readNumber at read
  split at read
  next other found =>
    have whole := (Option.filter_eq_some_iff.mp found).1
    unfold Numeric.readNatural? at whole
    split at whole
    next spelled => simpa using spelled
    next => cases whole
  next => cases read

/-- The reader comes to a note that stands alone on its line, however its octave is spelled. -/
theorem reachesNote_chars_append (name : PitchName) {digits : List Char} {octave : Nat}
    (read : readNumber (Nat.pow 2 31) digits = .ok octave) :
    ReachesNote (name.chars ++ digits) name octave := by
  obtain ⟨some, all⟩ := isAsciiDigit_of_readNumber read
  have stops : Stops isAccidental digits := fun character first =>
    isAccidental_eq_false_of_isAsciiDigit (all character (List.mem_of_mem_head? first))
  have number : tokens digits = [.number digits] := by
    have stopsHere : Stops Numeric.isAsciiDigit [] := nofun
    rw [← List.append_nil digits, tokens_digits_append some all stopsHere, List.append_nil]
    rfl
  refine ⟨[.number digits], none, ⟨[], [], ?_, rfl⟩, read, rfl⟩
  rw [tokens_pitchName_append name stops, number]
  rfl

/-! ### Lines -/

/-- Reading a line breaks down exactly if the reader comes to a note whose number does not fit a
signed word of 32 bits. If it comes to a note whose number fits but lies outside the range of
pitches, the line is rejected with that number; and every note that is accepted has exactly its
number, within the range. The reader does come to a note that stands alone on its line, whatever its
name and its octave. -/
theorem readNodes_overflows_iff (line : List Char) :
    (∀ reason, readNodes line = .error (.breakdown reason) ↔ reason = .pitchOverflow ∧
      ∃ name octave, ReachesNote line name octave ∧ 2 ^ 31 ≤ name.exactPitch octave) ∧
    (∀ name octave, ReachesNote line name octave → name.exactPitch octave < 2 ^ 31 →
      ¬ (0 ≤ name.exactPitch octave ∧ name.exactPitch octave ≤ 127) →
        readNodes line = .error (.fault (.pitchOutOfRange (name.exactPitch octave)))) ∧
    (∀ nodes, readNodes line = .ok nodes →
      ∀ name octave hold, ⟨.note name octave, hold⟩ ∈ nodes →
        ∃ pitch, Node.pitches ⟨.note name octave, hold⟩ = .ok [pitch] ∧ pitch ≤ 127 ∧
          (pitch.toNat : Int) = name.exactPitch octave) ∧
    ∀ (name : PitchName) digits octave, line = name.chars ++ digits →
      readNumber (Nat.pow 2 31) digits = .ok octave → ReachesNote line name octave := by
  refine ⟨fun reason => ⟨fun broke => ?_, ?_⟩, fun name octave reaches fits outside => ?_,
    fun nodes read name octave hold member => ?_, ?_⟩
  · obtain ⟨token, rest, comes, broke⟩ := readNodes_eq_error_iff.mp broke
    obtain ⟨name, octave, hold, rfl, octaveRead, holdRead, broke⟩ :=
      exists_of_readToken_eq_breakdown broke
    rw [name.inOctave_eq] at broke
    split at broke
    next => cases (checkPitch_eq_error_iff.mp broke).2
    next large =>
      cases broke
      exact ⟨rfl, name, octave, ⟨rest, hold, comes, octaveRead, holdRead⟩, Int.not_lt.mp large⟩
  · rintro ⟨rfl, name, octave, reaches, large⟩
    refine reaches.readNodes_eq_error ?_
    rw [name.inOctave_eq, if_neg (Int.not_lt.mpr large)]
  · refine reaches.readNodes_eq_error ?_
    rw [name.inOctave_eq, if_pos fits]
    exact checkPitch_eq_error_iff.mpr ⟨outside, rfl⟩
  · obtain ⟨pitches, found⟩ := (readable_of_nodesAfter read _ member).pitches
    obtain ⟨pitch, exact, single⟩ := bind_eq_ok_iff.mp found
    obtain rfl := Except.ok.inj single
    refine ⟨pitch, found, PitchName.le_of_inOctave exact, ?_⟩
    rw [name.inOctave_eq] at exact
    split at exact
    next => exact (checkPitch_eq_ok_iff.mp exact).2.2
    next => cases exact
  · rintro name digits octave rfl
    exact reachesNote_chars_append name

/-- The highest note, the lowest one that is too high, and the lowest one that breaks down. -/
theorem readNodes_overflows_iff_edges :
    (∃ nodes, readNodes "g10".toList = .ok nodes ∧ Node.mk (.note ⟨.g, none⟩ 10) none ∈ nodes ∧
      ∃ pitch, Node.pitches ⟨.note ⟨.g, none⟩ 10, none⟩ = .ok [pitch] ∧ (pitch.toNat : Int) = 127) ∧
    readNodes "g#10".toList = .error (.fault (.pitchOutOfRange 128)) ∧
    readNodes "g#178956970".toList = .error (.breakdown .pitchOverflow) := by
  refine ⟨?_, ?_, ?_⟩
  · have read : readNodes "g10".toList = .ok [⟨.note ⟨.g, none⟩ 10, none⟩] :=
      toOption_eq_some_iff.mp (by decide +kernel)
    obtain ⟨_, _, accepted, _⟩ := readNodes_overflows_iff "g10".toList
    obtain ⟨pitch, found, _, exact⟩ := accepted _ read _ _ _ List.mem_cons_self
    exact ⟨_, read, List.mem_cons_self, pitch, found, exact⟩
  · obtain ⟨_, rejected, _, reaches⟩ := readNodes_overflows_iff "g#10".toList
    have comes := reaches ⟨.g, some .sharp⟩ "10".toList 10 (by decide +kernel) rfl
    exact rejected _ 10 comes (by decide) (by decide)
  · obtain ⟨overflow, _, _, reaches⟩ := readNodes_overflows_iff "g#178956970".toList
    have comes := reaches ⟨.g, some .sharp⟩ "178956970".toList 178956970 (by decide +kernel) rfl
    exact (overflow _).mpr ⟨rfl, _, 178956970, comes, by decide⟩

end Notation

end StepSequencer
