/-
This file says where pitches are checked. Every pitch of a node goes through one check, whether it
stands for a note, for a tone of a chord or for its bass, so no pitch is greater than 127. The
notation takes the pitches of every node that it reads. So a part whose lines are in the notation
has all its pitches, and reading it fails, if at all, for a repeat or for its length.
-/

import StepSequencer.Proofs.CanonicalLines
import StepSequencer.Proofs.Resolving

namespace StepSequencer

/-! ### The pitches of a node -/

theorem le_of_checkPitch {number : Int} {pitch : UInt8} (checked : checkPitch number = .ok pitch) :
    pitch ≤ 127 := by
  unfold checkPitch at checked
  split at checked
  next bounds =>
    obtain rfl := Except.ok.inj checked
    have small : number.toNat ≤ 127 := Int.toNat_le.mpr bounds.2
    rw [UInt8.le_iff_toNat_le, UInt8.toNat_ofNat_of_lt' (Nat.lt_of_le_of_lt small (by decide))]
    exact small
  next => cases checked

theorem PitchName.le_of_inOctave {name : PitchName} {octave : Int} {pitch : UInt8}
    (found : name.inOctave octave = .ok pitch) : pitch ≤ 127 := by
  unfold inOctave at found
  split at found
  · exact le_of_checkPitch found
  · cases found

theorem le_of_voiceChord {root : PitchName} {quality : Quality} {bass : Option PitchName}
    {pitches : List UInt8} (voiced : voiceChord root quality bass = .ok pitches) :
    ∀ pitch ∈ pitches, pitch ≤ 127 := by
  obtain ⟨base, _, voiced⟩ := bind_eq_ok_iff.mp voiced
  obtain ⟨tones, above, voiced⟩ := bind_eq_ok_iff.mp voiced
  have toneSmall : ∀ tone ∈ tones, tone ≤ 127 := fun tone member =>
    have ⟨_, _, checked⟩ := exists_of_mem_mapM above member
    le_of_checkPitch checked
  cases bass with
  | none =>
    obtain rfl := Except.ok.inj voiced
    exact toneSmall
  | some bass =>
    obtain ⟨bassPitch, below, voiced⟩ := bind_eq_ok_iff.mp voiced
    obtain rfl := Except.ok.inj voiced
    split
    · exact toneSmall
    · exact List.forall_mem_cons.mpr ⟨PitchName.le_of_inOctave below, toneSmall⟩

theorem Node.le_of_pitches {node : Node} {pitches : List UInt8}
    (found : node.pitches = .ok pitches) : ∀ pitch ∈ pitches, pitch ≤ 127 := by
  obtain ⟨tone, hold⟩ := node
  cases tone with
  | note name octave =>
    obtain ⟨pitch, known, found⟩ := bind_eq_ok_iff.mp found
    obtain rfl := Except.ok.inj found
    exact List.forall_mem_singleton.mpr (PitchName.le_of_inOctave known)
  | chord root quality bass => exact le_of_voiceChord found

/-- No line of a part has a pitch that does not fit. -/
theorem le_of_readPartLine {text : String} {line : Line (List Struck)}
    (read : readPartLine text = .ok line) :
    ∀ sound ∈ line.content, ∀ pitch ∈ sound.pitches, pitch ≤ 127 := by
  obtain ⟨repetition, _, read⟩ := bind_eq_ok_iff.mp read
  obtain ⟨nodes, _, read⟩ := bind_eq_ok_iff.mp read
  obtain ⟨content, struck, read⟩ := bind_eq_ok_iff.mp read
  obtain rfl := Except.ok.inj read
  intro sound member
  obtain ⟨node, _, taken⟩ := exists_of_mem_mapM struck member
  obtain ⟨pitches, found, taken⟩ := bind_eq_ok_iff.mp taken
  obtain rfl := Except.ok.inj taken
  exact node.le_of_pitches found

/-! ### How reading a part can fail -/

/-- A list that is not read has a member that is not read for the same reason. -/
theorem exists_of_mapM_eq_error {Fault Text Value : Type} {read : Text → Except Fault Value}
    {texts : List Text} {failure : Fault} (failed : texts.mapM read = .error failure) :
    ∃ text ∈ texts, read text = .error failure := by
  induction texts with
  | nil => cases failed
  | cons text rest inductionHypothesis =>
    rw [List.mapM_cons] at failed
    rcases bind_eq_error_iff.mp failed with first | ⟨_, _, failed⟩
    · exact ⟨text, List.mem_cons_self, first⟩
    rcases bind_eq_error_iff.mp failed with behind | ⟨_, _, done⟩
    · obtain ⟨other, member, found⟩ := inductionHypothesis behind
      exact ⟨other, List.mem_cons_of_mem _ member, found⟩
    · cases done

/-- Whether something failed for want of a pitch: a number that does not fit, or a chord of which
nobody knows the tones. -/
def Failure.IsPitch : Failure SyntaxFault → Prop
  | .fault (.pitchOutOfRange _) => True
  | .fault (.invalidChordQuality _) => True
  | .breakdown .pitchOverflow => True
  | _ => False

namespace Notation

theorem not_isPitch_of_readCount {digits : List Char} {cause : SyntaxFault}
    (failed : readCount digits = .error cause) : ¬ (Failure.fault cause).IsPitch := by
  unfold readCount at failed
  split at failed
  · cases failed
  · obtain rfl := Except.error.inj failed
    exact id

/-- A repeat has no pitches. -/
theorem not_isPitch_of_readRepeat {line : List Char} {cause : SyntaxFault}
    (failed : readRepeat line = .error cause) : ¬ (Failure.fault cause).IsPitch := by
  rcases bind_eq_error_iff.mp failed with written | ⟨repetition, _, zero⟩
  · unfold writtenRepeat at written
    split at written
    · rcases bind_eq_error_iff.mp written with times | ⟨_, _, written⟩
      · exact not_isPitch_of_readCount times
      rcases bind_eq_error_iff.mp written with modulo | ⟨_, _, done⟩
      · exact not_isPitch_of_readCount modulo
      · cases done
    · split at written
      · rcases bind_eq_error_iff.mp written with times | ⟨_, _, done⟩
        · exact not_isPitch_of_readCount times
        · cases done
      · cases written
  · split at zero
    · obtain rfl := Except.error.inj zero
      exact id
    · cases zero

/-- The nodes of a line that was read have all their pitches. -/
theorem exists_struck_of_readNodes {line : List Char} {nodes : List Node}
    (read : readNodes line = .ok nodes) : ∃ struck, nodes.mapM Struck.ofNode = .ok struck := by
  cases taken : nodes.mapM Struck.ofNode with
  | ok struck => exact ⟨struck, rfl⟩
  | error failure =>
    obtain ⟨node, member, failed⟩ := exists_of_mapM_eq_error taken
    obtain ⟨pitches, found⟩ := (readable_of_nodesAfter read node member).pitches
    rw [Struck.ofNode, found] at failed
    cases failed

end Notation

/-- A line of a part fails for its repeat or for its notes. -/
theorem of_readPartLine_eq_error {text : String} {failure : Failure SyntaxFault}
    (failed : readPartLine text = .error failure) :
    (∃ cause, Notation.readRepeat text.toList = .error cause ∧ failure = .fault cause) ∨
      Notation.readNodes text.toList = .error failure := by
  rcases bind_eq_error_iff.mp failed with first | ⟨repetition, _, failed⟩
  · obtain ⟨cause, repeated, rfl⟩ := mapError_eq_error_iff.mp first
    exact .inl ⟨cause, repeated, rfl⟩
  rcases bind_eq_error_iff.mp failed with unread | ⟨nodes, read, failed⟩
  · exact .inr unread
  · obtain ⟨struck, taken⟩ := Notation.exists_struck_of_readNodes read
    rw [taken] at failed
    cases failed

/-- A line that is in the notation does not fail for want of a pitch later. -/
theorem not_isPitch_of_readPartLine {text : String} {nodes : List Node}
    {failure : Failure SyntaxFault} (read : Notation.readNodes text.toList = .ok nodes)
    (failed : readPartLine text = .error failure) : ¬ failure.IsPitch := by
  rcases of_readPartLine_eq_error failed with ⟨cause, repeated, rfl⟩ | unread
  · exact Notation.not_isPitch_of_readRepeat repeated
  · rw [read] at unread
    cases unread

theorem eq_spanOverflow_of_pulsesSpan {Fault : Type} {pulses : Nat} {bpm : Float}
    {failure : Failure Fault} (failed : pulsesSpan pulses bpm = .error failure) :
    failure = .breakdown .spanOverflow := by
  unfold pulsesSpan Span.ofSeconds at failed
  split at failed
  · split at failed
    · exact (Except.error.inj failed).symm
    · unfold Span.check at failed
      split at failed
      · cases failed
      · exact (Except.error.inj failed).symm
  · exact (Except.error.inj failed).symm

/-- A part fails for one of its lines, or for its time. -/
theorem Part.of_read_eq_error {header : PartHeader} {bpm : Float} {slot : Option Nat}
    {texts : List String} {failure : Failure SyntaxFault}
    (failed : Part.read header bpm slot texts = .error failure) :
    texts.mapM readPartLine = .error failure ∨ failure = .breakdown .spanOverflow := by
  rcases bind_eq_error_iff.mp failed with inLine | ⟨lines, _, failed⟩
  · exact .inl inLine
  · rcases bind_eq_error_iff.mp failed with span | ⟨_, _, done⟩
    · exact .inr (eq_spanOverflow_of_pulsesSpan span)
    · cases done

/-- A part whose lines are in the notation does not fail for want of a pitch. -/
theorem Part.not_isPitch_of_read {header : PartHeader} {bpm : Float} {slot : Option Nat}
    {texts : List String} {failure : Failure SyntaxFault}
    (accepted : ∀ text ∈ texts, ∃ nodes, Notation.readNodes text.toList = .ok nodes)
    (failed : Part.read header bpm slot texts = .error failure) : ¬ failure.IsPitch := by
  rcases Part.of_read_eq_error failed with inLine | rfl
  · obtain ⟨text, member, inLine⟩ := exists_of_mapM_eq_error inLine
    obtain ⟨nodes, read⟩ := accepted text member
    exact not_isPitch_of_readPartLine read inLine
  · exact id

end StepSequencer
