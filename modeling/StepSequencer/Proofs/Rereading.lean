/-
This file reads messages twice: it writes what was read from some bytes and reads that again. The
reader takes the data bytes as they are, and the writer keeps seven bits of each. So the second
reading gives the message of the first one exactly if its data have no more than seven bits. Data
with an eighth bit lose it, and a note whose velocity is 128 comes back as the release of the note.
What was read twice stays the same from then on.
-/

import StepSequencer.Proofs.WireForm

namespace StepSequencer

namespace Message

/-- The numbers of a message that stand in data bytes. -/
def data : Message → List UInt8
  | noteOn _ note velocity => [note, velocity]
  | noteOff _ note => [note]
  | control _ controller value => [controller, value]
  | timingClock | start | stop => []

/-- What comes back when a message is written and read: its numbers lose what has no room in their
bytes, and a note that has no velocity left is a release. -/
def reread : Message → Message
  | noteOn channel note velocity =>
    if 0 < dataByte velocity then noteOn (channel % 16) (dataByte note) (dataByte velocity)
    else noteOff (channel % 16) (dataByte note)
  | noteOff channel note => noteOff (channel % 16) (dataByte note)
  | control channel controller value =>
    control (channel % 16) (dataByte controller) (dataByte value)
  | timingClock => timingClock
  | start => start
  | stop => stop

/-! ### Writing and reading -/

/-- A status byte tells what fits of its channel. -/
theorem statusByte_of_code {code : UInt8} (known : code = 8 ∨ code = 9 ∨ code = 11)
    (channel : UInt8) :
    statusByte (16 * code) channel < 0xF0 ∧ statusByte (16 * code) channel / 16 = code ∧
      statusByte (16 * code) channel % 16 = channel % 16 := by
  have small : channel % 16 ≤ 15 :=
    Nat.le_of_lt_succ (UInt8.lt_iff_toNat_lt.mp (UInt8.mod_lt channel (by decide)))
  exact (statusByte_of_le known small).2

/-- Whatever is written is read, and as what has room in its bytes. -/
theorem ofBytes?_bytes (message : Message) : ofBytes? message.bytes = some message.reread := by
  cases message with
  | noteOn channel note velocity =>
    obtain ⟨below, code, same⟩ := statusByte_of_code (.inr (.inl rfl)) channel
    refine (ofBytes?_of_lt below (dataByte note) (dataByte velocity)).trans ?_
    rw [ofChannelBytes?, if_pos code, same, reread, apply_ite some]
  | noteOff channel note =>
    obtain ⟨below, code, same⟩ := statusByte_of_code (.inl rfl) channel
    refine (ofBytes?_of_lt below (dataByte note) 0).trans ?_
    rw [ofChannelBytes?, code, if_neg (by decide), if_pos rfl, same, reread]
  | control channel controller value =>
    obtain ⟨below, code, same⟩ := statusByte_of_code (.inr (.inr rfl)) channel
    refine (ofBytes?_of_lt below (dataByte controller) (dataByte value)).trans ?_
    rw [ofChannelBytes?, code, if_neg (by decide), if_neg (by decide), if_pos rfl, same, reread]
  | timingClock | start | stop => rfl

theorem dataByte_lt (value : UInt8) : dataByte value < 128 := UInt8.mod_lt value (by decide)

theorem dataByte_eq_self_iff {value : UInt8} : dataByte value = value ↔ value < 128 := by
  constructor
  · intro same
    exact same ▸ dataByte_lt value
  · exact UInt8.mod_eq_of_lt

/-! ### Reading and writing -/

/-- Whether a channel has room in its status byte, and a note a velocity. -/
def Tellable : Message → Prop
  | noteOn channel _ velocity => channel % 16 = channel ∧ 0 < velocity
  | noteOff channel _ | control channel _ _ => channel % 16 = channel
  | timingClock | start | stop => True

theorem tellable_of_ofChannelBytes? {status first second : UInt8} {message : Message}
    (read : ofChannelBytes? status first second = some message) :
    message.Tellable ∧ message.data <+: [first, second] := by
  have channel : status % 16 % 16 = status % 16 :=
    UInt8.mod_eq_of_lt (UInt8.mod_lt status (by decide))
  unfold ofChannelBytes? at read
  split at read
  · split at read
    next sounds =>
      obtain rfl := Option.some.inj read
      exact ⟨⟨channel, sounds⟩, List.prefix_refl _⟩
    next =>
      obtain rfl := Option.some.inj read
      exact ⟨channel, List.prefix_append [first] [second]⟩
  · split at read
    · obtain rfl := Option.some.inj read
      exact ⟨channel, List.prefix_append [first] [second]⟩
    · split at read
      · obtain rfl := Option.some.inj read
        exact ⟨channel, List.prefix_refl _⟩
      · cases read

/-- The data of a message that was read stand behind its status byte. -/
theorem tellable_of_ofBytes? {received : List UInt8} {message : Message}
    (read : ofBytes? received = some message) :
    message.Tellable ∧ message.data <+: received.tail := by
  have transport (other : Message) (isTransport : other.Tellable ∧ other.data = [])
      (same : some other = some message) : message.Tellable ∧ message.data <+: received.tail := by
    obtain rfl := Option.some.inj same
    exact ⟨isTransport.1, isTransport.2 ▸ List.nil_prefix⟩
  cases received with
  | nil => cases read
  | cons status data =>
    unfold ofBytes? at read
    dsimp only at read
    split at read
    · exact transport timingClock ⟨trivial, rfl⟩ read
    · split at read
      · exact transport start ⟨trivial, rfl⟩ read
      · split at read
        · exact transport stop ⟨trivial, rfl⟩ read
        · split at read
          next first second rest =>
            obtain ⟨tellable, stands⟩ := tellable_of_ofChannelBytes? read
            exact ⟨tellable, stands.trans (List.prefix_append [first, second] rest)⟩
          next => cases read

/-- What was read stays the same exactly if its data have seven bits. -/
theorem Tellable.reread_eq_iff {message : Message} (tellable : message.Tellable) :
    message.reread = message ↔ ∀ value ∈ message.data, value < 128 := by
  simp only [← dataByte_eq_self_iff]
  cases message with
  | noteOn channel note velocity =>
    obtain ⟨sameChannel, sounds⟩ := tellable
    rw [reread, sameChannel]
    constructor
    · intro same
      split at same
      · injection same with _ sameNote sameVelocity
        simpa [data] using ⟨sameNote, sameVelocity⟩
      · cases same
    · intro sevenBit
      obtain ⟨sameNote, sameVelocity⟩ : dataByte note = note ∧ dataByte velocity = velocity := by
        simpa [data] using sevenBit
      rw [sameNote, sameVelocity, if_pos sounds]
  | noteOff channel note => simp [reread, data, show channel % 16 = channel from tellable]
  | control channel controller value =>
    simp [reread, data, show channel % 16 = channel from tellable]
  | timingClock | start | stop => exact iff_of_true rfl nofun

/-- What comes back has data of seven bits, whatever was written. -/
theorem data_reread_lt (message : Message) : ∀ value ∈ message.reread.data, value < 128 := by
  cases message with
  | noteOn channel note velocity =>
    rw [reread]
    split <;> simp [data, dataByte_lt]
  | noteOff channel note => simp [reread, data, dataByte_lt]
  | control channel controller value => simp [reread, data, dataByte_lt]
  | timingClock | start | stop => exact nofun

/-- What is read from whatever bytes is read again from its own bytes exactly if its data, which
stand behind the status byte of what was received, have seven bits. In any case something is read
again, and that stays the same. -/
theorem ofBytes?_bytes_eq_some_self_iff {received : List UInt8} {message : Message}
    (read : ofBytes? received = some message) :
    message.data <+: received.tail ∧
      (ofBytes? message.bytes = some message ↔ ∀ value ∈ message.data, value < 128) ∧
      ofBytes? message.bytes = some message.reread ∧
      ofBytes? message.reread.bytes = some message.reread := by
  obtain ⟨tellable, stands⟩ := tellable_of_ofBytes? read
  have again := ofBytes?_bytes message
  obtain ⟨tellableAgain, _⟩ := tellable_of_ofBytes? again
  refine ⟨stands, ?_, again, ?_⟩
  · rw [again, Option.some_inj]
    exact tellable.reread_eq_iff
  · rw [ofBytes?_bytes, Option.some_inj]
    exact tellableAgain.reread_eq_iff.mpr (data_reread_lt message)

/-- A note of velocity 128 comes back as the release of the note. -/
theorem ofBytes?_bytes_eq_some_self_iff_loud :
    ofBytes? [0x90, 60, 128] = some (noteOn 0 60 128) ∧
      ¬ ofBytes? (noteOn 0 60 128).bytes = some (noteOn 0 60 128) ∧
      ofBytes? (noteOn 0 60 128).bytes = some (noteOff 0 60) := by
  have read : ofBytes? [0x90, 60, 128] = some (noteOn 0 60 128) := by decide
  obtain ⟨_, stable, again, _⟩ := ofBytes?_bytes_eq_some_self_iff read
  refine ⟨read, fun same => ?_, again⟩
  exact UInt8.lt_irrefl 128 (stable.mp same 128 (List.mem_cons_of_mem 60 List.mem_cons_self))

end Message

end StepSequencer
