/-
This file says what becomes of a header that gives a truth value or a text where a number belongs.
Two readers of numbers stand side by side. The one asks for a number and finds a fault in anything
else; tempo and channel are read by it. The other passes over whatever is no number, and generators
use it for all that they count. So a generator reads a mistyped key as if the header left it out:
it fails if it cannot do without the key, and goes on with its default if it can.
-/

import StepSequencer.Header.Settings
import StepSequencer.Pattern.Generation
import StepSequencer.Proofs.Entries

namespace StepSequencer

/-- Whether a value is a number. -/
def Value.isNumber : Value → Bool
  | .number _ => true
  | .boolean _ | .text _ => false

namespace Metadata

variable {metadata : Metadata} {key : String} {value : Value}

/-- A header that leaves a key out. -/
def without (metadata : Metadata) (key : String) : Metadata :=
  ⟨metadata.entries.filter fun entry => entry.1 != key⟩

theorem get?_without (metadata : Metadata) (key other : String) :
    (metadata.without key).get? other = if other = key then none else metadata.get? other := by
  refine (congrArg (Option.map Prod.snd) (find?_filter_key metadata.entries key other)).trans ?_
  exact apply_ite (Option.map Prod.snd) ..

theorem text?_without {other : String} (apart : other ≠ key) :
    (metadata.without key).text? other = metadata.text? other := by
  rw [text?, text?, get?_without, if_neg apart]

/-- Whoever passes over what is no number finds the same numbers without a mistyped key. -/
theorem number?_without (present : metadata.get? key = some value)
    (mistyped : value.isNumber = false) (other : String) :
    (metadata.without key).number? other = metadata.number? other := by
  by_cases same : other = key
  · rw [number?, number?, get?_without, if_pos same, same, present]
    cases value with
    | number => cases mistyped
    | boolean | text => rfl
  · rw [number?, number?, get?_without, if_neg same]

/-- Whoever asks for a number finds a fault in a mistyped key. -/
theorem requireNumber_of_mistyped (present : metadata.get? key = some value)
    (mistyped : value.isNumber = false) :
    metadata.requireNumber key = .error (.invalidValue key value.show) := by
  rw [requireNumber, present]
  cases value with
  | number => cases mistyped
  | boolean | text => rfl

end Metadata

namespace Pattern

variable {metadata : Metadata} {key : String} {value : Value}

theorem integer?_without (present : metadata.get? key = some value)
    (mistyped : value.isNumber = false) (other : String) :
    integer? (metadata.without key) other = integer? metadata other :=
  congrArg (Option.map toInteger) (Metadata.number?_without present mistyped other)

/-- A generator that is given no number for a key does what it does without the key, unless it looks
for notes there. -/
theorem generate_without (present : metadata.get? key = some value)
    (mistyped : value.isNumber = false) (note : "note" ≠ key) (notes : "notes" ≠ key)
    (name : String) : generate name (metadata.without key) = generate name metadata := by
  have integers := integer?_without present mistyped
  have euclid : Euclid.ofMetadata (metadata.without key) = Euclid.ofMetadata metadata := by
    simp only [Euclid.ofMetadata, integers, Metadata.text?_without note,
      Metadata.text?_without notes]
  have arpeggio : Arpeggio.ofMetadata (metadata.without key) = Arpeggio.ofMetadata metadata := by
    simp only [Arpeggio.ofMetadata, integers, Metadata.text?_without notes]
  rw [generate, generate, euclid, arpeggio]

/-- There is no even spread without a number of pulses and a number of steps. -/
theorem generate_euclidean_of_missing {parameter : String}
    (counts : parameter = "pulses" ∨ parameter = "steps")
    (missing : integer? metadata parameter = none) :
    ∃ fault, generate euclideanName metadata = .error fault := by
  rw [generate, if_pos rfl, Euclid.ofMetadata]
  obtain rfl | rfl := counts
  · rw [missing]
    exact ⟨_, rfl⟩
  · rw [missing]
    cases integer? metadata "pulses" with
    | none => exact ⟨_, rfl⟩
    | some pulses => exact ⟨_, rfl⟩

end Pattern

/-! ### Keys -/

/-- A key for which a block understands a number. -/
inductive NumberKey where
  | tempo
  | channel
  | pulses
  | steps
  | rotation
  | seed
  | length
deriving DecidableEq

/-- What a header says once it is read: how to play, what a part is, or which steps are made. -/
inductive HeaderReading where
  | settings (settings : Settings)
  | part (header : PartHeader)
  | steps (lines : List String)

namespace NumberKey

/-- A key as headers write it. -/
def text : NumberKey → String
  | .tempo => "bpm"
  | .channel => "ch"
  | .pulses => "pulses"
  | .steps => "steps"
  | .rotation => "rotation"
  | .seed => "seed"
  | .length => "length"

/-- Whether a block finds a fault in whatever is no number, rather than passing it over. -/
def asks : NumberKey → Bool
  | .tempo | .channel => true
  | .pulses | .steps | .rotation | .seed | .length => false

/-- Whether a block cannot do without a number. -/
def demands : NumberKey → Bool
  | .pulses | .steps => true
  | .tempo | .channel | .rotation | .seed | .length => false

/-- Reads a header for a block that understands a key. -/
def read (key : NumberKey) (metadata : Metadata) : Except BlockFault HeaderReading :=
  match key with
  | .tempo => ((Settings.ofMetadata metadata).map .settings).mapError .grammar
  | .channel => ((PartHeader.ofMetadata metadata).map .part).mapError .grammar
  | .pulses | .steps | .rotation | .seed =>
    ((Pattern.generate Pattern.euclideanName metadata).map .steps).mapError .pattern
  | .length => ((Pattern.generate Pattern.arpeggiateName metadata).map .steps).mapError .pattern

variable {key : NumberKey} {metadata : Metadata} {value : Value}

/-- Whether a header is refused. -/
def Refuses (key : NumberKey) (metadata : Metadata) : Prop :=
  ∃ fault, key.read metadata = .error fault

theorem read_of_asks (present : metadata.get? key.text = some value)
    (mistyped : value.isNumber = false) (asks : key.asks = true) :
    key.read metadata = .error (.grammar (.invalidValue key.text value.show)) := by
  have fails := Metadata.requireNumber_of_mistyped present mistyped
  cases key with
  | tempo =>
    have fails : metadata.requireNumber "bpm" = _ := fails
    rw [read, Settings.ofMetadata, fails]
    rfl
  | channel =>
    have fails : metadata.requireNumber "ch" = _ := fails
    rw [read, PartHeader.ofMetadata, fails]
    rfl
  | pulses | steps | rotation | seed | length => cases asks

theorem read_without (present : metadata.get? key.text = some value)
    (mistyped : value.isNumber = false) (passes : key.asks = false) :
    key.read (metadata.without key.text) = key.read metadata := by
  have note : "note" ≠ key.text := by cases key <;> decide
  have notes : "notes" ≠ key.text := by cases key <;> decide
  have same := Pattern.generate_without present mistyped note notes
  cases key with
  | tempo | channel => cases passes
  | pulses | steps | rotation | seed | length =>
    simp only [read]
    rw [same]

/-- A block that cannot do without a number is refused without it. -/
theorem refuses_without (demands : key.demands = true) (metadata : Metadata) :
    key.Refuses (metadata.without key.text) := by
  have missing : Pattern.integer? (metadata.without key.text) key.text = none := by
    rw [Pattern.integer?, Metadata.number?, Metadata.get?_without, if_pos rfl]
    rfl
  have fails : ∃ fault, Pattern.generate Pattern.euclideanName (metadata.without key.text) =
      .error fault := by
    refine Pattern.generate_euclidean_of_missing ?_ missing
    cases key with
    | pulses => exact .inl rfl
    | steps => exact .inr rfl
    | tempo | channel | rotation | seed | length => cases demands
  obtain ⟨fault, fails⟩ := fails
  refine ⟨.pattern fault, ?_⟩
  cases key with
  | pulses | steps =>
    simp only [read, fails]
    rfl
  | tempo | channel | rotation | seed | length => cases demands

/-- What becomes of a header that gives something else where a number belongs. -/
structure Mistakes (key : NumberKey) (metadata : Metadata) (value : Value) : Prop where
  /-- The header is refused if its block asks for a number, if its block cannot do without one, or
  if it would be refused without the key as well. Otherwise nobody notices. -/
  refused : key.Refuses metadata ↔
    key.asks = true ∨ key.demands = true ∨ key.Refuses (metadata.without key.text)
  fault : key.asks = true →
    key.read metadata = .error (.grammar (.invalidValue key.text value.show))
  passedOver : key.asks = false → key.read metadata = key.read (metadata.without key.text)

/-- Whether a mistyped number is noticed depends on its key, and on the rest of the header for those
keys alone that have a default in a generator. -/
theorem mistakes_of_mistyped (present : metadata.get? key.text = some value)
    (mistyped : value.isNumber = false) : key.Mistakes metadata value where
  refused := by
    cases asks : key.asks with
    | true => exact iff_of_true ⟨_, read_of_asks present mistyped asks⟩ (.inl rfl)
    | false =>
      have alike : key.Refuses (metadata.without key.text) ↔ key.Refuses metadata := by
        rw [Refuses, Refuses, read_without present mistyped asks]
      constructor
      · exact fun refused => .inr (.inr (alike.mpr refused))
      · rintro (asks | demands | refused)
        · cases asks
        · exact alike.mp (refuses_without demands metadata)
        · exact alike.mp refused
  fault := read_of_asks present mistyped
  passedOver asks := (read_without present mistyped asks).symm

/-- A cycle of notes whose length is a word is made of one step, as if no length were given. -/
theorem mistakes_of_mistyped_length :
    (Metadata.mk [("length", .text "abc"), ("notes", .text "c4,e4")]).get? "length" =
        some (.text "abc") ∧
      (Value.text "abc").isNumber = false ∧
      length.Mistakes ⟨[("length", .text "abc"), ("notes", .text "c4,e4")]⟩ (.text "abc") ∧
      length.read ⟨[("length", .text "abc"), ("notes", .text "c4,e4")]⟩ =
        .ok (.steps ["c4:1"]) :=
  ⟨rfl, rfl, mistakes_of_mistyped rfl rfl, rfl⟩

end NumberKey

end StepSequencer
