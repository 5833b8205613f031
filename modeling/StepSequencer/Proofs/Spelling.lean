/-
This file says how the notation cuts up what it has itself written. A number, a pitch name or a
chord symbol in front of a text becomes one token, and the text behind it is cut as if it stood
alone, provided that the text does not go on with a character that would still belong to the token.
Behind a node that is written out only a blank may follow, so nodes never run into one another.
-/

import StepSequencer.Notation.Node
import Mathlib.Data.List.Basic

namespace StepSequencer

/-! ### Numbers -/

theorem isAsciiDigit_of_mem_natChars {value : Nat} {digit : Char}
    (member : digit ∈ natChars value) : Numeric.isAsciiDigit digit = true := by
  have digits := Nat.isDigit_of_mem_toDigits (by decide) (by decide) member
  simpa [Char.isDigit, Numeric.isAsciiDigit, Char.le_def] using digits

theorem exists_natChars_eq_cons (value : Nat) : ∃ digit more, natChars value = digit :: more :=
  List.exists_cons_of_ne_nil Nat.toDigits_ne_nil

/-- The digits of a number have the value of that number. -/
theorem digitsValue_natChars (value : Nat) : Numeric.digitsValue (natChars value) = value :=
  Nat.ofDigitChars_toDigits (by decide) (by decide)

/-- A number that is written out is read back, unless it is too large. -/
theorem readNaturalBelow?_natChars {value bound : Nat} (below : value < bound) :
    Numeric.readNaturalBelow? bound (natChars value) = some value := by
  have digits : (natChars value).all Numeric.isAsciiDigit = true :=
    List.all_eq_true.mpr fun _ => isAsciiDigit_of_mem_natChars
  obtain ⟨digit, more, spelled⟩ := exists_natChars_eq_cons value
  have some : Numeric.readNatural? (natChars value) = some value := by
    unfold Numeric.readNatural?
    rw [digits, digitsValue_natChars, spelled]
    rfl
  simp [Numeric.readNaturalBelow?, some, below]

/-- A number that is read stays below its bound. -/
theorem lt_of_readNaturalBelow?_eq_some {value bound : Nat} {text : List Char}
    (read : Numeric.readNaturalBelow? bound text = some value) : value < bound := by
  have kept := (Option.filter_eq_some_iff.mp read).2
  exact of_decide_eq_true kept

namespace Notation

/-! ### Where tokens stop -/

/-- Whether a text does not go on with a character of some kind. -/
def Stops (belongs : Char → Bool) (text : List Char) : Prop :=
  ∀ character ∈ text.head?, belongs character = false

theorem takeWhile_append_of_stops {belongs : Char → Bool} {front text : List Char}
    (all : ∀ character ∈ front, belongs character = true) (stops : Stops belongs text) :
    (front ++ text).takeWhile belongs = front := by
  have none : text.takeWhile belongs = [] := by
    cases text with
    | nil => rfl
    | cons character rest => simp [stops character rfl]
  rw [List.takeWhile_append_of_pos all, none, List.append_nil]

theorem isAccidental_eq_false_of_isAsciiDigit {character : Char}
    (digit : Numeric.isAsciiDigit character = true) : isAccidental character = false := by
  by_contra accidental
  unfold isAccidental Accidental.ofChar? at accidental
  split at accidental
  next => exact absurd digit (by decide)
  next => exact absurd digit (by decide)
  next => exact accidental rfl

/-- What a token has taken is skipped. -/
theorem tokensAfter_length_append (front text : List Char) :
    tokensAfter front.length (front ++ text) = tokens text := by
  induction front with
  | nil => rfl
  | cons character rest inductionHypothesis => exact inductionHypothesis

theorem tokens_blank (text : List Char) : tokens (' ' :: text) = tokens text := rfl

theorem tokens_colon (text : List Char) : tokens (':' :: text) = .colon :: tokens text := rfl

/-- A run of digits is one number, with all its zeros. -/
theorem tokens_digits_append {digits text : List Char} (some : digits ≠ [])
    (all : ∀ character ∈ digits, Numeric.isAsciiDigit character = true)
    (stops : Stops Numeric.isAsciiDigit text) :
    tokens (digits ++ text) = .number digits :: tokens text := by
  obtain ⟨digit, more, rfl⟩ := List.exists_cons_of_ne_nil some
  obtain ⟨first, others⟩ := List.forall_mem_cons.mp all
  have noColon : (digit == ':') = false := by
    refine beq_eq_false_iff_ne.mpr fun colon => ?_
    rw [colon] at first
    exact absurd first (by decide)
  rw [List.cons_append, tokens, tokensAfter]
  simp only [noColon, first, Bool.false_eq_true, if_false, if_true]
  rw [takeWhile_append_of_stops others stops, tokensAfter_length_append]

theorem tokens_natChars_append (value : Nat) {text : List Char}
    (stops : Stops Numeric.isAsciiDigit text) :
    tokens (natChars value ++ text) = .number (natChars value) :: tokens text :=
  tokens_digits_append Nat.toDigits_ne_nil (fun _ => isAsciiDigit_of_mem_natChars) stops

theorem isAccidental_of_mem_accidentalChars {name : PitchName} {character : Char}
    (member : character ∈ name.accidentalChars) : isAccidental character = true := by
  obtain ⟨letter, _ | accidental⟩ := name
  · cases member
  · obtain rfl := List.mem_singleton.mp member
    cases accidental <;> rfl

theorem ofChars?_chars (name : PitchName) : PitchName.ofChars? name.chars = some name := by
  obtain ⟨letter, _ | accidental⟩ := name
  · cases letter <;> rfl
  · cases letter <;> cases accidental <;> rfl

theorem ofChars?_upperChars (name : PitchName) :
    PitchName.ofChars? name.upperChars = some name := by
  obtain ⟨letter, _ | accidental⟩ := name
  · cases letter <;> rfl
  · cases letter <;> cases accidental <;> rfl

theorem tokens_pitchName_append (name : PitchName) {text : List Char}
    (stops : Stops isAccidental text) :
    tokens (name.chars ++ text) = .note name :: tokens text := by
  have lower : (name.letter.char == ':') = false ∧
      Numeric.isAsciiDigit name.letter.char = false ∧
      Text.isLowercase name.letter.char = true := by
    cases name.letter <;> decide
  have taken : (name.accidentalChars ++ text).takeWhile isAccidental = name.accidentalChars :=
    takeWhile_append_of_stops (fun _ => isAccidental_of_mem_accidentalChars) stops
  have named : PitchName.ofChars? (name.letter.char :: name.accidentalChars) = some name :=
    ofChars?_chars name
  rw [PitchName.chars, List.cons_append, tokens, tokensAfter]
  simp only [lower, taken, named, Bool.false_eq_true, if_false, if_true]
  rw [tokensAfter_length_append]

/-- A symbol that starts with a letter in upper case is one token up to the next colon or blank. -/
theorem tokens_symbol_append (letter : Letter) {symbol text : List Char}
    (continues : ∀ character ∈ symbol, continuesSymbol character = true)
    (stops : Stops continuesSymbol text) :
    tokens (letter.char.toUpper :: symbol ++ text) =
      .chord (letter.char.toUpper :: symbol) :: tokens text := by
  have upper : (letter.char.toUpper == ':') = false ∧
      Numeric.isAsciiDigit letter.char.toUpper = false ∧
      Text.isLowercase letter.char.toUpper = false ∧
      Text.isAlphabetic letter.char.toUpper = true ∧
      isRootLetter letter.char.toUpper = true := by
    cases letter <;> decide
  rw [List.cons_append, tokens, tokensAfter]
  simp only [upper, Bool.false_eq_true, if_false, if_true]
  rw [takeWhile_append_of_stops continues stops, tokensAfter_length_append]

end Notation

end StepSequencer
