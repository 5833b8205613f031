/-
This file proves that reading a header undoes writing it. A written header is a directive and any
number of pairs behind it, each with one or more spaces in front: a key, a colon and a value, which
is a truth value, a whole number or a text between quotes. Every pair is cut into exactly three
tokens, whatever its text contains, because a word ends at the colon or at the space, a number at
the space and a text at its second quote. So the last value that was written for a key is the value
that the key has, and no other key has a value.
-/

import StepSequencer.Header.Metadata
import StepSequencer.Proofs.Spelling
import Mathlib.Data.Bool.AllAny
import Mathlib.Data.List.TakeWhile

namespace StepSequencer

/-! ### Whole numbers -/

namespace Numeric

/-- What holds of the ten digits holds of every digit. -/
theorem forall_digit (holds : Char → Prop)
    (each : ∀ value : Fin 10, holds (Char.ofNat (48 + value))) {digit : Char}
    (decimal : isAsciiDigit digit = true) : holds digit := by
  obtain ⟨low, high⟩ := Bool.and_eq_true_iff.mp decimal
  have above : 48 ≤ digit.toNat := UInt32.le_iff_toNat_le.mp (of_decide_eq_true low)
  have below : digit.toNat ≤ 57 := UInt32.le_iff_toNat_le.mp (of_decide_eq_true high)
  have held := each ⟨digit.toNat - 48, by omega⟩
  rwa [Nat.add_sub_cancel' above, Char.ofNat_toNat] at held

/-- A run of decimal digits reads as its value. -/
theorem readUnsigned?_of_digits {digits : List Char} (nonempty : digits ≠ [])
    (decimal : ∀ digit ∈ digits, isAsciiDigit digit = true) :
    readUnsigned? digits = some (ofDecimal (digitsValue digits) 0) := by
  have whole : digits.takeWhile isAsciiDigit = digits := List.takeWhile_eq_self_iff.mpr decimal
  have rest : digits.dropWhile isAsciiDigit = [] := List.dropWhile_eq_nil_iff.mpr decimal
  rw [readUnsigned?, whole, rest]
  simp [nonempty, readExponent?]

end Numeric

namespace Header

/-- A whole number as it is written. -/
structure Literal where
  negative : Bool
  digits : List Char
  nonempty : digits ≠ []
  decimal : ∀ digit ∈ digits, Numeric.isAsciiDigit digit = true

/-- The characters of a whole number. -/
def Literal.chars (literal : Literal) : List Char :=
  if literal.negative then '-' :: literal.digits else literal.digits

/-- The floating-point number that a whole number is rounded to. -/
def Literal.value (literal : Literal) : Float :=
  let magnitude := Numeric.ofDecimal (Numeric.digitsValue literal.digits) 0
  if literal.negative then -magnitude else magnitude

/-- A whole number reads as its value. -/
theorem Literal.readFloat?_chars (literal : Literal) :
    Numeric.readFloat? literal.chars = some literal.value := by
  obtain ⟨negative, digits, nonempty, decimal⟩ := literal
  have read := Numeric.readUnsigned?_of_digits nonempty decimal
  obtain ⟨digit, more, rfl⟩ := List.exists_cons_of_ne_nil nonempty
  have first := decimal digit List.mem_cons_self
  -- A digit is no sign, and neither `inf` nor `nan` starts with one.
  have noSign : digit ≠ '-' ∧ digit ≠ '+' :=
    Numeric.forall_digit (fun digit => digit ≠ '-' ∧ digit ≠ '+') (by decide) first
  have noWord : digit.toLower ≠ 'i' ∧ digit.toLower ≠ 'n' :=
    Numeric.forall_digit (fun digit => digit.toLower ≠ 'i' ∧ digit.toLower ≠ 'n') (by decide)
      first
  have sign : Numeric.splitSign (Literal.chars ⟨negative, digit :: more, nonempty, decimal⟩) =
      (negative, digit :: more) := by
    cases negative with
    | true => rfl
    | false =>
      show Numeric.splitSign (digit :: more) = _
      unfold Numeric.splitSign
      split <;> simp_all
  have finite : Numeric.asciiLower (digit :: more) ∉ ["inf".toList, "infinity".toList] := by
    simp [Numeric.asciiLower, noWord]
  have number : Numeric.asciiLower (digit :: more) ≠ "nan".toList := by
    simp [Numeric.asciiLower, noWord]
  rw [Numeric.readFloat?, sign]
  simp only [if_neg finite, if_neg number, read]
  rfl

/-! ### Headers as they are written -/

/-- A key that a header cannot mistake for a value of another kind. -/
structure Key where
  text : String
  nonempty : text ≠ ""
  word : ∀ character ∈ text.toList, Text.isBlank character = false ∧ character ≠ ':'
  plain : ∀ character ∈ text.toList.head?,
    isQuote character = false ∧ Numeric.isAsciiDigit character = false ∧ character ≠ '-'
  noBoolean : ∀ value, text ≠ booleanText value

/-- A text that leaves one of the two quotes free to stand around it. -/
structure Quotable where
  text : String
  free : '"' ∉ text.toList ∨ '\x27' ∉ text.toList

/-- The quote around a text: a double one, unless the text contains it. -/
def Quotable.quote (quotable : Quotable) : Char :=
  if '"' ∈ quotable.text.toList then '\x27' else '"'

/-- A value as it is written. -/
inductive WrittenValue where
  | boolean (value : Bool)
  | integer (literal : Literal)
  | text (quotable : Quotable)

namespace WrittenValue

/-- The characters of a value. -/
def chars : WrittenValue → List Char
  | boolean value => (booleanText value).toList
  | integer literal => literal.chars
  | text quotable => quotable.quote :: quotable.text.toList ++ [quotable.quote]

/-- The value that is written. -/
def value : WrittenValue → Value
  | boolean value => .boolean value
  | integer literal => .number literal.value
  | text quotable => .text quotable.text

/-- The token of a value. -/
def token : WrittenValue → Token
  | boolean value => .boolean value
  | integer literal => .number literal.chars
  | text quotable => .quoted quotable.text.toList

end WrittenValue

/-- A key and a value as they are written, with the number of spaces in front. -/
structure WrittenPair where
  spaces : Nat
  apart : 0 < spaces
  key : Key
  value : WrittenValue

namespace WrittenPair

/-- The characters of a pair, the spaces in front included. -/
def chars (pair : WrittenPair) : List Char :=
  List.replicate pair.spaces ' ' ++ (pair.key.text.toList ++ ':' :: pair.value.chars)

/-- The tokens of a pair. -/
def tokens (pair : WrittenPair) : List Token :=
  [.identifier pair.key.text.toList, .colon, pair.value.token]

/-- What a pair adds to a header. -/
def entry (pair : WrittenPair) : String × Value := (pair.key.text, pair.value.value)

end WrittenPair

/-- A header as it is written, with the number of spaces at its end. -/
structure WrittenHeader where
  pairs : List WrittenPair
  spaces : Nat

/-- The line of a header. -/
def WrittenHeader.line (header : WrittenHeader) : List Char :=
  ".part".toList ++ (header.pairs.flatMap WrittenPair.chars ++ List.replicate header.spaces ' ')

/-! ### From characters to tokens -/

/-- What a token has taken is skipped. -/
theorem tokensAfter_length_append (front text : List Char) :
    tokensAfter front.length (front ++ text) = tokens text := by
  induction front with
  | nil => rfl
  | cons character rest inductionHypothesis => exact inductionHypothesis

theorem tokens_colon (text : List Char) : tokens (':' :: text) = .colon :: tokens text := rfl

theorem tokens_replicate_append (spaces : Nat) (text : List Char) :
    tokens (List.replicate spaces ' ' ++ text) = tokens text := by
  induction spaces with
  | zero => rfl
  | succ spaces inductionHypothesis => exact inductionHypothesis

/-- Whether a text is over or goes on with a space. -/
def Ends (text : List Char) : Prop := ∀ character ∈ text.head?, character = ' '

theorem Ends.stops {text : List Char} (ends : Ends text) (belongs : Char → Bool)
    (space : belongs ' ' = false) : Notation.Stops belongs text := fun character first => by
  rw [ends character first, space]

theorem tokens_word_append (first : Char) (more : List Char) {text : List Char}
    (word : ∀ character ∈ first :: more, Text.isBlank character = false ∧ character ≠ ':')
    (plain : isQuote first = false ∧ Numeric.isAsciiDigit first = false ∧ first ≠ '-')
    (stops : Notation.Stops continuesWord text) :
    tokens (first :: more ++ text) = wordToken (first :: more) :: tokens text := by
  obtain ⟨⟨notBlank, notColon⟩, others⟩ := List.forall_mem_cons.mp word
  obtain ⟨noQuote, noDigit, noSign⟩ := plain
  have continues : ∀ character ∈ more, continuesWord character = true := by
    intro character member
    simp [continuesWord, others character member]
  have noNumber : startsNumber first (more ++ text) = false := by
    simp [startsNumber, noDigit, noSign]
  rw [List.cons_append, tokens, tokensAfter]
  simp only [notBlank, beq_eq_false_iff_ne.mpr notColon, noQuote, noNumber, Bool.false_eq_true,
    if_false]
  rw [Notation.takeWhile_append_of_stops continues stops, tokensAfter_length_append]

theorem tokens_key_append (key : Key) (text : List Char) :
    tokens (key.text.toList ++ ':' :: text) =
      .identifier key.text.toList :: .colon :: tokens text := by
  have nonempty : key.text.toList ≠ [] :=
    fun empty => key.nonempty (String.toList_eq_nil_iff.mp empty)
  obtain ⟨first, more, spelled⟩ := List.exists_cons_of_ne_nil nonempty
  have noTrue : key.text.toList ≠ "true".toList :=
    fun same => key.noBoolean true (String.toList_inj.mp same)
  have noFalse : key.text.toList ≠ "false".toList :=
    fun same => key.noBoolean false (String.toList_inj.mp same)
  have identifier : wordToken key.text.toList = .identifier key.text.toList := by
    rw [wordToken, if_neg noTrue, if_neg noFalse]
  have word := key.word
  have plain := key.plain first
  have stops : Notation.Stops continuesWord (':' :: text) := by
    simp [Notation.Stops, continuesWord]
  rw [← identifier]
  rw [spelled] at word plain ⊢
  rw [tokens_word_append first more word (plain rfl) stops, tokens_colon]

theorem tokens_boolean_append (value : Bool) {text : List Char} (ends : Ends text) :
    tokens ((booleanText value).toList ++ text) = .boolean value :: tokens text := by
  have stops := ends.stops continuesWord (by decide)
  cases value with
  | true =>
    exact tokens_word_append 't' "rue".toList (List.all_iff_forall_prop.mp rfl) (by decide) stops
  | false =>
    exact tokens_word_append 'f' "alse".toList (List.all_iff_forall_prop.mp rfl) (by decide) stops

/-- A number goes up to the space behind it. -/
theorem tokens_number_append {first : Char} {digits text : List Char}
    (notBlank : Text.isBlank first = false) (notColon : (first == ':') = false)
    (noQuote : isQuote first = false) (starts : startsNumber first (digits ++ text) = true)
    (decimal : ∀ digit ∈ digits, Numeric.isAsciiDigit digit = true) (ends : Ends text) :
    tokens (first :: digits ++ text) = .number (first :: digits) :: tokens text := by
  have inRun : ∀ digit ∈ digits, continuesRun digit = true := fun digit member =>
    Numeric.forall_digit (continuesRun · = true) (by decide) (decimal digit member)
  have inNumber : ∀ digit ∈ digits, continuesNumber digit = true := fun digit member =>
    Numeric.forall_digit (continuesNumber · = true) (by decide) (decimal digit member)
  have noLetter : ∀ digit ∈ digits, Text.isAlphabetic digit = false := fun digit member =>
    Numeric.forall_digit (Text.isAlphabetic · = false) (by decide) (decimal digit member)
  have run : (digits ++ text).takeWhile continuesRun = digits :=
    Notation.takeWhile_append_of_stops inRun (ends.stops _ (by decide))
  have literal : (digits ++ text).takeWhile continuesNumber = digits :=
    Notation.takeWhile_append_of_stops inNumber (ends.stops _ (by decide))
  have noWord : digits.any Text.isAlphabetic = false := by simpa using noLetter
  rw [List.cons_append, tokens, tokensAfter]
  simp only [notBlank, notColon, noQuote, starts, run, literal, noWord, Bool.false_eq_true,
    if_false, if_true]
  rw [tokensAfter_length_append]

theorem tokens_literal_append (literal : Literal) {text : List Char} (ends : Ends text) :
    tokens (literal.chars ++ text) = .number literal.chars :: tokens text := by
  obtain ⟨negative, digits, nonempty, decimal⟩ := literal
  obtain ⟨digit, more, rfl⟩ := List.exists_cons_of_ne_nil nonempty
  obtain ⟨first, others⟩ := List.forall_mem_cons.mp decimal
  cases negative with
  | true =>
    exact tokens_number_append (by decide) (by decide) (by decide)
      (by simp [startsNumber, first]) decimal ends
  | false =>
    have kind : Text.isBlank digit = false ∧ (digit == ':') = false ∧ isQuote digit = false :=
      Numeric.forall_digit (fun digit =>
        Text.isBlank digit = false ∧ (digit == ':') = false ∧ isQuote digit = false)
        (by decide) first
    exact tokens_number_append kind.1 kind.2.1 kind.2.2 (by simp [startsNumber, first]) others ends

/-- Inside a text stands no quote of the kind that stands around it. -/
theorem Quotable.quote_not_mem (quotable : Quotable) : quotable.quote ∉ quotable.text.toList := by
  unfold Quotable.quote
  split
  next double => exact quotable.free.resolve_left fun none => none double
  next none => exact none

theorem tokens_quotable_append (quotable : Quotable) (text : List Char) :
    tokens (quotable.quote :: quotable.text.toList ++ [quotable.quote] ++ text) =
      .quoted quotable.text.toList :: tokens text := by
  have kind : Text.isBlank quotable.quote = false ∧ (quotable.quote == ':') = false ∧
      isQuote quotable.quote = true := by
    unfold Quotable.quote
    split <;> decide
  have inside : (quotable.text.toList ++ quotable.quote :: text).takeWhile
      (fun other => !(other == quotable.quote)) = quotable.text.toList := by
    have stops : Notation.Stops (fun other => !(other == quotable.quote))
        (quotable.quote :: text) := by simp [Notation.Stops]
    refine Notation.takeWhile_append_of_stops (fun character member => ?_) stops
    have other : character ≠ quotable.quote := by
      rintro rfl
      exact quotable.quote_not_mem member
    rw [beq_eq_false_iff_ne.mpr other, Bool.not_false]
  have closed : quotable.text.toList.length <
      (quotable.text.toList ++ quotable.quote :: text).length := by simp
  have behind := tokensAfter_length_append (quotable.text.toList ++ [quotable.quote]) text
  rw [List.append_assoc, List.length_append, List.singleton_append, List.length_singleton] at behind
  rw [List.append_assoc, List.cons_append, List.singleton_append, tokens, tokensAfter]
  simp only [kind, inside, closed, Bool.false_eq_true, if_false, if_true]
  rw [behind]

theorem tokens_value_append (value : WrittenValue) {text : List Char} (ends : Ends text) :
    tokens (value.chars ++ text) = value.token :: tokens text := by
  cases value with
  | boolean value => exact tokens_boolean_append value ends
  | integer literal => exact tokens_literal_append literal ends
  | text quotable => exact tokens_quotable_append quotable text

/-- The pairs of a header, and the spaces at its end, start with a space. -/
theorem ends_pairs (pairs : List WrittenPair) (spaces : Nat) :
    Ends (pairs.flatMap WrittenPair.chars ++ List.replicate spaces ' ') := by
  cases pairs with
  | nil => exact fun character first => List.eq_of_mem_replicate (List.mem_of_mem_head? first)
  | cons pair others =>
    obtain ⟨more, several⟩ := Nat.exists_eq_add_one_of_ne_zero pair.apart.ne'
    have spelled : (pair :: others).flatMap WrittenPair.chars = ' ' :: (List.replicate more ' ' ++
        (pair.key.text.toList ++ ':' :: pair.value.chars) ++ others.flatMap WrittenPair.chars) := by
      rw [List.flatMap_cons, WrittenPair.chars, several, List.replicate_succ]
      rfl
    rw [spelled]
    rintro character ⟨⟩
    rfl

/-- Every pair gives its three tokens. -/
theorem tokens_pairs (pairs : List WrittenPair) (spaces : Nat) :
    tokens (pairs.flatMap WrittenPair.chars ++ List.replicate spaces ' ') =
      pairs.flatMap WrittenPair.tokens := by
  induction pairs with
  | nil =>
    have none := tokens_replicate_append spaces []
    rwa [List.append_nil] at none
  | cons pair others inductionHypothesis =>
    -- The value of this pair ends where the spaces of the next one begin.
    rw [List.flatMap_cons, WrittenPair.chars, List.append_assoc, List.append_assoc,
      tokens_replicate_append, List.append_assoc, List.cons_append, tokens_key_append,
      tokens_value_append pair.value (ends_pairs others spaces), inductionHypothesis]
    rfl

/-! ### From tokens to entries -/

theorem readValue_token (value : WrittenValue) (rest : List Token) :
    readValue (value.token :: rest) = .ok value.value := by
  cases value with
  | boolean value => rfl
  | integer literal =>
    rw [WrittenValue.token, readValue, literal.readFloat?_chars]
    rfl
  | text quotable =>
    rw [WrittenValue.token, readValue, String.ofList_toList]
    rfl

/-- The entries of some pairs come before what has been read, the latest first. -/
theorem readEntries_pairs (pairs : List WrittenPair) (metadata : Metadata) :
    readEntries metadata (pairs.flatMap WrittenPair.tokens) =
      .ok ⟨(pairs.map WrittenPair.entry).reverse ++ metadata.entries⟩ := by
  induction pairs generalizing metadata with
  | nil => rfl
  | cons pair others inductionHypothesis =>
    have spelled : (pair :: others).flatMap WrittenPair.tokens =
        .identifier pair.key.text.toList :: .colon :: pair.value.token ::
          others.flatMap WrittenPair.tokens := rfl
    rw [spelled, readEntries, readValue_token]
    show readEntries _ _ = _
    rw [inductionHypothesis, String.ofList_toList, List.map_cons, List.reverse_cons,
      List.append_assoc]
    rfl

theorem readMetadata_line_eq (header : WrittenHeader) :
    readMetadata header.line = .ok ⟨(header.pairs.map WrittenPair.entry).reverse⟩ := by
  have directive : tokens header.line =
      .identifier ".part".toList :: header.pairs.flatMap WrittenPair.tokens := by
    have word := tokens_word_append '.' "part".toList (List.all_iff_forall_prop.mp rfl) (by decide)
      ((ends_pairs header.pairs header.spaces).stops continuesWord (by decide))
    rw [tokens_pairs] at word
    exact word
  have skipped : withoutDirective header.line (tokens header.line) =
      header.pairs.flatMap WrittenPair.tokens := by
    rw [directive]
    rfl
  rw [readMetadata, skipped, readEntries_pairs]
  exact congrArg (fun entries => Except.ok (Metadata.mk entries)) (List.append_nil _)

/-- A header that is written is read, and each key then has the value that was written for it last;
a key that was not written has none. -/
theorem readMetadata_line (header : WrittenHeader) :
    ∃ metadata, readMetadata header.line = .ok metadata ∧
      ∀ key, metadata.get? key =
        (header.pairs.reverse.find? fun pair => pair.key.text == key).map fun pair =>
          pair.value.value := by
  refine ⟨_, readMetadata_line_eq header, fun key => ?_⟩
  rw [Metadata.get?, ← List.map_reverse, List.find?_map, Option.map_map]
  rfl

/-- A header in which a name is written twice, each time between other quotes. -/
def quotedSample : WrittenHeader :=
  let name : Key := {
    text := "name"
    nonempty := by decide
    word := List.all_iff_forall_prop.mp rfl
    plain := by
      intro character first
      obtain rfl : 'n' = character := Option.some.inj first
      decide
    noBoolean := by decide }
  let channel : Key := {
    text := "ch"
    nonempty := by decide
    word := List.all_iff_forall_prop.mp rfl
    plain := by
      intro character first
      obtain rfl : 'c' = character := Option.some.inj first
      decide
    noBoolean := by decide }
  { pairs := [⟨1, by decide, name, .text ⟨"8th: 'a'", by decide⟩⟩,
      ⟨2, by decide, channel, .integer ⟨true, ['1', '2'], nofun, List.all_iff_forall_prop.mp rfl⟩⟩,
      ⟨1, by decide, name, .text ⟨"a \"b\"", by decide⟩⟩]
    spaces := 1 }

theorem readMetadata_line_quoted :
    ∃ metadata, readMetadata ".part name:\"8th: 'a'\"  ch:-12 name:'a \"b\"' ".toList =
        .ok metadata ∧ metadata.get? "name" = some (.text "a \"b\"") ∧
      metadata.get? "ch" = some (.number (-Numeric.ofDecimal 12 0)) ∧
      metadata.get? "div" = none := by
  have line : quotedSample.line = ".part name:\"8th: 'a'\"  ch:-12 name:'a \"b\"' ".toList := by
    decide
  obtain ⟨metadata, read, known⟩ := readMetadata_line quotedSample
  rw [line] at read
  exact ⟨metadata, read, known "name", known "ch", known "div"⟩

end Header

end StepSequencer
