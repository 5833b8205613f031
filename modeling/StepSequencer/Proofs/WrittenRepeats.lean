/-
This file says that a repeat is read back as it is written. Two patterns are tried on a line: `*N%M`
anywhere, of which the leftmost counts, and `*N` at the very end, once the blanks there are cut off.
What stands in front of a written repeat may hold asterisks and digits of its own, and they do not
get in its way: between them and the percent sign of the repeat stands a blank, and the digits of a
pattern do not reach across it. Numbers may be written with zeros in front.
-/

import StepSequencer.Notation.Repeat
import StepSequencer.Proofs.WrittenHeaders

namespace StepSequencer.Notation

/-! ### Repeats as they are written -/

/-- A number with some zeros in front of its digits. -/
def numberChars (zeros value : Nat) : List Char := List.replicate zeros '0' ++ natChars value

/-- A repeat that plays a line a number of times, behind a blank. -/
def timesChars (zeros times : Nat) : List Char := ' ' :: '*' :: numberChars zeros times

/-- A repeat that also tells which of the copies sound; both numbers may have zeros in front. -/
def moduloChars (zeros times moreZeros modulo : Nat) : List Char :=
  timesChars zeros times ++ '%' :: numberChars moreZeros modulo

/-- Whether a line is read as one that has a repeat. No line can be played zero times. -/
def IsReadAs (line : List Char) (repetition : Repeat) : Prop :=
  readRepeat line =
    if repetition.times = 0 then .error (.zeroMultiplier (String.ofList line)) else .ok repetition

/-! ### Numbers -/

theorem isAsciiDigit_of_mem_numberChars {zeros value : Nat} {digit : Char}
    (member : digit ∈ numberChars zeros value) : Numeric.isAsciiDigit digit = true := by
  rcases List.mem_append.mp member with zero | written
  · obtain rfl := List.eq_of_mem_replicate zero
    rfl
  · exact isAsciiDigit_of_mem_natChars written

theorem isDecimalDigit_of_mem_numberChars {zeros value : Nat} :
    ∀ digit ∈ numberChars zeros value, Text.isDecimalDigit digit = true := fun _ member =>
  Numeric.forall_digit (Text.isDecimalDigit · = true) (by decide)
    (isAsciiDigit_of_mem_numberChars member)

theorem numberChars_isEmpty (zeros value : Nat) : (numberChars zeros value).isEmpty = false := by
  obtain ⟨digit, more, spelled⟩ := exists_natChars_eq_cons value
  rw [numberChars, spelled, List.isEmpty_eq_false_iff]
  exact List.append_ne_nil_of_right_ne_nil _ (List.cons_ne_nil digit more)

/-- Zeros in front of a number do not change its value. -/
theorem digitsValue_numberChars (zeros value : Nat) :
    Numeric.digitsValue (numberChars zeros value) = value := by
  have nothing : (List.replicate zeros '0').foldl
      (fun value digit => 10 * value + Numeric.digitValue digit) 0 = 0 := by
    induction zeros with
    | zero => rfl
    | succ zeros inductionHypothesis => exact inductionHypothesis
  rw [Numeric.digitsValue, numberChars, List.foldl_append, nothing]
  exact digitsValue_natChars value

theorem readCount_numberChars (zeros : Nat) {value : Nat} (fits : value < Nat.pow 2 64) :
    readCount (numberChars zeros value) = .ok value := by
  have digits : (numberChars zeros value).all Numeric.isAsciiDigit = true :=
    List.all_eq_true.mpr fun _ => isAsciiDigit_of_mem_numberChars
  have read : Numeric.readNatural? (numberChars zeros value) = some value := by
    rw [Numeric.readNatural?, numberChars_isEmpty, digits, digitsValue_numberChars]
    rfl
  have kept : Numeric.readNaturalBelow? (Nat.pow 2 64) (numberChars zeros value) = some value := by
    rw [Numeric.readNaturalBelow?, read]
    exact Option.filter_some_pos (decide_eq_true fits)
  rw [readCount, kept]

/-! ### Where the patterns are found -/

section Patterns

variable {text front : List Char}

/-- Digits with no percent sign behind them are not those of `*N%M`. -/
theorem moduloDigits?_eq_none
    (behind : (text.dropWhile Text.isDecimalDigit).head? ≠ some '%') :
    moduloDigits? text = none := by
  unfold moduloDigits?
  split
  next percent => exact absurd (congrArg List.head? percent) behind
  next => rfl

theorem head?_dropWhile_ne_percent (plain : '%' ∉ text) :
    (text.dropWhile Text.isDecimalDigit).head? ≠ some '%' := fun percent =>
  plain ((List.dropWhile_suffix _).mem (List.mem_of_mem_head? percent))

theorem findModulo?_eq_none_of_no_percent (plain : '%' ∉ text) : findModulo? text = none := by
  induction text with
  | nil => rfl
  | cons character rest inductionHypothesis =>
    have plainRest := List.not_mem_of_not_mem_cons plain
    rw [findModulo?, moduloDigits?_eq_none (head?_dropWhile_ne_percent plainRest),
      inductionHypothesis plainRest]
    exact ite_self _

theorem findModulo?_eq_none_of_no_asterisk (plain : '*' ∉ text) : findModulo? text = none := by
  induction text with
  | nil => rfl
  | cons character rest inductionHypothesis =>
    have plainRest := List.not_mem_of_not_mem_cons plain
    have other : ¬ (character == '*') = true := fun same =>
      List.ne_of_not_mem_cons plain (eq_of_beq same).symm
    rw [findModulo?, if_neg other]
    exact inductionHypothesis plainRest

/-- A pattern that begins in front of a blank is not found: its digits end at the blank at the
latest, and no percent sign stands there. -/
theorem findModulo?_append_blank (plain : '%' ∉ front) (behind : List Char) :
    findModulo? (front ++ ' ' :: behind) = findModulo? behind := by
  induction front with
  | nil => rfl
  | cons character rest inductionHypothesis =>
    have plainRest := List.not_mem_of_not_mem_cons plain
    have apart :
        ((rest ++ ' ' :: behind).dropWhile Text.isDecimalDigit).head? ≠ some '%' := by
      rw [List.dropWhile_append]
      split
      · exact nofun
      next some =>
        rw [List.head?_append_of_ne_nil _ (by simpa using some)]
        exact head?_dropWhile_ne_percent plainRest
    rw [List.cons_append, findModulo?, moduloDigits?_eq_none apart, inductionHypothesis plainRest]
    exact ite_self _

theorem moduloDigits?_append {times modulo rest : List Char} (someTimes : times.isEmpty = false)
    (someModulo : modulo.isEmpty = false)
    (inTimes : ∀ digit ∈ times, Text.isDecimalDigit digit = true)
    (inModulo : ∀ digit ∈ modulo, Text.isDecimalDigit digit = true)
    (stops : Stops Text.isDecimalDigit rest) :
    moduloDigits? (times ++ '%' :: (modulo ++ rest)) = some (times, modulo) := by
  have stopsHere : Stops Text.isDecimalDigit ('%' :: (modulo ++ rest)) := by
    rintro _ ⟨⟩
    decide
  have behind : (times ++ '%' :: (modulo ++ rest)).dropWhile Text.isDecimalDigit =
      '%' :: (modulo ++ rest) := by
    rw [List.dropWhile_append_of_pos inTimes, List.dropWhile_cons_of_neg (by decide)]
  rw [moduloDigits?, behind]
  simp only [takeWhile_append_of_stops inTimes stopsHere, takeWhile_append_of_stops inModulo stops,
    someTimes, someModulo, Bool.or_self, Bool.false_eq_true, if_false]

/-- Digits at the very end are found, if an asterisk stands right in front of them. -/
theorem findTimes?_append {digits : List Char} (some : digits.isEmpty = false)
    (decimal : ∀ digit ∈ digits, Text.isDecimalDigit digit = true) (front : List Char) :
    findTimes? (front ++ '*' :: digits) = .some digits := by
  have reversed : (front ++ '*' :: digits).reverse = digits.reverse ++ '*' :: front.reverse := by
    simp
  have inReverse : ∀ digit ∈ digits.reverse, Text.isDecimalDigit digit = true := fun digit member =>
    decimal digit (List.mem_reverse.mp member)
  have stops : Stops Text.isDecimalDigit ('*' :: front.reverse) := by
    rintro _ ⟨⟩
    decide
  have behind : (digits.reverse ++ '*' :: front.reverse).dropWhile Text.isDecimalDigit =
      '*' :: front.reverse := by
    rw [List.dropWhile_append_of_pos inReverse, List.dropWhile_cons_of_neg (by decide)]
  rw [findTimes?, reversed, behind, takeWhile_append_of_stops inReverse stops,
    List.reverse_reverse]
  simp only [some, Bool.false_eq_true, if_false]

theorem findTimes?_eq_none_of_no_asterisk (plain : '*' ∉ text) : findTimes? text = none := by
  unfold findTimes?
  dsimp only
  split
  next asterisk =>
    have member : '*' ∈ text.reverse :=
      (List.dropWhile_suffix Text.isDecimalDigit).mem (asterisk ▸ List.mem_cons_self)
    exact absurd (List.mem_reverse.mp member) plain
  next => rfl

/-- White space at the end is cut off, and nothing else is. -/
theorem trimEnd_append {blanks : List Char}
    (blank : ∀ character ∈ blanks, Text.isBlank character = true)
    (kept : ∀ last ∈ front.getLast?, Text.isBlank last = false) :
    Text.trimEnd (front ++ blanks) = front := by
  have inReverse : ∀ character ∈ blanks.reverse, Text.isBlank character = true :=
    fun character member => blank character (List.mem_reverse.mp member)
  have whole : front.reverse.dropWhile Text.isBlank = front.reverse := by
    cases reversed : front.reverse with
    | nil => rfl
    | cons last _ =>
      have ends : front.getLast? = some last := by
        rw [← List.head?_reverse, reversed]
        rfl
      exact List.dropWhile_cons_of_neg (by simp [kept last ends])
  rw [Text.trimEnd, List.reverse_append, List.dropWhile_append_of_pos inReverse, whole,
    List.reverse_reverse]

end Patterns

/-! ### Repeats that are read back -/

theorem isReadAs_of_writtenRepeat {line : List Char} {repetition : Repeat}
    (written : writtenRepeat line = .ok repetition) : IsReadAs line repetition := by
  rw [IsReadAs, readRepeat, written]
  rfl

/-- A line ends with the digits of its repeat when the blanks behind them are cut off. -/
theorem trimEnd_append_timesChars {blanks : List Char}
    (blank : ∀ character ∈ blanks, Text.isBlank character = true) (text : List Char)
    (zeros times : Nat) :
    Text.trimEnd (text ++ timesChars zeros times ++ blanks) = text ++ timesChars zeros times := by
  refine trimEnd_append blank fun last member => ?_
  have some : numberChars zeros times ≠ [] :=
    List.isEmpty_eq_false_iff.mp (numberChars_isEmpty zeros times)
  have digit : last ∈ numberChars zeros times := by
    have split :
        text ++ timesChars zeros times = text ++ [' ', '*'] ++ numberChars zeros times := by
      simp [timesChars]
    rw [split, List.getLast?_append_of_ne_nil _ some] at member
    exact List.mem_of_mem_getLast? member
  exact Numeric.forall_digit (Text.isBlank · = false) (by decide)
    (isAsciiDigit_of_mem_numberChars digit)

/-- A number of times at the end of a line is found, since no percent sign stands in the line. -/
theorem writtenRepeat_timesChars {text blanks : List Char} (plain : '%' ∉ text)
    (blank : ∀ character ∈ blanks, Text.isBlank character = true) (zeros : Nat) {times : Nat}
    (fits : times < Nat.pow 2 64) :
    writtenRepeat (text ++ timesChars zeros times ++ blanks) = .ok ⟨times, 0⟩ := by
  have noPercent : '%' ∉ text ++ timesChars zeros times ++ blanks := by
    intro percent
    rcases List.mem_append.mp percent with inFront | inBlanks
    · rcases List.mem_append.mp inFront with inText | inRepeat
      · exact plain inText
      · have digit : '%' ∈ numberChars zeros times := by simpa [timesChars] using inRepeat
        exact absurd (isAsciiDigit_of_mem_numberChars digit) (by decide)
    · exact absurd (blank _ inBlanks) (by decide)
  have found : findTimes? (text ++ timesChars zeros times) = some (numberChars zeros times) := by
    rw [timesChars, ← List.singleton_append, ← List.append_assoc]
    exact findTimes?_append (numberChars_isEmpty _ _) isDecimalDigit_of_mem_numberChars _
  rw [writtenRepeat, findModulo?_eq_none_of_no_percent noPercent,
    trimEnd_append_timesChars blank, found]
  simp only [readCount_numberChars zeros fits]
  rfl

/-- Two numbers behind a text are found, since no pattern begins further to the left. -/
theorem writtenRepeat_moduloChars {text rest : List Char} (plain : '%' ∉ text)
    (stops : Stops Text.isDecimalDigit rest) (zeros moreZeros : Nat) {times modulo : Nat}
    (fits : times < Nat.pow 2 64) (moduloFits : modulo < Nat.pow 2 64) :
    writtenRepeat (text ++ moduloChars zeros times moreZeros modulo ++ rest) =
      .ok ⟨times, modulo⟩ := by
  have split : text ++ moduloChars zeros times moreZeros modulo ++ rest =
      text ++ ' ' :: '*' :: (numberChars zeros times ++
        '%' :: (numberChars moreZeros modulo ++ rest)) := by
    simp [moduloChars, timesChars]
  have found : findModulo? ('*' :: (numberChars zeros times ++
      '%' :: (numberChars moreZeros modulo ++ rest))) =
      some (numberChars zeros times, numberChars moreZeros modulo) := by
    rw [findModulo?, moduloDigits?_append (numberChars_isEmpty _ _) (numberChars_isEmpty _ _)
      isDecimalDigit_of_mem_numberChars isDecimalDigit_of_mem_numberChars stops]
    rfl
  rw [writtenRepeat, split, findModulo?_append_blank plain, found]
  simp only [readCount_numberChars zeros fits, readCount_numberChars moreZeros moduloFits]
  rfl

/-- Without an asterisk there is no repeat. -/
theorem writtenRepeat_of_no_asterisk {text : List Char} (plain : '*' ∉ text) :
    writtenRepeat text = .ok Repeat.once := by
  have trimmed : '*' ∉ Text.trimEnd text := fun member => by
    rw [Text.trimEnd, List.mem_reverse] at member
    exact plain (List.mem_reverse.mp ((List.dropWhile_suffix _).mem member))
  rw [writtenRepeat, findModulo?_eq_none_of_no_asterisk plain,
    findTimes?_eq_none_of_no_asterisk trimmed]

/-- Every repeat is read back as it is written. Behind a text without a percent sign, which may hold
anything else, a line gets the number of times that is written at its end, whatever white space
follows; and it gets both numbers that are written there, whatever follows that does not go on with
a decimal digit. A line that is to be played zero times is rejected. A text without an asterisk is
played once, and its copy sounds. -/
theorem readRepeat_written :
    (∀ (text blanks : List Char) (zeros times : Nat), '%' ∉ text → times < Nat.pow 2 64 →
      (∀ character ∈ blanks, Text.isBlank character = true) →
        IsReadAs (text ++ timesChars zeros times ++ blanks) ⟨times, 0⟩) ∧
    (∀ (text rest : List Char) (zeros times moreZeros modulo : Nat), '%' ∉ text →
      times < Nat.pow 2 64 → modulo < Nat.pow 2 64 → Stops Text.isDecimalDigit rest →
        IsReadAs (text ++ moduloChars zeros times moreZeros modulo ++ rest) ⟨times, modulo⟩) ∧
    ∀ text : List Char, '*' ∉ text → IsReadAs text ⟨1, 0⟩ := by
  refine ⟨?timesOnly, ?both, ?none⟩
  case timesOnly =>
    intro text blanks zeros times plain fits blank
    exact isReadAs_of_writtenRepeat (writtenRepeat_timesChars plain blank zeros fits)
  case both =>
    intro text rest zeros times moreZeros modulo plain fits moduloFits stops
    exact isReadAs_of_writtenRepeat
      (writtenRepeat_moduloChars plain stops zeros moreZeros fits moduloFits)
  case none =>
    intro text plain
    exact isReadAs_of_writtenRepeat (writtenRepeat_of_no_asterisk plain)

/-- Texts with asterisks, digits and unfinished patterns of their own in front of a repeat, and text
that looks like another repeat behind it. -/
theorem readRepeat_written_amidAsterisks :
    readRepeat "c4 *3 e5:2 * *0040 \t".toList = .ok ⟨40, 0⟩ ∧
    readRepeat "verse *12 7* *08%03 *9%5".toList = .ok ⟨8, 3⟩ ∧
    readRepeat "*5 *00%2, *4".toList = .error (.zeroMultiplier "*5 *00%2, *4") ∧
    readRepeat "c4 % 2".toList = .ok ⟨1, 0⟩ := by
  obtain ⟨timesOnly, both, none⟩ := readRepeat_written
  refine ⟨?_, ?_, ?_, ?_⟩
  · exact timesOnly "c4 *3 e5:2 *".toList " \t".toList 2 40 (by decide) (by decide)
      (List.all_eq_true.mp (by decide))
  · exact both "verse *12 7*".toList " *9%5".toList 1 8 1 3 (by decide) (by decide) (by decide)
      (by rintro _ ⟨⟩; decide)
  · exact both "*5".toList ", *4".toList 1 0 0 2 (by decide) (by decide) (by decide)
      (by rintro _ ⟨⟩; decide)
  · exact none "c4 % 2".toList (by decide)

end StepSequencer.Notation
