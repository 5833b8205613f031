/-
This file says when the repeat behind the notes of a step line is taken for part of the notes. The
notes and the repeat are read from the same text by two readers, and for the reader of the notes a
repeat is a number or two. Such numbers are passed over, except where the line breaks off: behind a
note without an octave, or behind the colon of a hold, the first of them is taken for what is
missing. Every other line is read alike with and without its repeat, whether it is accepted or not.
-/

import StepSequencer.Proofs.PitchRange

namespace StepSequencer.Notation

/-! ### Cutting up a text behind a blank -/

/-- What a text goes on with does not matter for a run that stops there at the latest. -/
theorem takeWhile_append_eq_of_stops {belongs : Char → Bool} {text : List Char}
    (stops : Stops belongs text) (front : List Char) :
    (front ++ text).takeWhile belongs = front.takeWhile belongs := by
  induction front with
  | nil =>
    have none : ∀ character ∈ [], belongs character = true := nofun
    exact takeWhile_append_of_stops none stops
  | cons character rest inductionHypothesis =>
    rw [List.cons_append, List.takeWhile_cons, List.takeWhile_cons, inductionHypothesis]

/-- What the tokens of a text become when more tokens follow: they all stand in front of these, or
they end in a fault and nothing follows them. -/
def Continued (before added after : List Token) : Prop :=
  after = before ++ added ∨ after = before ∧ ∃ fault, before.getLast? = some (.illegal fault)

theorem Continued.cons {before added after : List Token} (token : Token)
    (continued : Continued before added after) :
    Continued (token :: before) added (token :: after) := by
  rcases continued with rfl | ⟨rfl, fault, last⟩
  · exact .inl rfl
  · refine .inr ⟨rfl, fault, ?_⟩
    rw [List.getLast?_cons, last]
    rfl

/-- No token goes on behind a blank. -/
theorem tokensAfter_append_blank {skip : Nat} {line : List Char} (within : skip ≤ line.length)
    (text : List Char) :
    Continued (tokensAfter skip line) (tokens text) (tokensAfter skip (line ++ ' ' :: text)) := by
  have stops (belongs : Char → Bool) (blank : belongs ' ' = false) :
      Stops belongs (' ' :: text) := by
    rintro _ ⟨⟩
    exact blank
  induction line generalizing skip with
  | nil =>
    obtain rfl := Nat.le_zero.mp within
    exact .inl (tokens_blank text)
  | cons character rest inductionHypothesis =>
    cases skip with
    | succ skip => exact inductionHypothesis (Nat.le_of_succ_le_succ within)
    | zero =>
      have behind (belongs : Char → Bool) :=
        inductionHypothesis (List.takeWhile_prefix belongs (l := rest)).length_le
      have atOnce := inductionHypothesis (Nat.zero_le rest.length)
      rw [List.cons_append, tokensAfter, tokensAfter,
        takeWhile_append_eq_of_stops (stops Numeric.isAsciiDigit (by decide)) rest,
        takeWhile_append_eq_of_stops (stops isAccidental (by decide)) rest,
        takeWhile_append_eq_of_stops (stops continuesSymbol (by decide)) rest]
      split
      · exact atOnce.cons _
      split
      · exact (behind _).cons _
      split
      · dsimp only
        split
        · exact (behind _).cons _
        · exact .inr ⟨rfl, _, rfl⟩
      split
      · split
        · exact (behind _).cons _
        · exact .inr ⟨rfl, _, rfl⟩
      · exact atOnce

/-! ### Where a number is missing -/

/-- Whether a token that is read lacks a number which would have to stand behind the last token: the
octave of a note, or the steps of a hold. -/
inductive Lacks : Token → List Token → Prop
  | octave (name : PitchName) : Lacks (.note name) []
  | noteHold (name : PitchName) {digits : List Char} {octave : Nat}
      (read : readNumber (Nat.pow 2 31) digits = .ok octave) :
      Lacks (.note name) [.number digits, .colon]
  | chordHold {symbol : List Char} {tone : Tone} (read : readChord symbol = .ok tone) :
      Lacks (.chord symbol) [.colon]

/-- Whether some tokens break off where only a number can follow, all in front being accepted. -/
def TokensBreakOff (tokens : List Token) : Prop :=
  ∃ front token rest nodes, tokens = front ++ token :: rest ∧ nodesAfter 0 front = .ok nodes ∧
    Lacks token rest

/-- Whether a line breaks off where only a number can follow. -/
def BreaksOff (line : List Char) : Prop := TokensBreakOff (tokens line)

/-- Whether something failed for want of a number. -/
def AsksNumber : Failure SyntaxFault → Prop
  | .fault (.missingOctave _) => True
  | .fault .missingDuration => True
  | _ => False

section Numbers

variable {token : Token} {rest tail : List Token} {failure : Failure SyntaxFault}

theorem readToken_of_lacks (lacks : Lacks token rest) :
    ∃ failure, readToken token rest = .error failure ∧ AsksNumber failure := by
  cases lacks with
  | octave name => exact ⟨_, rfl, trivial⟩
  | noteHold name read =>
    refine ⟨.fault .missingDuration, bind_eq_error_iff.mpr (.inr ⟨_, read, ?_⟩), trivial⟩
    exact bind_eq_error_iff.mpr (.inl rfl)
  | chordHold read =>
    refine ⟨.fault .missingDuration, bind_eq_error_iff.mpr (.inr ⟨_, read, ?_⟩), trivial⟩
    exact bind_eq_error_iff.mpr (.inl rfl)

/-- Tokens that break off do not end in a number, and not in a fault either. -/
theorem TokensBreakOff.getLast? {tokens : List Token} (breaksOff : TokensBreakOff tokens) :
    tokens.getLast? = some .colon ∨ ∃ name, tokens.getLast? = some (.note name) := by
  obtain ⟨front, token, rest, nodes, rfl, _, lacks⟩ := breaksOff
  rw [List.getLast?_append_of_ne_nil _ (List.cons_ne_nil token rest)]
  cases lacks with
  | octave name => exact .inr ⟨name, rfl⟩
  | noteHold name read => exact .inl rfl
  | chordHold read => exact .inl rfl

theorem readHold_append_of_error (failed : readHold rest = .error failure)
    (complete : rest ≠ [.colon]) : readHold (rest ++ tail) = .error failure := by
  match rest, failed with
  | [.colon], _ => exact absurd rfl complete
  | .colon :: .number _ :: _, failed => exact failed
  | .colon :: .colon :: _, failed | .colon :: .note _ :: _, failed
  | .colon :: .chord _ :: _, failed | .colon :: .illegal _ :: _, failed => exact failed

/-- A token that fails, but not for want of a number at the end, fails whatever is added there. -/
theorem readToken_append_of_error (failed : readToken token rest = .error failure)
    (apart : tail.head? ≠ some .colon) (complete : ¬ Lacks token rest) :
    readToken token (rest ++ tail) = .error failure := by
  cases token with
  | illegal fault => exact failed
  | number digits | colon => cases failed
  | note name =>
    match rest, failed, complete with
    | [], _, complete => exact absurd (.octave name) complete
    | .colon :: _, failed, _ | .note _ :: _, failed, _ | .chord _ :: _, failed, _
    | .illegal _ :: _, failed, _ => exact failed
    | .number digits :: more, failed, complete =>
      rcases bind_eq_error_iff.mp failed with unread | ⟨octave, octaveRead, failed⟩
      · exact bind_eq_error_iff.mpr (.inl unread)
      refine bind_eq_error_iff.mpr (.inr ⟨octave, octaveRead, ?_⟩)
      rcases bind_eq_error_iff.mp failed with unheld | ⟨hold, held, failed⟩
      · refine bind_eq_error_iff.mpr (.inl (readHold_append_of_error unheld ?_))
        rintro rfl
        exact complete (.noteHold name octaveRead)
      · exact bind_eq_error_iff.mpr (.inr ⟨hold, readHold_append held apart, failed⟩)
  | chord symbol =>
    rcases bind_eq_error_iff.mp failed with unread | ⟨tone, toneRead, failed⟩
    · exact bind_eq_error_iff.mpr (.inl unread)
    refine bind_eq_error_iff.mpr (.inr ⟨tone, toneRead, ?_⟩)
    rcases bind_eq_error_iff.mp failed with unheld | ⟨hold, held, failed⟩
    · refine bind_eq_error_iff.mpr (.inl (readHold_append_of_error unheld ?_))
      rintro rfl
      exact complete (.chordHold toneRead)
    · exact bind_eq_error_iff.mpr (.inr ⟨hold, readHold_append held apart, failed⟩)

/-! ### Numbers behind a line -/

/-- Whether a token is passed over where it is not taken. -/
def Token.Stray : Token → Prop
  | .number _ => True
  | .colon => True
  | _ => False

theorem nodesAfter_of_stray {tokens : List Token} (stray : ∀ token ∈ tokens, token.Stray)
    (skip : Nat) : nodesAfter skip tokens = .ok [] := by
  induction tokens generalizing skip with
  | nil => cases skip <;> rfl
  | cons token others inductionHypothesis =>
    obtain ⟨here, behind⟩ := List.forall_mem_cons.mp stray
    cases skip with
    | succ skip => exact inductionHypothesis behind skip
    | zero =>
      cases token with
      | number digits | colon => exact inductionHypothesis behind 0
      | illegal fault | note name | chord symbol => exact absurd here id

/-- Whether all tokens are numbers. -/
def AllNumbers (tokens : List Token) : Prop := ∀ token ∈ tokens, ∃ digits, token = .number digits

theorem AllNumbers.head?_ne_colon (numbers : AllNumbers tail) : tail.head? ≠ some .colon := by
  cases tail with
  | nil => exact nofun
  | cons token others =>
    obtain ⟨digits, rfl⟩ := numbers token List.mem_cons_self
    exact nofun

theorem AllNumbers.nodesAfter_eq (numbers : AllNumbers tail) : nodesAfter 0 tail = .ok [] := by
  refine nodesAfter_of_stray (fun token member => ?_) 0
  obtain ⟨digits, rfl⟩ := numbers token member
  trivial

/-- Numbers behind tokens that do not break off are passed over. -/
theorem nodesAfter_append_numbers {tokens : List Token} (complete : ¬ TokensBreakOff tokens)
    (numbers : AllNumbers tail) : nodesAfter 0 (tokens ++ tail) = nodesAfter 0 tokens := by
  cases result : nodesAfter 0 tokens with
  | ok nodes =>
    rw [nodesAfter_append result (Nat.zero_le _) numbers.head?_ne_colon, numbers.nodesAfter_eq]
    exact congrArg Except.ok (List.append_nil nodes)
  | error failure =>
    obtain ⟨front, token, rest, nodes, rfl, _, accepted, fails⟩ :=
      exists_fault_of_nodesAfter result
    have apart : (token :: (rest ++ tail)).head? ≠ some .colon := by
      rintro ⟨⟩
      cases fails
    have still := readToken_append_of_error fails numbers.head?_ne_colon fun lacks =>
      complete ⟨front, token, rest, nodes, rfl, accepted, lacks⟩
    rw [List.append_assoc, List.cons_append, nodesAfter_append accepted (Nat.zero_le _) apart,
      nodesAfter_cons, still]
    rfl

theorem avoids_asksNumber_readNumber (bound : Nat) (digits : List Char) :
    Avoids AsksNumber (readNumber bound digits) := by
  intro failure failed
  obtain rfl := eq_invalidNumber_of_readNumber failed
  exact id

theorem avoids_asksNumber_checkNode (node : Node) : Avoids AsksNumber (checkNode node) := by
  have pitches : Avoids AsksNumber node.pitches := by
    intro failure noPitches
    have pitch := Node.isPitch_of_pitches noPitches
    intro asks
    unfold AsksNumber at asks
    split at asks
    · exact pitch
    · exact pitch
    · exact asks
  exact pitches.bind fun _ => avoids_ok node

/-- A token that gets the number which it lacked may still fail, but no longer for want of it. -/
theorem avoids_asksNumber_of_lacks (lacks : Lacks token rest) (digits : List Char) :
    Avoids AsksNumber (readToken token (rest ++ [.number digits])) := by
  have held : Avoids AsksNumber (readHold [.colon, .number digits]) :=
    (avoids_asksNumber_readNumber _ _).bind fun _ => avoids_ok _
  have checked (tone : Tone) (taken : Option Nat → Nat) (hold : Option Nat) :
      Avoids AsksNumber (checkNode ⟨tone, hold⟩ >>= fun node => .ok (some node, taken hold)) :=
    (avoids_asksNumber_checkNode _).bind fun _ => avoids_ok _
  cases lacks with
  | octave name =>
    exact (avoids_asksNumber_readNumber _ _).bind fun _ => (avoids_ok _).bind (checked _ _)
  | noteHold name _ =>
    exact (avoids_asksNumber_readNumber _ _).bind fun _ => held.bind (checked _ _)
  | chordHold known =>
    have tone : Avoids AsksNumber (readChord _) := known ▸ avoids_ok _
    exact tone.bind fun _ => held.bind (checked _ _)

/-- A number behind tokens that break off changes what they are read as. -/
theorem nodesAfter_append_number_ne {tokens : List Token} (breaksOff : TokensBreakOff tokens)
    (digits : List Char) :
    nodesAfter 0 (tokens ++ [.number digits]) ≠ nodesAfter 0 tokens := by
  obtain ⟨front, token, rest, nodes, rfl, accepted, lacks⟩ := breaksOff
  obtain ⟨failure, fails, asks⟩ := readToken_of_lacks lacks
  have apart (behind : List Token) : (token :: behind).head? ≠ some .colon := by
    rintro ⟨⟩
    cases lacks
  have stray : ∀ token ∈ rest ++ [.number digits], token.Stray := by
    cases lacks <;> simp [Token.Stray]
  rw [List.append_assoc, List.cons_append, nodesAfter_append accepted (Nat.zero_le _) (apart _),
    nodesAfter_append accepted (Nat.zero_le _) (apart _), nodesAfter_cons, nodesAfter_cons, fails]
  cases result : readToken token (rest ++ [.number digits]) with
  | ok read =>
    rw [ok_bind, nodesAfter_of_stray stray]
    exact nofun
  | error other =>
    intro same
    obtain rfl : other = failure := Except.error.inj same
    exact avoids_asksNumber_of_lacks lacks digits _ result asks

end Numbers

/-! ### Repeats -/

/-- The repeat that plays a line a number of times, as it is written behind the line. -/
def timesSuffix (times : Nat) : String := " *" ++ String.ofList (natChars times)

/-- The repeat that also tells which of the copies sound. -/
def moduloSuffix (times modulo : Nat) : String :=
  timesSuffix times ++ "%" ++ String.ofList (natChars modulo)

theorem tokens_natChars (value : Nat) : tokens (natChars value) = [.number (natChars value)] := by
  have stops : Stops Numeric.isAsciiDigit [] := nofun
  rw [← List.append_nil (natChars value), tokens_natChars_append value stops, List.append_nil]
  rfl

/-- Behind a blank, a text that is cut into numbers is passed over, unless the line breaks off; then
only its first number counts. -/
theorem readNodes_append_blank (line : List Char) {text digits : List Char} {others : List Token}
    (cut : tokens text = .number digits :: others) (numbers : AllNumbers others) :
    (readNodes (line ++ ' ' :: text) = readNodes line ↔ ¬ BreaksOff line) ∧
      (BreaksOff line →
        readNodes (line ++ ' ' :: text) = nodesAfter 0 (tokens line ++ [.number digits])) := by
  have all : AllNumbers (tokens text) := by
    rw [cut]
    exact List.forall_mem_cons.mpr ⟨⟨digits, rfl⟩, numbers⟩
  have first (breaksOff : BreaksOff line) :
      readNodes (line ++ ' ' :: text) = nodesAfter 0 (tokens line ++ [.number digits]) := by
    rcases tokensAfter_append_blank (Nat.zero_le line.length) text with behind | ⟨_, fault, last⟩
    · have complete : ¬ TokensBreakOff (tokens line ++ [.number digits]) := by
        intro again
        rcases again.getLast? with last | ⟨name, last⟩ <;>
          rw [List.getLast?_concat] at last <;> cases last
      rw [readNodes, tokens, behind, cut, ← nodesAfter_append_numbers complete numbers,
        List.append_assoc]
      rfl
    · rcases breaksOff.getLast? with other | ⟨name, other⟩ <;>
        cases last.symm.trans other
  refine ⟨⟨fun same breaksOff => ?_, fun complete => ?_⟩, first⟩
  · exact nodesAfter_append_number_ne breaksOff digits ((first breaksOff).symm.trans same)
  · rcases tokensAfter_append_blank (Nat.zero_le line.length) text with behind | ⟨same, _⟩
    · rw [readNodes, tokens, behind]
      exact nodesAfter_append_numbers complete all
    · exact congrArg (nodesAfter 0) same

/-- A line is read alike with and without its repeat, whatever comes of it, exactly if it does not
break off where only a number can follow. A line that breaks off there is rejected for want of a
number, but in front of a repeat it takes the number of times for what is missing. -/
theorem readNodes_repeat_iff (line : String) (times modulo : Nat) :
    (readNodes (line ++ timesSuffix times).toList = readNodes line.toList ↔
      ¬ BreaksOff line.toList) ∧
    (readNodes (line ++ moduloSuffix times modulo).toList = readNodes line.toList ↔
      ¬ BreaksOff line.toList) ∧
    (BreaksOff line.toList →
      (∃ failure, readNodes line.toList = .error failure ∧ AsksNumber failure) ∧
      readNodes (line ++ timesSuffix times).toList =
        readNodes (line ++ " " ++ String.ofList (natChars times)).toList ∧
      readNodes (line ++ moduloSuffix times modulo).toList =
        readNodes (line ++ " " ++ String.ofList (natChars times)).toList) := by
  have timesOnly : tokens ('*' :: natChars times) = [.number (natChars times)] :=
    tokens_natChars times
  have both : tokens ('*' :: (natChars times ++ '%' :: natChars modulo)) =
      [.number (natChars times), .number (natChars modulo)] := by
    have stops : Stops Numeric.isAsciiDigit ('%' :: natChars modulo) := by
      rintro _ ⟨⟩
      decide
    have percent : tokens ('%' :: natChars modulo) = tokens (natChars modulo) := rfl
    show tokens (natChars times ++ '%' :: natChars modulo) = _
    rw [tokens_natChars_append times stops, percent, tokens_natChars]
  have none : AllNumbers [] := nofun
  have one : AllNumbers [.number (natChars modulo)] :=
    List.forall_mem_singleton.mpr ⟨_, rfl⟩
  have plainLine : (line ++ " " ++ String.ofList (natChars times)).toList =
      line.toList ++ ' ' :: natChars times := by simp
  have timesLine : (line ++ timesSuffix times).toList =
      line.toList ++ ' ' :: '*' :: natChars times := by simp [timesSuffix]
  have moduloLine : (line ++ moduloSuffix times modulo).toList =
      line.toList ++ ' ' :: '*' :: (natChars times ++ '%' :: natChars modulo) := by
    simp [moduloSuffix, timesSuffix]
  rw [plainLine, timesLine, moduloLine]
  obtain ⟨timesSame, timesTaken⟩ := readNodes_append_blank line.toList timesOnly none
  obtain ⟨bothSame, bothTaken⟩ := readNodes_append_blank line.toList both one
  obtain ⟨_, plainTaken⟩ := readNodes_append_blank line.toList (tokens_natChars times) none
  refine ⟨timesSame, bothSame, fun breaksOff => ⟨?_, ?_, ?_⟩⟩
  · obtain ⟨front, token, rest, nodes, split, accepted, lacks⟩ := breaksOff
    obtain ⟨failure, fails, asks⟩ := readToken_of_lacks lacks
    refine ⟨failure, ?_, asks⟩
    exact readNodes_eq_error_iff.mpr ⟨token, rest, ⟨front, nodes, split, accepted⟩, fails⟩
  · rw [timesTaken breaksOff, plainTaken breaksOff]
  · rw [bothTaken breaksOff, plainTaken breaksOff]

/-- A note without an octave takes the number of times for its octave, and a colon takes it for the
steps of its hold. A line that ends in a number leaves the repeat alone. -/
theorem readNodes_repeat_iff_openNote :
    readNodes ("c" ++ timesSuffix 4).toList ≠ readNodes "c".toList ∧
    readNodes ("c4:" ++ moduloSuffix 2 2).toList = readNodes "c4: 2".toList ∧
    readNodes ("c4:1" ++ timesSuffix 4).toList = readNodes "c4:1".toList := by
  have octave : BreaksOff "c".toList :=
    ⟨[], .note ⟨.c, none⟩, [], [], rfl, rfl, .octave _⟩
  have four : readNumber (Nat.pow 2 31) ['4'] = .ok 4 := rfl
  have hold : BreaksOff "c4:".toList :=
    ⟨[], .note ⟨.c, none⟩, [.number ['4'], .colon], [], rfl, rfl, .noteHold _ four⟩
  have complete : ¬ BreaksOff "c4:1".toList := by
    intro breaksOff
    rcases breaksOff.getLast? with last | ⟨name, last⟩ <;> cases last
  refine ⟨fun same => (readNodes_repeat_iff "c" 4 2).1.mp same octave, ?_,
    (readNodes_repeat_iff "c4:1" 4 2).1.mpr complete⟩
  rw [((readNodes_repeat_iff "c4:" 2 2).2.2 hold).2.2]
  rfl

end StepSequencer.Notation
