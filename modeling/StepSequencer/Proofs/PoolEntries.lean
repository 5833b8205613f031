/-
This file says what an entry of a note pool comes to when a generator writes it into a step line. An
entry in canonical notation is a note or a chord; its pitches are all different, since the intervals
of a chord are and since a bass that repeats a tone is left out. Written with a hold of one step it
is a line without a repeat, and it is read back as just that.
-/

import StepSequencer.Proofs.PitchRange

namespace StepSequencer

/-! ### The pitches of an entry -/

/-- Whether an entry of a pool is a note or a chord without a hold, as it is written. -/
def CanonicalEntry (entry : String) : Prop :=
  ∃ tone, Notation.readNodes entry.toList = .ok [⟨tone, none⟩] ∧ Node.text ⟨tone, none⟩ = entry

/-- The pitches of an entry that says one note or chord. -/
def entryPitches (entry : String) : List UInt8 :=
  match Notation.readNodes entry.toList with
  | .ok [node] => node.pitches.toOption.getD []
  | _ => []

theorem entryPitches_of_readNodes {entry : String} {node : Node} {pitches : List UInt8}
    (read : Notation.readNodes entry.toList = .ok [node]) (found : node.pitches = .ok pitches) :
    entryPitches entry = pitches := by
  rw [entryPitches, read]
  show node.pitches.toOption.getD [] = pitches
  rw [found]
  rfl

theorem Quality.nodup_intervals_of_mem_table {quality : Quality}
    (member : quality ∈ Quality.table) : quality.intervals.Nodup := by
  have computed : Quality.table.all (fun quality => decide quality.intervals.Nodup) = true := by
    decide +kernel
  exact of_decide_eq_true (List.all_eq_true.mp computed quality member)

/-- The tones of a chord are different, as their intervals are. -/
theorem nodup_of_mapM_checkPitch {base : Nat} {intervals : List Nat} {tones : List UInt8}
    (distinct : intervals.Nodup)
    (above : intervals.mapM (fun (interval : Nat) => checkPitch (base + interval)) = .ok tones) :
    tones.Nodup := by
  have numbered : tones.map UInt8.toNat = intervals.map fun interval => base + interval := by
    have related := forall₂_of_mapM above
    rw [← List.forall₂_eq_eq_eq, List.forall₂_map_left_iff, List.forall₂_map_right_iff]
    refine (List.Forall₂.imp ?_ related).flip
    intro interval tone checked
    have exact := (checkPitch_eq_ok_iff.mp checked).2.2
    show tone.toNat = base + interval
    omega
  refine List.Nodup.of_map UInt8.toNat ?_
  rw [numbered]
  exact distinct.map fun first second same => Nat.add_left_cancel same

/-- A bass that is one of the tones is left out. -/
theorem bassOmitted_of_mem {bass : PitchName} {bassPitch : UInt8} {tones : List UInt8}
    (found : bass.inOctave bassOctave = .ok bassPitch) (member : bassPitch ∈ tones) :
    bassOmitted bass bassPitch tones = true := by
  have number : (bassPitch.toNat : Int) = 48 + bass.semitone := by
    have four : bass.inOctave (4 : Nat) = .ok bassPitch := found
    rw [bass.inOctave_eq] at four
    split at four
    next => simpa [PitchName.exactPitch] using (checkPitch_eq_ok_iff.mp four).2.2
    next => cases four
  have sameClass : bassPitch.toNat % 12 = bass.pitchClass := by
    rw [PitchName.pitchClass]
    omega
  have notBelow : tones.all (fun tone => decide (bassPitch < tone)) = false := by
    refine Bool.eq_false_iff.mpr fun below => ?_
    have self := of_decide_eq_true (List.all_eq_true.mp below bassPitch member)
    exact absurd self (UInt8.lt_irrefl bassPitch)
  rw [bassOmitted, notBelow, Bool.not_false, Bool.and_true]
  exact List.any_eq_true.mpr ⟨bassPitch, member, beq_iff_eq.mpr sameClass⟩

/-- No pitch of a node that can be read sounds twice in it. -/
theorem Node.Readable.nodup_pitches {node : Node} (readable : node.Readable) {pitches : List UInt8}
    (found : node.pitches = .ok pitches) : pitches.Nodup := by
  obtain ⟨tone, hold⟩ := node
  cases tone with
  | note name octave =>
    obtain ⟨pitch, _, single⟩ := bind_eq_ok_iff.mp found
    obtain rfl := Except.ok.inj single
    exact List.nodup_singleton pitch
  | chord root quality bass =>
    have distinct := Quality.nodup_intervals_of_mem_table
      (Quality.mem_table_of_ofSymbol? readable.tone)
    obtain ⟨base, _, found⟩ := bind_eq_ok_iff.mp found
    obtain ⟨tones, above, found⟩ := bind_eq_ok_iff.mp found
    have tonesDistinct := nodup_of_mapM_checkPitch distinct above
    cases bass with
    | none =>
      obtain rfl := Except.ok.inj found
      exact tonesDistinct
    | some bass =>
      obtain ⟨bassPitch, below, found⟩ := bind_eq_ok_iff.mp found
      obtain rfl := Except.ok.inj found
      split
      next => exact tonesDistinct
      next kept =>
        exact List.nodup_cons.mpr ⟨fun member => kept (bassOmitted_of_mem below member),
          tonesDistinct⟩

theorem CanonicalEntry.nodup_entryPitches {entry : String} (canonical : CanonicalEntry entry) :
    (entryPitches entry).Nodup := by
  obtain ⟨tone, read, _⟩ := canonical
  have readable := Notation.readable_of_nodesAfter read _ List.mem_cons_self
  obtain ⟨pitches, found⟩ := readable.pitches
  rw [entryPitches_of_readNodes read found]
  exact readable.nodup_pitches found

/-! ### Lines without a repeat -/

namespace Notation

theorem findModulo?_eq_none {text : List Char} (plain : '*' ∉ text) : findModulo? text = none := by
  induction text with
  | nil => rfl
  | cons character rest inductionHypothesis =>
    obtain ⟨other, behind⟩ := List.ne_and_not_mem_of_not_mem_cons plain
    rw [findModulo?, if_neg (by simpa using Ne.symm other), inductionHypothesis behind]

theorem findTimes?_eq_none {text : List Char} (plain : '*' ∉ text) : findTimes? text = none := by
  unfold findTimes?
  dsimp only
  split
  next rest marked =>
    have inside : '*' ∈ text.reverse :=
      (List.dropWhile_sublist _).subset (marked ▸ List.mem_cons_self)
    exact absurd (List.mem_reverse.mp inside) plain
  next => rfl

/-- A line without an asterisk plays once. -/
theorem readRepeat_of_plain {line : List Char} (plain : '*' ∉ line) :
    readRepeat line = .ok Repeat.once := by
  have plainEnd : '*' ∉ Text.trimEnd line := by
    intro member
    refine plain (List.mem_reverse.mp ?_)
    exact (List.dropWhile_sublist _).subset (List.mem_reverse.mp member)
  rw [readRepeat, writtenRepeat, findModulo?_eq_none plain, findTimes?_eq_none plainEnd]
  rfl

end Notation

theorem Quality.not_mem_symbol_of_mem_table {quality : Quality} (member : quality ∈ Quality.table) :
    '*' ∉ quality.symbol.toList := by
  have computed :
      Quality.table.all (fun quality => decide ('*' ∉ quality.symbol.toList)) = true := by
    decide +kernel
  exact of_decide_eq_true (List.all_eq_true.mp computed quality member)

theorem PitchName.not_mem_chars (name : PitchName) : '*' ∉ name.chars ∧ '*' ∉ name.upperChars := by
  obtain ⟨letter, _ | accidental⟩ := name
  · cases letter <;> decide
  · cases letter <;> cases accidental <;> decide

theorem not_mem_natChars (value : Nat) : '*' ∉ natChars value := fun member =>
  absurd (isAsciiDigit_of_mem_natChars member) (by decide)

theorem Tone.Readable.not_mem_chars {tone : Tone} (readable : tone.Readable) :
    '*' ∉ tone.chars := by
  cases tone with
  | note name octave =>
    rw [Tone.chars, List.mem_append, not_or]
    exact ⟨name.not_mem_chars.1, not_mem_natChars octave⟩
  | chord root quality bass =>
    have symbol := Quality.not_mem_symbol_of_mem_table (Quality.mem_table_of_ofSymbol? readable)
    cases bass with
    | none => simp [Tone.chars, root.not_mem_chars.2, symbol]
    | some bass => simp [Tone.chars, root.not_mem_chars.2, symbol, bass.not_mem_chars.2]

/-! ### Entries as lines -/

/-- The text of a node is read as the node. -/
theorem Node.Readable.readNodes_text {node : Node} (readable : node.Readable) :
    Notation.readNodes node.text.toList = .ok [node] := by
  have single : ∀ other ∈ [node], other.Readable := List.forall_mem_singleton.mpr readable
  have line : Notation.canonicalLine [node] = node.text := String.intercalate_singleton
  rw [Notation.readNodes, ← line, Notation.tokens_canonicalLine single,
    Notation.nodesAfter_flatMap_tokens single]

theorem noteLine_text (tone : Tone) :
    Pattern.noteLine (Node.text ⟨tone, none⟩) = Node.text ⟨tone, some 1⟩ := by
  refine String.toList_inj.mp ?_
  simp [Pattern.noteLine, Node.text, Node.chars]
  rfl

/-- The line of an entry says what the entry says, held for one step. -/
theorem CanonicalEntry.readPartLine_noteLine {entry : String} (canonical : CanonicalEntry entry) :
    readPartLine (Pattern.noteLine entry) =
      .ok ⟨Pattern.noteLine entry, Repeat.once, [⟨entryPitches entry, some 1⟩]⟩ := by
  obtain ⟨tone, read, rfl⟩ := canonical
  obtain ⟨toneReadable, _, pitches, found⟩ :=
    Notation.readable_of_nodesAfter read _ List.mem_cons_self
  have held : Node.Readable ⟨tone, some 1⟩ := by
    refine ⟨toneReadable, ?_, pitches, found⟩
    rintro _ ⟨⟩
    decide
  -- an asterisk could only come from a symbol, and no symbol has one
  have plain : '*' ∉ (Node.text ⟨tone, some 1⟩).toList := by
    simpa [Node.text, Node.chars] using
      ⟨Tone.Readable.not_mem_chars toneReadable, not_mem_natChars 1⟩
  have struck :
      Struck.ofNode ⟨tone, some 1⟩ = .ok ⟨entryPitches (Node.text ⟨tone, none⟩), some 1⟩ := by
    rw [entryPitches_of_readNodes read found]
    exact bind_eq_ok_iff.mpr ⟨pitches, found, rfl⟩
  rw [readPartLine, noteLine_text, Notation.readRepeat_of_plain plain, held.readNodes_text]
  show ([Node.mk tone (some 1)].mapM Struck.ofNode >>= _) = _
  rw [List.mapM_cons, struck]
  rfl

end StepSequencer
