/-
This file says what becomes of generated step lines. A generator chooses an entry of its pool for
every step, or none, and writes a line for each choice; the lines are then read like written ones.
Of the source that entries are drawn from nothing matters but that a draw stays below its bound. If
the entries are notes and chords in canonical notation, every line says what was chosen: it plays
once, it sounds the pitches of its entry for one step, and each of these pitches is released once,
one pulse before the next step begins. Behind the last step that is the last pulse of the part, so
nothing rings on.
-/

import StepSequencer.Proofs.PoolEntries

namespace StepSequencer

/-! ### What generators choose -/

namespace Pattern

section Drawn

variable (source : NumberSource) {notes : List String}

/-- What is drawn from a pool is in the pool. -/
theorem drawNote_mem (some : notes ≠ []) (place : source.Place) :
    (drawNote source notes place).1 ∈ notes := by
  obtain ⟨note, others, rfl⟩ := List.exists_cons_of_ne_nil some
  unfold drawNote
  split
  · exact List.mem_cons_self
  · have within : (source.below (note :: others).length place).1 < (note :: others).length :=
      source.below_lt (Nat.succ_pos others.length) place
    have found := List.getElem_mem within
    rwa [List.getElem_eq_getD ""] at found

/-- The line of a step for which an entry is chosen, or none. -/
def choiceLine : Option String → String
  | none => ""
  | some entry => noteLine entry

/-- The entries that are drawn for the pulses of a pattern; the other steps rest. -/
def drawn (notes : List String) : List Bool → source.Place → List (Option String)
  | [], _ => []
  | false :: rest, place => none :: drawn notes rest place
  | true :: rest, place =>
    some (drawNote source notes place).1 :: drawn notes rest (drawNote source notes place).2

theorem sounded_eq_map (notes : List String) (pattern : List Bool) (place : source.Place) :
    sounded source notes pattern place = (drawn source notes pattern place).map choiceLine := by
  induction pattern generalizing place with
  | nil => rfl
  | cons pulse rest inductionHypothesis =>
    cases pulse with
    | false => exact congrArg _ (inductionHypothesis place)
    | true => exact congrArg _ (inductionHypothesis _)

/-- The steps that sound are the pulses of the pattern. -/
theorem map_isSome_drawn (notes : List String) (pattern : List Bool) (place : source.Place) :
    (drawn source notes pattern place).map Option.isSome = pattern := by
  induction pattern generalizing place with
  | nil => rfl
  | cons pulse rest inductionHypothesis =>
    cases pulse with
    | false => exact congrArg _ (inductionHypothesis place)
    | true => exact congrArg _ (inductionHypothesis _)

theorem mem_of_mem_drawn (some : notes ≠ []) {pattern : List Bool} {place : source.Place}
    {entry : String} (member : .some entry ∈ drawn source notes pattern place) :
    entry ∈ notes := by
  induction pattern generalizing place with
  | nil => cases member
  | cons pulse rest inductionHypothesis =>
    cases pulse with
    | false =>
      rcases List.mem_cons.mp member with other | behind
      · cases other
      · exact inductionHypothesis behind
    | true =>
      rcases List.mem_cons.mp member with here | behind
      · obtain rfl := Option.some.inj here
        exact drawNote_mem source some place
      · exact inductionHypothesis behind

end Drawn

theorem length_fillBucket (pulses steps count level : Nat) :
    (fillBucket pulses steps count level).length = count := by
  induction count generalizing level with
  | zero => rfl
  | succ count inductionHypothesis =>
    rw [fillBucket]
    split <;> rw [List.length_cons, inductionHypothesis]

theorem length_rotate {Item : Type} (items : List Item) (amount : Int) :
    (rotate items amount).length = items.length := by
  rw [rotate, List.length_append, List.length_drop, List.length_take]
  omega

/-- The steps of an even spread that have a pulse. -/
def Euclid.pattern (euclid : Euclid) : List Bool :=
  rotate (spread euclid.pulses.toNat euclid.steps.toNat) euclid.rotation

/-- What an even spread chooses for its steps if it draws from a source. -/
def Euclid.choices (source : NumberSource) (euclid : Euclid) : List (Option String) :=
  drawn source euclid.notes euclid.pattern (source.ofSeed euclid.seed)

theorem Euclid.length_choices (source : NumberSource) (euclid : Euclid) :
    (euclid.choices source).length = euclid.steps.toNat := by
  rw [← List.length_map Option.isSome, choices, map_isSome_drawn, pattern, length_rotate, spread,
    length_fillBucket]

theorem Euclid.of_generate_eq_ok {source : NumberSource} {euclid : Euclid} {lines : List String}
    (done : euclid.generate source = .ok lines) :
    0 ≤ euclid.steps ∧ euclid.notes ≠ [] ∧ lines = (euclid.choices source).map choiceLine := by
  unfold generate at done
  split at done
  next => cases done
  next counts =>
    split at done
    next => cases done
    next =>
      split at done
      next => cases done
      next some =>
        obtain rfl := Except.ok.inj done
        refine ⟨by omega, ?_, sounded_eq_map _ _ _ _⟩
        rintro none
        exact some (List.isEmpty_iff.mpr none)

/-- What a cycle of notes chooses for its steps: each entry in turn. -/
def Arpeggio.choices (arpeggio : Arpeggio) : List (Option String) :=
  (List.range arpeggio.length).map fun step => arpeggio.notes[step % arpeggio.notes.length]?

theorem Arpeggio.of_generate_eq_ok {arpeggio : Arpeggio} {lines : List String}
    (done : arpeggio.generate = .ok lines) :
    arpeggio.notes ≠ [] ∧ lines = arpeggio.choices.map choiceLine := by
  unfold generate at done
  split at done
  next => cases done
  next some =>
    obtain rfl := Except.ok.inj done
    have some : arpeggio.notes ≠ [] := fun none => some (List.isEmpty_iff.mpr none)
    refine ⟨some, ?_⟩
    rw [choices, List.map_map]
    refine List.map_congr_left fun step _ => ?_
    have within : step % arpeggio.notes.length < arpeggio.notes.length :=
      Nat.mod_lt step (List.length_pos_iff.mpr some)
    rw [Function.comp_apply, List.getElem?_eq_getElem within, List.getElem_eq_getD ""]
    rfl

end Pattern

/-! ### Generated lines -/

/-- The pitches of a step for which an entry is chosen, or none. -/
def choicePitches (choice : Option String) : List UInt8 := (choice.map entryPitches).getD []

/-- What a step sounds for which an entry is chosen, or none: each entry is held for one step. -/
def choiceStruck : Option String → List Struck
  | none => []
  | some entry => [⟨entryPitches entry, some 1⟩]

/-- The lines that are written for some choices are read as what was chosen. -/
theorem mapM_readPartLine_choiceLine {choices : List (Option String)}
    (canonical : ∀ entry, some entry ∈ choices → CanonicalEntry entry) :
    (choices.map Pattern.choiceLine).mapM readPartLine = .ok (choices.map fun choice =>
      ⟨Pattern.choiceLine choice, Repeat.once, choiceStruck choice⟩) := by
  refine mapM_map_eq_ok fun choice member => ?_
  cases choice with
  | none => rfl
  | some entry => exact (canonical entry member).readPartLine_noteLine

/-! ### Generated parts -/

/-- Whether a part is what its header says and plays some choices, one for each step: a step sounds
exactly the pitches of its choice, each of them is released once, one pulse before the next step
begins, and nothing else is sent. -/
structure Part.Plays (part : Part) (header : PartHeader) (choices : List (Option String)) :
    Prop where
  name : part.name = header.name
  group : part.group = header.group
  channel : part.channel = header.channel
  division : part.division = header.division
  texts : part.texts = choices.map Pattern.choiceLine
  length : part.length = choices.length
  cues : part.cues = choices.map fun choice =>
    ⟨[], (choicePitches choice).map fun pitch => .noteOn (header.channel - 1) pitch velocity⟩
  releases : ∀ entry, entry ∈ part.releases ↔ ∃ step choice pitch, choices[step]? = some choice ∧
    pitch ∈ choicePitches choice ∧
    entry = ((step + 1) * part.division.pulses - 1, .noteOff (header.channel - 1) pitch)
  once : part.releases.Nodup
  within : ∀ entry ∈ part.releases, entry.1 < part.pulses

/-- The releases of the choices of a part. -/
def choiceReleases (channel : UInt8) (division : Nat) (choices : List (Option String)) : Schedule :=
  choices.zipIdx.flatMap fun entry => (choicePitches entry.1).map fun pitch =>
    ((entry.2 + 1) * division - 1, .noteOff channel pitch)

/-- The last step is released at the last pulse, and all others before it. -/
theorem release_lt {division total step : Nat} (positive : 0 < division) (before : step < total) :
    (step + 1) * division - 1 < total * division := by
  have upTo : (step + 1) * division ≤ total * division := Nat.mul_le_mul_right division before
  have some : division ≤ (step + 1) * division := Nat.le_mul_of_pos_left division step.succ_pos
  omega

theorem releasesOf_choiceStruck {division total step : Nat} (channel : UInt8)
    (choice : Option String) (positive : 0 < division) (before : step < total) :
    releasesOf channel division (total * division) step (choiceStruck choice) =
      (choicePitches choice).map fun pitch =>
        ((step + 1) * division - 1, .noteOff channel pitch) := by
  cases choice with
  | none => rfl
  | some entry =>
    have released : releasePulse? division (total * division) step (some 1) =
        some ((step + 1) * division - 1) := if_pos (release_lt positive before)
    simp only [releasesOf, choiceStruck, List.flatMap_cons, List.flatMap_nil, List.append_nil,
      released]
    rfl

theorem flatMap_releasesOf_choices (channel : UInt8) {division : Nat}
    (choices : List (Option String)) (positive : 0 < division) :
    ((choices.map choiceStruck).zipIdx.flatMap fun entry =>
      releasesOf channel division (choices.length * division) entry.2 entry.1) =
        choiceReleases channel division choices := by
  rw [List.zipIdx_map, List.flatMap_map, choiceReleases]
  refine List.flatMap_congr fun entry member => ?_
  obtain ⟨before, _⟩ := List.getElem?_eq_some_iff.mp (List.mem_zipIdx_iff_getElem?.mp member)
  exact releasesOf_choiceStruck channel entry.1 positive before

/-- Different steps are released at different pulses. -/
theorem eq_of_releases {division first second : Nat} (positive : 0 < division)
    (same : (first + 1) * division - 1 = (second + 1) * division - 1) : first = second := by
  have someFirst : division ≤ (first + 1) * division :=
    Nat.le_mul_of_pos_left division first.succ_pos
  have someSecond : division ≤ (second + 1) * division :=
    Nat.le_mul_of_pos_left division second.succ_pos
  have equal : (first + 1) * division = (second + 1) * division := by omega
  exact Nat.succ.inj (Nat.eq_of_mul_eq_mul_right positive equal)

theorem nodup_choiceReleases {choices : List (Option String)} (channel : UInt8) {division : Nat}
    (positive : 0 < division) (distinct : ∀ choice ∈ choices, (choicePitches choice).Nodup) :
    (choiceReleases channel division choices).Nodup := by
  rw [choiceReleases, List.nodup_flatMap]
  constructor
  · intro entry member
    refine (distinct entry.1 (List.fst_mem_of_mem_zipIdx member)).map fun first second same => ?_
    injection (Prod.mk.inj same).2
  · have steps : (choices.zipIdx.map Prod.snd).Nodup := by
      rw [List.zipIdx_map_snd]
      exact List.nodup_range'
    refine (List.pairwise_map.mp steps).imp fun {first second} apart release inFirst inSecond => ?_
    obtain ⟨_, _, rfl⟩ := List.mem_map.mp inFirst
    obtain ⟨_, _, same⟩ := List.mem_map.mp inSecond
    exact apart (eq_of_releases positive (Prod.mk.inj same).1).symm

theorem mem_choiceReleases {choices : List (Option String)} {channel : UInt8} {division : Nat}
    {release : Nat × Message} :
    release ∈ choiceReleases channel division choices ↔
      ∃ step choice pitch, choices[step]? = some choice ∧ pitch ∈ choicePitches choice ∧
        release = ((step + 1) * division - 1, .noteOff channel pitch) := by
  rw [choiceReleases, List.mem_flatMap]
  constructor
  · rintro ⟨⟨choice, step⟩, inChoices, released⟩
    obtain ⟨pitch, sounds, rfl⟩ := List.mem_map.mp released
    exact ⟨step, choice, pitch, List.mem_zipIdx_iff_getElem?.mp inChoices, sounds, rfl⟩
  · rintro ⟨step, choice, pitch, chosen, sounds, rfl⟩
    exact ⟨(choice, step), List.mem_zipIdx_iff_getElem?.mpr chosen,
      List.mem_map.mpr ⟨pitch, sounds, rfl⟩⟩

/-- What the lines of some choices hold, step by step. -/
theorem stepContents_choices (choices : List (Option String)) :
    (Line.stepContents id (fun _ => []) (choices.map fun choice =>
      ⟨Pattern.choiceLine choice, Repeat.once, choiceStruck choice⟩) : List (List Struck)) =
        choices.map choiceStruck := by
  rw [Line.stepContents, List.flatMap_map, List.map_eq_flatMap]
  rfl

theorem stepTexts_choices (choices : List (Option String)) :
    Line.stepTexts (choices.map fun choice =>
      (⟨Pattern.choiceLine choice, Repeat.once, choiceStruck choice⟩ : Line (List Struck))) =
        choices.map Pattern.choiceLine := by
  rw [Line.stepTexts, List.flatMap_map, List.map_eq_flatMap]
  rfl

theorem attacksOf_choiceStruck (channel : UInt8) (choice : Option String) :
    attacksOf channel (choiceStruck choice) =
      (choicePitches choice).map fun pitch => .noteOn channel pitch velocity := by
  cases choice with
  | none => rfl
  | some entry => exact List.append_nil _

/-- The lines of some choices make a part that plays the choices, unless its time is out of
range. -/
theorem Part.read_choices {choices : List (Option String)}
    (canonical : ∀ entry, some entry ∈ choices → CanonicalEntry entry) (header : PartHeader)
    (bpm : Float) (slot : Option Nat) :
    (Part.read header bpm slot (choices.map Pattern.choiceLine)).map Part.span =
        pulsesSpan (choices.length * header.division.pulses) bpm ∧
      ∀ part, Part.read header bpm slot (choices.map Pattern.choiceLine) = .ok part →
        part.Plays header choices := by
  have positive := header.division.pulses_pos
  rw [Part.read, mapM_readPartLine_choiceLine canonical, ok_bind, Part.ofLines]
  simp only [stepContents_choices, stepTexts_choices, List.length_map,
    flatMap_releasesOf_choices _ choices positive]
  refine ⟨by cases (pulsesSpan _ bpm : Except (Failure SyntaxFault) Span) <;> rfl,
    fun part read => ?_⟩
  obtain ⟨span, _, read⟩ := bind_eq_ok_iff.mp read
  obtain rfl := Except.ok.inj read
  have distinct : ∀ choice ∈ choices, (choicePitches choice).Nodup := by
    rintro (_ | entry) member
    · exact List.nodup_nil
    · exact (canonical entry member).nodup_entryPitches
  exact {
    name := rfl
    group := rfl
    channel := rfl
    division := rfl
    texts := rfl
    length := by simp [Part.length]
    cues := by simp [attacksOf_choiceStruck]
    releases := fun _ => mem_choiceReleases
    once := nodup_choiceReleases _ positive distinct
    within := by
      intro release member
      obtain ⟨step, _, _, chosen, _, rfl⟩ := mem_choiceReleases.mp member
      obtain ⟨before, _⟩ := List.getElem?_eq_some_iff.mp chosen
      simpa [Part.pulses, Part.length] using release_lt positive before }

/-- Whether some lines are read as a part that plays some choices, unless the time of their steps is
out of range. -/
def ReadAs (header : PartHeader) (bpm : Float) (slot : Option Nat) (lines : List String)
    (choices : List (Option String)) : Prop :=
  (Part.read header bpm slot lines).map Part.span =
      pulsesSpan (choices.length * header.division.pulses) bpm ∧
    ∀ part, Part.read header bpm slot lines = .ok part → part.Plays header choices

/-- Such lines are accepted whenever their time is in range. -/
theorem ReadAs.exists_part {header : PartHeader} {bpm : Float} {slot : Option Nat}
    {lines : List String} {choices : List (Option String)}
    (readAs : ReadAs header bpm slot lines choices) {span : Span}
    (inRange : (pulsesSpan (choices.length * header.division.pulses) bpm :
      Except (Failure SyntaxFault) Span) = .ok span) :
    ∃ part, Part.read header bpm slot lines = .ok part ∧ part.span = span ∧
      part.Plays header choices := by
  obtain ⟨lasts, plays⟩ := readAs
  rw [inRange] at lasts
  cases read : Part.read header bpm slot lines with
  | error failure =>
    rw [read] at lasts
    cases lasts
  | ok part =>
    rw [read] at lasts
    exact ⟨part, rfl, Except.ok.inj lasts, plays part read⟩

/-- Generated lines become the part that they describe, whatever its header, if all entries of the
pool are canonical. The part has a step for each step that was asked for. With an even spread, the
steps at the pulses play entries of the pool and the others rest, whatever source draws the entries;
with a cycle, each step plays the next entry. -/
theorem Part.read_generated (source : Pattern.NumberSource) (header : PartHeader) (bpm : Float)
    (slot : Option Nat) :
    (∀ (euclid : Pattern.Euclid) (lines : List String), euclid.generate source = .ok lines →
      (∀ entry ∈ euclid.notes, CanonicalEntry entry) →
        ((euclid.choices source).length : Int) = euclid.steps ∧
        (euclid.choices source).map Option.isSome = euclid.pattern ∧
        (∀ entry, some entry ∈ euclid.choices source → entry ∈ euclid.notes) ∧
        ReadAs header bpm slot lines (euclid.choices source)) ∧
    (∀ (arpeggio : Pattern.Arpeggio) (lines : List String), arpeggio.generate = .ok lines →
      (∀ entry ∈ arpeggio.notes, CanonicalEntry entry) →
        arpeggio.choices.length = arpeggio.length ∧
        (∀ step < arpeggio.length, ∃ entry,
          arpeggio.notes[step % arpeggio.notes.length]? = some entry ∧
          arpeggio.choices[step]? = some (some entry)) ∧
        ReadAs header bpm slot lines arpeggio.choices) := by
  constructor
  · intro euclid lines done canonical
    obtain ⟨counts, some, rfl⟩ := Pattern.Euclid.of_generate_eq_ok done
    have inPool : ∀ entry, .some entry ∈ euclid.choices source → entry ∈ euclid.notes :=
      fun entry => Pattern.mem_of_mem_drawn source some
    refine ⟨?_, Pattern.map_isSome_drawn _ _ _ _, inPool, Part.read_choices ?_ header bpm slot⟩
    · rw [euclid.length_choices source]
      exact Int.toNat_of_nonneg counts
    · exact fun entry member => canonical entry (inPool entry member)
  · intro arpeggio lines done canonical
    obtain ⟨some, rfl⟩ := Pattern.Arpeggio.of_generate_eq_ok done
    refine ⟨by simp [Pattern.Arpeggio.choices], fun step before => ?_,
      Part.read_choices (fun entry member => canonical entry ?_) header bpm slot⟩
    · have within : step % arpeggio.notes.length < arpeggio.notes.length :=
        Nat.mod_lt step (List.length_pos_iff.mpr some)
      have found := List.getElem?_eq_getElem within
      refine ⟨_, found, ?_⟩
      simp [Pattern.Arpeggio.choices, before]
    · obtain ⟨step, _, chosen⟩ := List.mem_map.mp member
      exact List.mem_of_getElem? chosen

/-- Three pulses in eight steps, drawn from a note and two chords. -/
def euclidSample : Pattern.Euclid := ⟨3, 8, ["c#4", "F#m7b5/E", "Bb7#9"], 1, 7⟩

/-- Five steps that take turns. -/
def arpeggioSample : Pattern.Arpeggio := ⟨["g2", "Dsus4/A"], 5⟩

/-- A header with an eighth for each step. -/
def eighthsHeader : PartHeader := ⟨"riff", defaultName, 2, .eighth, []⟩

/-- The last note of the cycle, a low `g`, is released at the last of its sixty pulses. -/
theorem Part.read_generated_samples :
    (∃ lines part, euclidSample.generate Pattern.cipherSource = .ok lines ∧
      Part.read eighthsHeader 120.0 none lines = .ok part ∧ part.length = 8 ∧
      part.Plays eighthsHeader (euclidSample.choices Pattern.cipherSource)) ∧
    (∃ lines part, arpeggioSample.generate = .ok lines ∧
      Part.read eighthsHeader 120.0 none lines = .ok part ∧ part.length = 5 ∧
      part.Plays eighthsHeader arpeggioSample.choices ∧
      (59, .noteOff 1 31) ∈ part.releases) := by
  have canonical (entry : String) (tone : Tone)
      (read : (Notation.readNodes entry.toList).toOption = some [⟨tone, none⟩])
      (written : Node.text ⟨tone, none⟩ = entry) : CanonicalEntry entry :=
    ⟨tone, toOption_eq_some_iff.mp read, written⟩
  obtain ⟨euclids, arpeggios⟩ := Part.read_generated Pattern.cipherSource eighthsHeader 120.0 none
  constructor
  · have pool : ∀ entry ∈ euclidSample.notes, CanonicalEntry entry := by
      have first := canonical "c#4" (.note ⟨.c, some .sharp⟩ 4) (by decide +kernel)
        (by decide +kernel)
      have second := canonical "F#m7b5/E"
        (.chord ⟨.f, some .sharp⟩ ⟨"m7b5", [0, 3, 6, 10]⟩ (some ⟨.e, none⟩)) (by decide +kernel)
        (by decide +kernel)
      have third := canonical "Bb7#9" (.chord ⟨.b, some .flat⟩ ⟨"7#9", [0, 4, 7, 10, 15]⟩ none)
        (by decide +kernel) (by decide +kernel)
      simpa [euclidSample] using ⟨first, second, third⟩
    obtain ⟨length, _, _, readAs⟩ := euclids euclidSample _ rfl pool
    have inRange : (pulsesSpan ((euclidSample.choices Pattern.cipherSource).length *
        eighthsHeader.division.pulses) 120.0 : Except (Failure SyntaxFault) Span) =
          .ok ⟨2000000000⟩ :=
      toOption_eq_some_iff.mp (by decide +kernel)
    obtain ⟨part, read, _, plays⟩ := readAs.exists_part inRange
    refine ⟨_, part, rfl, read, ?_, plays⟩
    rw [plays.length]
    exact Int.ofNat.inj length
  · have pool : ∀ entry ∈ arpeggioSample.notes, CanonicalEntry entry := by
      have first := canonical "g2" (.note ⟨.g, none⟩ 2) (by decide +kernel) (by decide +kernel)
      have second := canonical "Dsus4/A" (.chord ⟨.d, none⟩ ⟨"sus4", [0, 5, 7]⟩ (some ⟨.a, none⟩))
        (by decide +kernel) (by decide +kernel)
      simpa [arpeggioSample] using ⟨first, second⟩
    obtain ⟨length, _, readAs⟩ := arpeggios arpeggioSample _ rfl pool
    have inRange : (pulsesSpan (arpeggioSample.choices.length * eighthsHeader.division.pulses)
        120.0 : Except (Failure SyntaxFault) Span) = .ok ⟨1250000000⟩ :=
      toOption_eq_some_iff.mp (by decide +kernel)
    obtain ⟨part, read, _, plays⟩ := readAs.exists_part inRange
    refine ⟨_, part, rfl, read, plays.length.trans length, plays, ?_⟩
    have sounds : (31 : UInt8) ∈ choicePitches (some "g2") := by decide +kernel
    have released := (plays.releases _).mpr ⟨4, some "g2", 31, rfl, sounds, rfl⟩
    rw [plays.division] at released
    exact released

end StepSequencer
