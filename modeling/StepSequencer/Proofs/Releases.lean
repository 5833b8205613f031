/-
This file says which held notes a part releases, and when. A part steps through the nodes of its
lines, copy by copy, and every node starts its notes at its step. The notes of a node that is held
for some steps are released one pulse before the step behind the hold, unless the part is over by
then. A note without a hold rings on, and so does one with the hold 0. Releases are looked up by
pulse, so they are compared as a table: those of different steps may meet at one pulse, where they
lie in the order in which the notes started, and a pulse at which nothing is released has no entry.
-/

import StepSequencer.Proofs.Pitches

namespace StepSequencer

/-! ### Messages by pulse -/

/-- The messages that are due at each pulse. -/
abbrev Calendar := Std.TreeMap Nat (List Message)

namespace Calendar

/-- Adds a message behind those that are due at the same pulse. -/
def add (calendar : Calendar) (due : Nat) (message : Message) : Calendar :=
  calendar.alter due fun present => some (present.getD [] ++ [message])

theorem getElem?_add (calendar : Calendar) (due : Nat) (message : Message) (pulse : Nat) :
    (calendar.add due message)[pulse]? =
      if due = pulse then some (calendar[pulse]?.getD [] ++ [message]) else calendar[pulse]? := by
  rw [add, Std.TreeMap.getElem?_alter]
  simp only [Nat.compare_eq_eq]
  split
  next same => rw [same]
  next => rfl

/-- What a table has where some messages are due: no entry if there are none. -/
def filled? (messages : List Message) : Option (List Message) :=
  if messages = [] then none else some messages

theorem getD_filled? (messages : List Message) : (filled? messages).getD [] = messages := by
  unfold filled?
  split
  next none => exact none.symm
  next => rfl

end Calendar

namespace Schedule

/-- The table of a schedule, filled entry by entry. -/
def calendar (schedule : Schedule) : Calendar :=
  schedule.foldl (fun calendar entry => calendar.add entry.1 entry.2) ∅

theorem due_append (schedule later : Schedule) (pulse : Nat) :
    Schedule.due (schedule ++ later) pulse = schedule.due pulse ++ later.due pulse := by
  rw [due, List.filter_append, List.map_append, due, due]

theorem due_singleton (due pulse : Nat) (message : Message) :
    Schedule.due [(due, message)] pulse = if due = pulse then [message] else [] := by
  by_cases same : due = pulse <;> simp [Schedule.due, same]

/-- The table has what is due at a pulse, and no entry where nothing is due. -/
theorem getElem?_calendar (schedule : Schedule) (pulse : Nat) :
    schedule.calendar[pulse]? = Calendar.filled? (schedule.due pulse) := by
  induction schedule using List.reverseRecOn with
  | nil => exact Std.TreeMap.getElem?_emptyc
  | append_singleton before entry inductionHypothesis =>
    rw [calendar, List.foldl_append, List.foldl_cons, List.foldl_nil, ← calendar,
      Calendar.getElem?_add, inductionHypothesis, Calendar.getD_filled?, due_append, due_singleton]
    by_cases same : entry.1 = pulse <;> simp [same, Calendar.filled?]

end Schedule

/-! ### The nodes of the steps -/

/-- The pitches that a node sounds. -/
def Node.sounded (node : Node) : List UInt8 := node.pitches.toOption.getD []

/-- What a node sounds, with its hold. -/
def Node.struck (node : Node) : Struck := ⟨node.sounded, node.hold⟩

/-- Reads a step line of a part as far as its nodes. -/
def readNodeLine (text : String) : Except (Failure SyntaxFault) (Line (List Node)) := do
  let repetition ← (Notation.readRepeat text.toList).mapError .fault
  return ⟨text, repetition, ← Notation.readNodes text.toList⟩

/-- The nodes of every step of some lines; the silent copies of a line have none. -/
def nodeSteps (lines : List (Line (List Node))) : List (List Node) :=
  Line.stepContents id (fun _ => []) lines

/-- A line with what its nodes sound. -/
def struckLine (line : Line (List Node)) : Line (List Struck) :=
  ⟨line.text, line.repetition, line.content.map Node.struck⟩

/-- Whether all nodes have their pitches. -/
def Pitched (nodes : List Node) : Prop := ∀ node ∈ nodes, node.pitches = .ok node.sounded

theorem Struck.ofNode_eq_ok {node : Node} {struck : Struck}
    (taken : Struck.ofNode node = .ok struck) :
    node.pitches = .ok node.sounded ∧ struck = node.struck := by
  obtain ⟨pitches, found, done⟩ := bind_eq_ok_iff.mp taken
  obtain rfl := Except.ok.inj done
  have sounded : node.sounded = pitches := by rw [Node.sounded, found]; rfl
  rw [Node.struck, sounded]
  exact ⟨found, rfl⟩

/-- If every member is read as the value of a function, so is the list. -/
theorem eq_map_of_mapM {Fault Text Value : Type} {read : Text → Except Fault Value}
    {value : Text → Value} (each : ∀ text result, read text = .ok result → result = value text)
    {texts : List Text} {values : List Value} (done : texts.mapM read = .ok values) :
    values = texts.map value := by
  have related : List.Forall₂ (fun text result => value text = result) texts values :=
    (forall₂_of_mapM done).imp fun text result here => (each text result here).symm
  exact (List.forall₂_eq_eq_eq ▸ List.forall₂_map_left_iff.mpr related : _ = values).symm

/-- Nodes of which all can be taken have their pitches. -/
theorem pitched_of_mapM_ofNode {nodes : List Node} {struck : List Struck}
    (taken : nodes.mapM Struck.ofNode = .ok struck) :
    Pitched nodes ∧ struck = nodes.map Node.struck := by
  refine ⟨fun node member => ?_,
    eq_map_of_mapM (fun _ _ here => (Struck.ofNode_eq_ok here).2) taken⟩
  obtain ⟨_, _, here⟩ := exists_related_of_mem (forall₂_of_mapM taken) member
  exact (Struck.ofNode_eq_ok here).1

/-- A line of a part holds what its nodes sound. -/
theorem exists_of_readPartLine {text : String} {line : Line (List Struck)}
    (read : readPartLine text = .ok line) :
    ∃ nodeLine, readNodeLine text = .ok nodeLine ∧ line = struckLine nodeLine ∧
      Pitched nodeLine.content := by
  obtain ⟨repetition, repeated, read⟩ := bind_eq_ok_iff.mp read
  obtain ⟨nodes, inNotation, read⟩ := bind_eq_ok_iff.mp read
  obtain ⟨struck, taken, read⟩ := bind_eq_ok_iff.mp read
  obtain rfl := Except.ok.inj read
  obtain ⟨pitched, rfl⟩ := pitched_of_mapM_ofNode taken
  refine ⟨⟨text, repetition, nodes⟩, ?_, rfl, pitched⟩
  rw [readNodeLine, repeated, inNotation]
  rfl

/-- The lines of a part hold what their nodes sound. -/
theorem exists_of_mapM_readPartLine {texts : List String} {lines : List (Line (List Struck))}
    (read : texts.mapM readPartLine = .ok lines) :
    ∃ nodeLines, texts.mapM readNodeLine = .ok nodeLines ∧ lines = nodeLines.map struckLine ∧
      ∀ line ∈ nodeLines, Pitched line.content := by
  induction texts generalizing lines with
  | nil =>
    obtain rfl : [] = lines := Except.ok.inj read
    exact ⟨[], rfl, rfl, nofun⟩
  | cons text rest inductionHypothesis =>
    rw [List.mapM_cons, bind_eq_ok_iff] at read
    obtain ⟨line, first, read⟩ := read
    obtain ⟨behind, others, read⟩ := bind_eq_ok_iff.mp read
    obtain rfl := Except.ok.inj read
    obtain ⟨nodeLine, firstNodes, rfl, pitched⟩ := exists_of_readPartLine first
    obtain ⟨nodeLines, otherNodes, rfl, allPitched⟩ := inductionHypothesis others
    refine ⟨nodeLine :: nodeLines, ?_, rfl, List.forall_mem_cons.mpr ⟨pitched, allPitched⟩⟩
    rw [List.mapM_cons, firstNodes, otherNodes]
    rfl

theorem stepContents_struckLine (lines : List (Line (List Node))) :
    Line.stepContents id (fun _ => []) (lines.map struckLine) =
      (nodeSteps lines).map fun nodes => nodes.map Node.struck := by
  rw [nodeSteps, Line.map_stepContents, Line.stepContents, List.flatMap_map]
  rfl

theorem pitched_of_mem_nodeSteps {lines : List (Line (List Node))}
    (pitched : ∀ line ∈ lines, Pitched line.content) {nodes : List Node}
    (member : nodes ∈ nodeSteps lines) : Pitched nodes := by
  obtain ⟨line, inLines, rfl | rfl⟩ := Line.mem_stepContents member
  · exact pitched line inLines
  · exact nofun

/-! ### Notes that start and end -/

theorem releasePulse?_eq_some_iff {division total step pulse : Nat} {hold : Option Nat} :
    releasePulse? division total step hold = some pulse ↔
      ∃ steps ∈ hold, 0 < steps ∧ (step + steps) * division - 1 = pulse ∧ pulse < total := by
  rcases hold with _ | _ | hold
  case none => simp [releasePulse?]
  case some.zero => simp [releasePulse?]
  case some.succ =>
    rw [releasePulse?]
    split
    next within =>
      rw [Option.some_inj]
      constructor
      · rintro rfl
        exact ⟨hold + 1, rfl, hold.succ_pos, rfl, within⟩
      · rintro ⟨_, ⟨rfl⟩, _, same, _⟩
        exact same
    next beyond =>
      refine ⟨nofun, ?_⟩
      rintro ⟨_, ⟨rfl⟩, _, rfl, within⟩
      exact absurd within beyond

/-- A note that starts at a step, with the hold of its node. -/
structure Onset where
  step : Nat
  hold : Option Nat
  pitch : UInt8
deriving DecidableEq

/-- The notes that start at a step, in the order of the nodes and of their pitches. -/
def onsetsAt (step : Nat) (nodes : List Node) : List Onset :=
  nodes.flatMap fun node => node.sounded.map fun pitch => ⟨step, node.hold, pitch⟩

/-- The notes of all steps, in order. -/
def onsets (steps : List (List Node)) : List Onset :=
  steps.zipIdx.flatMap fun entry => onsetsAt entry.2 entry.1

namespace Onset

/-- Whether a note ends at a pulse: it has a hold, the pulse is the last one before the step behind
the hold, and it is one of all pulses of the part. -/
def EndsAt (division total pulse : Nat) (onset : Onset) : Prop :=
  ∃ hold ∈ onset.hold, 0 < hold ∧ (onset.step + hold) * division - 1 = pulse ∧ pulse < total

instance (division total pulse : Nat) (onset : Onset) :
    Decidable (onset.EndsAt division total pulse) :=
  inferInstanceAs (Decidable (∃ hold ∈ onset.hold, _))

/-- The message with which a note starts. -/
def attack (channel : UInt8) (onset : Onset) : Message := .noteOn channel onset.pitch velocity

/-- The message that releases a note. -/
def release (channel : UInt8) (onset : Onset) : Message := .noteOff channel onset.pitch

/-- The release of a note with its pulse, if it ends within the part. -/
def scheduled? (channel : UInt8) (division total : Nat) (onset : Onset) : Option (Nat × Message) :=
  (releasePulse? division total onset.step onset.hold).map fun pulse =>
    (pulse, onset.release channel)

end Onset

theorem attacksOf_struck (channel : UInt8) (step : Nat) (nodes : List Node) :
    attacksOf channel (nodes.map Node.struck) =
      (onsetsAt step nodes).map (Onset.attack channel) := by
  rw [attacksOf, onsetsAt, List.flatMap_map, List.map_flatMap]
  refine List.flatMap_congr fun node _ => ?_
  rw [List.map_map]
  rfl

theorem releasesOf_struck (channel : UInt8) (division total step : Nat) (nodes : List Node) :
    releasesOf channel division total step (nodes.map Node.struck) =
      (onsetsAt step nodes).filterMap (Onset.scheduled? channel division total) := by
  rw [releasesOf, onsetsAt, List.flatMap_map, List.filterMap_flatMap]
  refine List.flatMap_congr fun node _ => ?_
  rw [List.filterMap_map, Node.struck]
  cases ended : releasePulse? division total step node.hold with
  | none => simp [Onset.scheduled?, ended, Function.comp_def]
  | some pulse =>
    simp only [Onset.scheduled?, ended, Function.comp_def, Option.map_some]
    rw [← List.filterMap_eq_map]
    rfl

/-- The releases of all steps are those of the notes that start there, in order. -/
theorem flatMap_releasesOf_struck (channel : UInt8) (division total : Nat)
    (steps : List (List Node)) :
    ((steps.map fun nodes => nodes.map Node.struck).zipIdx.flatMap fun entry =>
        releasesOf channel division total entry.2 entry.1) =
      (onsets steps).filterMap (Onset.scheduled? channel division total) := by
  rw [List.zipIdx_map, List.flatMap_map, onsets, List.filterMap_flatMap]
  exact List.flatMap_congr fun entry _ => releasesOf_struck channel division total entry.2 entry.1

/-- A note is released at the pulse at which it ends, and at no other one. -/
theorem due_scheduled? (channel : UInt8) (division total pulse : Nat) (onset : Onset) :
    Schedule.due (onset.scheduled? channel division total).toList pulse =
      if onset.EndsAt division total pulse then [onset.release channel] else [] := by
  simp only [Onset.EndsAt, ← releasePulse?_eq_some_iff, Onset.scheduled?]
  cases releasePulse? division total onset.step onset.hold with
  | none => rfl
  | some ended =>
    rw [Option.map_some, Option.toList_some, Schedule.due_singleton]
    exact if_congr (Option.some_inj.symm) rfl rfl

/-- What is due at a pulse are the releases of the notes that end there. -/
theorem due_filterMap_scheduled? (channel : UInt8) (division total pulse : Nat)
    (started : List Onset) :
    Schedule.due (started.filterMap (Onset.scheduled? channel division total)) pulse =
      (started.filter fun onset => onset.EndsAt division total pulse).map
        (Onset.release channel) := by
  induction started with
  | nil => rfl
  | cons onset rest inductionHypothesis =>
    have head : (onset :: rest).filterMap (Onset.scheduled? channel division total) =
        (onset.scheduled? channel division total).toList ++
          rest.filterMap (Onset.scheduled? channel division total) := by
      rw [List.filterMap_cons]
      cases onset.scheduled? channel division total <;> rfl
    rw [head, Schedule.due_append, due_scheduled?, inductionHypothesis, List.filter_cons]
    by_cases ended : onset.EndsAt division total pulse <;> simp [ended]

/-! ### Parts -/

/-- Whether a part plays some steps of nodes under a header. Every node has its pitches, and each of
them starts a note at the step. The notes that end at a pulse are released there, one message for
each of them, in the order in which they started; nothing else is released, and a pulse at which no
note ends has no entry. -/
structure Part.Renders (part : Part) (header : PartHeader) (steps : List (List Node)) : Prop where
  channel : part.channel = header.channel
  division : part.division = header.division
  length : part.length = steps.length
  pitched : ∀ nodes ∈ steps, Pitched nodes
  cues : ∀ step : Nat, part.cues[step]? = steps[step]?.map fun nodes =>
    Cue.mk [] ((onsetsAt step nodes).map (Onset.attack (part.channel - 1)))
  releases : ∀ pulse : Nat, part.releases.calendar[pulse]? = Calendar.filled?
    (((onsets steps).filter fun onset =>
      onset.EndsAt part.division.pulses part.pulses pulse).map (Onset.release (part.channel - 1)))

/-- A part that is read from lines plays the nodes of its lines, copy by copy. -/
theorem Part.renders_of_read {header : PartHeader} {bpm : Float} {slot : Option Nat}
    {texts : List String} {part : Part} (read : Part.read header bpm slot texts = .ok part) :
    ∃ lines, texts.mapM readNodeLine = .ok lines ∧ part.Renders header (nodeSteps lines) := by
  obtain ⟨struckLines, inLines, read⟩ := bind_eq_ok_iff.mp read
  obtain ⟨lines, nodes, rfl, pitched⟩ := exists_of_mapM_readPartLine inLines
  obtain ⟨division, channel, cues, releases⟩ := Part.fields_of_ofLines read
  rw [stepContents_struckLine] at cues releases
  have length : part.length = (nodeSteps lines).length := by
    rw [Part.length, cues, List.length_map, List.length_map]
  refine ⟨lines, nodes, channel, division, length, ?_, fun step => ?_, fun pulse => ?_⟩
  · exact fun _ => pitched_of_mem_nodeSteps pitched
  · simp only [cues, channel, List.getElem?_map, Option.map_map, Function.comp_def,
      attacksOf_struck _ step]
  · rw [Schedule.getElem?_calendar, releases, List.length_map,
      flatMap_releasesOf_struck, due_filterMap_scheduled?, Part.pulses, length, division, channel]

/-- A step with a held and a ringing note, a held chord of which only the second copy sounds, and a
note that is held for too long. -/
def heldSample : List String := ["c5:3 e5", "C:1 *3%2", "g5:4"]

/-- The notes that start in the sample. -/
def heldOnsets : List Onset :=
  [⟨0, some 3, 60⟩, ⟨0, none, 64⟩, ⟨2, some 1, 60⟩, ⟨2, some 1, 64⟩, ⟨2, some 1, 67⟩,
    ⟨4, some 4, 67⟩]

/-- The held note and the chord end together, one pulse before the fourth step. -/
theorem filter_endsAt_heldOnsets (pulse : Nat) :
    heldOnsets.filter (fun onset => onset.EndsAt 12 60 pulse) =
      if pulse = 35 then [⟨0, some 3, 60⟩, ⟨2, some 1, 60⟩, ⟨2, some 1, 64⟩, ⟨2, some 1, 67⟩]
      else [] := by
  by_cases same : pulse = 35
  · subst same
    decide
  · rw [if_neg same, List.filter_eq_nil_iff]
    simp [heldOnsets, Onset.EndsAt]
    omega

/-- No other pulse of the sample releases anything. -/
theorem Part.renders_of_read_heldSample :
    ∃ header lines part, Part.read header 120.0 none heldSample = .ok part ∧
      heldSample.mapM readNodeLine = .ok lines ∧ part.Renders header (nodeSteps lines) ∧
      ∀ pulse, part.releases.calendar[pulse]? =
        if pulse = 35 then some [.noteOff 0 60, .noteOff 0 60, .noteOff 0 64, .noteOff 0 67]
        else none := by
  let header : PartHeader := ⟨"held", defaultName, 1, .eighth, []⟩
  have accepted : (Part.read header 120.0 none heldSample).toOption.isSome = true := by
    decide +kernel
  obtain ⟨part, read⟩ := Option.isSome_iff_exists.mp accepted
  rw [toOption_eq_some_iff] at read
  obtain ⟨lines, nodes, renders⟩ := Part.renders_of_read read
  have found : (heldSample.mapM readNodeLine).toOption.map
      (fun lines => ((nodeSteps lines).length, onsets (nodeSteps lines))) =
        some (5, heldOnsets) := by decide +kernel
  rw [nodes] at found
  obtain ⟨length, started⟩ := Prod.mk.inj (Option.some.inj found)
  have pulses : part.division.pulses = 12 ∧ part.pulses = 60 := by
    rw [Part.pulses, renders.length, renders.division, length]
    exact ⟨rfl, rfl⟩
  refine ⟨header, lines, part, read, nodes, renders, fun pulse => ?_⟩
  rw [renders.releases, started, pulses.1, pulses.2, filter_endsAt_heldOnsets, renders.channel]
  split
  · decide
  · rfl

end StepSequencer
