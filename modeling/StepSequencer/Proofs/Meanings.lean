/-
This file says what resolving references comes to when they form no cycle. Then every name has a
meaning that depends on nothing but the parts and the pending arrangements by their names: the lines
of an arrangement are read with the meanings of the names in them. Building arrangements computes
these meanings, in whatever order it comes across the names, and what it has built already is no
more than a store of them. The depth that is left over is always enough, because the arrangements
that wait for one another are distinct.
-/

import Mathlib.Order.WellFoundedSet
import StepSequencer.Proofs.Loading
import StepSequencer.Proofs.Places

namespace StepSequencer

theorem mapM_congr {Text Value : Type} {first second : Text → Option Value} {texts : List Text}
    (same : ∀ text ∈ texts, first text = second text) : texts.mapM first = texts.mapM second := by
  induction texts with
  | nil => rfl
  | cons text rest inductionHypothesis =>
    rw [List.mapM_cons, List.mapM_cons, same text List.mem_cons_self,
      inductionHypothesis fun other member => same other (List.mem_cons_of_mem _ member)]

theorem toOption_mapError {Fault Other Value : Type} (rename : Fault → Other)
    (result : Except Fault Value) : (result.mapError rename).toOption = result.toOption := by
  cases result <;> rfl

/-- Among members with different keys, the one that is found for a key is the one that has it. -/
theorem find?_eq_some_iff_of_nodup {Member : Type} {key : Member → String} {members : List Member}
    (distinct : (members.map key).Nodup) {name : String} {member : Member} :
    members.find? (fun other => key other == name) = some member ↔
      member ∈ members ∧ key member = name := by
  constructor
  · intro found
    have same := List.find?_some found
    exact ⟨List.mem_of_find?_eq_some found, eq_of_beq same⟩
  · rintro ⟨inList, rfl⟩
    induction members with
    | nil => cases inList
    | cons first rest inductionHypothesis =>
      obtain ⟨apart, distinct⟩ := List.nodup_cons.mp distinct
      rcases List.mem_cons.mp inList with rfl | inRest
      · exact List.find?_cons_of_pos (beq_self_eq_true _)
      · rw [List.find?_cons_of_neg, inductionHypothesis distinct inRest]
        intro same
        exact apart (List.mem_map.mpr ⟨member, inRest, (eq_of_beq same).symm⟩)

namespace Document

/-! ### Names and their meanings -/

/-- A pending arrangement without its place. -/
def Pending.unplaced (pending : Pending) : Pending := { pending with line := 0, slot := 0 }

/-- The words in the lines of a pending arrangement that may refer to something. -/
def Pending.words (pending : Pending) : List String :=
  pending.steps.flatMap fun text => Notation.nameWords text.toList

/-- A reference without the places of what it leads to. -/
def Reference.unplaced : Reference → Reference
  | .voice playable => .voice playable.unplaced
  | .lost warning => .lost warning

/-- A line with references without places. -/
def unplacedLine (line : Line (List Reference)) : Line (List Reference) :=
  ⟨line.text, line.repetition, line.content.map Reference.unplaced⟩

/-- What names stand for, before references are resolved. -/
structure Glossary where
  part? : String → Option Part
  pending? : String → Option Pending

/-- What names stand for in a scope, without places. -/
def Scope.glossary (scope : Scope) : Glossary where
  part? name := (scope.parts.find? fun part => part.name == name).map Part.unplaced
  pending? name :=
    (scope.pending.find? fun pending => pending.header.name == name).map Pending.unplaced

namespace Glossary

variable (glossary : Glossary)

/-- Whether a line of the arrangement of a name refers to the arrangement of another name. -/
def Refers (name other : String) : Prop :=
  ∃ pending, glossary.pending? name = some pending ∧ other ∈ pending.words ∧
    glossary.part? other = none ∧ (glossary.pending? other).isSome = true

section Readings

variable (meaning : String → Option (Arrangement Playable))

/-- What a name leads to when arrangements have some meaning. -/
def reference? (name : String) : Option Reference :=
  match glossary.part? name, glossary.pending? name with
  | some part, _ => some (.voice (.part part))
  | none, none => some (.lost (.unknownReference name))
  | none, some _ => (meaning name).map fun arrangement => .voice (.arrangement arrangement)

/-- A line when arrangements have some meaning. -/
def line? (text : String) : Option (Line (List Reference)) := do
  let repetition ← (Notation.readRepeat text.toList).toOption
  let references ← (Notation.nameWords text.toList).mapM (glossary.reference? meaning)
  return ⟨text, repetition, references⟩

/-- A pending arrangement when arrangements have some meaning. -/
def arrangement? (pending : Pending) : Option (Arrangement Playable) := do
  let lines ← pending.steps.mapM (glossary.line? meaning)
  let built : Except LoadFailure _ := Arrangement.ofLines pending.header.name pending.header.group
    (lines.flatMap fun line => line.content.filterMap Reference.warning?) none
    (lines.map voicedLine)
  built.toOption

/-- Whether every name means what its lines mean. -/
def IsMeaning : Prop :=
  ∀ name, meaning name = (glossary.pending? name).bind (glossary.arrangement? meaning)

end Readings

variable {glossary}

theorem reference?_congr {first second : String → Option (Arrangement Playable)} {name : String}
    (same : glossary.part? name = none → (glossary.pending? name).isSome = true →
      first name = second name) :
    glossary.reference? first name = glossary.reference? second name := by
  rw [reference?, reference?]
  split
  next => rfl
  next => rfl
  next noPart found => rw [same noPart (found ▸ rfl)]

/-- Only the meanings of the names to which an arrangement refers count for its own. -/
theorem arrangement?_congr {first second : String → Option (Arrangement Playable)}
    {pending : Pending}
    (same : ∀ other ∈ pending.words, glossary.part? other = none →
      (glossary.pending? other).isSome = true → first other = second other) :
    glossary.arrangement? first pending = glossary.arrangement? second pending := by
  have lines : pending.steps.mapM (glossary.line? first) =
      pending.steps.mapM (glossary.line? second) := by
    refine mapM_congr fun text written => ?_
    have references : (Notation.nameWords text.toList).mapM (glossary.reference? first) =
        (Notation.nameWords text.toList).mapM (glossary.reference? second) :=
      mapM_congr fun name inLine =>
        reference?_congr (same name (List.mem_flatMap.mpr ⟨text, written, inLine⟩))
    rw [line?, line?, references]
  rw [arrangement?, arrangement?, lines]

/-- References that form no cycle lead nowhere endlessly. -/
theorem wellFounded_refers (acyclic : ∀ name, ¬ Relation.TransGen glossary.Refers name name)
    {names : List String} (all : ∀ name, (glossary.pending? name).isSome = true → name ∈ names) :
    WellFounded fun other name => glossary.Refers name other := by
  let leads (other name : String) : Prop := Relation.TransGen glossary.Refers name other
  have : IsStrictOrder String leads :=
    { irrefl := acyclic
      trans := fun _ _ _ first second => second.trans first }
  have wellFounded := Set.wellFoundedOn_iff.mp
    (Set.Finite.wellFoundedOn (r := leads) (List.finite_toSet names))
  refine Subrelation.wf (fun {other name} refers => ?_) wellFounded
  have ⟨pending, found, _, _, known⟩ := refers
  exact ⟨.single refers, all other known, all name (found ▸ rfl)⟩

/-- When references form no cycle, every name has a meaning. -/
theorem exists_isMeaning (wellFounded : WellFounded fun other name => glossary.Refers name other) :
    ∃ meaning, glossary.IsMeaning meaning := by
  classical
  let step (name : String) (behind : ∀ other, glossary.Refers name other →
      Option (Arrangement Playable)) : Option (Arrangement Playable) :=
    (glossary.pending? name).bind <| glossary.arrangement? fun other =>
      if refers : glossary.Refers name other then behind other refers else none
  refine ⟨wellFounded.fix step, fun name => ?_⟩
  rw [WellFounded.fix_eq]
  cases found : glossary.pending? name with
  | none => exact congrArg (Option.bind · _) found
  | some pending =>
    refine (congrArg (Option.bind · _) found).trans ?_
    refine arrangement?_congr fun other written noPart known => ?_
    exact dif_pos ⟨pending, found, written, noPart, known⟩

end Glossary

/-! ### Building computes meanings -/

/-- Whether everything that is built is what the name of its place means. -/
def Built.Means (meaning : String → Option (Arrangement Playable)) (scope : Scope)
    (built : Built) : Prop :=
  ∀ entry ∈ built, ∃ pending, scope.pending[entry.1]? = some pending ∧
    meaning pending.header.name = some (Playable.unplacedArrangement entry.2)

/-- Whether a computation gives what is expected, as soon as places are forgotten, and fails when
nothing is expected. It builds nothing that is not meant. -/
inductive Computes (meaning : String → Option (Arrangement Playable)) (scope : Scope)
    {Value Unplaced : Type} (forget : Value → Unplaced) :
    Except LoadFailure (Value × Built) → Option Unplaced → Prop
  | gives (value : Value) {after : Built} (kept : Built.Means meaning scope after) :
      Computes meaning scope forget (.ok (value, after)) (some (forget value))
  | fails (failure : LoadFailure) : Computes meaning scope forget (.error failure) none

section Computing

variable {meaning : String → Option (Arrangement Playable)} {scope : Scope}

theorem Computes.bind {First Second FirstUnplaced SecondUnplaced : Type}
    {forgetFirst : First → FirstUnplaced} {forgetSecond : Second → SecondUnplaced}
    {first : Except LoadFailure (First × Built)} {expected : Option FirstUnplaced}
    {second : First × Built → Except LoadFailure (Second × Built)}
    {next : FirstUnplaced → Option SecondUnplaced}
    (computesFirst : Computes meaning scope forgetFirst first expected)
    (computesSecond : ∀ value after, expected = some (forgetFirst value) →
      Built.Means meaning scope after →
      Computes meaning scope forgetSecond (second (value, after)) (next (forgetFirst value))) :
    Computes meaning scope forgetSecond (first >>= second) (expected >>= next) := by
  cases computesFirst with
  | gives value kept => exact computesSecond value _ rfl kept
  | fails failure => exact .fails failure

/-- What can fail without building anything may come first. -/
theorem Computes.of_toOption {Value Other Unplaced : Type} {forget : Other → Unplaced}
    {first : Except LoadFailure Value} {expected : Option Value}
    {second : Value → Except LoadFailure (Other × Built)} {next : Value → Option Unplaced}
    (same : first.toOption = expected)
    (computesSecond : ∀ value, Computes meaning scope forget (second value) (next value)) :
    Computes meaning scope forget (first >>= second) (expected >>= next) := by
  subst same
  cases first with
  | ok value => exact computesSecond value
  | error failure => exact .fails failure

theorem computes_resolve {path : List Nat} {build : Nat → Building (Arrangement Playable)}
    {name : String} {built : Built} (kept : Built.Means meaning scope built)
    (builds : ∀ index, scope.glossary.part? name = none →
      (scope.pending.findIdx? fun pending => pending.header.name == name) = some index →
      index ∉ path ∧ Computes meaning scope Playable.unplacedArrangement (build index built)
        (meaning name)) :
    Computes meaning scope Reference.unplaced (resolve scope path build name built)
      (scope.glossary.reference? meaning name) := by
  have part : scope.glossary.part? name =
      (scope.parts.find? fun part => part.name == name).map Part.unplaced := rfl
  have pending : scope.glossary.pending? name =
      ((scope.pending.findIdx? fun pending => pending.header.name == name).bind
        fun index => scope.pending[index]?).map Pending.unplaced := by
    rw [← List.find?_eq_bind_findIdx?_getElem?]
    rfl
  rw [resolve, Glossary.reference?, part, pending]
  cases noPart : scope.parts.find? fun part => part.name == name with
  | some part => exact .gives (Reference.voice (.part part)) kept
  | none =>
    cases found : scope.pending.findIdx? fun pending => pending.header.name == name with
    | none => exact .gives (Reference.lost (.unknownReference name)) kept
    | some index =>
      obtain ⟨noCycle, computes⟩ := builds index (part.trans (by rw [noPart]; rfl)) found
      obtain ⟨within, _⟩ := List.findIdx?_eq_some_iff_getElem.mp found
      rw [Option.bind_some, List.getElem?_eq_getElem within]
      dsimp only [Option.map_none, Option.map_some]
      rw [if_neg noCycle, Option.map_eq_bind]
      refine computes.bind fun arrangement after _ keptAfter => ?_
      exact .gives (Reference.voice (.arrangement arrangement)) keptAfter

theorem computes_resolveNames {resolveName : String → Building Reference} {names : List String}
    (resolving : ∀ name ∈ names, ∀ built, Built.Means meaning scope built →
      Computes meaning scope Reference.unplaced (resolveName name built)
        (scope.glossary.reference? meaning name))
    {built : Built} (kept : Built.Means meaning scope built) :
    Computes meaning scope (List.map Reference.unplaced) (resolveNames resolveName names built)
      (names.mapM (scope.glossary.reference? meaning)) := by
  induction names generalizing built with
  | nil => exact .gives [] kept
  | cons name rest inductionHypothesis =>
    rw [List.mapM_cons, resolveNames]
    refine (resolving name List.mem_cons_self built kept).bind ?_
    intro reference between _ keptBetween
    refine (inductionHypothesis (fun other member =>
      resolving other (List.mem_cons_of_mem _ member)) keptBetween).bind ?_
    exact fun references after _ keptAfter => .gives (reference :: references) keptAfter

theorem computes_resolveLines {resolveName : String → Building Reference} {texts : List String}
    (line : Nat)
    (resolving : ∀ text ∈ texts, ∀ name ∈ Notation.nameWords text.toList, ∀ built,
      Built.Means meaning scope built →
      Computes meaning scope Reference.unplaced (resolveName name built)
        (scope.glossary.reference? meaning name))
    {built : Built} (kept : Built.Means meaning scope built) :
    Computes meaning scope (List.map unplacedLine) (resolveLines line resolveName texts built)
      (texts.mapM (scope.glossary.line? meaning)) := by
  induction texts generalizing built with
  | nil => exact .gives [] kept
  | cons text rest inductionHypothesis =>
    rw [List.mapM_cons, resolveLines, Glossary.line?, bind_assoc]
    refine .of_toOption (toOption_mapError _ _) fun repetition => ?_
    rw [bind_assoc]
    refine (computes_resolveNames (resolving text List.mem_cons_self) kept).bind ?_
    intro references between _ keptBetween
    refine (inductionHypothesis (fun other member =>
      resolving other (List.mem_cons_of_mem _ member)) keptBetween).bind ?_
    exact fun lines after _ keptAfter => .gives (⟨text, repetition, references⟩ :: lines) keptAfter

theorem voicedLine_unplacedLine (line : Line (List Reference)) :
    voicedLine (unplacedLine line) = (voicedLine line).unplaced := by
  rw [voicedLine, voicedLine, Line.unplaced, unplacedLine, List.filterMap_map, List.map_filterMap]
  congr 2
  funext reference
  cases reference <;> rfl

theorem warnings_unplacedLine (line : Line (List Reference)) :
    (unplacedLine line).content.filterMap Reference.warning? =
      line.content.filterMap Reference.warning? := by
  rw [unplacedLine, List.filterMap_map]
  congr 1
  funext reference
  cases reference <;> rfl

/-- What is assembled from lines, without places, is assembled from the lines without places. -/
theorem toOption_assemble (pending : Pending) (lines : List (Line (List Reference))) :
    (assemble pending lines).toOption.map Playable.unplacedArrangement =
      (Arrangement.ofLines pending.header.name pending.header.group
        ((lines.map unplacedLine).flatMap fun line => line.content.filterMap Reference.warning?)
        none ((lines.map unplacedLine).map voicedLine) : Except LoadFailure _).toOption := by
  have voices : (lines.map unplacedLine).map voicedLine =
      (lines.map voicedLine).map Line.unplaced := by
    rw [List.map_map, List.map_map]
    exact List.map_congr_left fun line _ => voicedLine_unplacedLine line
  have warnings : ((lines.map unplacedLine).flatMap fun line =>
      line.content.filterMap Reference.warning?) =
      lines.flatMap fun line => line.content.filterMap Reference.warning? := by
    rw [List.flatMap_map]
    congr 1
    funext line
    exact warnings_unplacedLine line
  rw [voices, warnings, ← Arrangement.ofLines_unplaced _ _ _ (some pending.slot), assemble]
  generalize (Arrangement.ofLines _ _ _ _ _ : Except LoadFailure _) = result
  cases result <;> rfl

theorem Built.means_of_get? {built : Built} (kept : Built.Means meaning scope built) {index : Nat}
    {arrangement : Arrangement Playable} (known : built.get? index = some arrangement) :
    ∃ pending, scope.pending[index]? = some pending ∧
      meaning pending.header.name = some (Playable.unplacedArrangement arrangement) := by
  obtain ⟨entry, first, rfl⟩ := Option.map_eq_some_iff.mp known
  have same := List.find?_some first
  obtain rfl : entry.1 = index := eq_of_beq same
  exact kept entry (List.mem_of_find?_eq_some first)

/-- Whether the arrangements on a path are different and all wait for the arrangement of a name. -/
structure Waiting (scope : Scope) (path : List Nat) (name : String) : Prop where
  nodup : path.Nodup
  reaches : ∀ index ∈ path, ∃ pending, scope.pending[index]? = some pending ∧
    Relation.TransGen scope.glossary.Refers pending.header.name name

section Waiting

variable (acyclic : ∀ name, ¬ Relation.TransGen scope.glossary.Refers name name) {path : List Nat}
  {index : Nat} {pending : Pending} (found : scope.pending[index]? = some pending)
  (waiting : Waiting scope path pending.header.name)

include acyclic found waiting in
theorem Waiting.not_mem : index ∉ path := by
  intro member
  obtain ⟨other, same, reaches⟩ := waiting.reaches index member
  obtain rfl : pending = other := Option.some.inj (found.symm.trans same)
  exact acyclic _ reaches

include acyclic found waiting in
theorem Waiting.length_lt : path.length < scope.pending.length := by
  have nodup : (index :: path).Nodup := List.nodup_cons.mpr
    ⟨waiting.not_mem acyclic found, waiting.nodup⟩
  have within : index :: path ⊆ List.range scope.pending.length := by
    intro other member
    rw [List.mem_range]
    rcases List.mem_cons.mp member with rfl | inPath
    · exact (List.getElem?_eq_some_iff.mp found).1
    · obtain ⟨_, known, _⟩ := waiting.reaches other inPath
      exact (List.getElem?_eq_some_iff.mp known).1
  have bound := (List.subperm_of_subset nodup within).length_le
  rwa [List.length_cons, List.length_range] at bound

include acyclic found waiting in
theorem Waiting.push {name : String}
    (refers : scope.glossary.Refers pending.header.name name) :
    Waiting scope (index :: path) name where
  nodup := List.nodup_cons.mpr ⟨waiting.not_mem acyclic found, waiting.nodup⟩
  reaches other member := by
    rcases List.mem_cons.mp member with rfl | inPath
    · exact ⟨pending, found, .single refers⟩
    · obtain ⟨known, there, reaches⟩ := waiting.reaches other inPath
      exact ⟨known, there, reaches.tail refers⟩

end Waiting

section Distinct

variable (distinct : (scope.pending.map fun pending => pending.header.name).Nodup)
include distinct

theorem glossary_pending? {index : Nat} {pending : Pending}
    (found : scope.pending[index]? = some pending) :
    scope.glossary.pending? pending.header.name = some pending.unplaced :=
  congrArg (Option.map Pending.unplaced) <|
    (find?_eq_some_iff_of_nodup distinct).mpr ⟨List.mem_of_getElem? found, rfl⟩

variable (acyclic : ∀ name, ¬ Relation.TransGen scope.glossary.Refers name name)
  (isMeaning : scope.glossary.IsMeaning meaning)
include acyclic isMeaning

/-- Building the arrangement of a name gives what the name means, if anything. -/
theorem computes_build {depth : Nat} {path : List Nat} {index : Nat} {pending : Pending}
    {built : Built} (kept : Built.Means meaning scope built)
    (found : scope.pending[index]? = some pending)
    (waiting : Waiting scope path pending.header.name)
    (enough : scope.pending.length ≤ depth + path.length) :
    Computes meaning scope Playable.unplacedArrangement (build scope depth path index built)
      (meaning pending.header.name) := by
  induction depth generalizing path index pending built with
  | zero =>
    have short := waiting.length_lt acyclic found
    omega
  | succ depth inductionHypothesis =>
    rw [build]
    cases known : built.get? index with
    | some arrangement =>
      obtain ⟨other, same, means⟩ := Built.means_of_get? kept known
      obtain rfl : pending = other := Option.some.inj (found.symm.trans same)
      rw [means]
      exact .gives arrangement kept
    | none =>
      have entry := glossary_pending? distinct found
      have means := isMeaning pending.header.name
      rw [entry] at means
      have resolving : ∀ text ∈ pending.steps, ∀ name ∈ Notation.nameWords text.toList, ∀ built,
          Built.Means meaning scope built → Computes meaning scope Reference.unplaced
            (resolve scope (index :: path) (build scope depth (index :: path)) name built)
            (scope.glossary.reference? meaning name) := by
        intro text written name inLine built kept
        refine computes_resolve kept fun other noPart referred => ?_
        obtain ⟨within, named, _⟩ := List.findIdx?_eq_some_iff_getElem.mp referred
        have there := List.getElem?_eq_getElem within
        obtain rfl := eq_of_beq named
        have refers : scope.glossary.Refers pending.header.name scope.pending[other].header.name :=
          ⟨pending.unplaced, entry, List.mem_flatMap.mpr ⟨text, written, inLine⟩, noPart,
            glossary_pending? distinct there ▸ rfl⟩
        have pushed := waiting.push acyclic found refers
        refine ⟨pushed.not_mem acyclic there, inductionHypothesis kept there pushed ?_⟩
        rw [List.length_cons]
        omega
      rw [found, means]
      refine (computes_resolveLines pending.line resolving kept).bind ?_
      intro lines between expected keptBetween
      have meant : meaning pending.header.name =
          (assemble pending lines).toOption.map Playable.unplacedArrangement := by
        rw [means, toOption_assemble]
        exact (congrArg (Option.bind · _) expected).trans rfl
      show Computes meaning scope Playable.unplacedArrangement (assemble pending lines >>= _)
        (Arrangement.ofLines _ _ _ _ _ : Except LoadFailure _).toOption
      rw [Pending.unplaced, ← toOption_assemble pending lines]
      cases done : assemble pending lines with
      | error failure => exact .fails failure
      | ok arrangement =>
        rw [done] at meant
        exact .gives arrangement (List.forall_mem_cons.mpr ⟨⟨pending, found, meant⟩, keptBetween⟩)

/-- Building all arrangements gives what their names mean, if all of them mean something. -/
theorem computes_buildAll {indices : List Nat} (within : ∀ index ∈ indices,
    index < scope.pending.length) {built : Built} (kept : Built.Means meaning scope built) :
    Computes meaning scope (List.map Playable.unplacedArrangement) (buildAll scope indices built)
      (indices.mapM fun index => scope.pending[index]?.bind fun pending =>
        meaning pending.header.name) := by
  induction indices generalizing built with
  | nil => exact .gives [] kept
  | cons index rest inductionHypothesis =>
    have found := List.getElem?_eq_getElem (within index List.mem_cons_self)
    rw [List.mapM_cons, buildAll, found]
    refine (computes_build distinct acyclic isMeaning kept found ⟨.nil, nofun⟩ le_rfl).bind ?_
    intro arrangement between _ keptBetween
    refine (inductionHypothesis (fun other member => within other (List.mem_cons_of_mem _ member))
      keptBetween).bind ?_
    exact fun arrangements after _ keptAfter => .gives (arrangement :: arrangements) keptAfter

end Distinct

end Computing

end Document

end StepSequencer
