/-
This file proves that cycles of references are cut where they close and nowhere else. In a loaded
document no arrangement contains itself, at any depth. An arrangement is warned of a cyclic
reference only if that reference leads back to it, and there is such a warning somewhere exactly if
the references of the document form a cycle. Every arrangement is built once, and whatever refers to
it, unless it is cut, denotes that one.
-/

import StepSequencer.Proofs.BlockOrder
import StepSequencer.Proofs.Resolving

namespace StepSequencer

/-- Whether an arrangement is a voice of another one. -/
def Arrangement.Nests (outer inner : Arrangement Playable) : Prop :=
  ∃ stage ∈ outer.stages, inner ∈ Stage.arrangements stage.voices

namespace Document

variable {scope : Scope}

/-! ### Arrangements that are built from resolved lines -/

theorem BuiltFrom.mono {earlier later : Built} (more : earlier ⊆ later) {index : Nat}
    {arrangement : Arrangement Playable} (built : BuiltFrom scope earlier index arrangement) :
    BuiltFrom scope later index arrangement := by
  obtain ⟨pending, lines, found, resolved, assembled⟩ := built
  exact ⟨pending, lines, found, resolved.imp fun _ _ => ResolvedLine.mono more, assembled⟩

theorem fields_of_assemble {pending : Pending} {lines : List (Line (List Reference))}
    {arrangement : Arrangement Playable} (assembled : assemble pending lines = .ok arrangement) :
    arrangement.name = pending.header.name ∧ arrangement.slot = some pending.slot ∧
      arrangement.warnings =
        lines.flatMap fun line => line.content.filterMap Reference.warning? := by
  obtain ⟨span, _, assembled⟩ := bind_eq_ok_iff.mp assembled
  obtain rfl := Except.ok.inj assembled
  exact ⟨rfl, rfl, rfl⟩

namespace BuiltFrom

variable {earlier : Built} {index : Nat} {arrangement : Arrangement Playable}
  (built : BuiltFrom scope earlier index arrangement)
include built

/-- Every arrangement among the voices is one that a line refers to and that was built before. -/
theorem exists_of_nests {inner : Arrangement Playable} (nests : arrangement.Nests inner) :
    ∃ target, scope.outline.Leads index target ∧ (target, inner) ∈ earlier := by
  obtain ⟨pending, lines, found, resolved, assembled⟩ := built
  obtain ⟨stage, inStages, voice⟩ := nests
  obtain ⟨_, expanded, inLine⟩ := (Arrangement.expanded_of_ofLines assembled inStages).2 _
    (Stage.mem_arrangements.mp voice)
  obtain ⟨line, inLines, rfl⟩ := List.mem_map.mp expanded
  obtain ⟨reference, inContent, voiced⟩ := List.mem_filterMap.mp inLine
  obtain ⟨text, written, resolvedLine⟩ := exists_related_of_mem resolved.flip inLines
  obtain ⟨word, inText, means⟩ := exists_related_of_mem resolvedLine.references.flip inContent
  cases means with
  | part | unknown | cyclic => cases voiced
  | arrangement refers known =>
    cases voiced
    exact ⟨_, Scope.leads_of_mem found written inText refers, known⟩

/-- A reference that is cut leads back. -/
theorem exists_of_cyclic {word : String} (warned : .cyclicReference word ∈ arrangement.warnings) :
    ∃ target, scope.outline.target? word = some target ∧ scope.outline.Leads index target ∧
      Relation.ReflTransGen scope.outline.Leads target index := by
  obtain ⟨pending, lines, found, resolved, assembled⟩ := built
  rw [(fields_of_assemble assembled).2.2] at warned
  obtain ⟨line, inLines, warned⟩ := List.mem_flatMap.mp warned
  obtain ⟨reference, inContent, warned⟩ := List.mem_filterMap.mp warned
  obtain ⟨text, written, resolvedLine⟩ := exists_related_of_mem resolved.flip inLines
  obtain ⟨other, inText, means⟩ := exists_related_of_mem resolvedLine.references.flip inContent
  cases means with
  | part | unknown | arrangement => cases warned
  | cyclic refers back =>
    cases warned
    exact ⟨_, refers,
      Scope.leads_of_mem found written inText refers, back⟩

/-- Whatever an arrangement refers to was built before, unless some reference is cut. -/
theorem exists_of_leads (uncut : ∀ word, .cyclicReference word ∉ arrangement.warnings)
    {target : Nat} (leads : scope.outline.Leads index target) :
    ∃ inner, (target, inner) ∈ earlier := by
  obtain ⟨pending, lines, found, resolved, assembled⟩ := built
  obtain ⟨entry, known, text, inSteps, word, inText, refers⟩ := leads
  simp only [Scope.outline, List.getElem?_map, found, Option.map_some, Option.some.injEq] at known
  subst known
  obtain ⟨line, inLines, resolvedLine⟩ := exists_related_of_mem resolved inSteps
  obtain ⟨reference, inContent, means⟩ := exists_related_of_mem resolvedLine.references inText
  cases means with
  | part noTarget => cases (Scope.target?_of_part noTarget).symm.trans refers
  | unknown _ nameless => cases nameless.symm.trans refers
  | cyclic =>
    refine absurd ?_ (uncut word)
    rw [(fields_of_assemble assembled).2.2]
    exact List.mem_flatMap.mpr ⟨line, inLines, List.mem_filterMap.mpr ⟨_, inContent, rfl⟩⟩
  | arrangement refersToo known =>
    obtain rfl := Option.some.inj (refers.symm.trans refersToo)
    exact ⟨_, known⟩

end BuiltFrom

/-! ### Sound stores -/

namespace Built.Sound

variable {built : Built} (sound : Built.Sound scope built)
include sound

theorem builtFrom {entry : Nat × Arrangement Playable} (member : entry ∈ built) :
    BuiltFrom scope built entry.1 entry.2 := by
  induction sound with
  | nil => cases member
  | cons before fresh made inductionHypothesis =>
    rcases List.mem_cons.mp member with rfl | inEarlier
    · exact made.mono (List.subset_cons_self _ _)
    · exact (inductionHypothesis inEarlier).mono (List.subset_cons_self _ _)

/-- No place is built twice. -/
theorem nodup : (built.map Prod.fst).Nodup := by
  induction sound with
  | nil => exact .nil
  | cons before fresh made inductionHypothesis =>
    refine List.nodup_cons.mpr ⟨fun member => ?_, inductionHypothesis⟩
    obtain ⟨entry, inEarlier, same⟩ := List.mem_map.mp member
    exact fresh entry inEarlier same

theorem eq_of_mem {index : Nat} {first second : Arrangement Playable}
    (one : (index, first) ∈ built) (other : (index, second) ∈ built) : first = second :=
  congrArg Prod.snd (List.inj_on_of_nodup_map sound.nodup one other rfl)

/-- What is nested in an arrangement at any depth was built for another place. -/
theorem exists_of_nested {index : Nat} {arrangement inner : Arrangement Playable}
    (member : (index, arrangement) ∈ built)
    (nested : Relation.TransGen Arrangement.Nests arrangement inner) :
    ∃ other, other ≠ index ∧ (other, inner) ∈ built := by
  induction sound generalizing index arrangement with
  | nil => cases member
  | @cons earlier _ _ before fresh made inductionHypothesis =>
    rcases List.mem_cons.mp member with same | inEarlier
    · obtain ⟨rfl, rfl⟩ := Prod.mk.inj same
      suffices found : ∃ other, (other, inner) ∈ earlier by
        obtain ⟨other, known⟩ := found
        exact ⟨other, fresh _ known, List.mem_cons_of_mem _ known⟩
      obtain ⟨voice, nests, rest⟩ := Relation.TransGen.head'_iff.mp nested
      obtain ⟨target, _, known⟩ := made.exists_of_nests nests
      rcases Relation.reflTransGen_iff_eq_or_transGen.mp rest with rfl | deeper
      · exact ⟨target, known⟩
      · obtain ⟨other, _, found⟩ := inductionHypothesis known deeper
        exact ⟨other, found⟩
    · obtain ⟨other, apart, found⟩ := inductionHypothesis inEarlier nested
      exact ⟨other, apart, List.mem_cons_of_mem _ found⟩

/-- When no reference is cut, every arrangement refers to such as were built before it, and so the
references form no cycle among what is built. -/
theorem acyclic_of_uncut
    (uncut : ∀ entry ∈ built, ∀ word, .cyclicReference word ∉ entry.2.warnings) :
    ∀ entry ∈ built, ¬ Relation.TransGen scope.outline.Leads entry.1 entry.1 ∧
      ∀ other, Relation.ReflTransGen scope.outline.Leads entry.1 other →
        ∃ inner, (other, inner) ∈ built := by
  induction sound with
  | nil => nofun
  | @cons earlier index arrangement before fresh made inductionHypothesis =>
    obtain ⟨uncutHere, uncutBefore⟩ := List.forall_mem_cons.mp uncut
    have known := inductionHypothesis uncutBefore
    have behind : ∀ other, Relation.TransGen scope.outline.Leads index other →
        ∃ inner, (other, inner) ∈ earlier := by
      intro other reaches
      obtain ⟨target, leads, rest⟩ := Relation.TransGen.head'_iff.mp reaches
      obtain ⟨inner, found⟩ := made.exists_of_leads uncutHere leads
      exact (known _ found).2 other rest
    refine List.forall_mem_cons.mpr ⟨⟨fun around => ?_, fun other reaches => ?_⟩, ?_⟩
    · obtain ⟨inner, found⟩ := behind index around
      exact fresh _ found rfl
    · rcases Relation.reflTransGen_iff_eq_or_transGen.mp reaches with rfl | further
      · exact ⟨arrangement, List.mem_cons_self⟩
      · obtain ⟨inner, found⟩ := behind other further
        exact ⟨inner, List.mem_cons_of_mem _ found⟩
    · intro entry inEarlier
      refine ⟨(known entry inEarlier).1, fun other reaches => ?_⟩
      obtain ⟨inner, found⟩ := (known entry inEarlier).2 other reaches
      exact ⟨inner, List.mem_cons_of_mem _ found⟩

end Built.Sound

/-! ### The outline of some blocks -/

/-- What counts of some blocks for the references in them. -/
def outline (blocks : List Block) : Outline where
  parts := (blocks.filter fun block => block.directive ≠ .arrangement).filterMap Block.name?
  arrangements := (blocks.filter fun block => block.directive = .arrangement).filterMap fun block =>
    block.name?.map fun name => (name, block.steps)

/-- The name of a draft that is one of a part. -/
def Draft.partName? : Draft → Option String
  | .part single => some single.name
  | .arrangement _ => none

/-- The name and the lines of a draft that is one of an arrangement. -/
def Draft.entry? : Draft → Option (String × List String)
  | .part _ => none
  | .arrangement pending => some (pending.header.name, pending.steps)

/-- What is picked from all drafts can be picked from each block by itself. -/
theorem filterMap_of_readDrafts {Fact : Type} {bpm : Float} {blocks : List Block}
    {drafts : List Draft} (read : readDrafts bpm blocks = .ok drafts) {pick : Draft → Option Fact}
    (forgets : ∀ draft, pick draft.unplaced = pick draft) {fact? : Block → Option Fact}
    (silent : ∀ block, block.directive = .sequence → fact? block = none)
    (agrees : ∀ block draft, block.draft? bpm = some draft → block.directive ≠ .sequence →
      fact? block = pick draft) :
    drafts.filterMap pick = blocks.filterMap fact? := by
  have done := toOption_readDrafts bpm blocks
  rw [read] at done
  obtain ⟨all, said⟩ := mapM_eq_some_iff.mp done.symm
  have unplaced : drafts.filterMap pick = (drafts.map Draft.unplaced).filterMap pick := by
    rw [List.filterMap_map]
    exact List.filterMap_congr fun draft _ => (forgets draft).symm
  rw [unplaced, ← said, List.filterMap_filterMap, playableBlocks, List.filterMap_filter]
  refine List.filterMap_congr fun block member => ?_
  by_cases holds : block.directive = .sequence
  · simp [holds, silent block holds]
  · obtain ⟨draft, found⟩ := Option.isSome_iff_exists.mp
      (all block (List.mem_filter.mpr ⟨member, by simp [holds]⟩))
    simp [holds, found, agrees block draft found holds]

/-- A block says whether its draft is one of an arrangement, and if so, with which lines. -/
theorem entry_of_draft? {bpm : Float} {block : Block} {draft : Draft}
    (said : block.draft? bpm = some draft) :
    draft.entry? = if block.directive = .arrangement
      then block.name?.map fun name => (name, block.steps) else none := by
  obtain ⟨metadata, read, said⟩ := Option.bind_eq_some_iff.mp said
  split at said
  next arranges =>
    obtain rfl := Option.some.inj said
    simp [arranges, Block.name?, read, Draft.entry?, ArrangementHeader.ofMetadata]
  next arranges =>
    obtain ⟨header, _, said⟩ := Option.bind_eq_some_iff.mp said
    obtain ⟨steps, _, said⟩ := Option.bind_eq_some_iff.mp said
    obtain ⟨part, _, said⟩ := Option.bind_eq_some_iff.mp said
    obtain rfl := Option.some.inj said
    exact (if_neg arranges).symm

/-- References can be told from the blocks of a document. -/
theorem outline_eq_of_readDrafts {bpm : Float} {blocks : List Block} {drafts : List Draft}
    (read : readDrafts bpm blocks = .ok drafts) : (draftScope drafts).outline = outline blocks := by
  have parts : (draftParts drafts).map Part.name = drafts.filterMap Draft.partName? := by
    rw [draftParts, List.map_filterMap]
    refine List.filterMap_congr fun draft _ => ?_
    cases draft <;> rfl
  have entries : (draftPending drafts).map (fun pending => (pending.header.name, pending.steps)) =
      drafts.filterMap Draft.entry? := by
    rw [draftPending, List.map_filterMap]
    refine List.filterMap_congr fun draft _ => ?_
    cases draft <;> rfl
  unfold Scope.outline outline draftScope
  rw [parts, entries, List.filterMap_filter, List.filterMap_filter]
  congr 1
  · refine filterMap_of_readDrafts read (fun draft => by cases draft <;> rfl) ?_ ?_
    · intro block holds
      simp [holds, Block.name?]
    · intro block draft said playable
      have named := (of_draft?_eq_some said playable).1
      have entry := entry_of_draft? said
      cases draft <;> by_cases arranges : block.directive = .arrangement <;>
        simp_all [Draft.entry?, Draft.partName?, Draft.name]
  · refine filterMap_of_readDrafts read (fun draft => by cases draft <;> rfl) ?_ ?_
    · intro block holds
      simp [holds]
    · intro block draft said playable
      simp [entry_of_draft? said]

/-! ### Whole documents -/

theorem arrangements_placeArrangements {drafts : List Draft}
    {arrangements : List (Arrangement Playable)}
    (length : arrangements.length = (draftPending drafts).length) :
    (placeArrangements drafts arrangements).filterMap Playable.arrangement? = arrangements := by
  induction drafts generalizing arrangements with
  | nil => exact (List.length_eq_zero_iff.mp length).symm
  | cons draft rest inductionHypothesis =>
    cases draft with
    | part single => exact inductionHypothesis length
    | arrangement pending =>
      cases arrangements with
      | nil => cases length
      | cons arrangement others =>
        exact congrArg (List.cons arrangement) (inductionHypothesis (Nat.succ.inj length))

theorem parts_placeArrangements {drafts : List Draft} {arrangements : List (Arrangement Playable)}
    (length : arrangements.length = (draftPending drafts).length) :
    (placeArrangements drafts arrangements).filterMap Playable.part? = draftParts drafts := by
  induction drafts generalizing arrangements with
  | nil => rfl
  | cons draft rest inductionHypothesis =>
    cases draft with
    | part single => exact congrArg (List.cons single) (inductionHypothesis length)
    | arrangement pending =>
      cases arrangements with
      | nil => cases length
      | cons arrangement others => exact inductionHypothesis (Nat.succ.inj length)

/-- The places of pending arrangements ascend. -/
theorem pairwise_slot_of_readDrafts {bpm : Float} {blocks : List Block} {drafts : List Draft}
    (read : readDrafts bpm blocks = .ok drafts) :
    ((draftPending drafts).map Pending.slot).Pairwise (· < ·) := by
  unfold readDrafts at read
  generalize playableBlocks blocks = blocks at read
  suffices ascending : ∀ start, (blocks.zipIdx start).mapM
      (fun entry => readDraft bpm entry.2 entry.1) = .ok drafts →
      ((draftPending drafts).map Pending.slot).Pairwise (· < ·) ∧
        ∀ pending ∈ draftPending drafts, start ≤ pending.slot from (ascending 0 read).1
  clear read
  induction blocks generalizing drafts with
  | nil =>
    rintro start ⟨⟩
    exact ⟨.nil, nofun⟩
  | cons block rest inductionHypothesis =>
    intro start done
    rw [List.zipIdx_cons, List.mapM_cons] at done
    obtain ⟨draft, first, done⟩ := bind_eq_ok_iff.mp done
    obtain ⟨others, behind, done⟩ := bind_eq_ok_iff.mp done
    obtain rfl : draft :: others = drafts := Except.ok.inj done
    obtain ⟨ascending, above⟩ := inductionHypothesis (start + 1) behind
    cases draft with
    | part single =>
      exact ⟨ascending, fun pending member => Nat.le_of_succ_le (above pending member)⟩
    | arrangement pending =>
      have placed : pending.slot = start := by
        obtain ⟨metadata, _, first⟩ := bind_eq_ok_iff.mp first
        split at first
        · obtain rfl := Draft.arrangement.inj (Except.ok.inj first)
          rfl
        · obtain ⟨header, _, first⟩ := bind_eq_ok_iff.mp first
          obtain ⟨steps, _, first⟩ := bind_eq_ok_iff.mp first
          obtain ⟨part, _, first⟩ := bind_eq_ok_iff.mp first
          cases first
      refine ⟨List.pairwise_cons.mpr ⟨List.forall_mem_map.mpr fun other member => ?_, ascending⟩,
        List.forall_mem_cons.mpr
          ⟨placed.ge, fun other member => Nat.le_of_succ_le (above other member)⟩⟩
      exact placed ▸ above other member

/-- A part is never warned of a reference. -/
theorem cyclicReference_not_mem_of_read {metadata : Metadata} {header : PartHeader} {bpm : Float}
    {slot : Option Nat} {texts : List String} {part : Part}
    (headed : PartHeader.ofMetadata metadata = .ok header)
    (read : Part.read header bpm slot texts = .ok part) (word : String) :
    .cyclicReference word ∉ part.warnings := by
  obtain ⟨lines, _, read⟩ := bind_eq_ok_iff.mp read
  obtain ⟨span, _, read⟩ := bind_eq_ok_iff.mp read
  obtain rfl := Except.ok.inj read
  obtain ⟨number, _, headed⟩ := bind_eq_ok_iff.mp headed
  obtain ⟨channel, _, headed⟩ := bind_eq_ok_iff.mp headed
  obtain rfl := Except.ok.inj headed
  dsimp only
  repeat' split
  all_goals simp

/-! ### The finished store -/

/-- Whether a reference in the arrangement at a place is what a word stands for that refers to one
of some arrangements: that arrangement, unless the word is cut because the arrangement leads back to
the place. -/
def Reference.Denotes (outline : Outline) (arrangements : List (Arrangement Playable)) (index : Nat)
    (word : String) (reference : Reference) : Prop :=
  ∀ target, outline.target? word = some target →
    (reference = .lost (.cyclicReference word) ∧
        Relation.ReflTransGen outline.Leads target index) ∨
      ∃ inner, arrangements[target]? = some inner ∧ reference = .voice (.arrangement inner)

section Finished

variable {built : Built} {arrangements : List (Arrangement Playable)}
  (sound : Built.Sound scope built)
  (all : List.Forall₂ (fun index arrangement => (index, arrangement) ∈ built)
    (List.range scope.pending.length) arrangements)
include sound all

/-- When everything is built, the store holds the arrangements of the sequence by their places. -/
theorem mem_built_iff {index : Nat} {arrangement : Arrangement Playable} :
    (index, arrangement) ∈ built ↔ arrangements[index]? = some arrangement := by
  obtain ⟨length, related⟩ := List.forall₂_iff_get.mp all
  rw [List.length_range] at length
  have known (place : Nat) (within : place < arrangements.length) :
      (place, arrangements[place]) ∈ built := by
    have member := related place (by rwa [List.length_range, length]) within
    simpa using member
  constructor
  · intro member
    obtain ⟨pending, lines, found, _⟩ := sound.builtFrom member
    obtain ⟨within, _⟩ := List.getElem?_eq_some_iff.mp found
    rw [length] at within
    rw [List.getElem?_eq_getElem within, sound.eq_of_mem member (known index within)]
  · intro found
    obtain ⟨within, rfl⟩ := List.getElem?_eq_some_iff.mp found
    exact known index within

theorem perm_range_of_all : (built.map Prod.fst).Perm (List.range scope.pending.length) := by
  refine (List.perm_ext_iff_of_nodup sound.nodup List.nodup_range).mpr fun index => ?_
  rw [List.mem_range, List.mem_map]
  constructor
  · rintro ⟨entry, member, rfl⟩
    obtain ⟨pending, lines, found, _⟩ := sound.builtFrom member
    exact (List.getElem?_eq_some_iff.mp found).1
  · intro within
    obtain ⟨arrangement, _, member⟩ := exists_related_of_mem all (List.mem_range.mpr within)
    exact ⟨_, member, rfl⟩

/-- Whatever is pending has become an arrangement, in the same order, from its own lines. -/
theorem forall₂_pending_of_all : List.Forall₂ (fun pending arrangement => ∃ index lines,
    List.Forall₂ (ResolvedLine scope built index) pending.steps lines ∧
      assemble pending lines = .ok arrangement) scope.pending arrangements := by
  refine List.forall₂_iff_get.mpr ⟨by simpa using all.length_eq, fun index first second => ?_⟩
  obtain ⟨pending, lines, found, resolved, assembled⟩ :=
    sound.builtFrom ((mem_built_iff sound all).mpr (List.getElem?_eq_getElem second))
  obtain ⟨_, rfl⟩ := List.getElem?_eq_some_iff.mp found
  exact ⟨index, lines, resolved, assembled⟩

/-- What an arrangement takes over from the pending one that it is built from, all arrangements take
over. -/
theorem map_eq_map_pending {Fact : Type} {fact : Arrangement Playable → Fact}
    {pendingFact : Pending → Fact}
    (taken : ∀ pending lines arrangement, assemble pending lines = .ok arrangement →
      fact arrangement = pendingFact pending) :
    arrangements.map fact = scope.pending.map pendingFact := by
  refine Eq.symm (List.forall₂_eq_eq_eq ▸ List.forall₂_map_left_iff.mpr ?_)
  refine List.forall₂_map_right_iff.mpr ((forall₂_pending_of_all sound all).imp ?_)
  rintro pending arrangement ⟨index, lines, _, assembled⟩
  exact (taken pending lines arrangement assembled).symm

/-- The arrangements have the names that the outline tells, in the same order. -/
theorem names_of_all : arrangements.map Arrangement.name =
    scope.outline.arrangements.map Prod.fst := by
  rw [map_eq_map_pending sound all fun _ _ _ assembled => (fields_of_assemble assembled).1,
    Scope.outline, List.map_map]
  rfl

theorem exists_of_nested_of_all {index : Nat} {arrangement inner : Arrangement Playable}
    (found : arrangements[index]? = some arrangement)
    (nested : Relation.TransGen Arrangement.Nests arrangement inner) :
    ∃ other, other ≠ index ∧ arrangements[other]? = some inner := by
  obtain ⟨other, apart, member⟩ :=
    sound.exists_of_nested ((mem_built_iff sound all).mpr found) nested
  exact ⟨other, apart, (mem_built_iff sound all).mp member⟩

theorem nodup_slot_of_all (ascending : (scope.pending.map Pending.slot).Pairwise (· < ·)) :
    (arrangements.map Arrangement.slot).Nodup := by
  have slots : arrangements.map Arrangement.slot =
      scope.pending.map fun pending => some pending.slot :=
    map_eq_map_pending sound all fun _ _ _ assembled => (fields_of_assemble assembled).2.1
  rw [slots]
  exact List.pairwise_map.mpr ((List.pairwise_map.mp ascending).imp fun less same =>
    less.ne (Option.some.inj same))

/-- What is nested in an arrangement stands at another place. -/
theorem slot_ne_of_nested {arrangement inner : Arrangement Playable}
    (places : (arrangements.map Arrangement.slot).Nodup) (member : arrangement ∈ arrangements)
    (nested : Relation.TransGen Arrangement.Nests arrangement inner) :
    inner ∈ arrangements ∧ inner.slot ≠ arrangement.slot := by
  obtain ⟨index, found⟩ := List.mem_iff_getElem?.mp member
  obtain ⟨other, apart, foundInner⟩ := exists_of_nested_of_all sound all found nested
  refine ⟨List.mem_of_getElem? foundInner, fun same => apart ?_⟩
  have within : other < (arrangements.map Arrangement.slot).length := by
    simpa using (List.getElem?_eq_some_iff.mp foundInner).1
  refine (List.getElem?_inj within places).mp ?_
  simp [found, foundInner, same]

theorem exists_of_warned {index : Nat} {arrangement : Arrangement Playable}
    (found : arrangements[index]? = some arrangement) {word : String}
    (warned : .cyclicReference word ∈ arrangement.warnings) :
    ∃ target, scope.outline.target? word = some target ∧ scope.outline.Leads index target ∧
      Relation.ReflTransGen scope.outline.Leads target index :=
  (sound.builtFrom ((mem_built_iff sound all).mpr found)).exists_of_cyclic warned

/-- An arrangement is made of lines in which every word that looks like a name is resolved. -/
theorem exists_resolved_of_all {index : Nat} {arrangement : Arrangement Playable}
    (found : arrangements[index]? = some arrangement) :
    ∃ lines : List (Line (List Reference)),
      scope.outline.arrangements[index]? = some (arrangement.name, lines.map Line.text) ∧
      arrangement.stages = Line.stepContents Stage.ofVoices
        (fun voices => (Stage.ofVoices voices).rest) (lines.map voicedLine) ∧
      arrangement.warnings = lines.flatMap
        (fun line => line.content.filterMap Reference.warning?) ∧
      ∀ line ∈ lines, List.Forall₂ (Resolved scope built index)
        (Notation.nameWords line.text.toList) line.content := by
  obtain ⟨pending, lines, there, resolved, assembled⟩ :=
    sound.builtFrom ((mem_built_iff sound all).mpr found)
  obtain ⟨name, _, warnings⟩ := fields_of_assemble assembled
  dsimp only at there name
  have texts : lines.map Line.text = pending.steps := by
    refine List.forall₂_eq_eq_eq ▸ List.forall₂_map_left_iff.mpr ?_
    exact resolved.flip.imp fun _ _ line => line.said
  refine ⟨lines, ?_, Arrangement.stages_of_ofLines assembled, warnings, fun line member => ?_⟩
  · simp [Scope.outline, there, name, texts]
  · obtain ⟨text, _, line⟩ := exists_related_of_mem resolved.flip member
    obtain rfl := line.said
    exact line.references

/-- Whatever a word stands for, every place where it stands denotes the same arrangement. -/
theorem exists_lines_of_all {index : Nat} {arrangement : Arrangement Playable}
    (found : arrangements[index]? = some arrangement) :
    ∃ lines : List (Line (List Reference)),
      scope.outline.arrangements[index]? = some (arrangement.name, lines.map Line.text) ∧
      arrangement.stages = Line.stepContents Stage.ofVoices
        (fun voices => (Stage.ofVoices voices).rest) (lines.map voicedLine) ∧
      arrangement.warnings = lines.flatMap
        (fun line => line.content.filterMap Reference.warning?) ∧
      ∀ line ∈ lines, List.Forall₂ (Reference.Denotes scope.outline arrangements index)
        (Notation.nameWords line.text.toList) line.content := by
  obtain ⟨lines, texts, stages, warnings, resolved⟩ := exists_resolved_of_all sound all found
  refine ⟨lines, texts, stages, warnings, fun line member => ?_⟩
  refine (resolved line member).imp fun word reference means target refers => ?_
  cases means with
  | part noTarget => cases (Scope.target?_of_part noTarget).symm.trans refers
  | unknown _ nameless => cases nameless.symm.trans refers
  | cyclic refersToo back =>
    obtain rfl := Option.some.inj (refers.symm.trans refersToo)
    exact .inl ⟨rfl, back⟩
  | arrangement refersToo known =>
    obtain rfl := Option.some.inj (refers.symm.trans refersToo)
    exact .inr ⟨_, (mem_built_iff sound all).mp known, rfl⟩

/-- There is a cut reference if there is a cycle. -/
theorem exists_cyclic_of_cycle {index : Nat}
    (around : Relation.TransGen scope.outline.Leads index index) :
    ∃ arrangement ∈ arrangements, ∃ word, .cyclicReference word ∈ arrangement.warnings := by
  by_contra none
  have uncut : ∀ entry ∈ built, ∀ word, .cyclicReference word ∉ entry.2.warnings := by
    intro entry member word warned
    have found := (mem_built_iff sound all).mp member
    exact none ⟨entry.2, List.mem_of_getElem? found, word, warned⟩
  obtain ⟨_, ⟨entry, known, _⟩, _⟩ := Relation.TransGen.head'_iff.mp around
  have within : index < scope.pending.length := by
    simpa [Scope.outline] using (List.getElem?_eq_some_iff.mp known).1
  obtain ⟨arrangement, _, member⟩ := exists_related_of_mem all (List.mem_range.mpr within)
  exact (sound.acyclic_of_uncut uncut _ member).1 around

end Finished

end Document

namespace Sequence

/-- What is true of the references in a sequence that was loaded from some blocks. -/
structure CutsCycles (sequence : Sequence) (blocks : List Block) : Prop where
  /-- There is one arrangement for each block that holds one, in the same order. -/
  names : sequence.arrangements.map Arrangement.name =
    (Document.outline blocks).arrangements.map Prod.fst
  /-- The places tell the arrangements apart. -/
  places : (sequence.arrangements.map Arrangement.slot).Nodup
  /-- What is nested in an arrangement is an arrangement of the sequence, and never itself. -/
  finite : ∀ arrangement ∈ sequence.arrangements, ∀ inner,
    Relation.TransGen Arrangement.Nests arrangement inner →
      inner ∈ sequence.arrangements ∧ inner.slot ≠ arrangement.slot
  /-- A reference of which an arrangement is warned leads back to the arrangement. -/
  sound : ∀ (index : Nat) (arrangement : Arrangement Playable),
    sequence.arrangements[index]? = some arrangement →
      ∀ word, .cyclicReference word ∈ arrangement.warnings →
        ∃ target, (Document.outline blocks).target? word = some target ∧
          (Document.outline blocks).Leads index target ∧
          Relation.ReflTransGen (Document.outline blocks).Leads target index
  /-- There is a warning exactly if there is a cycle. -/
  complete : (∃ playable ∈ sequence.playables, ∃ word, .cyclicReference word ∈ playable.warnings) ↔
    ∃ index, Relation.TransGen (Document.outline blocks).Leads index index
  /-- While the document was loaded, each arrangement was built once. -/
  once : ∃ drafts built, Document.readDrafts sequence.settings.bpm blocks = .ok drafts ∧
    Document.buildAll (Document.draftScope drafts)
      (List.range (Document.outline blocks).arrangements.length) [] =
        .ok (sequence.arrangements, built) ∧
    (built.map Prod.fst).Perm (List.range (Document.outline blocks).arrangements.length)
  /-- Each word that refers to an arrangement and is not cut denotes that arrangement. -/
  denotes : ∀ (index : Nat) (arrangement : Arrangement Playable),
    sequence.arrangements[index]? = some arrangement →
      ∃ lines : List (Line (List Document.Reference)),
        (Document.outline blocks).arrangements[index]? =
          some (arrangement.name, lines.map Line.text) ∧
        arrangement.stages = Line.stepContents Stage.ofVoices
          (fun voices => (Stage.ofVoices voices).rest) (lines.map Document.voicedLine) ∧
        arrangement.warnings = lines.flatMap
          (fun line => line.content.filterMap Document.Reference.warning?) ∧
        ∀ line ∈ lines, List.Forall₂ (Document.Reference.Denotes (Document.outline blocks)
          sequence.arrangements index) (Notation.nameWords line.text.toList) line.content

/-- Loading a document builds the arrangements of its drafts and puts them where the drafts
stood. -/
theorem exists_built_of_load {document : String} {sequence : Sequence}
    (loaded : load document = .ok sequence) :
    ∃ blocks drafts built, Document.readBlocks document = .ok blocks ∧
      Document.readDrafts sequence.settings.bpm blocks = .ok drafts ∧
      Document.buildAll (Document.draftScope drafts)
        (List.range (Document.draftScope drafts).pending.length) [] =
          .ok (sequence.arrangements, built) ∧
      sequence.playables = Document.placeArrangements drafts sequence.arrangements := by
  obtain ⟨blocks, written, loaded⟩ := bind_eq_ok_iff.mp loaded
  obtain ⟨settings, _, loaded⟩ := bind_eq_ok_iff.mp loaded
  obtain ⟨drafts, read, loaded⟩ := bind_eq_ok_iff.mp loaded
  obtain ⟨playables, resolved, loaded⟩ := bind_eq_ok_iff.mp loaded
  obtain rfl : Sequence.mk settings playables = sequence := Except.ok.inj loaded
  obtain ⟨⟨arrangements, built⟩, done, resolved⟩ := bind_eq_ok_iff.mp resolved
  obtain rfl : Document.placeArrangements drafts arrangements = playables :=
    Except.ok.inj resolved
  obtain ⟨_, _, all⟩ := Document.keepsSound_buildAll _ [] arrangements built .nil done
  have placed : Sequence.arrangements ⟨settings, Document.placeArrangements drafts arrangements⟩ =
      arrangements :=
    Document.arrangements_placeArrangements (by simpa using all.length_eq.symm)
  refine ⟨blocks, drafts, built, mapError_eq_ok_iff.mp written, read, ?_⟩
  rw [placed]
  exact ⟨done, rfl⟩

/-- In whatever document is loaded, cycles of references are cut where they close and nowhere
else. -/
theorem cycles_are_cut {document : String} {sequence : Sequence}
    (loaded : load document = .ok sequence) :
    ∃ blocks, Document.readBlocks document = .ok blocks ∧ sequence.CutsCycles blocks := by
  obtain ⟨blocks, drafts, built, written, read, done, placed⟩ := exists_built_of_load loaded
  refine ⟨blocks, written, ?_⟩
  obtain ⟨sound, _, all⟩ := Document.keepsSound_buildAll _ [] _ built .nil done
  have outline := Document.outline_eq_of_readDrafts read
  have count : (Document.outline blocks).arrangements.length =
      (Document.draftScope drafts).pending.length := by
    simp [← outline, Document.Scope.outline]
  have places := Document.nodup_slot_of_all sound all (Document.pairwise_slot_of_readDrafts read)
  have warns (index : Nat) (arrangement : Arrangement Playable)
      (found : sequence.arrangements[index]? = some arrangement) (word : String)
      (warned : .cyclicReference word ∈ arrangement.warnings) :=
    outline ▸ Document.exists_of_warned sound all found warned
  refine
    { names := ?names, places, sound := warns, complete := ⟨?closes, ?warns⟩, once := ?once
      finite := fun _ member _ nested => Document.slot_ne_of_nested sound all places member nested
      denotes := ?denotes }
  case names =>
    rw [← outline, Document.map_eq_map_pending sound all fun _ _ _ assembled =>
      (Document.fields_of_assemble assembled).1]
    simp [Document.Scope.outline]
  case closes =>
    rintro ⟨playable, member, word, warned⟩
    rw [placed] at member
    rcases Document.mem_placeArrangements member with
      ⟨part, inDrafts, rfl⟩ | ⟨arrangement, built, rfl⟩
    · obtain ⟨metadata, header, slot, texts, headed, found⟩ :=
        Document.read_of_mem_readDrafts read inDrafts
      exact absurd warned (Document.cyclicReference_not_mem_of_read headed found word)
    · obtain ⟨index, found⟩ := List.mem_iff_getElem?.mp built
      obtain ⟨target, _, leads, back⟩ := warns index arrangement found word warned
      exact ⟨index, .head' leads back⟩
  case warns =>
    rintro ⟨index, around⟩
    rw [← outline] at around
    obtain ⟨arrangement, member, word, warned⟩ :=
      Document.exists_cyclic_of_cycle sound all around
    obtain ⟨playable, inSequence, holds⟩ := List.mem_filterMap.mp member
    refine ⟨playable, inSequence, word, ?_⟩
    cases playable with
    | part single => cases holds
    | arrangement inner => exact Option.some.inj holds ▸ warned
  case once =>
    refine ⟨drafts, built, read, ?_, ?_⟩
    · rw [count, done]
    · rw [count]
      exact Document.perm_range_of_all sound all
  case denotes =>
    rw [← outline]
    intro index arrangement found
    exact Document.exists_lines_of_all sound all found

/-- A document in which two arrangements refer to each other and a third one to both. -/
def ringSample : String :=
  "```beef .arrangement name:a\nb missing\n```\n```beef .arrangement name:b\na kick\n```\n" ++
    "```beef .arrangement name:c\na b\n```\n```beef .part name:kick\nc2:1\n```\n"

theorem cycles_are_cut_ring :
    ∃ sequence blocks, load ringSample = .ok sequence ∧
      Document.readBlocks ringSample = .ok blocks ∧ sequence.CutsCycles blocks ∧
      sequence.playables.map Playable.warnings =
        [[.unknownReference "missing"], [.cyclicReference "a"], [], []] := by
  obtain ⟨sequence, loaded, warned⟩ := exists_load_eq_ok ringSample
    (show ((load ringSample).toOption.any fun sequence =>
      decide (sequence.playables.map Playable.warnings =
        [[.unknownReference "missing"], [.cyclicReference "a"], [], []])) = true by
      decide +kernel)
  obtain ⟨blocks, written, cut⟩ := cycles_are_cut loaded
  exact ⟨sequence, blocks, loaded, written, cut, of_decide_eq_true warned⟩

end Sequence

end StepSequencer
