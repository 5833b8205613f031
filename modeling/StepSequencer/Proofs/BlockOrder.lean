/-
This file proves that the order of the blocks of a document does not matter, as long as there is one
block of settings at most, all names are different, and references form no cycle. Two documents
with the same blocks in different orders are both loaded or both not, and when they are loaded, they
have the same settings and what they hold under a name differs in nothing but its place.
-/

import StepSequencer.Proofs.Drafts

namespace StepSequencer

/-! ### Lists of options -/

/-- A list has values when all its members have. -/
theorem mapM_eq_some_iff {Text Value : Type} {read : Text → Option Value} {texts : List Text}
    {values : List Value} :
    texts.mapM read = some values ↔
      (∀ text ∈ texts, (read text).isSome = true) ∧ texts.filterMap read = values := by
  induction texts generalizing values with
  | nil => exact ⟨fun done => ⟨nofun, Option.some.inj done⟩, fun done => congrArg some done.2⟩
  | cons text rest inductionHypothesis =>
    rw [List.mapM_cons]
    constructor
    · intro done
      obtain ⟨value, found, done⟩ := Option.bind_eq_some_iff.mp done
      obtain ⟨others, behind, done⟩ := Option.bind_eq_some_iff.mp done
      obtain rfl : value :: others = values := Option.some.inj done
      obtain ⟨all, rfl⟩ := inductionHypothesis.mp behind
      exact ⟨List.forall_mem_cons.mpr ⟨found ▸ rfl, all⟩, List.filterMap_cons_some found⟩
    · rintro ⟨all, rfl⟩
      obtain ⟨first, others⟩ := List.forall_mem_cons.mp all
      obtain ⟨value, found⟩ := Option.isSome_iff_exists.mp first
      rw [found, inductionHypothesis.mpr ⟨others, rfl⟩, List.filterMap_cons_some found]
      rfl

/-- The order of a list matters for nothing but the order of its values. -/
theorem exists_mapM_eq_some_of_perm {Text Value : Type} {read : Text → Option Value}
    {texts others : List Text} (permuted : texts.Perm others) {values : List Value}
    (done : texts.mapM read = some values) :
    ∃ valuesOfOthers, others.mapM read = some valuesOfOthers ∧ values.Perm valuesOfOthers := by
  obtain ⟨all, rfl⟩ := mapM_eq_some_iff.mp done
  exact ⟨_, mapM_eq_some_iff.mpr ⟨fun text member => all text (permuted.mem_iff.mpr member), rfl⟩,
    permuted.filterMap read⟩

/-- What is true of each value of a list and its text can be told from the lists. -/
theorem map_eq_map_of_mapM {Text Value Fact : Type} {read : Text → Option Value}
    {texts : List Text} {values : List Value} {factOfText : Text → Fact}
    {factOfValue : Value → Fact} (done : texts.mapM read = some values)
    (same : ∀ text value, read text = some value → factOfValue value = factOfText text) :
    values.map factOfValue = texts.map factOfText := by
  obtain ⟨all, rfl⟩ := mapM_eq_some_iff.mp done
  clear done
  induction texts with
  | nil => rfl
  | cons text rest inductionHypothesis =>
    obtain ⟨first, others⟩ := List.forall_mem_cons.mp all
    obtain ⟨value, found⟩ := Option.isSome_iff_exists.mp first
    rw [List.filterMap_cons_some found, List.map_cons, List.map_cons, same text value found,
      inductionHypothesis others]

/-! ### Lists with keys -/

section Keys

variable {Member : Type}

/-- To look for a key and to forget what is no key can be done in either order. -/
theorem map_find?_key (key : Member → String) (forget : Member → Member)
    (keeps : ∀ member, key (forget member) = key member) (members : List Member) (name : String) :
    (members.find? fun member => key member == name).map forget =
      (members.map forget).find? fun member => key member == name := by
  rw [List.find?_map]
  congr 2
  funext member
  exact congrArg (· == name) (keeps member).symm

variable {key : Member → String}

/-- Among members with different keys, the order does not matter for who is found. -/
theorem find?_key_of_perm {members others : List Member} (distinct : (members.map key).Nodup)
    (permuted : members.Perm others) (name : String) :
    (members.find? fun member => key member == name) =
      others.find? fun member => key member == name := by
  have distinctOthers := (permuted.map key).nodup_iff.mp distinct
  ext member
  rw [find?_eq_some_iff_of_nodup distinct, find?_eq_some_iff_of_nodup distinctOthers,
    permuted.mem_iff]

/-- Those that are picked from a list have some of the keys in the list, in the same order. -/
theorem map_filterMap_sublist {Value : Type} {pick : Member → Option Value}
    {keyOfValue : Value → String}
    (same : ∀ member value, pick member = some value → keyOfValue value = key member)
    (members : List Member) :
    ((members.filterMap pick).map keyOfValue).Sublist (members.map key) := by
  induction members with
  | nil => exact .slnil
  | cons member rest inductionHypothesis =>
    cases picked : pick member with
    | none =>
      rw [List.filterMap_cons_none picked]
      exact inductionHypothesis.cons (key member)
    | some value =>
      rw [List.filterMap_cons_some picked, List.map_cons, same member value picked]
      exact inductionHypothesis.cons_cons (key member)

end Keys

namespace Document

/-! ### The same settings -/

theorem filter_holdsSettings_unnumbered (blocks : List Block) :
    (blocks.map Block.unnumbered).filter holdsSettings =
      (blocks.filter holdsSettings).map Block.unnumbered := by
  rw [List.filter_map]
  rfl

/-- With one block of settings at most, the settings do not depend on the order of the blocks. -/
theorem toOption_readSettings_of_perm {blocks others : List Block}
    (permuted : (blocks.map Block.unnumbered).Perm (others.map Block.unnumbered))
    (single : (blocks.filter holdsSettings).length ≤ 1) :
    (readSettings others).toOption = (readSettings blocks).toOption := by
  have head? (blocks : List Block) : (blocks.head?.map Block.settings?) =
      ((blocks.map Block.unnumbered).head?.map Block.settings?) := by
    cases blocks <;> rfl
  have permuted := permuted.filter holdsSettings
  rw [filter_holdsSettings_unnumbered, filter_holdsSettings_unnumbered] at permuted
  have length := permuted.length_eq
  rw [List.length_map, List.length_map] at length
  have same : (others.filter holdsSettings).map Block.unnumbered =
      (blocks.filter holdsSettings).map Block.unnumbered := by
    generalize blocks.filter holdsSettings = settings at single permuted ⊢
    match settings, single with
    | [], _ => exact List.nil_perm.mp permuted
    | [block], _ => exact (List.singleton_perm.mp permuted).symm
  rw [toOption_readSettings single, toOption_readSettings (length ▸ single),
    head? (others.filter _), head? (blocks.filter _), same]

/-! ### The same blocks in another order -/

theorem map_unnumbered_playableBlocks (blocks : List Block) :
    (playableBlocks blocks).map Block.unnumbered =
      playableBlocks (blocks.map Block.unnumbered) := by
  rw [playableBlocks, playableBlocks, List.filter_map]
  rfl

theorem mapM_draft?_unnumbered (bpm : Float) (blocks : List Block) :
    (blocks.map Block.unnumbered).mapM (Block.draft? bpm) = blocks.mapM (Block.draft? bpm) := by
  rw [List.mapM_map]
  rfl

theorem exists_readDrafts_of_perm {bpm : Float} {blocks others : List Block} {drafts : List Draft}
    (permuted : (blocks.map Block.unnumbered).Perm (others.map Block.unnumbered))
    (read : readDrafts bpm blocks = .ok drafts) :
    ∃ otherDrafts, readDrafts bpm others = .ok otherDrafts ∧
      (drafts.map Draft.unplaced).Perm (otherDrafts.map Draft.unplaced) := by
  have playables := permuted.filter fun block => decide (block.directive ≠ .sequence)
  have done := toOption_readDrafts bpm blocks
  rw [read, ← mapM_draft?_unnumbered, map_unnumbered_playableBlocks] at done
  obtain ⟨values, doneOthers, perm⟩ := exists_mapM_eq_some_of_perm playables done.symm
  have readOthers := toOption_readDrafts bpm others
  rw [← mapM_draft?_unnumbered, map_unnumbered_playableBlocks] at readOthers
  obtain ⟨otherDrafts, found, rfl⟩ := Option.map_eq_some_iff.mp (readOthers.trans doneOthers)
  exact ⟨otherDrafts, toOption_eq_some_iff.mp found, perm⟩

/-! ### Names -/

theorem name_of_read {header : PartHeader} {bpm : Float} {slot : Option Nat} {texts : List String}
    {part : Part} (read : Part.read header bpm slot texts = .ok part) :
    part.name = header.name := by
  obtain ⟨lines, _, read⟩ := bind_eq_ok_iff.mp read
  obtain ⟨span, _, read⟩ := bind_eq_ok_iff.mp read
  rw [← Except.ok.inj read]

theorem name_of_ofMetadata {metadata : Metadata} {header : PartHeader}
    (headed : PartHeader.ofMetadata metadata = .ok header) :
    header.name = metadata.textOr "name" defaultName := by
  obtain ⟨number, _, headed⟩ := bind_eq_ok_iff.mp headed
  obtain ⟨channel, _, headed⟩ := bind_eq_ok_iff.mp headed
  rw [← Except.ok.inj headed]

/-- A draft has the name of its block, and if it is one of an arrangement, its words. -/
theorem of_draft?_eq_some {bpm : Float} {block : Block} {draft : Draft}
    (said : block.draft? bpm = some draft) (playable : block.directive ≠ .sequence) :
    block.name? = some draft.name ∧ ∀ pending, draft = .arrangement pending →
      block.directive = .arrangement ∧ block.words = pending.words := by
  obtain ⟨metadata, read, said⟩ := Option.bind_eq_some_iff.mp said
  rw [Block.name?, if_neg playable, read]
  split at said
  next arranges =>
    obtain rfl := Option.some.inj said
    refine ⟨rfl, ?_⟩
    rintro _ ⟨⟩
    exact ⟨arranges, rfl⟩
  next =>
    obtain ⟨header, headed, said⟩ := Option.bind_eq_some_iff.mp said
    obtain ⟨steps, _, said⟩ := Option.bind_eq_some_iff.mp said
    obtain ⟨part, found, said⟩ := Option.bind_eq_some_iff.mp said
    obtain rfl := Option.some.inj said
    have named := (name_of_read (toOption_eq_some_iff.mp found)).trans
      (name_of_ofMetadata (toOption_eq_some_iff.mp headed))
    exact ⟨congrArg some named.symm, nofun⟩

theorem map_name_unplaced (drafts : List Draft) :
    (drafts.map Draft.unplaced).map Draft.name = drafts.map Draft.name := by
  rw [List.map_map]
  exact List.map_congr_left fun draft _ => draft.name_unplaced

theorem directive_ne_of_mem {block : Block} {blocks : List Block}
    (member : block ∈ playableBlocks blocks) : block.directive ≠ .sequence :=
  of_decide_eq_true (List.mem_filter.mp member).2

theorem map_name_of_readDrafts {bpm : Float} {blocks : List Block} {drafts : List Draft}
    (read : readDrafts bpm blocks = .ok drafts) :
    drafts.map Draft.name = blocks.filterMap Block.name? := by
  have done := toOption_readDrafts bpm blocks
  rw [read] at done
  obtain ⟨all, said⟩ := mapM_eq_some_iff.mp done.symm
  rw [← map_name_unplaced, ← said]
  clear read done said
  induction blocks with
  | nil => rfl
  | cons block rest inductionHypothesis =>
    by_cases holds : block.directive = .sequence
    · have skipped : playableBlocks (block :: rest) = playableBlocks rest :=
        List.filter_cons_of_neg (by simp [holds])
      have unnamed : block.name? = none := if_pos holds
      rw [skipped] at all ⊢
      rw [List.filterMap_cons_none unnamed, inductionHypothesis all]
    · have kept : playableBlocks (block :: rest) = block :: playableBlocks rest :=
        List.filter_cons_of_pos (by simp [holds])
      rw [kept] at all ⊢
      obtain ⟨first, others⟩ := List.forall_mem_cons.mp all
      obtain ⟨draft, said⟩ := Option.isSome_iff_exists.mp first
      rw [List.filterMap_cons_some said, List.map_cons, inductionHypothesis others,
        List.filterMap_cons_some (of_draft?_eq_some said holds).1]

theorem mem_draftPending {drafts : List Draft} {pending : Pending} :
    pending ∈ draftPending drafts ↔ .arrangement pending ∈ drafts := by
  rw [draftPending, List.mem_filterMap]
  constructor
  · rintro ⟨draft, member, found⟩
    cases draft with
    | part single => exact nomatch found
    | arrangement other =>
      obtain rfl : other = pending := Option.some.inj found
      exact member
  · intro member
    exact ⟨.arrangement pending, member, rfl⟩

/-- A pending arrangement comes from a block with its name and its words. -/
theorem exists_block_of_mem {bpm : Float} {blocks : List Block} {drafts : List Draft}
    (read : readDrafts bpm blocks = .ok drafts) {pending : Pending}
    (member : pending ∈ draftPending drafts) :
    ∃ block ∈ blocks, block.directive = .arrangement ∧ block.name? = some pending.header.name ∧
      block.words = pending.words := by
  have done := toOption_readDrafts bpm blocks
  rw [read] at done
  obtain ⟨_, said⟩ := mapM_eq_some_iff.mp done.symm
  have inDrafts : .arrangement pending.unplaced ∈ drafts.map Draft.unplaced :=
    List.mem_map_of_mem (f := Draft.unplaced) (mem_draftPending.mp member)
  rw [← said] at inDrafts
  obtain ⟨block, inBlocks, given⟩ := List.mem_filterMap.mp inDrafts
  obtain ⟨named, arranges⟩ := of_draft?_eq_some given (directive_ne_of_mem inBlocks)
  obtain ⟨arrangement, words⟩ := arranges _ rfl
  exact ⟨block, (List.mem_filter.mp inBlocks).1, arrangement, named, words⟩

/-! ### References -/

/-- Whether an arrangement of a name has a line with the name of another arrangement. -/
def Refers (blocks : List Block) (name other : String) : Prop :=
  ∃ block ∈ blocks, block.directive = .arrangement ∧ block.name? = some name ∧
    other ∈ block.words ∧
      ∃ target ∈ blocks, target.directive = .arrangement ∧ target.name? = some other

theorem exists_of_pending? {drafts : List Draft} {name : String} {pending : Pending}
    (found : (draftScope drafts).glossary.pending? name = some pending) :
    ∃ placed ∈ draftPending drafts, placed.header.name = name ∧ placed.unplaced = pending := by
  obtain ⟨placed, first, same⟩ := Option.map_eq_some_iff.mp found
  have named := List.find?_some first
  exact ⟨placed, List.mem_of_find?_eq_some first, eq_of_beq named, same⟩

theorem refers_of_glossary {bpm : Float} {blocks : List Block} {drafts : List Draft}
    (read : readDrafts bpm blocks = .ok drafts) {name other : String}
    (refers : (draftScope drafts).glossary.Refers name other) : Refers blocks name other := by
  obtain ⟨pending, found, written, _, known⟩ := refers
  obtain ⟨placed, inDrafts, rfl, rfl⟩ := exists_of_pending? found
  obtain ⟨block, inBlocks, arranges, named, words⟩ := exists_block_of_mem read inDrafts
  obtain ⟨_, target⟩ := Option.isSome_iff_exists.mp known
  obtain ⟨targeted, alsoInDrafts, rfl, _⟩ := exists_of_pending? target
  obtain ⟨targetBlock, there, targetArranges, targetNamed, _⟩ :=
    exists_block_of_mem read alsoInDrafts
  exact ⟨block, inBlocks, arranges, named, words ▸ written, targetBlock, there, targetArranges,
    targetNamed⟩

/-! ### The same names -/

theorem sublist_map_draftParts (drafts : List Draft) :
    ((draftParts drafts).map Part.name).Sublist (drafts.map Draft.name) := by
  rw [draftParts]
  refine map_filterMap_sublist (fun draft part picked => ?_) drafts
  cases draft with
  | part single => exact congrArg Part.name (Option.some.inj picked).symm
  | arrangement pending => cases picked

theorem sublist_map_draftPending (drafts : List Draft) :
    ((draftPending drafts).map fun pending => pending.header.name).Sublist
      (drafts.map Draft.name) := by
  rw [draftPending]
  refine map_filterMap_sublist (fun draft pending picked => ?_) drafts
  cases draft with
  | part single => cases picked
  | arrangement other =>
    exact congrArg (fun pending => pending.header.name) (Option.some.inj picked).symm

theorem map_unplaced_draftParts (drafts : List Draft) :
    (draftParts drafts).map Part.unplaced = draftParts (drafts.map Draft.unplaced) := by
  rw [draftParts, draftParts, List.map_filterMap, List.filterMap_map]
  congr 1
  funext draft
  cases draft <;> rfl

theorem map_unplaced_draftPending (drafts : List Draft) :
    (draftPending drafts).map Pending.unplaced = draftPending (drafts.map Draft.unplaced) := by
  rw [draftPending, draftPending, List.map_filterMap, List.filterMap_map]
  congr 1
  funext draft
  cases draft <;> rfl

/-- What names stand for can be looked up among drafts without places. -/
theorem glossary_eq (drafts : List Draft) : (draftScope drafts).glossary =
    ⟨fun name => (draftParts (drafts.map Draft.unplaced)).find? fun part => part.name == name,
      fun name => (draftPending (drafts.map Draft.unplaced)).find? fun pending =>
        pending.header.name == name⟩ := by
  rw [← map_unplaced_draftParts, ← map_unplaced_draftPending]
  refine congrArg₂ Glossary.mk (funext fun name => ?_) (funext fun name => ?_)
  · exact map_find?_key Part.name Part.unplaced (fun _ => rfl) _ name
  · exact map_find?_key (fun pending : Pending => pending.header.name) Pending.unplaced
      (fun _ => rfl) _ name

theorem nodup_name_of_perm {drafts others : List Draft} (distinct : (drafts.map Draft.name).Nodup)
    (permuted : (drafts.map Draft.unplaced).Perm (others.map Draft.unplaced)) :
    (others.map Draft.name).Nodup := by
  rw [← map_name_unplaced] at distinct ⊢
  exact (permuted.map Draft.name).nodup_iff.mp distinct

/-- What names stand for does not depend on the order of the drafts. -/
theorem glossary_eq_of_perm {drafts others : List Draft}
    (distinct : (drafts.map Draft.name).Nodup)
    (permuted : (drafts.map Draft.unplaced).Perm (others.map Draft.unplaced)) :
    (draftScope others).glossary = (draftScope drafts).glossary := by
  rw [← map_name_unplaced] at distinct
  rw [glossary_eq, glossary_eq]
  refine congrArg₂ Glossary.mk (funext fun name => ?_) (funext fun name => ?_)
  · exact (find?_key_of_perm (distinct.sublist (sublist_map_draftParts _))
      (permuted.filterMap _) name).symm
  · exact (find?_key_of_perm (distinct.sublist (sublist_map_draftPending _))
      (permuted.filterMap _) name).symm

/-! ### The same playables -/

theorem name_of_playable? {drafts : List Draft} {meaning : String → Option (Arrangement Playable)}
    (isMeaning : (draftScope drafts).glossary.IsMeaning meaning) (draft : Draft)
    (playable : Playable) (given : draft.playable? meaning = some playable) :
    playable.name = draft.name := by
  cases draft with
  | part single =>
    obtain rfl := Option.some.inj given
    rfl
  | arrangement pending =>
    obtain ⟨arrangement, means, rfl⟩ := Option.map_eq_some_iff.mp given
    rw [isMeaning] at means
    obtain ⟨entry, found, means⟩ := Option.bind_eq_some_iff.mp means
    obtain ⟨lines, _, means⟩ := Option.bind_eq_some_iff.mp means
    obtain ⟨placed, _, named, rfl⟩ := exists_of_pending? found
    obtain ⟨span, _, built⟩ := bind_eq_ok_iff.mp (toOption_eq_some_iff.mp means)
    rw [← Except.ok.inj built]
    exact named

/-- What drafts will be does not depend on their order. -/
theorem exists_resolveDrafts_of_perm {drafts others : List Draft} {playables : List Playable}
    (distinct : (drafts.map Draft.name).Nodup)
    (acyclic : ∀ name, ¬ Relation.TransGen (draftScope drafts).glossary.Refers name name)
    (permuted : (drafts.map Draft.unplaced).Perm (others.map Draft.unplaced))
    (resolved : resolveDrafts drafts = .ok playables) :
    ∃ otherPlayables, resolveDrafts others = .ok otherPlayables ∧
      (playables.map Playable.unplaced).Perm (otherPlayables.map Playable.unplaced) ∧
      (playables.map Playable.unplaced).map Playable.name = drafts.map Draft.name := by
  have names : ∀ name, ((draftScope drafts).glossary.pending? name).isSome = true →
      name ∈ drafts.map Draft.name := by
    intro name known
    obtain ⟨_, found⟩ := Option.isSome_iff_exists.mp known
    obtain ⟨placed, member, rfl, _⟩ := exists_of_pending? found
    exact List.mem_map.mpr ⟨.arrangement placed, mem_draftPending.mp member, rfl⟩
  obtain ⟨meaning, isMeaning⟩ :=
    Glossary.exists_isMeaning (Glossary.wellFounded_refers acyclic names)
  have same := glossary_eq_of_perm distinct permuted
  have done := toOption_resolveDrafts (distinct.sublist (sublist_map_draftPending drafts)) acyclic
    isMeaning
  have doneOthers := toOption_resolveDrafts ((nodup_name_of_perm distinct permuted).sublist
    (sublist_map_draftPending others)) (same ▸ acyclic) (same ▸ isMeaning)
  have forget (drafts : List Draft) : drafts.mapM (Draft.playable? meaning) =
      (drafts.map Draft.unplaced).mapM (Draft.playable? meaning) := by
    rw [List.mapM_map]
    exact mapM_congr fun draft _ => (draft.playable?_unplaced meaning).symm
  rw [resolved] at done
  have named := map_eq_map_of_mapM done.symm (name_of_playable? isMeaning)
  rw [forget] at done
  obtain ⟨values, found, perm⟩ := exists_mapM_eq_some_of_perm permuted done.symm
  rw [forget, found] at doneOthers
  obtain ⟨otherPlayables, resolvedOthers, rfl⟩ := Option.map_eq_some_iff.mp doneOthers
  exact ⟨otherPlayables, toOption_eq_some_iff.mp resolvedOthers, perm, named⟩

/-! ### Orderly blocks -/

/-- Whether some blocks, in whatever order, leave no choice: one of them at most holds settings, no
two have the same name, and their references form no cycle. -/
structure Orderly (blocks : List Block) : Prop where
  single : (blocks.filter holdsSettings).length ≤ 1
  distinct : (blocks.filterMap Block.name?).Nodup
  acyclic : ∀ name, ¬ Relation.TransGen (Refers blocks) name name

theorem map_name?_unnumbered (blocks : List Block) :
    (blocks.map Block.unnumbered).filterMap Block.name? = blocks.filterMap Block.name? := by
  rw [List.filterMap_map]
  rfl

/-- References do not depend on lines. -/
theorem refers_unnumbered_iff {blocks : List Block} {name other : String} :
    Refers (blocks.map Block.unnumbered) name other ↔ Refers blocks name other := by
  simp only [Refers, List.mem_map, exists_exists_and_eq_and]
  rfl

section Permuted

variable {blocks others : List Block}
  (permuted : (blocks.map Block.unnumbered).Perm (others.map Block.unnumbered))
include permuted

theorem refers_of_perm (name other : String) (refers : Refers others name other) :
    Refers blocks name other := by
  rw [← refers_unnumbered_iff] at refers ⊢
  obtain ⟨block, member, arranges, named, written, target, there, arrangesToo, namedToo⟩ := refers
  exact ⟨block, permuted.mem_iff.mpr member, arranges, named, written, target,
    permuted.mem_iff.mpr there, arrangesToo, namedToo⟩

theorem Orderly.of_perm (orderly : Orderly blocks) : Orderly others where
  single := by
    have same := (permuted.filter holdsSettings).length_eq
    rw [filter_holdsSettings_unnumbered, filter_holdsSettings_unnumbered, List.length_map,
      List.length_map] at same
    exact same ▸ orderly.single
  distinct := by
    have same := permuted.filterMap Block.name?
    rw [map_name?_unnumbered, map_name?_unnumbered] at same
    exact same.nodup_iff.mp orderly.distinct
  acyclic name around :=
    orderly.acyclic name (Relation.TransGen.mono (refers_of_perm permuted) _ _ around)

/-- A document whose blocks stand in another order is loaded too, and gives the same. -/
theorem exists_loadBlocks_of_perm {sequence : Sequence} (orderly : Orderly blocks)
    (loaded : loadBlocks blocks = .ok sequence) :
    ∃ other, loadBlocks others = .ok other ∧ sequence.settings = other.settings ∧
      (sequence.playables.map Playable.unplaced).Perm (other.playables.map Playable.unplaced) ∧
      ((sequence.playables.map Playable.unplaced).map Playable.name).Nodup := by
  obtain ⟨settings, chosen, loaded⟩ := bind_eq_ok_iff.mp loaded
  obtain ⟨drafts, read, loaded⟩ := bind_eq_ok_iff.mp loaded
  obtain ⟨playables, resolved, loaded⟩ := bind_eq_ok_iff.mp loaded
  obtain rfl : Sequence.mk settings playables = sequence := Except.ok.inj loaded
  have chosenOthers : readSettings others = .ok settings := toOption_eq_some_iff.mp <|
    (toOption_readSettings_of_perm permuted orderly.single).trans (toOption_eq_some_iff.mpr chosen)
  obtain ⟨otherDrafts, readOthers, draftsPermuted⟩ := exists_readDrafts_of_perm permuted read
  have distinct : (drafts.map Draft.name).Nodup := map_name_of_readDrafts read ▸ orderly.distinct
  have acyclic : ∀ name, ¬ Relation.TransGen (draftScope drafts).glossary.Refers name name :=
    fun name around => orderly.acyclic name <|
      Relation.TransGen.mono (fun _ _ => refers_of_glossary read) _ _ around
  obtain ⟨otherPlayables, resolvedOthers, playablesPermuted, named⟩ :=
    exists_resolveDrafts_of_perm distinct acyclic draftsPermuted resolved
  refine ⟨⟨settings, otherPlayables⟩, ?_, rfl, playablesPermuted, named ▸ distinct⟩
  rw [loadBlocks, chosenOthers]
  show (readDrafts settings.bpm others >>= _) = _
  rw [readOthers]
  show (resolveDrafts otherDrafts >>= _) = _
  rw [resolvedOthers]
  rfl

end Permuted

end Document

namespace Sequence

theorem map_unplaced_find? (sequence : Sequence) (name : String) :
    (sequence.find? name).map Playable.unplaced =
      (sequence.playables.map Playable.unplaced).find? fun playable => playable.name == name :=
  map_find?_key Playable.name Playable.unplaced Playable.name_unplaced sequence.playables name

theorem load_eq_loadBlocks {document : String} {blocks : List Block}
    (read : Document.readBlocks document = .ok blocks) :
    load document = Document.loadBlocks blocks := by
  rw [load, read]
  rfl

/-- The order of the blocks of a document does not matter, neither for whether the document is
loaded nor for its settings and for what stands under a name in it. -/
theorem load_of_permuted_blocks {first second : String} {blocks others : List Block}
    (readFirst : Document.readBlocks first = .ok blocks)
    (readSecond : Document.readBlocks second = .ok others)
    (permuted : (blocks.map Block.unnumbered).Perm (others.map Block.unnumbered))
    (orderly : Document.Orderly blocks) :
    ((∃ sequence, load first = .ok sequence) ↔ ∃ sequence, load second = .ok sequence) ∧
      ∀ one other, load first = .ok one → load second = .ok other →
        one.settings = other.settings ∧
          ∀ name, (one.find? name).map Playable.unplaced =
            (other.find? name).map Playable.unplaced := by
  rw [load_eq_loadBlocks readFirst, load_eq_loadBlocks readSecond]
  refine ⟨⟨?accepted, ?acceptedBack⟩, ?equal⟩
  case accepted =>
    rintro ⟨sequence, loaded⟩
    obtain ⟨other, loadedOther, _⟩ := Document.exists_loadBlocks_of_perm permuted orderly loaded
    exact ⟨other, loadedOther⟩
  case acceptedBack =>
    rintro ⟨other, loaded⟩
    obtain ⟨sequence, loadedBack, _⟩ :=
      Document.exists_loadBlocks_of_perm permuted.symm (orderly.of_perm permuted) loaded
    exact ⟨sequence, loadedBack⟩
  case equal =>
    intro one other loaded loadedOther
    obtain ⟨found, loadedFound, settings, playables, apart⟩ :=
      Document.exists_loadBlocks_of_perm permuted orderly loaded
    obtain rfl : found = other := Except.ok.inj (loadedFound.symm.trans loadedOther)
    refine ⟨settings, fun name => ?_⟩
    rw [map_unplaced_find?, map_unplaced_find?]
    exact find?_key_of_perm apart playables name

/-- A song before the verse and the kick that it is made of. -/
def songFirstSample : String :=
  "```beef .arrangement name:song\nverse *2\n```\n```beef .sequence bpm:90\n```\n" ++
    "```beef .arrangement name:verse\nkick kick\n```\n```beef .part name:kick\nc2:1\n```\n"

/-- The blocks of `songFirstSample` the other way around. -/
def songLastSample : String :=
  "```beef .part name:kick\nc2:1\n```\n```beef .arrangement name:verse\nkick kick\n```\n" ++
    "```beef .sequence bpm:90\n```\n```beef .arrangement name:song\nverse *2\n```\n"

/-- The blocks of a song that stand where they are said to. -/
def songBlocks (song settings verse kick : Nat) : List Block :=
  [⟨.arrangement, ".arrangement name:song", ["verse *2"], song⟩,
    ⟨.sequence, ".sequence bpm:90", [], settings⟩,
    ⟨.arrangement, ".arrangement name:verse", ["kick kick"], verse⟩,
    ⟨.part, ".part name:kick", ["c2:1"], kick⟩]

theorem load_of_permuted_blocks_song :
    ∃ one other, load songFirstSample = .ok one ∧ load songLastSample = .ok other ∧
      one.playables.map Playable.name = ["song", "verse", "kick"] ∧
      other.playables.map Playable.name = ["kick", "verse", "song"] ∧
      ∀ name,
        (one.find? name).map Playable.unplaced = (other.find? name).map Playable.unplaced := by
  have readFirst : Document.readBlocks songFirstSample = .ok (songBlocks 1 4 6 9) :=
    toOption_eq_some_iff.mp (by decide +kernel)
  have readSecond : Document.readBlocks songLastSample = .ok (songBlocks 9 7 4 1).reverse :=
    toOption_eq_some_iff.mp (by decide +kernel)
  have permuted : ((songBlocks 1 4 6 9).map Block.unnumbered).Perm
      ((songBlocks 9 7 4 1).reverse.map Block.unnumbered) := by
    decide +kernel
  have single : ((songBlocks 1 4 6 9).filter Document.holdsSettings).length ≤ 1 := by
    decide +kernel
  have distinct : ((songBlocks 1 4 6 9).filterMap Block.name?).Nodup := by
    decide +kernel
  -- the song refers to the verse, and the verse to no arrangement
  have down : ∀ block ∈ songBlocks 1 4 6 9, ∀ target ∈ songBlocks 1 4 6 9, ∀ word ∈ block.words,
      target.directive = .arrangement → target.name? = some word →
        word = "verse" ∧ block.name? = some "song" := by
    decide +kernel
  have references : ∀ name other, Document.Refers (songBlocks 1 4 6 9) name other →
      other = "verse" ∧ name = "song" := by
    rintro name other ⟨block, member, _, named, written, target, there, arranges, targetNamed⟩
    obtain ⟨verse, song⟩ := down block member target there other written arranges targetNamed
    exact ⟨verse, Option.some.inj (named.symm.trans song)⟩
  have acyclic : ∀ name, ¬ Relation.TransGen (Document.Refers (songBlocks 1 4 6 9)) name name := by
    intro name around
    obtain ⟨_, _, last⟩ := Relation.TransGen.tail'_iff.mp around
    obtain ⟨_, first, _⟩ := Relation.TransGen.head'_iff.mp around
    have verse := (references _ _ last).1
    have song := (references _ _ first).2
    exact absurd (verse.symm.trans song) (by decide)
  obtain ⟨accepted, same⟩ :=
    load_of_permuted_blocks readFirst readSecond permuted ⟨single, distinct, acyclic⟩
  obtain ⟨one, loaded, names⟩ := exists_load_eq_ok songFirstSample
    (show ((load songFirstSample).toOption.any fun sequence =>
      decide (sequence.playables.map Playable.name = ["song", "verse", "kick"])) = true by
        decide +kernel)
  obtain ⟨other, loadedOther, otherNames⟩ := exists_load_eq_ok songLastSample
    (show ((load songLastSample).toOption.any fun sequence =>
      decide (sequence.playables.map Playable.name = ["kick", "verse", "song"])) = true by
        decide +kernel)
  exact ⟨one, other, loaded, loadedOther, of_decide_eq_true names, of_decide_eq_true otherNames,
    (same one other loaded loadedOther).2⟩

end Sequence

end StepSequencer
