/-
This file says what building arrangements leaves behind, whatever cycles their references form. The
arrangements of a document and the references among them are a graph, which its outline holds. Each
arrangement is built once, from lines in which every word has been resolved: it denotes a part, or
an arrangement that was built before, or it is lost. A reference is cut only if it leads back to an
arrangement that waits for the one in which it stands, so it closes a cycle. All of this is a
property of the store of built arrangements that every step of building keeps.
-/

import StepSequencer.Proofs.Drafts

namespace StepSequencer

/-- A computation in two steps fails when one of the steps does. -/
theorem bind_eq_error_iff {Fault First Second : Type} {first : Except Fault First}
    {second : First → Except Fault Second} {failure : Fault} :
    (first >>= second) = .error failure ↔
      first = .error failure ∨ ∃ value, first = .ok value ∧ second value = .error failure := by
  cases first with
  | error other => simp [bind, Except.bind]
  | ok value => simp [bind, Except.bind]

/-- What fails under another name of its fault was a fault before. -/
theorem mapError_eq_error_iff {Fault Other Value : Type} {rename : Fault → Other}
    {result : Except Fault Value} {other : Other} :
    result.mapError rename = .error other ↔
      ∃ fault, result = .error fault ∧ rename fault = other := by
  cases result <;> simp [Except.mapError]

namespace Document

/-! ### References as a graph -/

/-- What counts of a document for its references: the names of its parts, and the names of its
arrangements with their lines. -/
structure Outline where
  parts : List String
  arrangements : List (String × List String)

namespace Outline

/-- The place of the arrangement that a word refers to: the first one of that name, unless there is
a part of that name. -/
def target? (outline : Outline) (word : String) : Option Nat :=
  if word ∈ outline.parts then none
  else outline.arrangements.findIdx? fun entry => entry.1 == word

/-- Whether a word in a line of the arrangement at a place refers to the arrangement at another
place. -/
def Leads (outline : Outline) (source target : Nat) : Prop :=
  ∃ entry, outline.arrangements[source]? = some entry ∧
    ∃ text ∈ entry.2, ∃ word ∈ Notation.nameWords text.toList, outline.target? word = some target

end Outline

/-- What counts of a scope for its references. -/
def Scope.outline (scope : Scope) : Outline where
  parts := scope.parts.map Part.name
  arrangements := scope.pending.map fun pending => (pending.header.name, pending.steps)

variable {scope : Scope}

theorem Scope.target?_of_part {part : Part} {word : String}
    (found : scope.parts.find? (fun part => part.name == word) = some part) :
    scope.outline.target? word = none := by
  have same := List.find?_some found
  have named : part.name = word := eq_of_beq same
  exact if_pos (List.mem_map.mpr ⟨part, List.mem_of_find?_eq_some found, named⟩)

theorem Scope.not_mem_parts_of_no_part {word : String}
    (missing : scope.parts.find? (fun part => part.name == word) = none) :
    word ∉ scope.outline.parts := by
  intro member
  obtain ⟨part, inScope, rfl⟩ := List.mem_map.mp member
  exact List.find?_eq_none.mp missing part inScope (beq_self_eq_true _)

theorem Scope.target?_of_no_part {word : String}
    (missing : scope.parts.find? (fun part => part.name == word) = none) :
    scope.outline.target? word =
      scope.pending.findIdx? fun pending => pending.header.name == word := by
  unfold Outline.target?
  rw [if_neg (Scope.not_mem_parts_of_no_part missing)]
  exact List.findIdx?_map

theorem Scope.leads_of_mem {index target : Nat} {pending : Pending} {text word : String}
    (found : scope.pending[index]? = some pending) (written : text ∈ pending.steps)
    (inText : word ∈ Notation.nameWords text.toList)
    (refers : scope.outline.target? word = some target) : scope.outline.Leads index target := by
  refine ⟨(pending.header.name, pending.steps), ?_, text, written, word, inText, refers⟩
  simp [Scope.outline, found]

/-! ### What words come to -/

/-- What a word in a line of the arrangement at a place comes to when some arrangements have been
built before. -/
inductive Resolved (scope : Scope) (earlier : Built) (index : Nat) (word : String) :
    Reference → Prop
  | part {part : Part} (found : scope.parts.find? (fun part => part.name == word) = some part) :
      Resolved scope earlier index word (.voice (.part part))
  | unknown (noPart : word ∉ scope.outline.parts) (nameless : scope.outline.target? word = none) :
      Resolved scope earlier index word (.lost (.unknownReference word))
  | cyclic {target : Nat} (refers : scope.outline.target? word = some target)
      (back : Relation.ReflTransGen scope.outline.Leads target index) :
      Resolved scope earlier index word (.lost (.cyclicReference word))
  | arrangement {target : Nat} {arrangement : Arrangement Playable}
      (refers : scope.outline.target? word = some target)
      (known : (target, arrangement) ∈ earlier) :
      Resolved scope earlier index word (.voice (.arrangement arrangement))

/-- Whether a line is what its text says, with every word in it resolved. -/
structure ResolvedLine (scope : Scope) (earlier : Built) (index : Nat) (text : String)
    (line : Line (List Reference)) : Prop where
  said : line.text = text
  repetition : Notation.readRepeat text.toList = .ok line.repetition
  references : List.Forall₂ (Resolved scope earlier index) (Notation.nameWords text.toList)
    line.content

/-- Whether an arrangement is built from the lines at a place. -/
def BuiltFrom (scope : Scope) (earlier : Built) (index : Nat)
    (arrangement : Arrangement Playable) : Prop :=
  ∃ pending lines, scope.pending[index]? = some pending ∧
    List.Forall₂ (ResolvedLine scope earlier index) pending.steps lines ∧
    assemble pending lines = .ok arrangement

theorem Resolved.mono {earlier later : Built} (more : earlier ⊆ later) {index : Nat}
    {word : String} {reference : Reference}
    (resolved : Resolved scope earlier index word reference) :
    Resolved scope later index word reference := by
  cases resolved with
  | part found => exact .part found
  | unknown noPart nameless => exact .unknown noPart nameless
  | cyclic refers back => exact .cyclic refers back
  | arrangement refers known => exact .arrangement refers (more known)

theorem ResolvedLine.mono {earlier later : Built} (more : earlier ⊆ later) {index : Nat}
    {text : String} {line : Line (List Reference)}
    (resolved : ResolvedLine scope earlier index text line) :
    ResolvedLine scope later index text line where
  said := resolved.said
  repetition := resolved.repetition
  references := resolved.references.imp fun _ _ => Resolved.mono more

/-! ### The store of built arrangements -/

/-- Whether every arrangement of a store was built once, from what had been built before. -/
inductive Built.Sound (scope : Scope) : Built → Prop
  | nil : Sound scope []
  | cons {earlier : Built} {index : Nat} {arrangement : Arrangement Playable}
      (before : Sound scope earlier) (fresh : ∀ entry ∈ earlier, entry.1 ≠ index)
      (built : BuiltFrom scope earlier index arrangement) :
      Sound scope ((index, arrangement) :: earlier)

/-- Whether a store has grown, but by nothing on a path. -/
def Built.Grows (path : List Nat) (before after : Built) : Prop :=
  ∃ added, after = added ++ before ∧ ∀ entry ∈ added, entry.1 ∉ path

namespace Built.Grows

variable {path : List Nat} {before between after : Built}

theorem refl (path : List Nat) (built : Built) : Grows path built built := ⟨[], rfl, nofun⟩

theorem trans (first : Grows path before between) (second : Grows path between after) :
    Grows path before after := by
  obtain ⟨added, rfl, apart⟩ := first
  obtain ⟨more, rfl, alsoApart⟩ := second
  refine ⟨more ++ added, (List.append_assoc _ _ _).symm, fun entry member => ?_⟩
  rcases List.mem_append.mp member with inMore | inAdded
  · exact alsoApart entry inMore
  · exact apart entry inAdded

theorem subset (grows : Grows path before after) : before ⊆ after := by
  obtain ⟨added, rfl, _⟩ := grows
  exact List.subset_append_right added before

end Built.Grows

/-- Whether a step of building keeps the store sound, builds nothing that is on a path, and gives
what fits the store. -/
def KeepsSound {Value : Type} (scope : Scope) (path : List Nat) (step : Building Value)
    (fits : Built → Value → Prop) : Prop :=
  ∀ built value after, Built.Sound scope built → step built = .ok (value, after) →
    Built.Sound scope after ∧ Built.Grows path built after ∧ fits after value

section Building

variable {path : List Nat} {index : Nat}

theorem keepsSound_resolve {build : Nat → Building (Arrangement Playable)} {word : String}
    (waiting : ∀ other ∈ path, Relation.ReflTransGen scope.outline.Leads other index)
    (building : ∀ target, scope.outline.target? word = some target → target ∉ path →
      KeepsSound scope path (build target) fun after arrangement => (target, arrangement) ∈ after) :
    KeepsSound scope path (resolve scope path build word) fun after reference =>
      Resolved scope after index word reference := by
  intro built reference after sound done
  unfold resolve at done
  split at done
  next part found =>
    obtain ⟨rfl, rfl⟩ := Prod.mk.inj (Except.ok.inj done)
    exact ⟨sound, .refl path built, .part found⟩
  next missing =>
    have target := Scope.target?_of_no_part missing
    split at done
    next nowhere =>
      obtain ⟨rfl, rfl⟩ := Prod.mk.inj (Except.ok.inj done)
      exact ⟨sound, .refl path built,
        .unknown (Scope.not_mem_parts_of_no_part missing) (target.trans nowhere)⟩
    next other found =>
      by_cases back : other ∈ path
      · rw [if_pos back] at done
        obtain ⟨rfl, rfl⟩ := Prod.mk.inj (Except.ok.inj done)
        exact ⟨sound, .refl path built, .cyclic (target.trans found) (waiting other back)⟩
      · rw [if_neg back] at done
        obtain ⟨⟨arrangement, behind⟩, first, done⟩ := bind_eq_ok_iff.mp done
        obtain ⟨rfl, rfl⟩ := Prod.mk.inj (Except.ok.inj done)
        obtain ⟨soundBehind, grows, known⟩ :=
          building other (target.trans found) back built arrangement behind sound first
        exact ⟨soundBehind, grows, .arrangement (target.trans found) known⟩

theorem keepsSound_resolveNames {resolveName : String → Building Reference} {words : List String}
    (resolving : ∀ word ∈ words, KeepsSound scope path (resolveName word) fun after reference =>
      Resolved scope after index word reference) :
    KeepsSound scope path (resolveNames resolveName words) fun after references =>
      List.Forall₂ (Resolved scope after index) words references := by
  induction words with
  | nil =>
    intro built references after sound done
    obtain ⟨rfl, rfl⟩ := Prod.mk.inj (Except.ok.inj done)
    exact ⟨sound, .refl path built, .nil⟩
  | cons word rest inductionHypothesis =>
    intro built references after sound done
    obtain ⟨⟨reference, between⟩, first, done⟩ := bind_eq_ok_iff.mp done
    obtain ⟨⟨others, behind⟩, second, done⟩ := bind_eq_ok_iff.mp done
    obtain ⟨rfl, rfl⟩ := Prod.mk.inj (Except.ok.inj done)
    obtain ⟨soundBetween, growsFirst, resolved⟩ :=
      resolving word List.mem_cons_self built reference between sound first
    obtain ⟨soundBehind, growsSecond, resolvedRest⟩ := inductionHypothesis
      (fun other member => resolving other (List.mem_cons_of_mem _ member)) between others behind
      soundBetween second
    exact ⟨soundBehind, growsFirst.trans growsSecond,
      .cons (resolved.mono growsSecond.subset) resolvedRest⟩

theorem keepsSound_resolveLines {resolveName : String → Building Reference} {texts : List String}
    (line : Nat) (resolving : ∀ text ∈ texts, ∀ word ∈ Notation.nameWords text.toList,
      KeepsSound scope path (resolveName word) fun after reference =>
        Resolved scope after index word reference) :
    KeepsSound scope path (resolveLines line resolveName texts) fun after lines =>
      List.Forall₂ (ResolvedLine scope after index) texts lines := by
  induction texts with
  | nil =>
    intro built lines after sound done
    obtain ⟨rfl, rfl⟩ := Prod.mk.inj (Except.ok.inj done)
    exact ⟨sound, .refl path built, .nil⟩
  | cons text rest inductionHypothesis =>
    intro built lines after sound done
    obtain ⟨repetition, repeats, done⟩ := bind_eq_ok_iff.mp done
    obtain ⟨⟨references, between⟩, first, done⟩ := bind_eq_ok_iff.mp done
    obtain ⟨⟨others, behind⟩, second, done⟩ := bind_eq_ok_iff.mp done
    obtain ⟨rfl, rfl⟩ := Prod.mk.inj (Except.ok.inj done)
    obtain ⟨soundBetween, growsFirst, resolved⟩ := keepsSound_resolveNames
      (resolving text List.mem_cons_self) built references between sound first
    obtain ⟨soundBehind, growsSecond, resolvedRest⟩ := inductionHypothesis
      (fun other member => resolving other (List.mem_cons_of_mem _ member)) between others behind
      soundBetween second
    have head : ResolvedLine scope between index text ⟨text, repetition, references⟩ :=
      ⟨rfl, mapError_eq_ok_iff.mp repeats, resolved⟩
    exact ⟨soundBehind, growsFirst.trans growsSecond,
      .cons (head.mono growsSecond.subset) resolvedRest⟩

theorem Built.get?_eq_some {built : Built} {arrangement : Arrangement Playable}
    (known : built.get? index = some arrangement) : (index, arrangement) ∈ built := by
  obtain ⟨⟨other, _⟩, first, rfl⟩ := Option.map_eq_some_iff.mp known
  have same := List.find?_some first
  obtain rfl : other = index := eq_of_beq same
  exact List.mem_of_find?_eq_some first

theorem Built.get?_eq_none {built : Built} (unknown : built.get? index = none) :
    ∀ entry ∈ built, entry.1 ≠ index := by
  intro entry member same
  refine List.find?_eq_none.mp (Option.map_eq_none_iff.mp unknown) entry member ?_
  rw [same]
  exact beq_self_eq_true _

/-- The arrangements on the path wait for the one that is built. None of them is finished while it
is built, so it is not itself built in the meantime. -/
theorem keepsSound_build (depth : Nat) (apart : index ∉ path)
    (waiting : ∀ other ∈ path, Relation.TransGen scope.outline.Leads other index) :
    KeepsSound scope path (build scope depth path index) fun after arrangement =>
      (index, arrangement) ∈ after := by
  induction depth generalizing path index with
  | zero =>
    intro built arrangement after sound done
    cases done
  | succ depth inductionHypothesis =>
    intro built arrangement after sound done
    unfold build at done
    split at done
    next found known =>
      obtain ⟨rfl, rfl⟩ := Prod.mk.inj (Except.ok.inj done)
      exact ⟨sound, .refl path built, Built.get?_eq_some known⟩
    next unknown =>
      split at done
      next => cases done
      next pending found =>
        obtain ⟨⟨lines, between⟩, first, done⟩ := bind_eq_ok_iff.mp done
        obtain ⟨other, assembled, done⟩ := bind_eq_ok_iff.mp done
        obtain ⟨rfl, rfl⟩ := Prod.mk.inj (Except.ok.inj done)
        have waitingHere : ∀ other ∈ index :: path,
            Relation.ReflTransGen scope.outline.Leads other index := by
          intro other member
          rcases List.mem_cons.mp member with rfl | onPath
          · exact .refl
          · exact (waiting other onPath).to_reflTransGen
        have resolving : ∀ text ∈ pending.steps, ∀ word ∈ Notation.nameWords text.toList,
            KeepsSound scope (index :: path)
              (resolve scope (index :: path) (build scope depth (index :: path)) word)
              fun after reference => Resolved scope after index word reference := by
          intro text written word inLine
          refine keepsSound_resolve waitingHere fun target refers targetApart => ?_
          have leads : scope.outline.Leads index target :=
            Scope.leads_of_mem found written inLine refers
          exact inductionHypothesis targetApart fun other member =>
            .tail' (waitingHere other member) leads
        obtain ⟨soundBetween, ⟨added, rfl, addedApart⟩, resolved⟩ :=
          keepsSound_resolveLines pending.line resolving built lines between sound first
        have fresh : ∀ entry ∈ added ++ built, entry.1 ≠ index := by
          intro entry member
          rcases List.mem_append.mp member with inAdded | inBuilt
          · exact fun same => addedApart entry inAdded (same ▸ List.mem_cons_self)
          · exact Built.get?_eq_none unknown entry inBuilt
        refine ⟨.cons soundBetween fresh ⟨pending, lines, found, resolved, assembled⟩,
          ⟨(index, other) :: added, rfl, ?_⟩, List.mem_cons_self⟩
        refine List.forall_mem_cons.mpr ⟨apart, fun entry member onPath => ?_⟩
        exact addedApart entry member (List.mem_cons_of_mem _ onPath)

theorem keepsSound_buildAll (indices : List Nat) :
    KeepsSound scope [] (buildAll scope indices) fun after arrangements =>
      List.Forall₂ (fun index arrangement => (index, arrangement) ∈ after)
        indices arrangements := by
  induction indices with
  | nil =>
    intro built arrangements after sound done
    obtain ⟨rfl, rfl⟩ := Prod.mk.inj (Except.ok.inj done)
    exact ⟨sound, .refl [] built, .nil⟩
  | cons index rest inductionHypothesis =>
    intro built arrangements after sound done
    obtain ⟨⟨arrangement, between⟩, first, done⟩ := bind_eq_ok_iff.mp done
    obtain ⟨⟨others, behind⟩, second, done⟩ := bind_eq_ok_iff.mp done
    obtain ⟨rfl, rfl⟩ := Prod.mk.inj (Except.ok.inj done)
    obtain ⟨soundBetween, growsFirst, known⟩ := keepsSound_build scope.pending.length
      List.not_mem_nil nofun built arrangement between sound first
    obtain ⟨soundBehind, growsSecond, knownRest⟩ :=
      inductionHypothesis between others behind soundBetween second
    exact ⟨soundBehind, growsFirst.trans growsSecond,
      .cons (growsSecond.subset known) knownRest⟩

end Building

/-! ### How building fails -/

/-- The repeats of some lines. -/
def readRepeats (texts : List String) : Except SyntaxFault (List Repeat) :=
  texts.mapM fun text => Notation.readRepeat text.toList

theorem readRepeats_cons (text : String) (rest : List String) :
    readRepeats (text :: rest) = Notation.readRepeat text.toList >>= fun repetition =>
      readRepeats rest >>= fun repetitions => .ok (repetition :: repetitions) :=
  List.mapM_cons

/-- How building fails: a time is out of range, or an arrangement has a line without a repeat. -/
inductive BuildFailure (scope : Scope) : LoadFailure → Prop
  | span : BuildFailure scope (.breakdown .spanOverflow)
  | line {pending : Pending} {cause : SyntaxFault} (member : pending ∈ scope.pending)
      (failed : readRepeats pending.steps = .error cause) :
      BuildFailure scope (.fault (grammarFault pending.line cause))

/-- Whether a step of building fails only as building fails, whatever has been built. -/
def FailsOnly {Value : Type} (scope : Scope) (step : Building Value) : Prop :=
  ∀ built failure, step built = .error failure → BuildFailure scope failure

theorem eq_spanOverflow_of_sum {Fault : Type} {spans : List Span} {failure : Failure Fault}
    (failed : Span.sum spans = .error failure) : failure = .breakdown .spanOverflow := by
  unfold Span.sum at failed
  generalize Span.zero = start at failed
  induction spans generalizing start with
  | nil => cases failed
  | cons span rest inductionHypothesis =>
    rcases bind_eq_error_iff.mp failed with first | ⟨total, _, behind⟩
    · unfold Span.add Span.check at first
      split at first
      · cases first
      · exact (Except.error.inj first).symm
    · exact inductionHypothesis total behind

theorem eq_spanOverflow_of_assemble {pending : Pending} {lines : List (Line (List Reference))}
    {failure : LoadFailure} (failed : assemble pending lines = .error failure) :
    failure = .breakdown .spanOverflow := by
  rcases bind_eq_error_iff.mp failed with first | ⟨span, _, behind⟩
  · exact eq_spanOverflow_of_sum first
  · cases behind

section Failures

variable {path : List Nat} {index : Nat}

theorem failsOnly_resolve {build : Nat → Building (Arrangement Playable)} (word : String)
    (building : ∀ target < scope.pending.length, target ∉ path → FailsOnly scope (build target)) :
    FailsOnly scope (resolve scope path build word) := by
  intro built failure failed
  unfold resolve at failed
  split at failed
  next => cases failed
  next =>
    split at failed
    next => cases failed
    next target found =>
      split at failed
      next => cases failed
      next apart =>
        have within := (List.findIdx?_eq_some_iff_getElem.mp found).1
        rcases bind_eq_error_iff.mp failed with first | ⟨_, _, behind⟩
        · exact building target within apart built failure first
        · cases behind

theorem failsOnly_resolveNames {resolveName : String → Building Reference}
    (resolving : ∀ word, FailsOnly scope (resolveName word)) (words : List String) :
    FailsOnly scope (resolveNames resolveName words) := by
  induction words with
  | nil => exact nofun
  | cons word rest inductionHypothesis =>
    intro built failure failed
    rcases bind_eq_error_iff.mp failed with first | ⟨⟨_, between⟩, _, failed⟩
    · exact resolving word built failure first
    · rcases bind_eq_error_iff.mp failed with second | ⟨_, _, behind⟩
      · exact inductionHypothesis between failure second
      · cases behind

/-- Lines are resolved one after another, so the first repeat that cannot be read is the one that
reading all repeats would stop at. -/
theorem failsOnly_resolveLines {resolveName : String → Building Reference} {line : Nat}
    {texts : List String} (resolving : ∀ word, FailsOnly scope (resolveName word))
    (reading : ∀ cause, readRepeats texts = .error cause →
      BuildFailure scope (.fault (grammarFault line cause))) :
    FailsOnly scope (resolveLines line resolveName texts) := by
  induction texts with
  | nil => exact nofun
  | cons text rest inductionHypothesis =>
    intro built failure failed
    rcases bind_eq_error_iff.mp failed with first | ⟨repetition, first, failed⟩
    · obtain ⟨cause, unread, rfl⟩ := mapError_eq_error_iff.mp first
      exact reading cause (by rw [readRepeats_cons, unread]; rfl)
    have readingRest : ∀ cause, readRepeats rest = .error cause →
        BuildFailure scope (.fault (grammarFault line cause)) := by
      intro cause unread
      exact reading cause (by rw [readRepeats_cons, mapError_eq_ok_iff.mp first, unread]; rfl)
    rcases bind_eq_error_iff.mp failed with second | ⟨⟨_, between⟩, _, failed⟩
    · exact failsOnly_resolveNames resolving _ built failure second
    · rcases bind_eq_error_iff.mp failed with third | ⟨_, _, behind⟩
      · exact inductionHypothesis readingRest between failure third
      · cases behind

/-- The arrangements on the path are different ones, so what is left of the depth suffices for those
that are not on it. -/
theorem failsOnly_build (depth : Nat)
    (within : ∀ other ∈ index :: path, other < scope.pending.length)
    (distinct : (index :: path).Nodup) (enough : scope.pending.length ≤ path.length + depth) :
    FailsOnly scope (build scope depth path index) := by
  induction depth generalizing path index with
  | zero =>
    have short := (List.subperm_of_subset distinct fun other member =>
      List.mem_range.mpr (within other member)).length_le
    rw [List.length_range, List.length_cons] at short
    omega
  | succ depth inductionHypothesis =>
    intro built failure failed
    unfold build at failed
    split at failed
    next => cases failed
    next =>
      split at failed
      next missing =>
        exact absurd (within index List.mem_cons_self)
          (Nat.not_lt.mpr (List.getElem?_eq_none_iff.mp missing))
      next pending found =>
        have resolving (word : String) : FailsOnly scope
            (resolve scope (index :: path) (build scope depth (index :: path)) word) := by
          refine failsOnly_resolve word fun target below apart => ?_
          refine inductionHypothesis (List.forall_mem_cons.mpr ⟨below, within⟩)
            (List.nodup_cons.mpr ⟨apart, distinct⟩) ?_
          rw [List.length_cons]
          omega
        rcases bind_eq_error_iff.mp failed with first | ⟨⟨lines, _⟩, _, failed⟩
        · exact failsOnly_resolveLines resolving
            (fun _ => .line (List.mem_of_getElem? found)) built failure first
        · rcases bind_eq_error_iff.mp failed with second | ⟨_, _, behind⟩
          · obtain rfl := eq_spanOverflow_of_assemble second
            exact .span
          · cases behind

theorem failsOnly_buildAll {indices : List Nat}
    (within : ∀ index ∈ indices, index < scope.pending.length) :
    FailsOnly scope (buildAll scope indices) := by
  induction indices with
  | nil => exact nofun
  | cons index rest inductionHypothesis =>
    obtain ⟨below, others⟩ := List.forall_mem_cons.mp within
    intro built failure failed
    rcases bind_eq_error_iff.mp failed with first | ⟨⟨_, between⟩, _, failed⟩
    · exact failsOnly_build _ (by simpa using below) (List.nodup_singleton index) (by simp) built
        failure first
    · rcases bind_eq_error_iff.mp failed with second | ⟨_, _, behind⟩
      · exact inductionHypothesis others between failure second
      · cases behind

/-- Resolving the references of a document fails for a time, or for an arrangement of the document
with a line that has no repeat. However the references lead in circles, it never runs out of
depth. -/
theorem buildFailure_of_resolveDrafts {drafts : List Draft} {failure : LoadFailure}
    (failed : resolveDrafts drafts = .error failure) :
    BuildFailure ⟨draftParts drafts, draftPending drafts⟩ failure := by
  rcases bind_eq_error_iff.mp failed with first | ⟨_, _, behind⟩
  · exact failsOnly_buildAll (fun _ => List.mem_range.mp) [] failure first
  · cases behind

end Failures

end Document

end StepSequencer
