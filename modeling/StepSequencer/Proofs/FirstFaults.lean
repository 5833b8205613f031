/-
This file says where the reading of a step line fails. A token gives at most one node and takes at
most the few tokens that belong to it, so nothing further behind matters for it. The reader comes to
a token when everything in front of it is accepted as if the line ended there. A line that fails,
fails at one token that the reader comes to, and for what stands directly behind that token.
-/

import StepSequencer.Proofs.Pitches

namespace StepSequencer

/-- A computation whose first step has succeeded goes on with the second. -/
theorem ok_bind {Fault First Second : Type} (value : First)
    (second : First → Except Fault Second) : (.ok value >>= second) = second value := rfl

section Avoiding

variable {Fault First Second : Type} {bad : Fault → Prop}

/-- Whether a computation that fails, fails for nothing bad. -/
def Avoids (bad : Fault → Prop) (result : Except Fault First) : Prop :=
  ∀ failure, result = .error failure → ¬ bad failure

theorem avoids_ok (value : First) : Avoids bad (.ok value : Except Fault First) := nofun

/-- A computation in two steps fails for nothing bad if neither step does. -/
theorem Avoids.bind {first : Except Fault First} {second : First → Except Fault Second}
    (avoids : Avoids bad first) (behind : ∀ value, Avoids bad (second value)) :
    Avoids bad (first >>= second) := by
  intro failure failed
  rcases bind_eq_error_iff.mp failed with here | ⟨value, _, later⟩
  · exact avoids failure here
  · exact behind value failure later

end Avoiding

namespace Notation

/-- A number fails for its digits. -/
theorem eq_invalidNumber_of_readNumber {bound : Nat} {digits : List Char}
    {failure : Failure SyntaxFault} (failed : readNumber bound digits = .error failure) :
    failure = .fault (.invalidNumber (String.ofList digits)) := by
  unfold readNumber at failed
  split at failed
  · cases failed
  · exact (Except.error.inj failed).symm

/-! ### One token -/

/-- What a token gives when some tokens stand behind it: the node that it starts, if it starts one,
and the number of tokens that the node takes of those behind. -/
def readToken : Token → List Token → Except (Failure SyntaxFault) (Option Node × Nat)
  | .illegal fault, _ => .error (.fault fault)
  | .number _, _ => .ok (none, 0)
  | .colon, _ => .ok (none, 0)
  | .note name, rest => do
    let octave ← readOctave name rest
    let hold ← readHold (rest.drop 1)
    let node ← checkNode ⟨.note name octave, hold⟩
    return (some node, 1 + holdLength hold)
  | .chord symbol, rest => do
    let tone ← readChord symbol
    let hold ← readHold rest
    let node ← checkNode ⟨tone, hold⟩
    return (some node, holdLength hold)

/-- The reader of a line reads its first token, and goes on behind what that has taken. -/
theorem nodesAfter_cons (token : Token) (rest : List Token) :
    nodesAfter 0 (token :: rest) = readToken token rest >>= fun read =>
      nodesAfter read.2 rest >>= fun nodes => .ok (read.1.toList ++ nodes) := by
  cases token with
  | illegal fault => rfl
  | number digits => exact (bind_pure _).symm
  | colon => exact (bind_pure _).symm
  | note name =>
    simp only [nodesAfter, readToken, bind_assoc]
    rfl
  | chord symbol =>
    simp only [nodesAfter, readToken, bind_assoc]
    rfl

section Behind

variable {front rest tail : List Token}

/-- Only a colon begins a hold. -/
theorem readHold_eq_none_iff : readHold rest = .ok none ↔ rest.head? ≠ some .colon := by
  match rest with
  | [] => exact iff_of_true rfl nofun
  | .colon :: .number digits :: _ =>
    refine iff_of_false (fun read => ?_) fun other => other rfl
    obtain ⟨_, _, read⟩ := bind_eq_ok_iff.mp read
    cases read
  | [.colon] | .colon :: .colon :: _ | .colon :: .note _ :: _ | .colon :: .chord _ :: _
  | .colon :: .illegal _ :: _ => exact iff_of_false nofun fun other => other rfl
  | .number _ :: _ | .note _ :: _ | .chord _ :: _ | .illegal _ :: _ => exact iff_of_true rfl nofun

theorem readHold_eq_some_iff {steps : Nat} : readHold rest = .ok (some steps) ↔
    ∃ digits more, rest = .colon :: .number digits :: more ∧
      readNumber (Nat.pow 2 32) digits = .ok steps := by
  constructor
  · intro read
    unfold readHold at read
    split at read
    next digits more =>
      obtain ⟨value, found, read⟩ := bind_eq_ok_iff.mp read
      obtain rfl := Option.some.inj (Except.ok.inj read)
      exact ⟨digits, more, rfl, found⟩
    next => cases read
    next => cases read
  · rintro ⟨digits, more, rfl, found⟩
    exact bind_eq_ok_iff.mpr ⟨steps, found, rfl⟩

theorem holdLength_le {hold : Option Nat} (read : readHold rest = .ok hold) :
    holdLength hold ≤ rest.length := by
  cases hold with
  | none => exact Nat.zero_le _
  | some steps =>
    obtain ⟨digits, more, rfl, _⟩ := readHold_eq_some_iff.mp read
    exact Nat.le_add_left 2 more.length

/-- What stands behind a hold does not matter for it, unless a colon makes one of what was none. -/
theorem readHold_append {hold : Option Nat} (read : readHold rest = .ok hold)
    (apart : tail.head? ≠ some .colon) : readHold (rest ++ tail) = .ok hold := by
  cases hold with
  | none =>
    have plain := readHold_eq_none_iff.mp read
    refine readHold_eq_none_iff.mpr ?_
    cases rest with
    | nil => exact apart
    | cons token _ => exact plain
  | some steps =>
    obtain ⟨digits, more, rfl, found⟩ := readHold_eq_some_iff.mp read
    exact readHold_eq_some_iff.mpr ⟨digits, more ++ tail, rfl, found⟩

/-- A hold is read from its own tokens. -/
theorem readHold_of_append {hold : Option Nat} (read : readHold (front ++ tail) = .ok hold)
    (enough : holdLength hold ≤ front.length) : readHold front = .ok hold := by
  cases hold with
  | none =>
    have plain := readHold_eq_none_iff.mp read
    refine readHold_eq_none_iff.mpr ?_
    cases front with
    | nil => exact nofun
    | cons token _ => exact plain
  | some steps =>
    obtain ⟨digits, more, split, found⟩ := readHold_eq_some_iff.mp read
    rcases front with _ | ⟨first, _ | ⟨second, others⟩⟩
    · cases enough
    · exact absurd enough (Nat.not_le.mpr (Nat.lt_succ_self 1))
    · simp only [List.cons_append, List.cons.injEq] at split
      obtain ⟨rfl, rfl, _⟩ := split
      exact readHold_eq_some_iff.mpr ⟨digits, others, rfl, found⟩

theorem readOctave_eq_ok_iff {name : PitchName} {octave : Nat} :
    readOctave name rest = .ok octave ↔
      ∃ digits more, rest = .number digits :: more ∧
        readNumber (Nat.pow 2 31) digits = .ok octave := by
  constructor
  · intro read
    unfold readOctave at read
    split at read
    next digits more => exact ⟨digits, more, rfl, read⟩
    next => cases read
  · rintro ⟨digits, more, rfl, found⟩
    exact found

variable {token : Token} {read : Option Node × Nat}

/-- A token that is read takes only tokens that are there. -/
theorem taken_le_of_readToken (done : readToken token rest = .ok read) :
    read.2 ≤ rest.length := by
  cases token with
  | illegal fault => cases done
  | number digits | colon =>
    obtain rfl := Except.ok.inj done
    exact Nat.zero_le _
  | note name =>
    obtain ⟨octave, octaveRead, done⟩ := bind_eq_ok_iff.mp done
    obtain ⟨hold, holdRead, done⟩ := bind_eq_ok_iff.mp done
    obtain ⟨node, _, done⟩ := bind_eq_ok_iff.mp done
    obtain rfl := Except.ok.inj done
    obtain ⟨digits, more, rfl, _⟩ := readOctave_eq_ok_iff.mp octaveRead
    rw [List.length_cons, Nat.add_comm]
    exact Nat.succ_le_succ (holdLength_le holdRead)
  | chord symbol =>
    obtain ⟨tone, _, done⟩ := bind_eq_ok_iff.mp done
    obtain ⟨hold, holdRead, done⟩ := bind_eq_ok_iff.mp done
    obtain ⟨node, _, done⟩ := bind_eq_ok_iff.mp done
    obtain rfl := Except.ok.inj done
    exact holdLength_le holdRead

/-- A token that is read is read alike whatever is added behind, unless that begins with a colon. -/
theorem readToken_append (done : readToken token rest = .ok read)
    (apart : tail.head? ≠ some .colon) : readToken token (rest ++ tail) = .ok read := by
  cases token with
  | illegal fault => cases done
  | number digits | colon => exact done
  | note name =>
    obtain ⟨octave, octaveRead, done⟩ := bind_eq_ok_iff.mp done
    obtain ⟨digits, more, rfl, number⟩ := readOctave_eq_ok_iff.mp octaveRead
    obtain ⟨hold, holdRead, done⟩ := bind_eq_ok_iff.mp done
    refine bind_eq_ok_iff.mpr ⟨octave, octaveRead, bind_eq_ok_iff.mpr ⟨hold, ?_, done⟩⟩
    exact readHold_append holdRead apart
  | chord symbol =>
    obtain ⟨tone, toneRead, done⟩ := bind_eq_ok_iff.mp done
    obtain ⟨hold, holdRead, done⟩ := bind_eq_ok_iff.mp done
    refine bind_eq_ok_iff.mpr ⟨tone, toneRead, bind_eq_ok_iff.mpr ⟨hold, ?_, done⟩⟩
    exact readHold_append holdRead apart

/-- A token is read from what it takes. -/
theorem readToken_of_append (done : readToken token (front ++ tail) = .ok read)
    (enough : read.2 ≤ front.length) : readToken token front = .ok read := by
  cases token with
  | illegal fault => cases done
  | number digits | colon => exact done
  | note name =>
    obtain ⟨octave, octaveRead, done⟩ := bind_eq_ok_iff.mp done
    obtain ⟨hold, holdRead, done⟩ := bind_eq_ok_iff.mp done
    obtain ⟨node, checked, done⟩ := bind_eq_ok_iff.mp done
    obtain rfl := Except.ok.inj done
    obtain ⟨digits, more, split, number⟩ := readOctave_eq_ok_iff.mp octaveRead
    cases front with
    | nil => exact absurd enough (by simp)
    | cons first others =>
      obtain ⟨rfl, rfl⟩ := List.cons.inj split
      have enoughBehind : holdLength hold ≤ others.length := by
        rw [List.length_cons, Nat.add_comm] at enough
        exact Nat.le_of_succ_le_succ enough
      refine bind_eq_ok_iff.mpr ⟨octave, ?_, bind_eq_ok_iff.mpr ⟨hold, ?_, ?_⟩⟩
      · exact readOctave_eq_ok_iff.mpr ⟨digits, others, rfl, number⟩
      · exact readHold_of_append holdRead enoughBehind
      · exact bind_eq_ok_iff.mpr ⟨node, checked, rfl⟩
  | chord symbol =>
    obtain ⟨tone, toneRead, done⟩ := bind_eq_ok_iff.mp done
    obtain ⟨hold, holdRead, done⟩ := bind_eq_ok_iff.mp done
    obtain ⟨node, checked, done⟩ := bind_eq_ok_iff.mp done
    obtain rfl := Except.ok.inj done
    refine bind_eq_ok_iff.mpr ⟨tone, toneRead, bind_eq_ok_iff.mpr ⟨hold, ?_, ?_⟩⟩
    · exact readHold_of_append holdRead enough
    · exact bind_eq_ok_iff.mpr ⟨node, checked, rfl⟩

/-! ### All tokens -/

/-- Behind tokens that are accepted, reading goes on as if it began there. -/
theorem nodesAfter_append {skip : Nat} {nodes : List Node}
    (accepted : nodesAfter skip front = .ok nodes) (within : skip ≤ front.length)
    (apart : tail.head? ≠ some .colon) :
    nodesAfter skip (front ++ tail) =
      nodesAfter 0 tail >>= fun more => .ok (nodes ++ more) := by
  induction front generalizing skip nodes with
  | nil =>
    obtain rfl := Nat.le_zero.mp within
    obtain rfl := Except.ok.inj accepted
    exact (bind_pure _).symm
  | cons token rest inductionHypothesis =>
    cases skip with
    | succ skip => exact inductionHypothesis accepted (Nat.le_of_succ_le_succ within)
    | zero =>
      rw [nodesAfter_cons] at accepted
      obtain ⟨read, done, accepted⟩ := bind_eq_ok_iff.mp accepted
      obtain ⟨others, behind, accepted⟩ := bind_eq_ok_iff.mp accepted
      obtain rfl := Except.ok.inj accepted
      rw [List.cons_append, nodesAfter_cons, readToken_append done apart]
      show (nodesAfter read.2 (rest ++ tail) >>= _) = _
      rw [inductionHypothesis behind (taken_le_of_readToken done), bind_assoc]
      simp only [List.append_assoc]
      rfl

/-- Reading fails at one token, and everything in front of it is accepted. -/
theorem exists_fault_of_nodesAfter {tokens : List Token} {skip : Nat}
    {failure : Failure SyntaxFault} (failed : nodesAfter skip tokens = .error failure) :
    ∃ front token rest nodes, tokens = front ++ token :: rest ∧ skip ≤ front.length ∧
      nodesAfter skip front = .ok nodes ∧ readToken token rest = .error failure := by
  induction tokens generalizing skip with
  | nil => cases skip <;> cases failed
  | cons token rest inductionHypothesis =>
    cases skip with
    | succ skip =>
      obtain ⟨front, other, behind, nodes, rfl, within, accepted, fails⟩ :=
        inductionHypothesis failed
      exact ⟨token :: front, other, behind, nodes, rfl, Nat.succ_le_succ within, accepted, fails⟩
    | zero =>
      rw [nodesAfter_cons] at failed
      rcases bind_eq_error_iff.mp failed with here | ⟨read, done, failed⟩
      · exact ⟨[], token, rest, [], rfl, Nat.le_refl 0, rfl, here⟩
      rcases bind_eq_error_iff.mp failed with later | ⟨_, _, failed⟩
      · obtain ⟨front, other, behind, nodes, rfl, within, accepted, fails⟩ :=
          inductionHypothesis later
        refine ⟨token :: front, other, behind, read.1.toList ++ nodes, rfl, Nat.zero_le _, ?_,
          fails⟩
        rw [nodesAfter_cons, readToken_of_append done within]
        exact bind_eq_ok_iff.mpr ⟨read, rfl, bind_eq_ok_iff.mpr ⟨nodes, accepted, rfl⟩⟩
      · cases failed

end Behind

/-! ### Lines -/

/-- Whether the reader of a line comes to a token with some tokens behind it: everything in front of
it is accepted. -/
def Reaches (line : List Char) (token : Token) (rest : List Token) : Prop :=
  ∃ front nodes, tokens line = front ++ token :: rest ∧ nodesAfter 0 front = .ok nodes

/-- A line fails for a token that its reader comes to, and for each of them that fails. -/
theorem readNodes_eq_error_iff {line : List Char} {failure : Failure SyntaxFault} :
    readNodes line = .error failure ↔
      ∃ token rest, Reaches line token rest ∧ readToken token rest = .error failure := by
  constructor
  · intro failed
    obtain ⟨front, token, rest, nodes, split, _, accepted, fails⟩ :=
      exists_fault_of_nodesAfter failed
    exact ⟨token, rest, ⟨front, nodes, split, accepted⟩, fails⟩
  · rintro ⟨token, rest, ⟨front, nodes, split, accepted⟩, fails⟩
    have apart : (token :: rest).head? ≠ some .colon := by
      rintro ⟨⟩
      cases fails
    rw [readNodes, split, nodesAfter_append accepted (Nat.zero_le _) apart, nodesAfter_cons, fails]
    rfl

end Notation

end StepSequencer
