/-
This file looks keys up in lists of entries. Headers, receivers and subscribers are such lists: the
first entry of a key counts, and a key is taken back by leaving its entries out.
-/

namespace StepSequencer

variable {Entry : Type}

/-- Without its entries nothing is found under a key, and under all others what was found before. -/
theorem find?_filter_key (entries : List (String × Entry)) (key other : String) :
    ((entries.filter fun entry => entry.1 != key).find? fun entry => entry.1 == other) =
      if other = key then none else entries.find? fun entry => entry.1 == other := by
  rw [List.find?_filter]
  split
  next same =>
    subst same
    exact List.find?_eq_none.mpr fun entry _ both => by simp at both
  next apart =>
    congr 1
    funext entry
    by_cases same : entry.1 = other
    · simp [same, apart]
    · simp [same]

/-- An entry in front of others hides those of its key. -/
theorem find?_cons_key (entries : List (String × Entry)) (key other : String) (value : Entry) :
    (((key, value) :: entries).find? fun entry => entry.1 == other) =
      if other = key then some (key, value) else entries.find? fun entry => entry.1 == other := by
  rw [List.find?_cons]
  by_cases same : other = key
  · simp [same]
  · rw [if_neg same, beq_eq_false_iff_ne.mpr (Ne.symm same)]

end StepSequencer
