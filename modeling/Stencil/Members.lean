/-!
# Members

Named entries in the order in which their names were first written.  Objects of
documents and registries are kept this way: writing a name that is present
replaces its entry in place, and a new name comes last.  The main statements say
that a written name is found and every other name is left as it was.
-/

namespace Stencil

/-- Named entries, in order. -/
abbrev Members (Entry : Type) := List (String × Entry)

namespace Members

/-- Write an entry: a present name keeps its place, and a new one comes last. -/
def put {Entry : Type} (name : String) (entry : Entry) : Members Entry → Members Entry
  | [] => [(name, entry)]
  | (other, held) :: rest =>
    if other = name then (name, entry) :: rest
    else (other, held) :: put name entry rest

/-- The entries written one after the other. -/
def gather {Entry : Type} (written : List (String × Entry)) : Members Entry :=
  written.foldl (fun members next => put next.1 next.2 members) []

@[simp]
theorem lookup_put_self
    {Entry : Type}
    (name : String)
    (entry : Entry)
    (members : Members Entry) :
    (put name entry members).lookup name = some entry := by
  induction members with
  | nil => simp [put]
  | cons first rest hypothesis =>
    obtain ⟨other, held⟩ := first
    by_cases equality : other = name
    · simp [put, equality]
    · have distinct : (name == other) = false := by simpa using Ne.symm equality
      simp [put, equality, List.lookup_cons, distinct, hypothesis]

theorem lookup_put_of_ne
    {Entry : Type}
    {name other : String}
    (distinct : other ≠ name)
    (entry : Entry)
    (members : Members Entry) :
    (put name entry members).lookup other = members.lookup other := by
  induction members with
  | nil =>
    have different : (other == name) = false := by simpa using distinct
    simp [put, List.lookup_cons, different]
  | cons first rest hypothesis =>
    obtain ⟨present, held⟩ := first
    by_cases equality : present = name
    · subst equality
      have different : (other == present) = false := by simpa using distinct
      simp [put, List.lookup_cons, different]
    · simp [put, equality, List.lookup_cons, hypothesis]

end Members

end Stencil
