import Mathlib.Data.List.Basic

/-!
# The first of several faults

Where several things are wrong, the error told is that of the first of them.
The faults of a computation that follows another count only if that one has
none, so that the faults of both are told in a row.
-/

namespace Stencil

/-- An error is that of the first fault in a list that occurs at all. -/
inductive FirstFault {Failure : Type} :
    List (Failure → Prop) → Failure → Prop where
  | here
      {fault : Failure → Prop} {rest : List (Failure → Prop)}
      {error : Failure}
      (occurs : fault error) :
      FirstFault (fault :: rest) error
  | behind
      {fault : Failure → Prop} {rest : List (Failure → Prop)}
      {error : Failure}
      (absent : ∀ other, ¬fault other)
      (occurs : FirstFault rest error) :
      FirstFault (fault :: rest) error

section Precedence

variable
  {Failure Result Next : Type}
  {fault : Failure → Prop} {faults earlier later : List (Failure → Prop)}
  {error : Failure}

theorem firstFault_cons_iff :
    FirstFault (fault :: faults) error ↔
      fault error ∨ (∀ other, ¬fault other) ∧ FirstFault faults error := by
  constructor
  · intro first
    cases first with
    | here occurs => exact Or.inl occurs
    | behind absent occurs => exact Or.inr ⟨absent, occurs⟩
  · rintro (occurs | ⟨absent, occurs⟩)
    · exact .here occurs
    · exact .behind absent occurs

theorem firstFault_singleton_iff :
    FirstFault [fault] error ↔ fault error := by
  constructor
  · intro first
    cases first with
    | here occurs => exact occurs
    | behind _ occurs => cases occurs
  · exact .here

theorem exists_firstFault_iff :
    (∃ error, FirstFault faults error) ↔
      ∃ fault ∈ faults, ∃ error, fault error := by
  induction faults with
  | nil =>
      constructor
      · rintro ⟨error, ⟨⟩⟩
      · rintro ⟨fault, member, _⟩
        cases member
  | cons fault rest ih =>
      rw [List.exists_mem_cons_iff, ← ih]
      constructor
      · rintro ⟨error, first⟩
        rcases firstFault_cons_iff.mp first with occurs | ⟨_, occurs⟩
        · exact Or.inl ⟨error, occurs⟩
        · exact Or.inr ⟨error, occurs⟩
      · rintro (⟨error, occurs⟩ | ⟨error, first⟩)
        · exact ⟨error, .here occurs⟩
        · by_cases present : ∃ other, fault other
          · rcases present with ⟨other, occurs⟩
            exact ⟨other, .here occurs⟩
          · exact ⟨error, .behind (not_exists.mp present) first⟩

theorem firstFault_append_iff :
    FirstFault (earlier ++ later) error ↔
      FirstFault earlier error ∨
        (∀ other, ¬FirstFault earlier other) ∧ FirstFault later error := by
  induction earlier with
  | nil =>
      constructor
      · intro first
        exact Or.inr ⟨nofun, first⟩
      · rintro (impossible | ⟨_, first⟩)
        · cases impossible
        · exact first
  | cons fault rest ih =>
      have none_first :
          (∀ other, ¬FirstFault (fault :: rest) other) ↔
            (∀ other, ¬fault other) ∧ ∀ other, ¬FirstFault rest other := by
        simp only [firstFault_cons_iff]
        constructor
        · intro absent
          have first : ∀ other, ¬fault other :=
            fun other occurs => absent other (.inl occurs)
          exact
            ⟨first, fun other inside => absent other (.inr ⟨first, inside⟩)⟩
        · rintro ⟨first, inside⟩ other (occurs | ⟨_, occurs⟩)
          · exact first other occurs
          · exact inside other occurs
      rw [List.cons_append, firstFault_cons_iff, ih, none_first,
        firstFault_cons_iff]
      constructor
      · rintro (occurs | ⟨absent, inside | ⟨none_inside, outside⟩⟩)
        · exact Or.inl (.inl occurs)
        · exact Or.inl (.inr ⟨absent, inside⟩)
        · exact Or.inr ⟨⟨absent, none_inside⟩, outside⟩
      · rintro ((occurs | ⟨absent, inside⟩) |
          ⟨⟨absent, none_inside⟩, outside⟩)
        · exact Or.inl occurs
        · exact Or.inr ⟨absent, .inl inside⟩
        · exact Or.inr ⟨absent, .inr ⟨none_inside, outside⟩⟩

/-- Where one computation follows another, its faults follow those of the other. -/
theorem bind_eq_error_iff_firstFault
    {first : Except Failure Result} {next : Result → Except Failure Next}
    (fails : ∀ error, first = .error error ↔ FirstFault earlier error)
    (follows :
      ∀ result,
        first = .ok result →
          ∀ error, next result = .error error ↔ FirstFault later error)
    (error : Failure) :
    first.bind next = .error error ↔ FirstFault (earlier ++ later) error := by
  rw [firstFault_append_iff, ← fails error]
  cases outcome : first with
  | error cause =>
      have occurs : FirstFault earlier cause := (fails cause).mp outcome
      constructor
      · intro failed
        exact Or.inl (congrArg Except.error (Except.error.inj failed))
      · rintro (failed | ⟨none_occurs, _⟩)
        · exact congrArg Except.error (Except.error.inj failed)
        · exact absurd occurs (none_occurs cause)
  | ok result =>
      -- What succeeds has no fault of its own, so those of `next` count.
      have absent : ∀ other, ¬FirstFault earlier other := by
        intro other occurs
        have failed := (fails other).mpr occurs
        rw [outcome] at failed
        cases failed
      rw [← follows result outcome error]
      constructor
      · intro failed
        exact Or.inr ⟨absent, failed⟩
      · rintro (impossible | ⟨_, failed⟩)
        · cases impossible
        · exact failed

end Precedence

end Stencil
