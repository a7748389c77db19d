/-!
# Cuts of growing lists

A list of what has happened grows at its end.  A property of such a list often says how it
can be cut at an element.  `append_eq_cut_iff` says what the cuts of two lists together
are, and `concat_eq_cut_iff` what they are after one more element.  A list is cut in one way
only at the first element that lacks a property (`first_cut_unique`).
-/

namespace TypeCoverage

variable {α : Type}

/-- Two lists together are cut at an element of the first or of the second. -/
theorem append_eq_cut_iff {first second before later : List α} {x : α} :
  first ++ second = before ++ x :: later ↔
    (∃ rest, first = before ++ x :: rest ∧ later = rest ++ second) ∨
      ∃ rest, before = first ++ rest ∧ second = rest ++ x :: later
  := by
  rw [List.append_eq_append_iff]
  constructor
  · rintro (⟨rest, rfl, rfl⟩ | ⟨rest, rfl, same⟩)
    · apply Or.inr ⟨rest, rfl, rfl⟩
    · cases rest with
      | nil => apply Or.inr ⟨[], by simp, same.symm⟩
      | cons y rest =>
        obtain ⟨rfl, rfl⟩ := List.cons.inj same
        apply Or.inl ⟨rest, rfl, rfl⟩
  · rintro (⟨rest, rfl, rfl⟩ | ⟨rest, rfl, rfl⟩)
    · apply Or.inr ⟨x :: rest, rfl, rfl⟩
    · apply Or.inl ⟨rest, rfl, rfl⟩

/-- A list with one more element at its end is cut at this element, or where it was cut
without it. -/
theorem concat_eq_cut_iff {past before later : List α} {last x : α} :
  past ++ [last] = before ++ x :: later ↔
    (past = before ∧ last = x ∧ later = []) ∨
      ∃ rest, later = rest ++ [last] ∧ past = before ++ x :: rest
  := by
  rw [append_eq_cut_iff, or_comm]
  apply or_congr
  · constructor
    · rintro ⟨rest, rfl, same⟩
      obtain ⟨rfl, rfl, rfl⟩ : rest = [] ∧ last = x ∧ later = [] := by
        cases rest <;> simp_all
      exact ⟨by simp, rfl, rfl⟩
    · rintro ⟨rfl, rfl, rfl⟩
      exact ⟨[], by simp, rfl⟩
  · constructor
    · rintro ⟨rest, first, later⟩
      exact ⟨rest, later, first⟩
    · rintro ⟨rest, later, first⟩
      exact ⟨rest, first, later⟩

/-- There is only one first element that lacks a property. -/
theorem first_cut_unique {P : α → Prop} {before before' later later' : List α} {x x' : α}
    (all : ∀ y ∈ before, P y) (all' : ∀ y ∈ before', P y) (lacks : ¬ P x) (lacks' : ¬ P x')
    (same : before ++ x :: later = before' ++ x' :: later') :
  before = before' ∧ x = x' ∧ later = later'
  := by
  induction before generalizing before' with
  | nil =>
    cases before' with
    | nil => exact ⟨rfl, List.cons.inj same⟩
    | cons y before' =>
      obtain rfl := (List.cons.inj same).1
      exact absurd (all' x List.mem_cons_self) lacks
  | cons y before ih =>
    rw [List.forall_mem_cons] at all
    cases before' with
    | nil =>
      obtain rfl := (List.cons.inj same).1
      exact absurd all.1 lacks'
    | cons y' before' =>
      rw [List.forall_mem_cons] at all'
      obtain ⟨rfl, rest⟩ := List.cons.inj same
      obtain ⟨rfl, others⟩ := ih all.2 all'.2 rest
      exact ⟨rfl, others⟩

end TypeCoverage
