import TypeCoverage.Settings.Layers

/-!
# Laying one table over another

A table of settings may spell a field in two ways and more than once; the last spelling
counts (`Gives`), and one that has none leaves the field alone (`Misses`).  Laid over
another table it gives a field what it gives itself, or else what the other one does
(`lookup_overlay_of_gives`, `lookup_overlay_of_misses`), under the name of the field, and
keeps the keys that spell none (`mem_keys_overlay`).
-/

namespace TypeCoverage

open Settings (fieldKey overlay)

namespace Ordered

variable {α β : Type} [DecidableEq α]

theorem mem_keys_put (key other : α) (value : β) (entries : List (α × β)) :
  other ∈ (put key value entries).map (·.1) ↔ other = key ∨ other ∈ entries.map (·.1)
  := by
  induction entries with
  | nil => simp [put]
  | cons head rest ih =>
    obtain ⟨k, v⟩ := head
    rw [put]
    split
    · next same => simp [same]
    · rw [List.map_cons, List.mem_cons, ih, List.map_cons, List.mem_cons]
      exact or_left_comm

end Ordered

namespace Field

/-- A key that spells a field: its name, or its second spelling. -/
def SpelledBy (f : Field) (key : String) : Prop := key = f.name ∨ key = f.camelName

theorem name_injective {f g : Field} (same : f.name = g.name) :
  f = g
  := by
  have found := ofName?_name f
  rw [same, ofName?_name g] at found
  exact (Option.some.inj found).symm

theorem fieldKey_name (f : Field) :
  fieldKey f.name = f.name
  := by
  cases f <;> decide

theorem fieldKey_camelName (f : Field) :
  fieldKey f.camelName = f.name
  := by
  cases f <;> decide

/-- A key is brought to the name of the field that it spells. -/
theorem fieldKey_eq_name_iff {f : Field} {key : String} :
  fieldKey key = f.name ↔ f.SpelledBy key
  := by
  constructor
  · intro same
    rw [fieldKey] at same
    split at same
    · next g found =>
      obtain rfl : g = f := name_injective same
      have camel : g.camelName = key := by simpa using List.find?_some found
      exact .inr camel.symm
    · exact .inl same
  · rintro (rfl | rfl)
    · apply fieldKey_name
    · apply fieldKey_camelName

/-- The name of a field spells this field only. -/
theorem spelledBy_name_iff {f g : Field} :
  f.SpelledBy g.name ↔ g = f
  := by
  rw [← fieldKey_eq_name_iff, fieldKey_name]
  constructor
  · apply name_injective
  · rintro rfl
    rfl

/-- A key that spells no field is left as it is. -/
theorem fieldKey_of_unknown {key : String} (unknown : ∀ f : Field, ¬ f.SpelledBy key) :
  fieldKey key = key
  := by
  rw [fieldKey]
  split
  · next g found =>
    have camel : g.camelName = key := by simpa using List.find?_some found
    exact absurd (.inr camel.symm) (unknown g)
  · rfl

end Field

namespace Settings

/-- A table that does not define a field. -/
def Misses (members : Members) (f : Field) : Prop := ∀ m ∈ members, ¬ f.SpelledBy m.1

/-- A table that gives a field a value: the value of the last of its keys that spell the
field. -/
def Gives (members : Members) (f : Field) (d : Datum) : Prop :=
  ∃ before key after, members = before ++ (key, d) :: after ∧ f.SpelledBy key ∧ Misses after f

theorem misses_or_gives (members : Members) (f : Field) :
  Misses members f ∨ ∃ d, Gives members f d
  := by
  induction members with
  | nil => exact .inl (by simp [Misses])
  | cons m members ih =>
    obtain missing | ⟨d, before, key, after, rfl, spelled, last⟩ := ih
    · by_cases spelled : f.SpelledBy m.1
      · exact .inr ⟨m.2, [], m.1, members, rfl, spelled, missing⟩
      · apply Or.inl
        rintro m' (_ | ⟨_, mem⟩)
        · exact spelled
        · exact missing m' mem
    · exact .inr ⟨d, m :: before, key, after, rfl, spelled, last⟩

theorem Misses.cons {f g : Field} {d : Datum} {members : Members} (missing : Misses members f)
    (other : g ≠ f) :
  Misses ((g.name, d) :: members) f
  := by
  rintro m (_ | ⟨_, mem⟩)
  · rw [Field.spelledBy_name_iff]
    exact other
  · exact missing m mem

theorem Gives.cons {f : Field} {d : Datum} {members : Members} (gives : Gives members f d)
    (m : String × Datum) :
  Gives (m :: members) f d
  := by
  obtain ⟨before, key, after, rfl, spelled, last⟩ := gives
  exact ⟨m :: before, key, after, rfl, spelled, last⟩

theorem overlay_append (below first second : Members) :
  overlay below (first ++ second) = overlay (overlay below first) second
  := List.foldl_append

theorem lookup_overlay_of_misses {layer : Members} {f : Field} (missing : Misses layer f)
    (below : Members) :
  (overlay below layer).lookup f.name = below.lookup f.name
  := by
  induction layer generalizing below with
  | nil => rfl
  | cons m layer ih =>
    obtain ⟨key, d⟩ := m
    have other : f.name ≠ fieldKey key := by
      intro same
      apply missing (key, d) List.mem_cons_self
      exact Field.fieldKey_eq_name_iff.mp same.symm
    change (overlay (Ordered.put (fieldKey key) d below) layer).lookup f.name = _
    rw [ih fun m mem => missing m (List.mem_cons_of_mem _ mem), Ordered.lookup_put, if_neg other]

theorem lookup_overlay_of_gives {layer : Members} {f : Field} {d : Datum}
    (gives : Gives layer f d) (below : Members) :
  (overlay below layer).lookup f.name = some d
  := by
  obtain ⟨before, key, after, rfl, spelled, last⟩ := gives
  rw [overlay_append]
  change (overlay (Ordered.put (fieldKey key) d (overlay below before)) after).lookup f.name = _
  rw [lookup_overlay_of_misses last, Field.fieldKey_eq_name_iff.mpr spelled, Ordered.lookup_put,
    if_pos rfl]

theorem mem_keys_overlay {below layer : Members} {key : String} :
  key ∈ (overlay below layer).map (·.1) ↔
    key ∈ below.map (·.1) ∨ ∃ m ∈ layer, fieldKey m.1 = key
  := by
  induction layer generalizing below with
  | nil => simp [overlay]
  | cons m layer ih =>
    change key ∈ (overlay (Ordered.put (fieldKey m.1) m.2 below) layer).map (·.1) ↔ _
    rw [ih, Ordered.mem_keys_put]
    simp only [List.mem_cons, exists_eq_or_imp]
    rw [eq_comm, or_assoc, or_left_comm]

end Settings

end TypeCoverage
