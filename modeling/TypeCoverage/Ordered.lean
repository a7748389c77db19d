/-!
# Lists of pairs in order of insertion

`put` gives a key a value: a key that is there keeps its place, and a new one goes to the
end.  `drop` removes a key.  `lookup_put` and `lookup_drop` say what is found afterwards, and
`map_fst_put` and `map_fst_drop` in which order the keys then stand.
-/

namespace TypeCoverage.Ordered

variable {α β : Type} [DecidableEq α]

/-- Gives a key a value, in its place or at the end. -/
def put (key : α) (value : β) : List (α × β) → List (α × β)
  | [] => [(key, value)]
  | (k, v) :: rest => if k = key then (k, value) :: rest else (k, v) :: put key value rest

/-- Removes a key. -/
def drop (key : α) (entries : List (α × β)) : List (α × β) :=
  entries.filter fun (k, _) => k ≠ key

theorem lookup_put (key other : α) (value : β) (entries : List (α × β)) :
  (put key value entries).lookup other = if other = key then some value else entries.lookup other
  := by
  induction entries with
  | nil => grind [put]
  | cons head rest ih =>
    obtain ⟨k, v⟩ := head
    grind [put]

theorem lookup_drop (key other : α) (entries : List (α × β)) :
  (drop key entries).lookup other = if other = key then none else entries.lookup other
  := by
  induction entries with
  | nil => simp [drop]
  | cons head rest ih =>
    obtain ⟨k, v⟩ := head
    grind [drop]

/-- A key that is there keeps its place, and a new one goes to the end. -/
theorem map_fst_put (key : α) (value : β) (entries : List (α × β)) :
  (put key value entries).map (·.1) =
    if key ∈ entries.map (·.1) then entries.map (·.1) else entries.map (·.1) ++ [key]
  := by
  induction entries with
  | nil => rfl
  | cons head rest ih =>
    obtain ⟨k, v⟩ := head
    by_cases same : k = key
    · simp [put, same]
    · have other : key ≠ k := Ne.symm same
      rw [put, if_neg same, List.map_cons, ih, List.map_cons]
      simp only [List.mem_cons, other, false_or]
      split <;> rfl

theorem map_fst_drop (key : α) (entries : List (α × β)) :
  (drop key entries).map (·.1) = (entries.map (·.1)).filter (· ≠ key)
  := by
  rw [drop, List.filter_map]
  rfl

end TypeCoverage.Ordered
