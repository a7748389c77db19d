import TypeCoverage.Invocation.Running
import TypeCoverage.Ordered

/-!
# The table of running invocations

Each operation on the table is described by what can be looked up afterwards: the
invocation with a number (`Running.find?`) and the newest invocation with a key
(`Running.newest?`).  The table is kept in order (`Running.Tidy`): no key stands in it
twice, so that removing an entry uncovers no older one.
-/

namespace TypeCoverage.Running

/-- No key stands twice in the table of the newest invocations. -/
def Tidy (r : Running) : Prop := (r.newest.map (·.1)).Nodup

/-- Looking up a key passes over the pairs with other keys. -/
theorem lookup_cons_of_ne {key own : String} (other : key ≠ own) (id : Nat)
    (entries : List (String × Nat)) :
  ((own, id) :: entries).lookup key = entries.lookup key
  := by
  have test : (key == own) = false := beq_eq_false_iff_ne.mpr other
  simp only [List.lookup_cons, test]

theorem lookup_filter_fst_ne {κ ν : Type} [DecidableEq κ] {key own : κ} (other : key ≠ own)
    (entries : List (κ × ν)) :
  (entries.filter (·.1 ≠ own)).lookup key = entries.lookup key
  := by
  have dropped := Ordered.lookup_drop own key entries
  rw [if_neg other] at dropped
  rw [← dropped]
  rfl

/-- Removing the pairs with a value from a list without repeated keys makes exactly the
keys with this value unknown. -/
theorem lookup_filter_snd_ne {entries : List (String × Nat)} (nodup : (entries.map (·.1)).Nodup)
    (gone : Nat) (key : String) :
  (entries.filter (·.2 ≠ gone)).lookup key =
    if entries.lookup key = some gone then none else entries.lookup key
  := by
  induction entries with
  | nil => simp
  | cons head rest ih =>
    obtain ⟨own, id⟩ := head
    obtain ⟨fresh, nodup⟩ := List.nodup_cons.mp nodup
    have ih := ih nodup
    rw [List.filter_cons]
    by_cases same : key = own
    · subst same
      have absent : rest.lookup key = none := by
        rw [List.lookup_eq_none_iff]
        intro p mem
        have other : p.1 ≠ key := fun same => fresh (List.mem_map.mpr ⟨p, mem, same⟩)
        simpa using other.symm
      rw [absent] at ih
      by_cases removed : id = gone
      · simpa [removed] using ih
      · simp [removed]
    · rw [lookup_cons_of_ne same]
      split
      · rw [lookup_cons_of_ne same, ih]
      · rw [ih]

/-! ### The invocations -/

theorem find?_supersede (r : Running) (rival id : Nat) :
  (r.supersede rival).find? id =
    (r.find? id).map fun i => if i.id = rival then { i with superseded := true } else i
  := by
  rw [supersede, find?]
  rw [List.find?_map]
  congr 2
  funext i
  simp only [Function.comp_apply]
  split <;> rfl

theorem find?_remove (r : Running) (gone id : Nat) :
  (r.remove gone).find? id = if id = gone then none else r.find? id
  := by
  rw [remove, find?]
  rw [List.find?_filter]
  by_cases same : id = gone
  · rw [if_pos same, List.find?_eq_none]
    simp_all
  · rw [if_neg same]
    congr 1
    funext i
    by_cases h : i.id = id <;> simp_all

/-- The invocation with a number that a table finds has this number. -/
theorem id_of_find? {r : Running} {id : Nat} {i : Invocation} (h : r.find? id = some i) :
  i.id = id
  := by
  simpa using List.find?_some h

/-- The table in which the invocation that a call supersedes has been marked. -/
def markRival (r : Running) (call : Call) : Running :=
  match r.rival? call with
  | some rival => r.supersede rival
  | none => r

theorem find?_markRival (r : Running) (call : Call) (id : Nat) :
  (r.markRival call).find? id = (r.find? id).map fun i =>
    if r.rival? call = some id then { i with superseded := true } else i
  := by
  have named : ∀ i, r.find? id = some i → i.id = id := fun _ => id_of_find?
  rw [markRival]
  split
  · next rival h =>
    rw [find?_supersede]
    apply Option.map_congr
    intro i mem
    simp [h, named i (Option.mem_def.mp mem), eq_comm]
  · next h => simp [h]

/-- A call that is registered is found under its number; of the others, only the newest
with its key is marked. -/
theorem find?_register (r : Running) (new : Nat) (call : Call) (fresh : r.find? new = none)
    (id : Nat) :
  (r.register new call).find? id =
    if id = new then some { id := new, call := call }
    else (r.find? id).map fun i =>
      if r.rival? call = some id then { i with superseded := true } else i
  := by
  have split_find : (r.register new call).find? id =
      ((r.markRival call).find? id).or (if id = new then some ⟨new, call, false⟩ else none) := by
    rw [register, find?, markRival]
    rw [List.find?_append]
    congr 1
    by_cases same : id = new
    · simp [same]
    · simp [same, Ne.symm same]
  rw [split_find, find?_markRival]
  by_cases same : id = new
  · subst same
    simp [fresh]
  · simp [same]

/-! ### The newest invocation of a key -/

theorem newest_markRival (r : Running) (call : Call) :
  (r.markRival call).newest = r.newest
  := by
  rw [markRival]
  split <;> rfl

theorem newest_register (r : Running) (new : Nat) (call : Call) :
  (r.register new call).newest = (match call.uniqueKey with
    | some key => (key, new) :: r.newest.filter (·.1 ≠ key)
    | none => r.newest)
  := by
  rw [← newest_markRival r call]
  rfl

theorem newest?_register (r : Running) (new : Nat) (call : Call) (key : String) :
  (r.register new call).newest? key =
    if call.uniqueKey = some key then some new else r.newest? key
  := by
  unfold newest?
  rw [newest_register]
  split
  · next own h =>
    by_cases same : own = key
    · simp [h, same]
    · have other : key ≠ own := Ne.symm same
      rw [h, lookup_cons_of_ne other, lookup_filter_fst_ne other]
      simp [same]
  · next h => simp [h]

theorem newest?_remove {r : Running} (tidy : r.Tidy) (gone : Nat) (key : String) :
  (r.remove gone).newest? key =
    if r.newest? key = some gone then none else r.newest? key
  := lookup_filter_snd_ne tidy gone key

theorem tidy_register {r : Running} (tidy : r.Tidy) (new : Nat) (call : Call) :
  (r.register new call).Tidy
  := by
  rw [Tidy]
  rw [newest_register]
  split
  · next key _ =>
    rw [List.map_cons, List.nodup_cons]
    constructor
    · simp
    · apply tidy.sublist (List.filter_sublist.map _)
  · apply tidy

theorem tidy_remove {r : Running} (tidy : r.Tidy) (gone : Nat) :
  (r.remove gone).Tidy
  := tidy.sublist (List.filter_sublist.map _)

/-- A table in which nothing can be looked up is empty. -/
theorem eq_empty {r : Running} (find : ∀ id, r.find? id = none)
    (newest : ∀ key, r.newest? key = none) :
  r = empty
  := by
  obtain ⟨entries, invocations⟩ := r
  have no_entry : entries = [] := by
    cases entries with
    | nil => rfl
    | cons head _ => simpa [newest?] using newest head.1
  have no_invocation : invocations = [] := by
    cases invocations with
    | nil => rfl
    | cons head _ => simpa [find?] using find head.id
  rw [no_entry, no_invocation]
  rfl

end TypeCoverage.Running
