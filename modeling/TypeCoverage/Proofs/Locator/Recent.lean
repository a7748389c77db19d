import Mathlib.Data.Finset.Card
import Mathlib.Data.List.Induction
import TypeCoverage.Locator

/-!
# The most recently used keys

The members of a list in the order of their last occurrence, the latest first, are
`recent`.  A member comes after those that occur behind its last occurrence
(`recent_of_last`), so that it is among the first few exactly if these are fewer
(`mem_take_recent_iff`).

A memo that holds the most recent keys of a list, as many as fit, goes on to do so when it is
touched under a further key (`Memo.keys_touch_of_recent`): although it has forgotten the older
ones, none of them could come back before it is touched again.
-/

namespace TypeCoverage

section

variable {α : Type} [DecidableEq α]

/-- The members of a list in the order of their last occurrence, the latest first. -/
def recent (l : List α) : List α := l.foldl (fun keys key => key :: keys.filter (· ≠ key)) []

theorem recent_concat (l : List α) (key : α) :
  recent (l ++ [key]) = key :: (recent l).filter (· ≠ key)
  := by
  rw [recent, List.foldl_append]
  rfl

theorem mem_recent {l : List α} {a : α} :
  a ∈ recent l ↔ a ∈ l
  := by
  induction l using List.reverseRecOn with
  | nil => exact Iff.rfl
  | append_singleton l key ih =>
    rw [recent_concat, List.mem_cons, List.mem_filter, ih, List.mem_append, List.mem_singleton]
    by_cases same : a = key <;> simp [same]

theorem nodup_recent (l : List α) :
  (recent l).Nodup
  := by
  induction l using List.reverseRecOn with
  | nil => exact List.nodup_nil
  | append_singleton l key ih =>
    rw [recent_concat, List.nodup_cons]
    exact ⟨by simp, ih.filter _⟩

theorem length_recent (l : List α) :
  (recent l).length = l.toFinset.card
  := by
  have same : (recent l).toFinset = l.toFinset := by
    ext a
    rw [List.mem_toFinset, List.mem_toFinset, mem_recent]
  rw [← same, List.toFinset_card_of_nodup (nodup_recent l)]

/-- Before a member stand those that occur behind its last occurrence. -/
theorem recent_of_last (before : List α) {key : α} {since : List α} (last : key ∉ since) :
  ∃ older, recent (before ++ key :: since) = recent since ++ key :: older
  := by
  induction since using List.reverseRecOn with
  | nil => exact ⟨_, recent_concat before key⟩
  | append_singleton since next ih =>
    rw [List.mem_append, List.mem_singleton, not_or] at last
    obtain ⟨older, same⟩ := ih last.1
    use older.filter (· ≠ next)
    rw [← List.cons_append, ← List.append_assoc, recent_concat, recent_concat, same,
      List.filter_append, List.filter_cons_of_pos (by simpa using last.2), List.cons_append]

/-- A member is among the first few if fewer others occur behind its last occurrence. -/
theorem mem_take_recent_iff {l : List α} {key : α} (n : ℕ) :
  key ∈ (recent l).take n ↔
    ∃ before since, l = before ++ key :: since ∧ key ∉ since ∧ since.toFinset.card < n
  := by
  have place {before since : List α} (last : key ∉ since) :
      key ∈ (recent (before ++ key :: since)).take n ↔ since.toFinset.card < n := by
    obtain ⟨older, same⟩ := recent_of_last before last
    have unseen : key ∉ recent since := mt mem_recent.mp last
    rw [same, ← length_recent]
    constructor
    · intro among
      by_contra! many
      rw [List.take_append_of_le_length many] at among
      apply unseen (List.mem_of_mem_take among)
    · intro few
      rw [List.take_append, List.take_cons (by omega)]
      apply List.mem_append_right _ List.mem_cons_self
  constructor
  · intro among
    obtain ⟨since, before, cut, last⟩ :=
      List.eq_append_cons_of_mem (List.mem_reverse.mpr (mem_recent.mp (List.mem_of_mem_take among)))
    have cut : l = before.reverse ++ key :: since.reverse := by
      rw [← List.reverse_reverse l, cut]
      simp
    rw [← List.mem_reverse] at last
    rw [cut] at among
    exact ⟨_, _, cut, last, (place last).mp among⟩
  · rintro ⟨before, since, rfl, last, few⟩
    apply (place last).mpr few

/-- One key can be removed from the front of a list in which no key stands twice. -/
theorem take_filter_take {l : List α} (nodup : l.Nodup) (key : α) (n : ℕ) :
  ((l.take (n + 1)).filter (· ≠ key)).take n = (l.filter (· ≠ key)).take n
  := by
  induction l generalizing n with
  | nil => rfl
  | cons first rest ih =>
    obtain ⟨fresh, nodup⟩ := List.nodup_cons.mp nodup
    rw [List.take_succ_cons]
    by_cases same : first = key
    · subst same
      have kept {l : List α} (others : first ∉ l) : l.filter (· ≠ first) = l := by
        rw [List.filter_eq_self]
        rintro a mem
        simpa using ne_of_mem_of_not_mem mem others
      rw [List.filter_cons_of_neg (by simp), List.filter_cons_of_neg (by simp), kept fresh,
        kept (mt List.mem_of_mem_take fresh), List.take_take, Nat.min_self]
    · rw [List.filter_cons_of_pos (by simpa using same),
        List.filter_cons_of_pos (by simpa using same)]
      cases n with
      | zero => rfl
      | succ n => rw [List.take_succ_cons, List.take_succ_cons, ih nodup]

end

namespace Memo

variable {m : Memo}

/-- The keys under which something is remembered, the most recently used first. -/
def keys (m : Memo) : List Key := m.entries.map (·.1)

theorem isSome_find?_iff {key : Key} :
  (m.find? key).isSome = true ↔ key ∈ m.keys
  := by
  rw [find?, List.lookup_isSome_iff, keys, List.mem_map]
  constructor
  · rintro ⟨entry, mem, same⟩
    exact ⟨entry, mem, (beq_iff_eq.mp same).symm⟩
  · rintro ⟨entry, mem, same⟩
    exact ⟨entry, mem, beq_iff_eq.mpr same.symm⟩

theorem keys_touch (m : Memo) (key : Key) (found : Option Path) :
  (m.touch key found).keys = (key :: m.keys.filter (· ≠ key)).take capacity
  := by
  have test : (fun entry : Key × Option Path => entry.1 != key) =
      (fun other => decide (other ≠ key)) ∘ Prod.fst := by
    funext entry
    by_cases same : entry.1 = key <;> simp [same]
  rw [touch, keys, keys, List.map_take, List.map_cons, List.filter_map, test]

/-- A memo that holds the most recent keys goes on to do so. -/
theorem keys_touch_of_recent {answered : List Key}
    (holds : m.keys = (recent answered).take capacity) (key : Key) (found : Option Path) :
  (m.touch key found).keys = (recent (answered ++ [key])).take capacity
  := by
  have some_room : capacity = 255 + 1 := rfl
  rw [keys_touch, holds, recent_concat, some_room, List.take_succ_cons, List.take_succ_cons,
    take_filter_take (nodup_recent answered)]

end Memo

end TypeCoverage
