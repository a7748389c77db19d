import TypeCoverage.Proofs.Locator.Recent

/-!
# Lookups in sequence

A locator looks names up in a tree that may change, and forgets all that it remembers when it
is told to (`Locator.Operation`).  Each operation makes at most one lookup.  The `visits` of a
run record what each lookup found in the memo and what it came to, and from them it can be
read off what is remembered: a key is `Fresh` if it has been answered since the memo was last
cleared, and fewer than 256 other keys after it.

`Follows` says how the memo follows from the visits, and every operation keeps it
(`Follows.perform`).  Hence each lookup comes to what the walk upward came to when the key was
last missed (`Exact`), and as long as the tree does not change the memo makes no difference.
-/

namespace TypeCoverage.Locator

/-- Something that is done to a locator. -/
inductive Operation where
  | find (start name : String)
  | project (start : String)
  /-- The program of the checker is asked for, of which one may be configured. -/
  | resolve (start configured : String)
  /-- Entries of the tree are made or removed. -/
  | change (tree : FileTree)
  | clear

/-- What an operation answers. -/
inductive Answer where
  | found (result : Except Failure (Option Path))
  | program (executable : String)
  | nothing

/-- The tree that is searched, and what is remembered. -/
structure State where
  tree : FileTree
  memo : Memo := .empty

/-- What a locator answers to an operation, and the locator after it. -/
def State.perform (s : State) : Operation → Answer × State
  | .find start name =>
    let (result, memo) := findUpward s.tree s.memo start name
    (.found result, { s with memo := memo })
  | .project start =>
    let (result, memo) := findProject s.tree s.memo start
    (.found result, { s with memo := memo })
  | .resolve start configured =>
    let (executable, memo) := resolveExecutable s.tree s.memo start configured
    (.program executable, { s with memo := memo })
  | .change tree => (.nothing, { s with tree := tree })
  | .clear => (.nothing, { s with memo := .empty })

/-- A locator after some operations. -/
def State.run (s : State) (operations : List Operation) : State :=
  operations.foldl (fun s operation => (s.perform operation).2) s

namespace Operation

/-- The key that an operation looks up. -/
def key? : Operation → Option Memo.Key
  | .find start name => some ⟨start, name⟩
  | .project start => some ⟨start, projectMarker⟩
  | .resolve start configured => if configured ≠ "" then none else some ⟨start, localBinary⟩
  | .change _ | .clear => none

/-- What an operation answers that looks a key up with a result. -/
def answer (result : Except Failure (Option Path)) : Operation → Answer
  | .find .. | .project _ => .found result
  | .resolve .. =>
    match result with
    | .ok (some path) => .program path.text
    | _ => .program defaultExecutable
  | .change _ | .clear => .nothing

end Operation

/-- A lookup of a key: the tree in which it is made, whether the key is remembered, and the
result. -/
structure Lookup where
  key : Memo.Key
  tree : FileTree
  remembered : Bool
  result : Except Failure (Option Path)

/-- The walk through the tree of a lookup, without a memo. -/
def Lookup.walk (l : Lookup) : Except Failure (Option Path) :=
  walkUpward l.tree l.key.start l.key.name

/-- An operation with the lookup that it makes. -/
structure Visit where
  operation : Operation
  lookup? : Option Lookup

namespace State

/-- The lookup of a key. -/
def lookup (s : State) (key : Memo.Key) : Lookup :=
  ⟨key, s.tree, (s.memo.find? key).isSome, (findUpward s.tree s.memo key.start key.name).1⟩

/-- An operation on a locator with the lookup that it makes. -/
def visit (s : State) (operation : Operation) : Visit := ⟨operation, operation.key?.map s.lookup⟩

/-- Some operations with the lookups that they make. -/
def visits (s : State) : List Operation → List Visit
  | [] => []
  | operation :: operations => s.visit operation :: (s.perform operation).2.visits operations

theorem run_concat (s : State) (past : List Operation) (operation : Operation) :
  s.run (past ++ [operation]) = ((s.run past).perform operation).2
  := by
  rw [run, List.foldl_append]
  rfl

theorem visits_concat (s : State) (past : List Operation) (operation : Operation) :
  s.visits (past ++ [operation]) = s.visits past ++ [(s.run past).visit operation]
  := by
  induction past generalizing s with
  | nil => rfl
  | cons first past ih =>
    rw [List.cons_append, visits, visits, ih]
    rfl

/-- An operation answers what its lookup comes to. -/
theorem perform_of_key (s : State) {operation : Operation} {key : Memo.Key}
    (keyed : operation.key? = some key) :
  s.perform operation = (operation.answer (s.lookup key).result,
    { s with memo := (findUpward s.tree s.memo key.start key.name).2 })
  := by
  cases operation with
  | find start name =>
    obtain rfl := Option.some.inj keyed
    rfl
  | project start =>
    obtain rfl := Option.some.inj keyed
    rfl
  | resolve start configured =>
    rw [Operation.key?] at keyed
    split at keyed
    · contradiction
    · next unconfigured =>
      obtain rfl := Option.some.inj keyed
      rw [perform, resolveExecutable, if_neg unconfigured, lookup]
      rcases findUpward s.tree s.memo start localBinary with ⟨_ | _ | path, m⟩ <;> rfl
  | change tree => contradiction
  | clear => contradiction

/-- An operation that looks nothing up leaves the memo as it is, unless it clears it. -/
theorem memo_perform (s : State) {operation : Operation} (unkeyed : operation.key? = none)
    (kept : operation ≠ .clear) :
  (s.perform operation).2.memo = s.memo
  := by
  cases operation with
  | resolve start configured =>
    rw [Operation.key?] at unkeyed
    split at unkeyed
    · next named => rw [perform, resolveExecutable, if_pos named]
    · contradiction
  | change tree => rfl
  | clear => contradiction
  | _ => contradiction

/-- A lookup is answered from the memo, or by a walk which the memo keeps unless it fails. -/
theorem findUpward_cases (s : State) (key : Memo.Key) :
  (∃ found, s.memo.find? key = some found ∧ s.lookup key = ⟨key, s.tree, true, .ok found⟩ ∧
    (findUpward s.tree s.memo key.start key.name).2 = s.memo.touch key found) ∨
  (∃ found, s.lookup key = ⟨key, s.tree, false, .ok found⟩ ∧
    (s.lookup key).walk = .ok found ∧
    (findUpward s.tree s.memo key.start key.name).2 = s.memo.touch key found) ∨
  (∃ why, s.memo.find? key = none ∧ s.lookup key = ⟨key, s.tree, false, .error why⟩ ∧
    (s.lookup key).walk = .error why ∧
    (findUpward s.tree s.memo key.start key.name).2 = s.memo)
  := by
  have own : (⟨key.start, key.name⟩ : Memo.Key) = key := rfl
  rw [lookup, Lookup.walk, findUpward]
  simp only [own]
  rcases s.memo.find? key with _ | found
  · rcases walkUpward s.tree key.start key.name with why | found
    · exact .inr (.inr ⟨why, rfl, rfl, rfl, rfl⟩)
    · exact .inr (.inl ⟨found, rfl, rfl, rfl⟩)
  · exact .inl ⟨found, rfl, rfl, rfl⟩

end State

/-! ### What the visits tell -/

/-- The key that a lookup answers, unless it fails. -/
def Lookup.answers? (l : Lookup) : Option Memo.Key := l.result.toOption.map fun _ => l.key

/-- The keys that have been answered since the memo was last cleared, the latest last. -/
def answered (past : List Visit) : List Memo.Key :=
  past.foldl (fun keys v => match v.operation with
    | .clear => []
    | _ => keys ++ (v.lookup?.bind Lookup.answers?).toList) []

/-- A key has been answered since the memo was last cleared, and after it fewer others than the
memo can hold. -/
def Fresh (past : List Visit) (key : Memo.Key) : Prop :=
  ∃ before since, answered past = before ++ key :: since ∧ key ∉ since ∧
    since.toFinset.card < 256

/-- A lookup is the most recent one of its key that was not answered from the memo. -/
def LastMiss (past : List Visit) (miss : Lookup) : Prop :=
  miss.remembered = false ∧ ∃ before v since, past = before ++ v :: since ∧
    v.lookup? = some miss ∧ ∀ later ∈ since, ∀ l, later.lookup? = some l → l.key = miss.key →
      l.remembered = true

theorem answered_concat (past : List Visit) {v : Visit} (kept : v.operation ≠ .clear) :
  answered (past ++ [v]) = answered past ++ (v.lookup?.bind Lookup.answers?).toList
  := by
  rw [answered, List.foldl_append, ← answered, List.foldl_cons, List.foldl_nil]
  split
  · contradiction
  · rfl

theorem answered_clear (past : List Visit) {v : Visit} (clears : v.operation = .clear) :
  answered (past ++ [v]) = []
  := by
  rw [answered, List.foldl_append, List.foldl_cons, List.foldl_nil, clears]

/-- A lookup that is not answered from the memo is the most recent one. -/
theorem LastMiss.now (past : List Visit) {v : Visit} {miss : Lookup}
    (looks : v.lookup? = some miss) (missed : miss.remembered = false) :
  LastMiss (past ++ [v]) miss
  := ⟨missed, past, v, [], rfl, looks, by simp⟩

/-- The most recent miss of a key stays so until the key is missed again. -/
theorem LastMiss.later {past : List Visit} {miss : Lookup} (h : LastMiss past miss) {v : Visit}
    (spared : ∀ l, v.lookup? = some l → l.key = miss.key → l.remembered = true) :
  LastMiss (past ++ [v]) miss
  := by
  obtain ⟨missed, before, w, since, rfl, looks, hits⟩ := h
  refine ⟨missed, before, w, since ++ [v], by simp, looks, ?_⟩
  intro later mem
  rcases List.mem_append.mp mem with old | new
  · apply hits later old
  · rw [List.mem_singleton.mp new]
    apply spared

/-! ### The memo follows from the visits -/

/-- How the memo follows from the visits so far. -/
structure Follows (past : List Visit) (m : Memo) : Prop where
  /-- It holds the most recently answered keys. -/
  recent : m.keys = (recent (answered past)).take Memo.capacity
  /-- What it holds was found when the key was last missed. -/
  stored : ∀ key found, (key, found) ∈ m.entries →
    ∃ miss, LastMiss past miss ∧ miss.key = key ∧ miss.walk = .ok found

namespace Follows

variable {past : List Visit}

theorem begin : Follows [] .empty where
  recent := rfl
  stored key found mem := by contradiction

theorem fresh_iff {m : Memo} (h : Follows past m) (key : Memo.Key) :
  (m.find? key).isSome = true ↔ Fresh past key
  := by
  rw [Memo.isSome_find?_iff, h.recent, mem_take_recent_iff]
  apply Iff.rfl

/-- What is remembered was found when the key was last missed. -/
theorem walk_of_remembered {m : Memo} (h : Follows past m) {key : Memo.Key} {found : Option Path}
    (remembered : m.find? key = some found) :
  ∃ miss, LastMiss past miss ∧ miss.key = key ∧ miss.walk = .ok found
  := by
  obtain ⟨before, after, same, -⟩ := List.lookup_eq_some_iff.mp remembered
  apply h.stored
  rw [same]
  apply List.mem_append_right _ List.mem_cons_self

/-- Clearing the memo makes it follow anew. -/
theorem clear (past : List Visit) {v : Visit} (clears : v.operation = .clear) :
  Follows (past ++ [v]) .empty
  where
  recent := by
    rw [answered_clear past clears]
    rfl
  stored key found mem := by contradiction

/-- An operation that answers no key, and does not clear the memo, changes nothing. -/
theorem idle {m : Memo} (h : Follows past m) {v : Visit} (kept : v.operation ≠ .clear)
    (unanswered : v.lookup?.bind Lookup.answers? = none)
    (unknown : ∀ l, v.lookup? = some l → m.find? l.key = none) :
  Follows (past ++ [v]) m
  where
  recent := by
    rw [answered_concat past kept, unanswered, Option.toList_none, List.append_nil]
    apply h.recent
  stored key found mem := by
    obtain ⟨miss, last, same, walk⟩ := h.stored key found mem
    refine ⟨miss, last.later ?_, same, walk⟩
    intro l looks own
    have held : (m.find? l.key).isSome = true := by
      rw [own, same, Memo.isSome_find?_iff]
      apply List.mem_map_of_mem mem
    rw [unknown l looks] at held
    contradiction

/-- A key that is answered becomes the most recently used one. -/
theorem touch {m : Memo} (h : Follows past m) {v : Visit} {l : Lookup} {found : Option Path}
    (kept : v.operation ≠ .clear) (looks : v.lookup? = some l) (answers : l.result = .ok found)
    (own : ∃ miss, LastMiss (past ++ [v]) miss ∧ miss.key = l.key ∧ miss.walk = .ok found) :
  Follows (past ++ [v]) (m.touch l.key found)
  where
  recent := by
    have answered : v.lookup?.bind Lookup.answers? = some l.key := by
      rw [looks, Option.bind_some, Lookup.answers?, answers]
      rfl
    rw [answered_concat past kept, answered, Option.toList_some]
    apply Memo.keys_touch_of_recent h.recent l.key found
  stored key other mem := by
    rcases List.mem_cons.mp (List.mem_of_mem_take mem) with new | old
    · obtain ⟨rfl, rfl⟩ := Prod.mk.inj new
      apply own
    · obtain ⟨old, differs⟩ := List.mem_filter.mp old
      obtain ⟨miss, last, same, walk⟩ := h.stored key other old
      refine ⟨miss, last.later ?_, same, walk⟩
      intro l' looks' own'
      obtain rfl := Option.some.inj (looks.symm.trans looks')
      rw [own', same, bne_self_eq_false] at differs
      contradiction

/-- A lookup comes to what the walk came to when its key was last missed. -/
theorem exists_lastMiss {s : State} (h : Follows past s.memo) {operation : Operation}
    {key : Memo.Key} (keyed : operation.key? = some key) :
  ∃ miss, LastMiss (past ++ [s.visit operation]) miss ∧ miss.key = key ∧
    miss.walk = (s.lookup key).result
  := by
  have looks : (s.visit operation).lookup? = some (s.lookup key) := by
    rw [State.visit, keyed]
    rfl
  rcases s.findUpward_cases key with
    ⟨found, remembered, same, -⟩ | ⟨found, same, walk, -⟩ | ⟨why, -, same, walk, -⟩
  · obtain ⟨miss, last, own, walk⟩ := h.walk_of_remembered remembered
    refine ⟨miss, last.later ?_, own, by rw [walk, same]⟩
    intro l looks' _
    obtain rfl := Option.some.inj (looks.symm.trans looks')
    rw [same]
  · exact ⟨_, LastMiss.now past looks (by rw [same]), rfl, by rw [walk, same]⟩
  · exact ⟨_, LastMiss.now past looks (by rw [same]), rfl, by rw [walk, same]⟩

/-- Every operation keeps the memo following. -/
theorem perform {s : State} (h : Follows past s.memo) (operation : Operation) :
  Follows (past ++ [s.visit operation]) (s.perform operation).2.memo
  := by
  rcases keyed : operation.key? with _ | key
  · have nothing : (s.visit operation).lookup? = none := by rw [State.visit, keyed]; rfl
    by_cases clears : operation = .clear
    · subst clears
      apply clear past rfl
    · rw [s.memo_perform keyed clears]
      apply h.idle clears <;> simp [nothing]
  · have looks : (s.visit operation).lookup? = some (s.lookup key) := by
      rw [State.visit, keyed]
      rfl
    have kept : (s.visit operation).operation ≠ .clear := by
      rintro clears
      rw [show operation = .clear from clears] at keyed
      contradiction
    rw [s.perform_of_key keyed]
    rcases s.findUpward_cases key with
      ⟨found, remembered, same, memo⟩ | ⟨found, same, walk, memo⟩ | ⟨why, missed, same, -, memo⟩
    · rw [memo]
      apply h.touch kept looks (by rw [same])
      obtain ⟨miss, last, own, came⟩ := h.exists_lastMiss keyed
      exact ⟨miss, last, own, by rw [came, same]⟩
    · rw [memo]
      apply h.touch kept looks (by rw [same])
      obtain ⟨miss, last, own, came⟩ := h.exists_lastMiss keyed
      exact ⟨miss, last, own, by rw [came, same]⟩
    · rw [memo]
      apply h.idle kept
      · rw [looks, Option.bind_some, same]
        rfl
      · intro l looks'
        obtain rfl := Option.some.inj (looks.symm.trans looks')
        apply missed

end Follows

/-- After any operations, the memo follows from their visits. -/
theorem follows_run (tree : FileTree) (past : List Operation) :
  Follows (State.visits { tree := tree } past) (State.run { tree := tree } past).memo
  := by
  induction past using List.reverseRecOn with
  | nil => exact Follows.begin
  | append_singleton past operation ih =>
    rw [State.visits_concat, State.run_concat]
    apply ih.perform operation

/-! ### A tree that does not change -/

namespace State

theorem tree_perform (s : State) {operation : Operation}
    (still : ∀ tree, operation ≠ .change tree) :
  (s.perform operation).2.tree = s.tree
  := by
  cases operation with
  | change tree => exact absurd rfl (still tree)
  | _ => rfl

/-- As long as the tree does not change, all lookups are made in it. -/
theorem tree_of_visited (s : State) {past : List Operation} (still : ∀ tree, .change tree ∉ past)
    {v : Visit} (visited : v ∈ s.visits past) {l : Lookup} (looks : v.lookup? = some l) :
  l.tree = s.tree
  := by
  induction past generalizing s with
  | nil => contradiction
  | cons operation past ih =>
    have here : ∀ tree, operation ≠ .change tree := by
      rintro tree rfl
      apply still tree List.mem_cons_self
    rcases List.mem_cons.mp visited with rfl | later
    · obtain ⟨key, -, rfl⟩ := Option.map_eq_some_iff.mp looks
      rfl
    · rw [← s.tree_perform here]
      apply ih _ _ later
      intro tree mem
      apply still tree (List.mem_cons_of_mem _ mem)

end State

/-! ### All runs -/

/-- A locator with a memo after some operations, beside the walks that it spares. -/
structure Exact (tree : FileTree) (past : List Operation) : Prop where
  /-- What is remembered can be read off the visits. -/
  remembered : ∀ key, ((State.run { tree := tree } past).memo.find? key).isSome = true ↔
    Fresh (State.visits { tree := tree } past) key
  /-- A lookup comes to what the walk came to when its key was last missed. -/
  answer : ∀ operation key, operation.key? = some key →
    ∃ miss, LastMiss (State.visits { tree := tree } (past ++ [operation])) miss ∧ miss.key = key ∧
      ((State.run { tree := tree } past).perform operation).1 = operation.answer miss.walk
  /-- A lookup that fails is not kept. -/
  fails : ∀ operation key why, operation.key? = some key →
    ((State.run { tree := tree } past).lookup key).result = .error why →
      ((State.run { tree := tree } past).perform operation).2 = State.run { tree := tree } past
  /-- A program that is configured is not looked up. -/
  configured : ∀ start configured, configured ≠ "" →
    (State.run { tree := tree } past).perform (.resolve start configured) =
      (.program configured, State.run { tree := tree } past)
  /-- As long as the tree does not change, the memo makes no difference. -/
  plain : (∀ other, .change other ∉ past) → ∀ operation key, operation.key? = some key →
    ((State.run { tree := tree } past).perform operation).1 =
      operation.answer (walkUpward tree key.start key.name)

/-- After all operations in all orders, a lookup comes to what the walk came to when its key was
last missed. -/
theorem lookups_exact (tree : FileTree) (past : List Operation) :
  Exact tree past
  := by
  have follows := follows_run tree past
  have answer (operation : Operation) (key : Memo.Key) (keyed : operation.key? = some key) :
      ∃ miss, LastMiss (State.visits { tree := tree } (past ++ [operation])) miss ∧
        miss.key = key ∧
        ((State.run { tree := tree } past).perform operation).1 = operation.answer miss.walk := by
    obtain ⟨miss, last, own, came⟩ := follows.exists_lastMiss keyed
    rw [← State.visits_concat] at last
    rw [State.perform_of_key _ keyed]
    exact ⟨miss, last, own, by rw [came]⟩
  constructor
  · apply follows.fresh_iff
  · apply answer
  · intro operation key why keyed failed
    rw [State.perform_of_key _ keyed]
    rcases (State.run { tree := tree } past).findUpward_cases key with
      ⟨found, -, same, -⟩ | ⟨found, same, -, -⟩ | ⟨_, -, -, -, memo⟩
    · rw [same] at failed
      contradiction
    · rw [same] at failed
      contradiction
    · rw [memo]
  · intro start configured named
    rw [State.perform, resolveExecutable, if_pos named]
  · intro still operation key keyed
    obtain ⟨miss, ⟨-, before, v, since, cut, looks, -⟩, rfl, answers⟩ := answer operation key keyed
    have unmoved : ∀ other, .change other ∉ past ++ [operation] := by
      intro other mem
      rcases List.mem_append.mp mem with old | new
      · apply still other old
      · rw [← List.mem_singleton.mp new] at keyed
        contradiction
    have same := State.tree_of_visited { tree := tree } unmoved
      (cut ▸ List.mem_append_right _ List.mem_cons_self) looks
    rw [answers, Lookup.walk, same]

end TypeCoverage.Locator
