import Mathlib.Data.List.Induction
import TypeCoverage.Cache
import TypeCoverage.Proofs.Cut

/-!
# The cache in order of arrival

What a cache holds can be read off what has been done to it.  The report of a document is the
last one that was set, unless the document was evicted or the cache cleared since
(`Cache.LastSet`).  A document arrives when it is set while it is absent, and keeps its place
until it is removed (`Cache.ArrivesAt`).

`Cache.Recalls` says that a cache finds these reports and lists these documents, each once and
in the order in which they arrived.  `Cache.recalls` proves it of every list of changes.
-/

namespace TypeCoverage.Cache

/-- What is done to a cache. -/
inductive Change where
  | set (document : String) (report : Report)
  | evict (document : String)
  | clear

/-- The cache after a change. -/
def after (c : Cache) : Change → Cache
  | .set document report => c.set document report
  | .evict document => c.evict document
  | .clear => .empty

/-- The cache after some changes, which was empty before them. -/
def afterAll (past : List Change) : Cache := past.foldl after .empty

/-- A change removes a document, or all documents. -/
def Change.Removes (d : String) : Change → Prop
  | .set .. => False
  | .evict other => other = d
  | .clear => True

/-- A change gives a document a report. -/
def Change.Sets (d : String) : Change → Prop
  | .set other _ => other = d
  | _ => False

/-- A report is the last one that a document was given, and the document has not been removed
since. -/
def LastSet (past : List Change) (d : String) (r : Report) : Prop :=
  ∃ before later, past = before ++ .set d r :: later ∧
    ∀ change ∈ later, ¬ change.Sets d ∧ ¬ change.Removes d

/-- A document has been given a report and has not been removed since. -/
def Present (past : List Change) (d : String) : Prop := ∃ r, LastSet past d r

/-- The change with a number gave a document a report while the document was absent, and the
document has not been removed since. -/
def ArrivesAt (past : List Change) (d : String) (n : Nat) : Prop :=
  ∃ before r later, past = before ++ .set d r :: later ∧ before.length = n ∧
    ¬ Present before d ∧ ∀ change ∈ later, ¬ change.Removes d

/-! ### One change more -/

theorem afterAll_concat (past : List Change) (change : Change) :
  afterAll (past ++ [change]) = (afterAll past).after change
  := by
  rw [afterAll, List.foldl_append]
  rfl

theorem not_lastSet_nil (d : String) (r : Report) :
  ¬ LastSet [] d r
  := by
  rintro ⟨before, later, same, -⟩
  simp at same

theorem not_arrivesAt_nil (d : String) (n : Nat) :
  ¬ ArrivesAt [] d n
  := by
  rintro ⟨before, r, later, same, -⟩
  simp at same

theorem lastSet_concat (past : List Change) (change : Change) (d : String) (r : Report) :
  LastSet (past ++ [change]) d r ↔
    change = .set d r ∨ (¬ change.Sets d ∧ ¬ change.Removes d) ∧ LastSet past d r
  := by
  constructor
  · rintro ⟨before, later, same, kept⟩
    rcases concat_eq_cut_iff.mp same with ⟨-, now, -⟩ | ⟨rest, rfl, cut⟩
    · exact .inl now
    · rw [List.forall_mem_append, List.forall_mem_singleton] at kept
      exact .inr ⟨kept.2, before, rest, cut, kept.1⟩
  · rintro (rfl | ⟨kept, before, later, rfl, kept'⟩)
    · exact ⟨past, [], rfl, by simp⟩
    · refine ⟨before, later ++ [change], by simp, ?_⟩
      rw [List.forall_mem_append, List.forall_mem_singleton]
      exact ⟨kept', kept⟩

theorem arrivesAt_concat (past : List Change) (change : Change) (d : String) (n : Nat) :
  ArrivesAt (past ++ [change]) d n ↔
    (change.Sets d ∧ ¬ Present past d ∧ n = past.length) ∨
      ¬ change.Removes d ∧ ArrivesAt past d n
  := by
  constructor
  · rintro ⟨before, r, later, same, rfl, absent, kept⟩
    rcases concat_eq_cut_iff.mp same with ⟨rfl, rfl, -⟩ | ⟨rest, rfl, cut⟩
    · exact .inl ⟨rfl, absent, rfl⟩
    · rw [List.forall_mem_append, List.forall_mem_singleton] at kept
      exact .inr ⟨kept.2, before, r, rest, cut, rfl, absent, kept.1⟩
  · rintro (⟨sets, absent, rfl⟩ | ⟨kept, before, r, later, rfl, number, absent, kept'⟩)
    · cases change with
      | set other r =>
        obtain rfl := sets
        exact ⟨past, r, [], rfl, rfl, absent, by simp⟩
      | evict | clear => cases sets
    · refine ⟨before, r, later ++ [change], by simp, number, absent, ?_⟩
      rw [List.forall_mem_append, List.forall_mem_singleton]
      exact ⟨kept', kept⟩

theorem present_concat (past : List Change) (change : Change) (d : String) :
  Present (past ++ [change]) d ↔ change.Sets d ∨ ¬ change.Removes d ∧ Present past d
  := by
  simp only [Present, lastSet_concat]
  cases change with
  | set other r =>
    simp only [Change.set.injEq, Change.Sets, Change.Removes]
    by_cases own : other = d <;> simp [own]
  | evict other => simp [Change.Sets]
  | clear => simp [Change.Removes, Change.Sets]

/-! ### Arrivals -/

/-- Who has arrived and has not been removed is present. -/
theorem ArrivesAt.present {past : List Change} {d : String} {n : Nat}
    (arrives : ArrivesAt past d n) :
  Present past d
  := by
  induction past using List.reverseRecOn with
  | nil => exact absurd arrives (not_arrivesAt_nil d n)
  | append_singleton past change ih =>
    rw [present_concat]
    rcases (arrivesAt_concat ..).mp arrives with ⟨sets, -⟩ | ⟨kept, arrives⟩
    · exact .inl sets
    · exact .inr ⟨kept, ih arrives⟩

theorem ArrivesAt.lt_length {past : List Change} {d : String} {n : Nat}
    (arrives : ArrivesAt past d n) :
  n < past.length
  := by
  obtain ⟨before, r, later, rfl, rfl, -⟩ := arrives
  simp

/-- A document that is present has arrived once. -/
theorem Present.existsUnique_arrivesAt {past : List Change} {d : String}
    (present : Present past d) :
  ∃! n, ArrivesAt past d n
  := by
  induction past using List.reverseRecOn with
  | nil =>
    obtain ⟨r, last⟩ := present
    exact absurd last (not_lastSet_nil d r)
  | append_singleton past change ih =>
    by_cases before : Present past d
    · -- The document was there, and keeps its place.
      obtain ⟨n, arrives, only⟩ := ih before
      have kept : ¬ change.Removes d := by
        rcases (present_concat ..).mp present with sets | ⟨kept, -⟩
        · cases change <;> simp_all [Change.Sets, Change.Removes]
        · exact kept
      refine ⟨n, (arrivesAt_concat ..).mpr (.inr ⟨kept, arrives⟩), fun m other => ?_⟩
      rcases (arrivesAt_concat ..).mp other with ⟨-, absent, -⟩ | ⟨-, earlier⟩
      · exact absurd before absent
      · exact only m earlier
    · -- The document arrives.
      have sets : change.Sets d := by
        rcases (present_concat ..).mp present with sets | ⟨-, present⟩
        · exact sets
        · exact absurd present before
      refine ⟨past.length, (arrivesAt_concat ..).mpr (.inl ⟨sets, before, rfl⟩), fun m other => ?_⟩
      rcases (arrivesAt_concat ..).mp other with ⟨-, -, last⟩ | ⟨-, earlier⟩
      · exact last
      · exact absurd earlier.present before

/-- Who was there before a change has not arrived with it. -/
theorem ArrivesAt.of_concat {past : List Change} {change : Change} {d : String} {n : Nat}
    (arrives : ArrivesAt (past ++ [change]) d n) (before : Present past d) :
  ArrivesAt past d n
  := by
  rcases (arrivesAt_concat ..).mp arrives with ⟨-, absent, -⟩ | ⟨-, earlier⟩
  · exact absurd before absent
  · exact earlier

/-! ### What a cache holds -/

theorem get_after (c : Cache) (change : Change) (d : String) (r : Report) :
  (c.after change).get (some d) = some r ↔
    change = .set d r ∨ (¬ change.Sets d ∧ ¬ change.Removes d) ∧ c.get (some d) = some r
  := by
  cases change with
  | set other report =>
    rw [after, get_set]
    simp only [Change.set.injEq, Change.Sets, Change.Removes]
    by_cases own : d = other
    · simp [own]
    · simp [own, Ne.symm own]
  | evict other =>
    rw [after, get_evict]
    simp only [Change.Sets, Change.Removes]
    by_cases own : d = other
    · simp [own]
    · simp [own, Ne.symm own]
  | clear => simp [after, Change.Sets, Change.Removes, get, empty]

theorem get_afterAll_iff (past : List Change) (d : String) (r : Report) :
  (afterAll past).get (some d) = some r ↔ LastSet past d r
  := by
  induction past using List.reverseRecOn with
  | nil => simp [afterAll, get, empty, not_lastSet_nil]
  | append_singleton past change ih => rw [afterAll_concat, get_after, lastSet_concat, ih]

theorem mem_documents_afterAll_iff (past : List Change) (d : String) :
  d ∈ (afterAll past).documents ↔ Present past d
  := by
  rw [mem_documents_iff]
  simp only [get_afterAll_iff, Present]

/-- The documents in a cache stand in the order in which they arrived, each of them once. -/
theorem documents_afterAll (past : List Change) :
  (afterAll past).documents.Nodup ∧ (afterAll past).documents.Pairwise fun d e =>
    ∀ n m, ArrivesAt past d n → ArrivesAt past e m → n < m
  := by
  induction past using List.reverseRecOn with
  | nil => exact ⟨List.nodup_nil, List.Pairwise.nil⟩
  | append_singleton past change ih =>
    obtain ⟨nodup, ordered⟩ := ih
    rw [afterAll_concat]
    have present (d : String) (mem : d ∈ (afterAll past).documents) : Present past d :=
      (mem_documents_afterAll_iff past d).mp mem
    -- Those that were there before are still in order.
    have still : (afterAll past).documents.Pairwise fun d e =>
        ∀ n m, ArrivesAt (past ++ [change]) d n → ArrivesAt (past ++ [change]) e m → n < m := by
      apply ordered.imp_of_mem
      intro d e mem mem' before n m arrives arrives'
      apply before n m (arrives.of_concat (present d mem)) (arrives'.of_concat (present e mem'))
    cases change with
    | evict other =>
      rw [after, documents_evict]
      exact ⟨nodup.filter _, still.filter _⟩
    | clear => exact ⟨List.nodup_nil, List.Pairwise.nil⟩
    | set other report =>
      rw [after, documents_set]
      split
      · exact ⟨nodup, still⟩
      · next absent =>
        constructor
        · refine List.nodup_append.mpr ⟨nodup, by simp, ?_⟩
          rintro d mem e same rfl
          exact absent (List.mem_singleton.mp same ▸ mem)
        · refine List.pairwise_append.mpr ⟨still, List.pairwise_singleton .., ?_⟩
          intro d mem e same n m arrives arrives'
          obtain rfl := List.mem_singleton.mp same
          have earlier := (arrives.of_concat (present d mem)).lt_length
          rcases (arrivesAt_concat ..).mp arrives' with ⟨-, -, rfl⟩ | ⟨-, arrived⟩
          · exact earlier
          · exact absurd ((mem_documents_afterAll_iff past _).mpr arrived.present) absent

/-- What a cache holds after some changes. -/
structure Recalls (past : List Change) (c : Cache) : Prop where
  /-- A document has the report that it was given last, unless it has been removed since. -/
  found : ∀ d r, c.get (some d) = some r ↔ LastSet past d r
  /-- No document has no report. -/
  nothing : c.get none = none
  /-- The documents that are present are listed, each of them once. -/
  listed : ∀ d, d ∈ c.documents ↔ Present past d
  nodup : c.documents.Nodup
  /-- A document that is listed has arrived once since it was absent. -/
  arrived : ∀ d ∈ c.documents, ∃! n, ArrivesAt past d n
  /-- The documents stand in the order in which they have arrived. -/
  ordered : c.documents.Pairwise fun d e =>
    ∀ n m, ArrivesAt past d n → ArrivesAt past e m → n < m
  /-- A document that is given another report keeps its place, and one that was absent goes to
  the end. -/
  placed : ∀ d r, (c.set d r).documents =
    if d ∈ c.documents then c.documents else c.documents ++ [d]
  /-- To evict a document leaves the others in their order. -/
  left : ∀ d, (c.evict d).documents = c.documents.filter (· ≠ d)
  /-- The cache contains what it lists, and is as large as its list. -/
  contained : ∀ d, c.contains d = true ↔ d ∈ c.documents
  size : c.entries.length = c.documents.length
  /-- To evict a document that is absent changes nothing. -/
  spared : ∀ d, ¬ Present past d → c.evict d = c

/-- Whatever has been set, evicted and cleared, a cache recalls it in the order of arrival. -/
theorem recalls (past : List Change) :
  Recalls past (afterAll past)
  := by
  obtain ⟨nodup, ordered⟩ := documents_afterAll past
  have listed := mem_documents_afterAll_iff past
  exact {
    found := get_afterAll_iff past
    nothing := rfl
    listed := listed
    nodup := nodup
    arrived := fun d mem => ((listed d).mp mem).existsUnique_arrivesAt
    ordered := ordered
    placed := documents_set _
    left := documents_evict _
    contained := fun d => List.contains_iff_mem
    size := (List.length_map _).symm
    spared := fun d absent => evict_of_not_mem fun mem => absent ((listed d).mp mem) }

end TypeCoverage.Cache
