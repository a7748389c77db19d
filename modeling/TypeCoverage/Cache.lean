import TypeCoverage.Ordered
import TypeCoverage.Report.Basic

/-!
# The cache of reports

A `Cache` holds the latest report of each document, in the order in which the documents
came in.  A new report of a document takes the place of the old one.
-/

namespace TypeCoverage

/-- The latest reports by document. -/
structure Cache where
  entries : List (String × Report)
  deriving Repr

namespace Cache

/-- The cache without reports. -/
def empty : Cache := ⟨[]⟩

/-- The report of a document; no document has none. -/
def get (c : Cache) (document : Option String) : Option Report :=
  document.bind fun d => c.entries.lookup d

/-- Keeps the report of a document. -/
def set (c : Cache) (document : String) (report : Report) : Cache :=
  ⟨Ordered.put document report c.entries⟩

/-- Drops the report of a document. -/
def evict (c : Cache) (document : String) : Cache :=
  ⟨Ordered.drop document c.entries⟩

/-- The documents with a report, in order. -/
def documents (c : Cache) : List String := c.entries.map (·.1)

/-- Whether a document has a report. -/
def contains (c : Cache) (document : String) : Bool := c.documents.contains document

theorem get_set (c : Cache) (document other : String) (report : Report) :
  (c.set document report).get (some other) =
    if other = document then some report else c.get (some other)
  := Ordered.lookup_put ..

theorem get_evict (c : Cache) (document other : String) :
  (c.evict document).get (some other) =
    if other = document then none else c.get (some other)
  := Ordered.lookup_drop ..

theorem documents_set (c : Cache) (document : String) (report : Report) :
  (c.set document report).documents =
    if document ∈ c.documents then c.documents else c.documents ++ [document]
  := Ordered.map_fst_put ..

theorem documents_evict (c : Cache) (document : String) :
  (c.evict document).documents = c.documents.filter (· ≠ document)
  := Ordered.map_fst_drop ..

/-- The documents that are listed are those with a report. -/
theorem mem_documents_iff {c : Cache} {document : String} :
  document ∈ c.documents ↔ ∃ report, c.get (some document) = some report
  := by
  rw [← Option.isSome_iff_exists, get, Option.bind_some, documents]
  induction c.entries with
  | nil => simp
  | cons head rest ih =>
    obtain ⟨other, report⟩ := head
    rw [List.map_cons, List.mem_cons, List.lookup_cons, ih]
    by_cases same : document = other
    · simp [same]
    · simp only [same, false_or, beq_false_of_ne same]

/-- To drop a document without a report changes nothing. -/
theorem evict_of_not_mem {c : Cache} {document : String} (absent : document ∉ c.documents) :
  c.evict document = c
  := by
  rw [evict, Ordered.drop, List.filter_eq_self.mpr]
  rintro ⟨other, report⟩ mem
  have listed : other ∈ c.documents := List.mem_map_of_mem mem
  simpa using fun same : other = document => absent (same ▸ listed)

end Cache

end TypeCoverage
