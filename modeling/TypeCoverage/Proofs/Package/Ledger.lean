import TypeCoverage.Proofs.Package.Happening

/-!
# What a package remembers of documents

A `Ledger` is the part of a package from which the cache follows: the cache itself, the
documents that are closed and the one that is active.  `Ledger.after` tells the ledger
after a happening without a word about tiles, hosts, settings or servers, and
`Package.ledger_after` proves that it is the ledger of the package after it.
-/

namespace TypeCoverage.Package

/-- What a package remembers of documents. -/
structure Ledger where
  cache : Cache
  closed : List String
  active : Option String

/-- What a package remembers of documents. -/
def ledger (p : Package) : Ledger := ⟨p.cache, p.closed, p.active⟩

namespace Ledger

/-- Opens a document. -/
def reopen (l : Ledger) (d : String) : Ledger := { l with closed := l.closed.filter (· ≠ d) }

/-- Closes a document. -/
def close (l : Ledger) (d : String) : Ledger where
  cache := l.cache.evict d
  closed := d :: l.closed.filter (· ≠ d)
  active := if l.active = some d then none else l.active

/-- Takes a report of a document, unless the document is closed. -/
def take (l : Ledger) (d : String) (r : Report) : Ledger :=
  if d ∈ l.closed then l else { l with cache := l.cache.set d r }

/-- The ledger after a happening. -/
def after (l : Ledger) : Happening → Ledger
  | .deactivated _ => { l with closed := [], active := none }
  | .activeChanged none => { l with active := none }
  | .activeChanged (some d) => { l.reopen d with active := some d }
  | .opened d => l.reopen d
  | .closed d => l.close d
  | .heard _ lint reply =>
    match reply.report? with
    | some r => l.take lint.document.id r
    | none => l
  | _ => l

end Ledger

theorem ledger_of_view {p q : Package} (same : q.view = p.view) :
  q.ledger = p.ledger
  := by
  obtain ⟨cache, closed, active, -, -⟩ := View.mk.inj same
  rw [ledger, cache, closed, active]
  rfl

theorem ledger_refresh (p : Package) :
  p.refresh.package.ledger = p.ledger
  := by
  rw [refresh]
  split <;> rfl

theorem ledger_deactivate (p : Package) (stopServers : Bool) :
  (p.deactivate stopServers).1.ledger = { p.ledger with closed := [], active := none }
  := by
  obtain ⟨cache, closed, active, -, -⟩ := View.mk.inj (view_deactivate p stopServers)
  rw [ledger, cache, closed, active]
  rfl

theorem ledger_activeChanged (p : Package) (document : Option String) :
  (p.activeChanged document).package.ledger = p.ledger.after (.activeChanged document)
  := by
  unfold activeChanged
  rw [ledger_refresh]
  cases document <;> rfl

theorem ledger_closedDocument (p : Package) (d : String) :
  (p.closedDocument d).package.ledger = p.ledger.close d
  := by
  rw [closedDocument]
  simp only
  split
  · next own =>
    rw [ledger_activeChanged]
    simp [Ledger.after, Ledger.close, ledger, own]
  · next other =>
    simp [Ledger.close, ledger, other]

theorem ledger_keepReport (p : Package) (d : String) (r : Report) :
  (p.keepReport d r).package.ledger = { p.ledger with cache := p.cache.set d r }
  := by
  rw [keepReport]
  simp only
  split <;> rfl

theorem cache_keepReport (p : Package) (d : String) (r : Report) :
  (p.keepReport d r).package.cache = p.cache.set d r
  := congrArg Ledger.cache (ledger_keepReport p d r)

theorem isOpen_iff (p : Package) (d : String) :
  p.isOpen d = true ↔ d ∉ p.ledger.closed
  := by
  simp [isOpen, ledger]

theorem ledger_hearReply (p : Package) (task : Nat) (lint : Lint.Pending) (reply : Reply) :
  (p.hearReply lint reply).1.ledger = p.ledger.after (.heard task lint reply)
  := by
  cases brings : reply.report? with
  | none =>
    simp only [Ledger.after, brings]
    apply ledger_of_view (view_hearReply p lint brings)
  | some r =>
    simp only [Ledger.after, brings, Ledger.take]
    split
    · next closed =>
      have shut : p.isOpen lint.document.id = false := by
        rw [← Bool.not_eq_true, isOpen_iff]
        apply not_not_intro closed
      rw [hearReply_of_closed p lint brings shut]
    · next isOpen =>
      rw [hearReply_of_open p lint brings ((isOpen_iff ..).mpr isOpen), ledger_keepReport]
      rfl

theorem ledger_after (p : Package) (h : Happening) :
  (p.after h).ledger = p.ledger.after h
  := by
  cases h with
  | deactivated stopServers => apply ledger_deactivate
  | tileTaken surface => apply ledger_refresh
  | activeChanged document => apply ledger_activeChanged
  | opened d => rfl
  | closed d => apply ledger_closedDocument
  | heard task lint reply => apply ledger_hearReply
  | _ =>
    apply ledger_of_view
    apply view_after p
    trivial

theorem ledger_afterAll (p : Package) (happenings : List Happening) :
  (p.afterAll happenings).ledger = happenings.foldl Ledger.after p.ledger
  := by
  induction happenings generalizing p with
  | nil => rfl
  | cons h happenings ih =>
    rw [List.foldl_cons, ← ledger_after, ← ih]
    rfl

end TypeCoverage.Package
