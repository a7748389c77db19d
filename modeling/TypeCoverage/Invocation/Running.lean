import TypeCoverage.Invocation

/-!
# Running invocations

`Running` holds the invocations that have not ended, and for each key the newest one that
was registered with it.  Registering an invocation marks the one before it with the same
key as superseded.  The end of an invocation removes it, and its key only if no newer one
has taken it over.
-/

namespace TypeCoverage

/-- The invocations that have not ended, and the newest of each key. -/
structure Running where
  newest : List (String × Nat)
  invocations : List Invocation

namespace Running

/-- Nothing is running. -/
def empty : Running := ⟨[], []⟩

/-- The newest invocation with a key that has not ended. -/
def newest? (r : Running) (key : String) : Option Nat := r.newest.lookup key

/-- An invocation that has not ended. -/
def find? (r : Running) (id : Nat) : Option Invocation :=
  r.invocations.find? (·.id = id)

/-- The invocation that a call with a key would supersede. -/
def rival? (r : Running) (call : Call) : Option Nat := call.uniqueKey.bind r.newest?

/-- Marks an invocation as superseded. -/
def supersede (r : Running) (id : Nat) : Running :=
  { r with invocations := r.invocations.map fun i =>
      if i.id = id then { i with superseded := true } else i }

/-- Registers a call whose program has been started. -/
def register (r : Running) (id : Nat) (call : Call) : Running :=
  let r := match r.rival? call with
    | some rival => r.supersede rival
    | none => r
  { newest := match call.uniqueKey with
      | some key => (key, id) :: r.newest.filter (·.1 ≠ key)
      | none => r.newest
    invocations := r.invocations ++ [{ id := id, call := call }] }

/-- Removes an invocation that has ended. -/
def remove (r : Running) (id : Nat) : Running :=
  { newest := r.newest.filter (·.2 ≠ id)
    invocations := r.invocations.filter (·.id ≠ id) }

/-- Ends an invocation; the reply follows from the outcome. -/
def finish? (r : Running) (id : Nat) (outcome : Outcome) : Option (Reply × Running) :=
  (r.find? id).map fun i => (i.reply outcome, r.remove id)

end Running

end TypeCoverage
