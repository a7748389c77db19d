import TypeCoverage.Datum
import TypeCoverage.Ordered

/-!
# Tables of a settings file

While a document is read, its tables are kept with marks on keys.  A key that is `closed`
cannot be declared as a table again, and one that is `frozen`, with all below it, cannot
be changed.  `Document.insert` puts a value under a key, `Document.openTable` and
`Document.openItem` begin a table and an item of a list of tables.  An operation that
would overwrite a value or go against a mark has no answer.
-/

namespace TypeCoverage.Toml

/-- A key by its parts, from the whole document. -/
abbrev Key : Type := List String

/-- Which keys may no longer be used, and how. -/
structure Marks where
  closed : List Key
  frozen : List Key
  deriving Repr

namespace Marks

/-- No marks. -/
def none : Marks := ⟨[], []⟩

/-- A key that was declared as a table. -/
def isClosed (m : Marks) (key : Key) : Bool := m.closed.contains key

/-- A key that is frozen itself or lies below a frozen one. -/
def isFrozen (m : Marks) (key : Key) : Bool := m.frozen.any (·.isPrefixOf key)

/-- Marks a key as closed. -/
def close (m : Marks) (key : Key) : Marks := { m with closed := key :: m.closed }

/-- Marks a key as frozen. -/
def freeze (m : Marks) (key : Key) : Marks := { m with frozen := key :: m.frozen }

/-- Removes the marks on a key and on all below it. -/
def clear (m : Marks) (key : Key) : Marks :=
  { closed := m.closed.filter (!key.isPrefixOf ·), frozen := m.frozen.filter (!key.isPrefixOf ·) }

end Marks

/-- Changes the table below a key.  Missing tables on the way are made; in place of a list
of tables, if `throughLists` allows it, its last one is taken. -/
def changeAt (throughLists : Bool) (change : Members → Option Members) :
    Key → Members → Option Members
  | [], members => change members
  | part :: parts, members =>
    match members.lookup part with
    | none => (changeAt throughLists change parts []).map fun inner =>
        Ordered.put part (.table inner) members
    | some (.table inner) => (changeAt throughLists change parts inner).map fun inner =>
        Ordered.put part (.table inner) members
    | some (.list items) =>
      if throughLists then
        match items.getLast? with
        | some (.table inner) => (changeAt throughLists change parts inner).map fun inner =>
            Ordered.put part (.list (items.dropLast ++ [.table inner])) members
        | _ => none
      else none
    | some _ => none

/-- Puts a value under a new key of a table. -/
def addValue (key : String) (value : Datum) (members : Members) : Option Members :=
  if (members.lookup key).isSome then none else some (members ++ [(key, value)])

/-- Adds an empty table to the list under a key, which is made if it is missing. -/
def addItem (key : String) (members : Members) : Option Members :=
  match members.lookup key with
  | none => some (members ++ [(key, .list [.table []])])
  | some (.list items) => some (Ordered.put key (.list (items ++ [.table []])) members)
  | some _ => none

/-- A value whose inside cannot be changed from outside. -/
def isContainer : Datum → Bool
  | .list _ => true
  | .table _ => true
  | _ => false

/-- A document that is being read: its tables, the marks on its keys, the keys that will
be closed when the next table begins, and the table that is open. -/
structure Document where
  members : Members
  marks : Marks
  pending : List Key
  header : Key
  deriving Repr

namespace Document

/-- The document with nothing in it. -/
def empty : Document := ⟨[], .none, [], []⟩

/-- Closes the keys that were waiting for it. -/
def closePending (d : Document) : Document :=
  { d with marks := d.pending.foldl .close d.marks, pending := [] }

/-- Begins a table. -/
def openTable (d : Document) (key : Key) : Option Document :=
  let d := d.closePending
  if d.marks.isClosed key || d.marks.isFrozen key then none
  else (changeAt true some key d.members).map fun members =>
    { d with members := members, marks := d.marks.close key, header := key }

/-- Begins an item of a list of tables. -/
def openItem (d : Document) (key : Key) : Option Document :=
  let d := d.closePending
  if d.marks.isFrozen key then none
  else (changeAt true (addItem (key.getLast?.getD "")) key.dropLast d.members).map fun members =>
    { d with members := members, marks := (d.marks.clear key).close key, header := key }

/-- The keys of the tables that a dotted key passes through, from the whole document. -/
def passed (header key : Key) : List Key :=
  (List.range (key.length - 1)).map fun i => header ++ key.take (i + 1)

/-- Puts a value under a key of the open table. -/
def insert (d : Document) (key : Key) (value : Datum) : Option Document :=
  let through := passed d.header key
  if through.any d.marks.isClosed then none
  else if d.marks.isFrozen (d.header ++ key.dropLast) then none
  else (changeAt true (addValue (key.getLast?.getD "") value) (d.header ++ key.dropLast)
      d.members).map fun members =>
    { d with
      members := members
      marks := if isContainer value then d.marks.freeze (d.header ++ key) else d.marks
      pending := d.pending ++ through }

end Document

/-- A table in braces that is being read, with marks on its containers. -/
structure InlineTable where
  members : Members
  marks : Marks
  deriving Repr

namespace InlineTable

/-- The table with nothing in it. -/
def empty : InlineTable := ⟨[], .none⟩

/-- Puts a value under a key. -/
def insert (t : InlineTable) (key : Key) (value : Datum) : Option InlineTable :=
  if t.marks.isFrozen key then none
  else (changeAt false (addValue (key.getLast?.getD "") value) key.dropLast t.members).map
    fun members =>
      { members := members
        marks := if isContainer value then t.marks.freeze key else t.marks }

end InlineTable

end TypeCoverage.Toml
