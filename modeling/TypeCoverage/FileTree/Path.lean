import TypeCoverage.Text.Lines

/-!
# Paths

A `Path` is relative or begins at the root, and has parts.  `Path.ofText` reads one:
repeated slashes count once, except that exactly two slashes in front are kept, and parts
that are a single dot are left out.  `Path.text` writes it, with a dot for the relative
path without parts.  `Path.parent` drops the last part and `Path.ancestors` lists a path
with all its parents; both only look at the parts.  Paths are ordered part by part.
-/

namespace TypeCoverage

/-- Where a path begins. -/
inductive Anchor where
  | here
  | root
  | doubleRoot
  deriving DecidableEq, Repr

/-- The text in front of the parts of a path. -/
def Anchor.text : Anchor → String
  | .here => ""
  | .root => "/"
  | .doubleRoot => "//"

/-- A path of the file system, by its parts. -/
structure Path where
  anchor : Anchor
  parts : List String
  deriving DecidableEq, Repr

namespace Path

/-- The parts between the slashes of a text, without empty ones and single dots. -/
def partsOf (cs : List Char) : List String :=
  ((Text.splitAtChar '/' cs).map String.ofList).filter fun part => part ≠ "" && part ≠ "."

/-- The anchor that a text begins with. -/
def anchorOf : List Char → Anchor
  | '/' :: '/' :: '/' :: _ => .root
  | '/' :: '/' :: _ => .doubleRoot
  | '/' :: _ => .root
  | _ => .here

/-- The path that a text writes. -/
def ofText (s : String) : Path :=
  ⟨anchorOf s.toList, partsOf s.toList⟩

/-- The text of a path. -/
def text (p : Path) : String :=
  match p.anchor, p.parts with
  | .here, [] => "."
  | anchor, parts => anchor.text ++ String.intercalate "/" parts

/-- A path that begins at the root. -/
def isAbsolute (p : Path) : Bool := p.anchor ≠ .here

/-- A path inside another one; an absolute path stands for itself. -/
def join (p q : Path) : Path :=
  if q.isAbsolute then q else ⟨p.anchor, p.parts ++ q.parts⟩

/-- The path without its last part. -/
def parent (p : Path) : Path := ⟨p.anchor, p.parts.dropLast⟩

/-- The last part, or the empty text. -/
def name (p : Path) : String := p.parts.getLast?.getD ""

/-- The path with the first `n` parts, and those with fewer, the longest first. -/
def ancestorsUpTo (p : Path) : Nat → List Path
  | 0 => [⟨p.anchor, []⟩]
  | n + 1 => ⟨p.anchor, p.parts.take (n + 1)⟩ :: ancestorsUpTo p n

/-- A path and all its parents, the nearest first. -/
def ancestors (p : Path) : List Path := p.ancestorsUpTo p.parts.length

theorem mem_ancestors_self (p : Path) :
  p ∈ p.ancestors
  := by
  unfold ancestors
  cases h : p.parts.length with
  | zero => simp [ancestorsUpTo, ← List.eq_nil_of_length_eq_zero h]
  | succ n => simp [ancestorsUpTo, ← h]

/-- The order of parts: the first difference decides, and otherwise the shorter list
comes first. -/
def partsLe : List String → List String → Bool
  | [], _ => true
  | _ :: _, [] => false
  | a :: as, b :: bs => decide (a < b) || (decide (a = b) && partsLe as bs)

/-- The parts by which paths are ordered: the anchor, if there is one, comes first. -/
def orderKey (p : Path) : List String :=
  if p.isAbsolute then p.anchor.text :: p.parts else p.parts

/-- The order of paths: part by part, and the parts by code point. -/
def le (p q : Path) : Bool := partsLe p.orderKey q.orderKey

end Path

end TypeCoverage
