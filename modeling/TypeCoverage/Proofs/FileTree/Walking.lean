import Mathlib.Data.List.Induction
import TypeCoverage.Proofs.FileTree.Spelling

/-!
# Walks in trees without links

In a tree without links (`FileTree.HasNoLinks`), a part of a way leads to a directory, or ends the
way (`FileTree.walkFrom_cons_cases`).  So a way can be cut anywhere: it leads from two directories to
the same if and only if its beginning does (`FileTree.walkFrom_append_eq_iff`).  A way below the
directory where relative paths begin leads to something else from its own end
(`FileTree.follow_ne_of_inner`).
-/

namespace TypeCoverage

namespace FileTree

variable {t : FileTree} {dir name parts rest : List String} {node : Node}

/-- No entry of a tree is a link. -/
def HasNoLinks (t : FileTree) : Prop := ∀ name target, t.entry? name ≠ some (.link target)

theorem hasNoLinks_of_entries (plain : ∀ e ∈ t.entries, ∀ target, e.2 ≠ .link target) :
  t.HasNoLinks
  := by
  intro name target entry
  unfold entry? at entry
  split at entry
  · cases entry
  · obtain ⟨before, after, cut, -⟩ := List.lookup_eq_some_iff.mp entry
    have mem : (name, Node.link target) ∈ t.entries := by simp [cut]
    exact plain _ mem target rfl

/-- A part under which an entry is looked up. -/
structure IsEntryName (part : String) : Prop where
  moves : part ≠ "."
  forth : part ≠ ".."
  fits : ¬ partLimit < part.utf8ByteSize

section Entries

variable {links : Nat} {part : String} (named : IsEntryName part)

include named

theorem walkFrom_of_missing (entry : t.entry? (dir ++ [part]) = none) (rest : List String) :
  t.walkFrom links dir (part :: rest) = .missing
  := by
  rw [walkFrom, if_neg named.moves, if_neg named.forth, if_neg named.fits]
  simp only [entry]

theorem walkFrom_of_directory (entry : t.entry? (dir ++ [part]) = some .directory)
    (rest : List String) :
  t.walkFrom links dir (part :: rest) = t.walkFrom links (dir ++ [part]) rest
  := by
  rw [walkFrom, if_neg named.moves, if_neg named.forth, if_neg named.fits]
  simp only [entry]

theorem walkFrom_of_file {content : List UInt8} {executable : Bool}
    (entry : t.entry? (dir ++ [part]) = some (.file content executable)) (rest : List String) :
  t.walkFrom links dir (part :: rest) =
    if rest.isEmpty then .found (dir ++ [part]) (.file content executable) else .notDirectory
  := by
  rw [walkFrom, if_neg named.moves, if_neg named.forth, if_neg named.fits]
  simp only [entry]

end Entries

/-- In a tree without links a part leads to one more directory, or to a file, or to nothing. -/
theorem walkFrom_cons_cases (plain : t.HasNoLinks) (links : Nat) (dir : List String)
    (part : String) :
  (∃ next, (part ≠ ".." → next = dir ++ [part].filter (· ≠ ".")) ∧
      ∀ rest, t.walkFrom links dir (part :: rest) = t.walkFrom links next rest) ∨
    (∃ content executable, part ≠ "." ∧ ∀ rest, t.walkFrom links dir (part :: rest) =
      if rest.isEmpty then .found (dir ++ [part]) (.file content executable) else .notDirectory) ∨
    ∀ rest name node, t.walkFrom links dir (part :: rest) ≠ .found name node
  := by
  by_cases dot : part = "."
  · exact .inl ⟨dir, by simp [dot], fun rest => by rw [walkFrom, if_pos dot]⟩
  by_cases back : part = ".."
  · exact .inl ⟨dir.dropLast, by simp [back], fun rest => by
      rw [walkFrom, if_neg dot, if_pos back]⟩
  by_cases tooLong : partLimit < part.utf8ByteSize
  · exact .inr (.inr fun rest name node => by simp [walkFrom, dot, back, tooLong])
  have named : IsEntryName part := ⟨dot, back, tooLong⟩
  cases entry : t.entry? (dir ++ [part]) with
  | none => exact .inr (.inr fun rest name node => by simp [walkFrom_of_missing named entry])
  | some node =>
    cases node with
    | directory =>
      exact .inl ⟨dir ++ [part], by simp [dot], walkFrom_of_directory named entry⟩
    | file content executable =>
      exact .inr (.inl ⟨content, executable, dot, walkFrom_of_file named entry⟩)
    | link target => exact absurd entry (plain _ target)

/-- A walk from a directory stays below it, if nothing leads back. -/
theorem name_of_walkFrom (plain : t.HasNoLinks) {links : Nat} (forward : ".." ∉ parts)
    (found : t.walkFrom links dir parts = .found name node) :
  name = dir ++ parts.filter (· ≠ ".")
  := by
  induction parts generalizing dir with
  | nil =>
    rw [walkFrom] at found
    cases found
    exact (List.append_nil _).symm
  | cons part rest ih =>
    rw [List.mem_cons, not_or] at forward
    rw [← List.singleton_append, List.filter_append]
    rcases walkFrom_cons_cases plain links dir part with
      ⟨next, enters, leads⟩ | ⟨content, executable, named, leads⟩ | stuck
    · rw [leads] at found
      rw [ih forward.2 found, enters (Ne.symm forward.1), List.append_assoc]
    · rw [leads] at found
      split at found
      · next last =>
        cases found
        simp [List.isEmpty_iff.mp last, named]
      · cases found
    · exact absurd found (stuck _ _ _)

/-- A way that goes on leads where it leads from the directory between. -/
theorem walkFrom_append (plain : t.HasNoLinks) {links : Nat} {between : List String}
    (reached : t.walkFrom links dir parts = .found between .directory) (rest : List String) :
  t.walkFrom links dir (parts ++ rest) = t.walkFrom links between rest
  := by
  induction parts generalizing dir with
  | nil =>
    rw [walkFrom] at reached
    cases reached
    rfl
  | cons part parts ih =>
    rcases walkFrom_cons_cases plain links dir part with
      ⟨next, -, leads⟩ | ⟨content, executable, -, leads⟩ | stuck
    · rw [leads] at reached
      rw [List.cons_append, leads, ih reached]
    · rw [leads] at reached
      split at reached <;> cases reached
    · exact absurd reached (stuck _ _ _)

/-- A way that comes to its end comes to a directory before. -/
theorem exists_of_walkFrom_append (plain : t.HasNoLinks) {links : Nat}
    (ends : rest = [] → node = .directory)
    (found : t.walkFrom links dir (parts ++ rest) = .found name node) :
  ∃ between, t.walkFrom links dir parts = .found between .directory
  := by
  induction parts generalizing dir with
  | nil => exact ⟨dir, by rw [walkFrom]⟩
  | cons part parts ih =>
    rw [List.cons_append] at found
    rcases walkFrom_cons_cases plain links dir part with
      ⟨next, -, leads⟩ | ⟨content, executable, -, leads⟩ | stuck
    · rw [leads] at found ⊢
      exact ih found
    · rw [leads] at found
      split at found
      · next last =>
        rw [List.isEmpty_iff, List.append_eq_nil_iff] at last
        rw [ends last.2] at found
        cases found
      · cases found
    · exact absurd found (stuck _ _ _)

/-- The same way leads from two directories to the same if and only if it comes to the same
directory before. -/
theorem walkFrom_append_eq_iff (plain : t.HasNoLinks) {links : Nat} {dir' : List String}
    (more : rest ≠ []) (forward : ".." ∉ rest)
    (found : t.walkFrom links dir (parts ++ rest) = .found name node) :
  t.walkFrom links dir' (parts ++ rest) = .found name node ↔
    t.walkFrom links dir' parts = t.walkFrom links dir parts
  := by
  have ends {node : Node} : rest = [] → node = .directory := fun none => absurd none more
  obtain ⟨between, reached⟩ := exists_of_walkFrom_append plain ends found
  rw [walkFrom_append plain reached] at found
  rw [reached]
  constructor
  · intro found'
    obtain ⟨between', reached'⟩ := exists_of_walkFrom_append plain ends found'
    rw [walkFrom_append plain reached'] at found'
    have same : between ++ rest.filter (· ≠ ".") = between' ++ rest.filter (· ≠ ".") := by
      rw [← name_of_walkFrom plain forward found, ← name_of_walkFrom plain forward found']
    rw [reached', List.append_cancel_right same]
  · intro same
    rw [walkFrom_append plain same, found]

/-- The names of a tree without links are as they are written. -/
theorem resolveFrom_of_hasNoLinks (plain : t.HasNoLinks) (depth : Nat)
    (active : List (List String)) (forward : ".." ∉ parts) :
  t.resolveFrom depth active dir parts = (dir ++ parts, true)
  := by
  induction parts generalizing dir with
  | nil => rw [resolveFrom, List.append_nil]
  | cons part rest ih =>
    rw [List.mem_cons, not_or] at forward
    rw [resolveFrom, if_neg (Ne.symm forward.1)]
    simp only
    split
    · next target link => exact absurd link (plain _ target)
    · rw [ih forward.2, List.append_assoc]
      rfl

theorem collapse_of_forward (forward : ".." ∉ name) :
  collapse name = name
  := by
  induction name using List.reverseRecOn with
  | nil => rfl
  | append_singleton name part ih =>
    rw [List.mem_append, not_or, List.mem_singleton] at forward
    have same := ih forward.1
    rw [collapse] at same ⊢
    rw [List.foldl_append, same, List.foldl_cons, List.foldl_nil, if_neg (Ne.symm forward.2)]

theorem realName_of_bare (settled : ".." ∉ t.here) {p : Path} (relative : p.isAbsolute = false)
    (bare : p.parts = []) :
  t.realName p = t.here
  := by
  rw [realName, startOf, relative, bare]
  simp only [resolveFrom]
  exact collapse_of_forward settled

theorem realName_of_hasNoLinks (plain : t.HasNoLinks) (settled : ".." ∉ t.here) {p : Path}
    (relative : p.isAbsolute = false) (forward : ".." ∉ p.parts) :
  t.realName p = t.here ++ p.parts
  := by
  rw [realName, startOf, relative]
  simp only [resolveFrom_of_hasNoLinks plain _ _ forward]
  apply collapse_of_forward
  rw [List.mem_append, not_or]
  exact ⟨settled, forward⟩

/-! ### Ways that are followed from two directories -/

/-- Where the parts of a path lead from a directory. -/
def follow (t : FileTree) (dir : List String) (p : Path) : Arrival :=
  t.walkFrom linkLimit (if p.isAbsolute then [] else dir) p.parts

theorem follow_of_relative {p : Path} (relative : p.isAbsolute = false) (dir : List String) :
  t.follow dir p = t.walkFrom linkLimit dir p.parts
  := by
  rw [follow, relative]
  rfl

/-- A path that leads to something is followed from where relative paths begin. -/
theorem follow_here {p : Path} (found : t.walk p = .found name node) :
  t.follow t.here p = .found name node
  := by
  rw [walk] at found
  split at found
  · cases found
  · split at found
    · cases found
    · exact found

/-- The way to a directory below the one where relative paths begin leads to something else from
there, and so does each beginning of this way. -/
theorem follow_ne_of_inner (plain : t.HasNoLinks) (settled : ".." ∉ t.here) {p q : Path}
    (relative : p.isAbsolute = false) (inner : p.parts ≠ []) (forward : ".." ∉ p.parts)
    (found : t.walk p = .found name .directory) (above : q ∈ p.ancestors) :
  t.follow (t.realName p) q ≠ t.follow t.here q
  := by
  obtain ⟨n, rfl⟩ := Path.exists_take_of_mem_ancestors above
  have forward' : ".." ∉ p.parts.take n := fun back => forward (List.mem_of_mem_take back)
  have relative' : (⟨p.anchor, p.parts.take n⟩ : Path).isAbsolute = false := relative
  have whole := follow_here found
  rw [follow_of_relative relative, ← List.take_append_drop n p.parts] at whole
  obtain ⟨between, reached⟩ := exists_of_walkFrom_append plain (fun _ => rfl) whole
  rw [follow_of_relative relative', follow_of_relative relative']
  intro same
  have ends := (name_of_walkFrom plain forward' reached).symm.trans
    (name_of_walkFrom plain forward' (same.trans reached))
  rw [realName_of_hasNoLinks plain settled relative forward] at ends
  exact inner (List.self_eq_append_right.mp (List.append_cancel_right ends))

/-- The text of a path that leads to something is followed as the path. -/
theorem walkText_text_of_found {p : Path} (spelled : p.IsSpelled) (named : p.parts ≠ [])
    (found : t.walk p = .found name node) :
  t.walkText dir p.text = t.follow dir p
  := by
  rw [walk] at found
  rw [walkText, Path.isEmpty_text spelled named, Bool.false_or, stepsOf_text spelled named]
  split at found
  · cases found
  · next readable =>
    split at found
    · cases found
    · next fits =>
      rw [if_neg readable, if_neg fits]
      rfl

/-- A text that leads to a file leads to the directory of the file first, from wherever it is
followed. -/
theorem exists_of_walkText (plain : t.HasNoLinks) {text : String} {content : List UInt8}
    {executable : Bool} (found : t.walkText dir text = .found name (.file content executable)) :
  ∃ rest, rest ≠ [] ∧ ".." ∉ rest ∧ ∀ dir', t.walkText dir' text = t.walkFrom linkLimit
    (if (Path.ofText text).isAbsolute then [] else dir') ((Path.ofText text).parent.parts ++ rest)
  := by
  obtain ⟨dots, only, steps⟩ := exists_stepsOf text
  simp only [walkText] at found ⊢
  split at found
  · cases found
  · next readable =>
    split at found
    · cases found
    · next fits =>
      simp only [if_neg readable, if_neg fits, steps] at found ⊢
      rw [Path.parent]
      cases named : (Path.ofText text).parts using List.reverseRecOn with
      | nil => rcases only with rfl | rfl <;> simp [named, walkFrom] at found
      | append_singleton parts part =>
        rw [named, List.append_assoc] at found
        refine ⟨[part] ++ dots, by simp, ?_, fun dir' => ?_⟩
        · -- The last part does not go back, since this would lead to a directory.
          obtain ⟨between, reached⟩ := exists_of_walkFrom_append plain (by simp) found
          rw [walkFrom_append plain reached] at found
          rw [List.mem_append, List.mem_singleton, not_or]
          refine ⟨?_, by rcases only with rfl | rfl <;> decide⟩
          rintro rfl
          rcases only with rfl | rfl <;> simp [walkFrom] at found
        · rw [List.dropLast_concat, List.append_assoc]

end FileTree

end TypeCoverage
