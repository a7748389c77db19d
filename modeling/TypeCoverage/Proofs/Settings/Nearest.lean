import TypeCoverage.Settings.Layers

/-!
# The nearest file of a name

A file is looked for in a directory and in each directory above it.  `NearestFile` says
where the first one stands and what is in it, and `NoFile` that there is none; both say of
each place that was passed that it was looked at and holds no regular file.  A path that is
too long cannot be looked at, and stops the search (`SearchStopped`).  One of the three
holds (`search_cases`), and they decide what `Settings.nearest` answers
(`nearest_of_nearestFile`, `nearest_of_noFile`, `nearest_of_searchStopped`).

`ProjectLayer` and `FileLayer` say what the two settings files contribute, and the code
that reads them agrees (`projectLayer_eq`, `fileLayer_eq`).
-/

namespace TypeCoverage

namespace FileTree

/-- The path has been looked at, and no regular file stands there. -/
def Lacks (t : FileTree) (p : Path) : Prop :=
  ∃ node?, t.probe p = .ok node? ∧ isFile node? = false

/-- A regular file stands at the path, perhaps behind links. -/
def Holds (t : FileTree) (p : Path) (content : List UInt8) : Prop :=
  ∃ name executable, t.walk p = .found name (.file content executable)

theorem Lacks.probe {t : FileTree} {p : Path} (lacks : t.Lacks p) :
  (t.probe p).map isFile = .ok false
  := by
  obtain ⟨node?, probe, plain⟩ := lacks
  rw [probe, Except.map, plain]

/-- At a path that can be looked at there is a regular file or none. -/
theorem lacks_or_holds_or_tooLong (t : FileTree) (p : Path) :
  t.Lacks p ∨ (∃ content, t.Holds p content) ∨ t.walk p = .nameTooLong
  := by
  cases arrival : t.walk p with
  | found name node =>
    cases node with
    | file content executable => exact .inr (.inl ⟨content, name, executable, arrival⟩)
    | directory => exact .inl ⟨some .directory, by rw [FileTree.probe, arrival], rfl⟩
    | link target => exact .inl ⟨some (.link target), by rw [FileTree.probe, arrival], rfl⟩
  | nameTooLong => exact .inr (.inr rfl)
  | missing => exact .inl ⟨none, by rw [FileTree.probe, arrival], rfl⟩
  | notDirectory => exact .inl ⟨none, by rw [FileTree.probe, arrival], rfl⟩
  | tooManyLinks => exact .inl ⟨none, by rw [FileTree.probe, arrival], rfl⟩

theorem Holds.probe {t : FileTree} {p : Path} {content : List UInt8}
    (holds : t.Holds p content) :
  (t.probe p).map isFile = .ok true
  := by
  obtain ⟨name, executable, walk⟩ := holds
  rw [FileTree.probe, walk]
  rfl

end FileTree

/-- A name in the directory that the first `n` parts of a path lead to. -/
def Path.above (start : Path) (name : String) (n : Nat) : Path :=
  ⟨start.anchor, start.parts.take n ++ [name]⟩

/-- The first regular file with a name, at or above a directory: it stands in the directory
with the first `n` parts, and none stands in those with more. -/
structure NearestFile (t : FileTree) (start : Path) (name : String) (n : Nat)
    (content : List UInt8) : Prop where
  le : n ≤ start.parts.length
  holds : t.Holds (start.above name n) content
  nearer : ∀ m, n < m → m ≤ start.parts.length → t.Lacks (start.above name m)

/-- No regular file with a name, at or above a directory. -/
def NoFile (t : FileTree) (start : Path) (name : String) : Prop :=
  ∀ m ≤ start.parts.length, t.Lacks (start.above name m)

/-- The search for a name comes, before it finds a regular file, to a path that is too long
to be looked at. -/
structure SearchStopped (t : FileTree) (start : Path) (name : String) (n : Nat) : Prop where
  le : n ≤ start.parts.length
  tooLong : t.walk (start.above name n) = .nameTooLong
  nearer : ∀ m, n < m → m ≤ start.parts.length → t.Lacks (start.above name m)

/-- A search comes to all directories, or there is a first one where it ends. -/
theorem search_cases (t : FileTree) (start : Path) (name : String) :
  (∃ n content, NearestFile t start name n content) ∨ NoFile t start name ∨
    ∃ n, SearchStopped t start name n
  := by
  -- The search goes downward: the numbers above some bound are those passed so far.
  have descend (k : Nat) (le : k ≤ start.parts.length + 1)
      (passed : ∀ m, k ≤ m → m ≤ start.parts.length → t.Lacks (start.above name m)) :
      (∃ n content, NearestFile t start name n content) ∨ NoFile t start name ∨
        ∃ n, SearchStopped t start name n := by
    induction k with
    | zero => exact .inr (.inl fun m le => passed m (Nat.zero_le m) le)
    | succ k ih =>
      obtain lacks | ⟨content, holds⟩ | tooLong := t.lacks_or_holds_or_tooLong (start.above name k)
      · apply ih (by omega)
        intro m above le
        obtain rfl | above : m = k ∨ k + 1 ≤ m := by omega
        · exact lacks
        · exact passed m above le
      · exact .inl ⟨k, content, by omega, holds, passed⟩
      · exact .inr (.inr ⟨k, by omega, tooLong, passed⟩)
  apply descend (start.parts.length + 1) (Nat.le_refl _)
  intro m above le
  omega

namespace Path

theorem map_join_ancestorsUpTo_zero (start : Path) (name : String) :
  (start.ancestorsUpTo 0).map (·.join ⟨.here, [name]⟩) = [start.above name 0]
  := rfl

theorem map_join_ancestorsUpTo_succ (start : Path) (name : String) (n : Nat) :
  (start.ancestorsUpTo (n + 1)).map (·.join ⟨.here, [name]⟩) =
    start.above name (n + 1) :: (start.ancestorsUpTo n).map (·.join ⟨.here, [name]⟩)
  := rfl

end Path

namespace FileTree

variable {test : Path → Except Failure Bool} {start : Path} {name : String}

theorem firstWhere_ancestors_none {n : Nat}
    (lacks : ∀ m ≤ n, test (start.above name m) = .ok false) :
  firstWhere test ((start.ancestorsUpTo n).map (·.join ⟨.here, [name]⟩)) = .ok none
  := by
  induction n with
  | zero => rw [Path.map_join_ancestorsUpTo_zero, firstWhere, lacks 0 (Nat.le_refl _), firstWhere]
  | succ n ih =>
    rw [Path.map_join_ancestorsUpTo_succ, firstWhere, lacks (n + 1) (Nat.le_refl _)]
    apply ih
    intro m le
    apply lacks m (by omega)

/-- What the first place that does not fail the test answers, is the answer. -/
theorem firstWhere_ancestors {n k : Nat} (le : k ≤ n)
    (nearer : ∀ m, k < m → m ≤ n → test (start.above name m) = .ok false)
    {answer : Except Failure (Option Path)}
    (ends : ∀ rest, firstWhere test (start.above name k :: rest) = answer) :
  firstWhere test ((start.ancestorsUpTo n).map (·.join ⟨.here, [name]⟩)) = answer
  := by
  induction n with
  | zero =>
    obtain rfl : k = 0 := by omega
    apply ends
  | succ n ih =>
    rw [Path.map_join_ancestorsUpTo_succ]
    by_cases here : k = n + 1
    · rw [← here]
      apply ends
    · rw [firstWhere, nearer (n + 1) (by omega) (Nat.le_refl _)]
      apply ih (by omega)
      intro m below le
      apply nearer m below (by omega)

theorem firstWhere_ancestors_some {n k : Nat} (le : k ≤ n)
    (holds : test (start.above name k) = .ok true)
    (nearer : ∀ m, k < m → m ≤ n → test (start.above name m) = .ok false) :
  firstWhere test ((start.ancestorsUpTo n).map (·.join ⟨.here, [name]⟩)) =
    .ok (some (start.above name k))
  := by
  apply firstWhere_ancestors le nearer
  intro rest
  rw [firstWhere, holds]

theorem firstWhere_ancestors_error {n k : Nat} {e : Failure} (le : k ≤ n)
    (fails : test (start.above name k) = .error e)
    (nearer : ∀ m, k < m → m ≤ n → test (start.above name m) = .ok false) :
  firstWhere test ((start.ancestorsUpTo n).map (·.join ⟨.here, [name]⟩)) = .error e
  := by
  apply firstWhere_ancestors le nearer
  intro rest
  rw [firstWhere, fails]

end FileTree

namespace Settings

variable {room : Nat} {t : FileTree} {start : Path} {name : String}

theorem nearest_of_noFile (plain : Path.ofText name = ⟨.here, [name]⟩)
    (missing : NoFile t start name) :
  nearest room t start name = .ok none
  := by
  rw [nearest, plain, Path.ancestors,
    FileTree.firstWhere_ancestors_none fun m le => (missing m le).probe]

theorem nearest_of_nearestFile (plain : Path.ofText name = ⟨.here, [name]⟩) {n : Nat}
    {content : List UInt8} (found : NearestFile t start name n content) :
  nearest room t start name =
    (readFile room (start.above name n) content).map fun members =>
      some (start.above name n, members)
  := by
  obtain ⟨real, executable, walk⟩ := found.holds
  rw [nearest, plain, Path.ancestors,
    FileTree.firstWhere_ancestors_some found.le found.holds.probe
      fun m below le => (found.nearer m below le).probe]
  simp only [walk]

theorem nearest_of_searchStopped (plain : Path.ofText name = ⟨.here, [name]⟩) {n : Nat}
    (stopped : SearchStopped t start name n) :
  nearest room t start name = .error (.file .nameTooLong (start.above name n).text)
  := by
  have fails : (t.probe (start.above name n)).map FileTree.isFile =
      .error (.file .nameTooLong (start.above name n).text) := by
    rw [FileTree.probe, stopped.tooLong]
    rfl
  rw [nearest, plain, Path.ancestors,
    FileTree.firstWhere_ancestors_error stopped.le fails
      fun m below le => (stopped.nearer m below le).probe]

/-! ### The layers of the files -/

/-- The section of the settings in the table of a project file; it may be left out. -/
inductive SectionOf (top : Members) : Members → Prop
  | noTool (absent : top.lookup "tool" = none) : SectionOf top []
  | noSection {tools : Members} (tool : top.lookup "tool" = some (.table tools))
      (absent : tools.lookup "flowcov" = none) : SectionOf top []
  | present {tools inner : Members} (tool : top.lookup "tool" = some (.table tools))
      (own : tools.lookup "flowcov" = some (.table inner)) : SectionOf top inner

/-- The bytes of a file write a table, for which there is enough room. -/
def Writes (room : Nat) (content : List UInt8) (top : Members) : Prop :=
  ∃ text, Text.decodeStrict content = some text ∧ Toml.parse room text = .ok top

/-- What the nearest project file contributes. -/
inductive ProjectLayer (room : Nat) (t : FileTree) (start : Path) : Members → Prop
  | absent (missing : NoFile t start "pyproject.toml") : ProjectLayer room t start []
  | present {n : Nat} {content : List UInt8} {top inner : Members}
      (found : NearestFile t start "pyproject.toml" n content) (writes : Writes room content top)
      (own : SectionOf top inner) : ProjectLayer room t start inner

/-- What the nearest settings file contributes. -/
inductive FileLayer (room : Nat) (t : FileTree) (start : Path) : Members → Prop
  | absent (missing : NoFile t start ".flowcov.toml") : FileLayer room t start []
  | present {n : Nat} {content : List UInt8} {top : Members}
      (found : NearestFile t start ".flowcov.toml" n content) (writes : Writes room content top) :
    FileLayer room t start top

theorem readFile_of_writes {content : List UInt8} {top : Members} (writes : Writes room content top)
    (path : Path) :
  readFile room path content = .ok top
  := by
  obtain ⟨text, decodes, parses⟩ := writes
  simp [readFile, decodes, parses]

theorem section?_of_sectionOf {top inner : Members} (own : SectionOf top inner) (path : Path) :
  Settings.section? path top = .ok inner
  := by
  cases own with
  | noTool absent => simp [section?, member, absent]
  | noSection tool absent => simp [section?, member, tool, absent]
  | present tool own => simp [section?, member, tool, own]

theorem projectLayer_eq {project : Members} (layer : ProjectLayer room t start project) :
  projectLayer room t start = .ok project
  := by
  cases layer with
  | absent missing => rw [projectLayer, projectFile, nearest_of_noFile (by decide) missing]
  | present found writes own =>
    rw [projectLayer, projectFile, nearest_of_nearestFile (by decide) found,
      readFile_of_writes writes]
    apply section?_of_sectionOf own

theorem fileLayer_eq {file : Members} (layer : FileLayer room t start file) :
  fileLayer room t start = .ok file
  := by
  cases layer with
  | absent missing =>
    rw [fileLayer, settingsFile, nearest_of_noFile (by decide) missing]
    rfl
  | present found writes =>
    rw [fileLayer, settingsFile, nearest_of_nearestFile (by decide) found,
      readFile_of_writes writes]
    rfl

end Settings

end TypeCoverage
