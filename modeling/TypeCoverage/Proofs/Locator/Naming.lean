import TypeCoverage.Linter
import TypeCoverage.Proofs.FileTree.Walking
import TypeCoverage.Proofs.Locator.Installed
import TypeCoverage.Proofs.Locator.Remembered
import TypeCoverage.Spawn

/-!
# What the calls of a lint name

A call of the checker runs in the directory of the document's file, and is given the path of the
document as it is written.  So a relative path is followed from this directory once more, as is the
text of a checker that was found on a relative way upward.  `Lint.NamesFrom` says what both lead to:
to the right thing if the path is absolute, or the call runs where relative paths begin; and in a
tree without links exactly if the way to the directory, taken from its end, leads to this end again.
A way that goes down and not back never does.

`Linter.asksAbout` says this of all calls of a lint, and `Linter.asks_about_another_file` is a
document that the checker does not find.
-/

namespace TypeCoverage

/-- A call that runs has been given a directory, and its name. -/
theorem Call.directory_eq_ok {t : FileTree} {c : Call} {p : Path} {d : List String}
    (inside : c.cwd = some p) (runs : c.directory t = .ok d) :
  (∃ name, t.walk p = .found name .directory) ∧ d = t.realName p
  := by
  rw [directory, inside] at runs
  simp only at runs
  split at runs
  · cases runs
  · next probed =>
    refine ⟨?_, (Except.ok.inj runs).symm⟩
    rw [FileTree.probe] at probed
    split at probed
    · next name node walked =>
      cases probed
      exact ⟨name, walked⟩
    · cases probed
    · cases probed
  · cases runs

namespace Locator

/-- A checker of its own is found in one of the directories above. -/
theorem Nearest.exists_binaryIn {t : FileTree} {start : String} {p : Path}
    (nearest : Nearest t start localBinary p) :
  ∃ q ∈ (Path.ofText start).ancestors, p = binaryIn q
  := by
  obtain ⟨⟨nearer, farther, cut, -⟩, -⟩ := nearest
  have mem : p ∈ places start localBinary := by
    rw [cut]
    exact List.mem_append_right _ List.mem_cons_self
  obtain ⟨q, above, rfl⟩ := List.mem_map.mp mem
  exact ⟨q, above, rfl⟩

end Locator

namespace Lint

variable {settings : Settings} {timeout : Option Binary64} {t : FileTree} {m m' : Memo}
  {document : Document} {file : String} {lint : Pending}

/-- A lint calls the program that is found for the directory of its file. -/
theorem call_of_begin (truthful : m.Truthful t) (saved : document.path = some file)
    (begun : begin settings timeout t m document = (.calls lint, m')) :
  lint.call = coverageCall
    (Locator.program t (Path.ofText file).parent.text settings.executablePath) file document.id
    timeout
  := by
  obtain ⟨m₁, found, truthful₁⟩ :=
    truthful.findUpward (Path.ofText file).parent.text Locator.projectMarker
  obtain ⟨m₂, resolved, -⟩ :=
    truthful₁.resolveExecutable (Path.ofText file).parent.text settings.executablePath
  simp only [begin, saved, Locator.findProject, found] at begun
  split at begun
  · cases begun
  · split at begun
    · cases begun
    · next same =>
      obtain ⟨-, rfl⟩ := Prod.mk.inj same
      split at begun
      · cases begun
      · rw [resolved] at begun
        cases begun
        rfl

/-- A checker of its own that is found for a file. -/
def Finds (t : FileTree) (file : String) (p : Path) : Prop :=
  Locator.Nearest t (Path.ofText file).parent.text Locator.localBinary p

theorem Finds.exists_binaryIn {p : Path} (finds : Finds t file p) :
  ∃ q ∈ (Path.ofText file).parent.ancestors, p = Locator.binaryIn q
  := by
  have := Locator.Nearest.exists_binaryIn finds
  rwa [Path.ofText_text (Path.isSpelled_ofText file).parent] at this

/-- What the text of a file, and that of a checker that is found for it, lead to from a
directory. -/
structure NamesFrom (t : FileTree) (file : String) (d : List String) : Prop where
  /-- A file without a directory in front is named from where relative paths begin. -/
  bare : (Path.ofText file).isAbsolute = false → (Path.ofText file).parent.parts = [] → d = t.here
  /-- An absolute text leads to the same as from there, and any text does if the directory is that
  one. -/
  reaches : (Path.ofText file).isAbsolute = true ∨ d = t.here →
    t.walkText d file = t.walkText t.here file ∧
      ∀ p, Finds t file p → t.walkText d p.text = t.walk p
  /-- Without links, a text leads to its file if and only if the way to the directory of the file
  leads to this directory again. -/
  again : t.HasNoLinks → ∀ name content executable,
    t.walkText t.here file = .found name (.file content executable) →
      (t.walkText d file = .found name (.file content executable) ↔
        t.follow d (Path.ofText file).parent = t.follow t.here (Path.ofText file).parent)
  /-- The same holds of the checker and the directory in which it was found. -/
  checker : t.HasNoLinks → ∀ p, Finds t file p →
    ∃ q ∈ (Path.ofText file).parent.ancestors, p = Locator.binaryIn q ∧
      (t.walkText d p.text = t.walk p ↔ t.follow d q = t.follow t.here q)
  /-- A relative way with a directory in front, which does not go back, never does so. -/
  astray : t.HasNoLinks → (Path.ofText file).isAbsolute = false →
    (Path.ofText file).parent.parts ≠ [] → ".." ∉ (Path.ofText file).parent.parts →
      ∀ q ∈ (Path.ofText file).parent.ancestors, t.follow d q ≠ t.follow t.here q

/-- A call that is made for a file runs in its directory. -/
theorem namesFrom_of_directory (settled : ".." ∉ t.here) {c : Call} {d : List String}
    (inside : c.cwd = some (Path.ofText file).parent) (runs : c.directory t = .ok d) :
  NamesFrom t file d
  := by
  obtain ⟨⟨name, found⟩, rfl⟩ := Call.directory_eq_ok inside runs
  have spelled := (Path.isSpelled_ofText file).parent
  have spelled' {p : Path} (finds : Finds t file p) : p.IsSpelled ∧ p.parts ≠ [] := by
    obtain ⟨q, above, rfl⟩ := finds.exists_binaryIn
    refine ⟨(spelled.of_mem_ancestors above).join (Path.isSpelled_ofText _), ?_⟩
    simp [Locator.binaryIn_eq]
  constructor
  case bare =>
    intro relative bare
    exact FileTree.realName_of_bare settled relative bare
  case reaches =>
    intro reached
    constructor
    · rcases reached with absolute | here
      · exact FileTree.walkText_of_isAbsolute absolute ..
      · rw [here]
    · intro p finds
      refine FileTree.walkText_text (spelled' finds).1 (spelled' finds).2 (reached.imp_left ?_)
      obtain ⟨q, above, rfl⟩ := finds.exists_binaryIn
      obtain ⟨n, rfl⟩ := Path.exists_take_of_mem_ancestors above
      rw [Locator.binaryIn_eq]
      exact id
  case again =>
    intro plain name content executable found
    obtain ⟨rest, more, forward, leads⟩ := FileTree.exists_of_walkText plain found
    rw [leads] at found ⊢
    exact FileTree.walkFrom_append_eq_iff plain more forward found
  case checker =>
    intro plain p finds
    obtain ⟨q, above, rfl⟩ := finds.exists_binaryIn
    refine ⟨q, above, rfl, ?_⟩
    obtain ⟨name, node, found⟩ := FileTree.exists_eq_true_iff.mp finds.present
    rw [FileTree.walkText_text_of_found (spelled' finds).1 (spelled' finds).2 found, found]
    have here := FileTree.follow_here found
    rw [Locator.binaryIn_eq] at here ⊢
    exact FileTree.walkFrom_append_eq_iff plain (by decide) (by decide) here
  case astray =>
    intro plain relative inner forward q above
    exact FileTree.follow_ne_of_inner plain settled relative inner forward found above

/-- What a call of a lint for a file names. -/
structure AsksAbout (t : FileTree) (settings : Settings) (file : String) (c : Call) : Prop where
  arguments : c.args = ["coverage", file, "--json"]
  inside : c.cwd = some (Path.ofText file).parent
  executable : settings.executablePath = "" → ∀ p, Finds t file p → c.executable = p.text
  names : ∀ d, c.directory t = .ok d → NamesFrom t file d

theorem asksAbout_of_begin (settled : ".." ∉ t.here) (truthful : m.Truthful t)
    (saved : document.path = some file)
    (begun : begin settings timeout t m document = (.calls lint, m')) :
  AsksAbout t settings file lint.call
  := by
  have called := call_of_begin truthful saved begun
  have inside : lint.call.cwd = some (Path.ofText file).parent := by
    rw [called]
    rfl
  constructor
  case arguments =>
    rw [called]
    rfl
  case inside => exact inside
  case executable =>
    intro unset p nearest
    rw [called, coverageCall, unset, Locator.program_eq,
      Locator.walkUpward_eq_some_iff.mpr nearest]
  case names => exact fun d runs => namesFrom_of_directory settled inside runs

end Lint

namespace Linter

theorem calls_ask (l : Linter) :
  l.ask.2.calls = l.calls
  := by
  rw [ask]
  split <;> rfl

theorem calls_keep (l : Linter) (p : Lint.Pending) (r : Report) :
  (l.keep p r).2.calls = l.calls
  := by
  have asks := l.calls_ask
  rw [keep]
  rcases asked : l.ask with ⟨_ | _, l'⟩ <;> simpa only [asked] using asks

/-- All calls of a lint are the same. -/
theorem calls_converse (l : Linter) (p : Lint.Pending) (replies : List Reply) :
  ∃ n, (l.converse p replies).2.calls = l.calls ++ List.replicate (n + 1) p.call
  := by
  induction replies generalizing l with
  | nil => exact ⟨0, rfl⟩
  | cons reply replies ih =>
    rw [converse]
    cases p.hear reply with
    | ended result => exact ⟨0, rfl⟩
    | report r => exact ⟨0, calls_keep ..⟩
    | busy root =>
      dsimp -zeta only
      extract_lets l'
      have asks : l'.ask.2.calls = l.calls ++ [p.call] := by
        rw [calls_ask]
        cases root <;> rfl
      rcases asked : l'.ask with ⟨_ | _, l''⟩ <;> rw [asked] at asks
      · exact ⟨0, asks⟩
      · obtain ⟨n, again⟩ := ih l''
        exact ⟨n + 1, by rw [again, asks, List.append_assoc]; rfl⟩

variable {settings : Settings} {timeout : Option Binary64} {t : FileTree} {document : Document}
  {file : String}

/-- All calls of a lint of a saved document name its file, and the checker that is found for it, as
`Lint.NamesFrom` says. -/
theorem asksAbout (l : Linter) (settled : ".." ∉ t.here) (truthful : l.memo.Truthful t)
    (saved : document.path = some file) :
  ∃ made, (l.lint settings timeout t document).2.calls = l.calls ++ made ∧
    ∀ c ∈ made, Lint.AsksAbout t settings file c
  := by
  rw [lint]
  cases begun : Lint.begin settings timeout t l.memo document with | mk begins memo =>
  cases begins with
  | ended result => exact ⟨[], (List.append_nil _).symm, by simp⟩
  | calls lint =>
    obtain ⟨n, calls⟩ := { l with memo := memo }.calls_converse lint l.replies
    refine ⟨_, calls, fun c mem => ?_⟩
    rw [List.eq_of_mem_replicate mem]
    exact Lint.asksAbout_of_begin settled truthful saved begun

/-! ### A file below the current directory -/

/-- A file in a directory below the current one. -/
def belowSample : FileTree :=
  { entries := [(["r", "sub", "a.js"], .file [] false), (["r", "sub"], .directory),
      (["r"], .directory)]
    here := ["r"] }

/-- The settings of someone who has installed the checker. -/
def belowSettings : Settings := { executablePath := "flow" }

/-- The lint of this file. -/
def belowLint : Lint.Pending :=
  { document := .ofFile "sub/a.js"
    file := "sub/a.js"
    showUncovered := false
    config := none
    call := Lint.coverageCall "flow" "sub/a.js" "sub/a.js" none }

/-- The checker of this lint is replaced at once. -/
def belowLinter : Linter := { replies := [.replaced] }

theorem hasNoLinks_belowSample : belowSample.HasNoLinks := by
  apply FileTree.hasNoLinks_of_entries
  simp [belowSample]

theorem isEntryName_sub : FileTree.IsEntryName "sub" := by
  constructor <;> decide +kernel

theorem entry_sub : belowSample.entry? (["r"] ++ ["sub"]) = some .directory := by decide +kernel

theorem walkUpward_belowSample :
  Locator.walkUpward belowSample "sub" Locator.projectMarker = .ok none
  := by
  have places : Locator.places "sub" Locator.projectMarker =
      [⟨.here, ["sub", ".flowconfig"]⟩, ⟨.here, [".flowconfig"]⟩] := by decide +kernel
  have marker : FileTree.IsEntryName ".flowconfig" := by constructor <;> decide +kernel
  have below : belowSample.walk ⟨.here, ["sub", ".flowconfig"]⟩ = .missing := by
    have entry : belowSample.entry? (["r", "sub"] ++ [".flowconfig"]) = none := by decide +kernel
    rw [FileTree.walk, if_neg (by decide +kernel), if_neg (by decide +kernel)]
    exact (FileTree.walkFrom_of_directory isEntryName_sub entry_sub _).trans
      (FileTree.walkFrom_of_missing marker entry _)
  have here : belowSample.walk ⟨.here, [".flowconfig"]⟩ = .missing := by
    have entry : belowSample.entry? (["r"] ++ [".flowconfig"]) = none := by decide +kernel
    rw [FileTree.walk, if_neg (by decide +kernel), if_neg (by decide +kernel)]
    exact FileTree.walkFrom_of_missing marker entry _
  rw [Locator.walkUpward, ← Locator.places, places]
  simp [FileTree.firstWhere, FileTree.exists?, FileTree.probe, below, here, Except.map]

/-- The checker is called once. -/
theorem calls_belowLinter :
  (belowLinter.lint belowSettings none belowSample (.ofFile "sub/a.js")).2.calls = [belowLint.call]
  := by
  have directory : (Path.ofText "sub/a.js").parent.text = "sub" := by decide +kernel
  have begun : ∃ memo, Lint.begin belowSettings none belowSample .empty (.ofFile "sub/a.js") =
      (.calls belowLint, memo) := by
    simp only [Lint.begin, Document.ofFile, directory, Locator.findProject, Locator.findUpward,
      walkUpward_belowSample]
    exact ⟨_, rfl⟩
  obtain ⟨memo, begun⟩ := begun
  rw [lint, show belowLinter.memo = .empty from rfl, begun]
  rfl

/-- The call names the file as `Lint.NamesFrom` says. -/
theorem asksAbout_belowSample :
  ".." ∉ belowSample.here ∧ belowLinter.memo.Truthful belowSample ∧
    Lint.AsksAbout belowSample belowSettings "sub/a.js" belowLint.call
  := by
  have settled : ".." ∉ belowSample.here := by decide
  have truthful : belowLinter.memo.Truthful belowSample := Memo.Truthful.empty _
  have asks : ∃ made, (belowLinter.lint belowSettings none belowSample
      (.ofFile "sub/a.js")).2.calls = belowLinter.calls ++ made ∧
        ∀ c ∈ made, Lint.AsksAbout belowSample belowSettings "sub/a.js" c :=
    belowLinter.asksAbout settled truthful rfl
  obtain ⟨made, calls, asks⟩ := asks
  rw [calls_belowLinter] at calls
  obtain rfl : [belowLint.call] = made := calls
  exact ⟨settled, truthful, asks _ (List.mem_singleton_self _)⟩

/-- The path leads to a file, but not from where the checker is asked about it. -/
theorem asks_about_another_file :
  ∃ c d,
    (belowLinter.lint belowSettings none belowSample (.ofFile "sub/a.js")).2.calls = [c] ∧
      c.args = ["coverage", "sub/a.js", "--json"] ∧ c.directory belowSample = .ok d ∧
        belowSample.walkText belowSample.here "sub/a.js" =
          .found ["r", "sub", "a.js"] (.file [] false) ∧
        belowSample.walkText d "sub/a.js" = .missing
  := by
  have steps (dir : List String) : FileTree.stepsOf "sub/a.js" dir = (dir, ["sub", "a.js"]) := by
    have relative : (Path.ofText "sub/a.js").isAbsolute = false := by decide +kernel
    have parts : (FileTree.stepsOf "sub/a.js" []).2 = ["sub", "a.js"] := by decide +kernel
    rw [← parts]
    simp only [FileTree.stepsOf, relative, Bool.false_eq_true, if_false]
  have runs : belowLint.call.directory belowSample = .ok ["r", "sub"] := by
    have cwd : belowLint.call.cwd = some ⟨.here, ["sub"]⟩ := by decide +kernel
    have walk : belowSample.walk ⟨.here, ["sub"]⟩ = .found ["r", "sub"] .directory := by
      rw [FileTree.walk, if_neg (by decide +kernel), if_neg (by decide +kernel)]
      refine (FileTree.walkFrom_of_directory isEntryName_sub entry_sub _).trans ?_
      rw [FileTree.walkFrom]
      rfl
    have realName := FileTree.realName_of_hasNoLinks hasNoLinks_belowSample (by decide)
      (p := ⟨.here, ["sub"]⟩) rfl (by decide)
    simp only [Call.directory, cwd, FileTree.probe, walk, realName]
    rfl
  refine ⟨_, _, calls_belowLinter, rfl, runs, ?_, ?_⟩
  · have named : FileTree.IsEntryName "a.js" := by constructor <;> decide +kernel
    have entry : belowSample.entry? (["r", "sub"] ++ ["a.js"]) = some (.file [] false) := by
      decide +kernel
    rw [FileTree.walkText, if_neg (by decide +kernel), if_neg (by decide +kernel), steps]
    exact (FileTree.walkFrom_of_directory isEntryName_sub entry_sub _).trans
      (FileTree.walkFrom_of_file named entry _)
  · have entry : belowSample.entry? (["r", "sub"] ++ ["sub"]) = none := by decide +kernel
    rw [FileTree.walkText, if_neg (by decide +kernel), if_neg (by decide +kernel), steps]
    exact FileTree.walkFrom_of_missing isEntryName_sub entry _

end Linter

end TypeCoverage
