import TypeCoverage.Lint

/-!
# What a search upward comes to

A search upward looks at its places one after another (`Locator.places`).  It ends at the
first place where something is (`Locator.Nearest`), or fails at one that is too long to be
looked at (`Locator.Overlong`), or comes to the end.  A lint that fails before it has called
the checker does so because of the second (`Lint.begin_eq_error_iff`).
-/

namespace TypeCoverage

namespace FileTree

theorem exists_eq_error_iff {t : FileTree} {p : Path} {why : Failure} :
  t.exists? p = .error why ↔ t.walk p = .nameTooLong ∧ why = .file .nameTooLong p.text
  := by
  rw [← probe_eq_error_iff, exists?]
  cases t.probe p <;> simp [Except.map]

variable {test : Path → Except Failure Bool} {ps : List Path}

/-- Paths that fail the test are passed. -/
theorem firstWhere_append {nearer : List Path} (lack : ∀ q ∈ nearer, test q = .ok false) :
  firstWhere test (nearer ++ ps) = firstWhere test ps
  := by
  induction nearer with
  | nil => rfl
  | cons q nearer ih =>
    rw [List.forall_mem_cons] at lack
    rw [List.cons_append, firstWhere, lack.1]
    exact ih lack.2

/-- All paths fail the test, or there is a first one that does not. -/
theorem firstWhere_cases (test : Path → Except Failure Bool) (ps : List Path) :
  firstWhere test ps = .ok none ∨
    ∃ nearer p farther, ps = nearer ++ p :: farther ∧ (∀ q ∈ nearer, test q = .ok false) ∧
      ((test p = .ok true ∧ firstWhere test ps = .ok (some p)) ∨
        ∃ why, test p = .error why ∧ firstWhere test ps = .error why)
  := by
  induction ps with
  | nil => exact .inl rfl
  | cons first rest ih =>
    rw [firstWhere]
    rcases tested : test first with why | _ | _
    · exact .inr ⟨[], first, rest, rfl, by simp, .inr ⟨why, tested, rfl⟩⟩
    · refine ih.imp_right ?_
      rintro ⟨nearer, p, farther, rfl, lack, ends⟩
      exact ⟨first :: nearer, p, farther, rfl, List.forall_mem_cons.mpr ⟨tested, lack⟩, ends⟩
    · exact .inr ⟨[], first, rest, rfl, by simp, .inl ⟨tested, rfl⟩⟩

theorem firstWhere_eq_error_iff {why : Failure} :
  firstWhere test ps = .error why ↔
    ∃ nearer p farther, ps = nearer ++ p :: farther ∧ (∀ q ∈ nearer, test q = .ok false) ∧
      test p = .error why
  := by
  constructor
  · intro fails
    rcases firstWhere_cases test ps with
      none | ⟨nearer, p, farther, cut, lack, ⟨-, found⟩ | ⟨e, failed, same⟩⟩
    · rw [none] at fails
      cases fails
    · rw [found] at fails
      cases fails
    · rw [same] at fails
      cases fails
      exact ⟨nearer, p, farther, cut, lack, failed⟩
  · rintro ⟨nearer, p, farther, rfl, lack, fails⟩
    rw [firstWhere_append lack, firstWhere, fails]

theorem firstWhere_eq_some_iff {p : Path} :
  firstWhere test ps = .ok (some p) ↔
    ∃ nearer farther, ps = nearer ++ p :: farther ∧ (∀ q ∈ nearer, test q = .ok false) ∧
      test p = .ok true
  := by
  constructor
  · intro found
    rcases firstWhere_cases test ps with
      none | ⟨nearer, q, farther, cut, lack, ⟨holds, same⟩ | ⟨e, -, fails⟩⟩
    · rw [none] at found
      cases found
    · rw [same] at found
      cases found
      exact ⟨nearer, farther, cut, lack, holds⟩
    · rw [fails] at found
      cases found
  · rintro ⟨nearer, farther, rfl, lack, holds⟩
    rw [firstWhere_append lack, firstWhere, holds]

end FileTree

namespace Locator

/-- The places at which a name is looked for, from a directory upward. -/
def places (start name : String) : List Path :=
  (Path.ofText start).ancestors.map (·.join (Path.ofText name))

/-- A place is the first one at which something is, and those before it could be looked at. -/
structure Nearest (t : FileTree) (start name : String) (p : Path) : Prop where
  first : ∃ nearer farther, places start name = nearer ++ p :: farther ∧
    ∀ q ∈ nearer, t.exists? q = .ok false
  present : t.exists? p = .ok true

/-- A place is too long to be looked at, and nothing is at those before it. -/
structure Overlong (t : FileTree) (start name : String) (p : Path) : Prop where
  first : ∃ nearer farther, places start name = nearer ++ p :: farther ∧
    ∀ q ∈ nearer, t.exists? q = .ok false
  tooLong : t.walk p = .nameTooLong

theorem walkUpward_eq_some_iff {t : FileTree} {start name : String} {p : Path} :
  walkUpward t start name = .ok (some p) ↔ Nearest t start name p
  := by
  rw [walkUpward, ← places, FileTree.firstWhere_eq_some_iff]
  constructor
  · rintro ⟨nearer, farther, cut, lack, holds⟩
    exact ⟨⟨nearer, farther, cut, lack⟩, holds⟩
  · rintro ⟨⟨nearer, farther, cut, lack⟩, holds⟩
    exact ⟨nearer, farther, cut, lack, holds⟩

theorem walkUpward_eq_error_iff {t : FileTree} {start name : String} {why : Failure} :
  walkUpward t start name = .error why ↔
    ∃ p, Overlong t start name p ∧ why = .file .nameTooLong p.text
  := by
  rw [walkUpward, ← places, FileTree.firstWhere_eq_error_iff]
  constructor
  · rintro ⟨nearer, p, farther, cut, lack, fails⟩
    obtain ⟨tooLong, rfl⟩ := FileTree.exists_eq_error_iff.mp fails
    exact ⟨p, ⟨⟨nearer, farther, cut, lack⟩, tooLong⟩, rfl⟩
  · rintro ⟨p, ⟨⟨nearer, farther, cut, lack⟩, tooLong⟩, rfl⟩
    exact ⟨nearer, p, farther, cut, lack, FileTree.exists_eq_error_iff.mpr ⟨tooLong, rfl⟩⟩

theorem findUpward_eq_error_iff {t : FileTree} {m : Memo} {start name : String} {why : Failure} :
  (findUpward t m start name).1 = .error why ↔
    m.find? ⟨start, name⟩ = none ∧ walkUpward t start name = .error why
  := by
  rw [findUpward]
  cases m.find? ⟨start, name⟩ with
  | some found => simp
  | none => cases walkUpward t start name <;> simp

end Locator

namespace Lint

/-- The search for the project of a document, of which nothing is remembered, comes to a place
that is too long to be looked at. -/
def Strays (t : FileTree) (m : Memo) (document : Document) (p : Path) : Prop :=
  ∃ file, document.path = some file ∧ file ≠ "" ∧
    m.find? ⟨(Path.ofText file).parent.text, Locator.projectMarker⟩ = none ∧
      Locator.Overlong t (Path.ofText file).parent.text Locator.projectMarker p

/-- A lint that fails before it has called the checker has not found its way upward. -/
theorem begin_eq_error_iff {settings : Settings} {timeout : Option Binary64} {t : FileTree}
    {m : Memo} {document : Document} {why : Failure} :
  (begin settings timeout t m document).1 = .ended (.error why) ↔
    ∃ p, Strays t m document p ∧ why = .file .nameTooLong p.text
  := by
  have stray {file : String} (saved : document.path = some file) (named : file ≠ "") :
      (Locator.findProject t m (Path.ofText file).parent.text).1 = .error why ↔
        ∃ p, Strays t m document p ∧ why = .file .nameTooLong p.text := by
    rw [Locator.findProject, Locator.findUpward_eq_error_iff, Locator.walkUpward_eq_error_iff]
    constructor
    · rintro ⟨unknown, p, overlong, rfl⟩
      exact ⟨p, ⟨file, saved, named, unknown, overlong⟩, rfl⟩
    · rintro ⟨p, ⟨file', saved', -, unknown, overlong⟩, rfl⟩
      obtain rfl : file' = file := Option.some.inj (saved'.symm.trans saved)
      exact ⟨unknown, p, overlong, rfl⟩
  rw [begin]
  cases saved : document.path with
  | none => simp [Strays, saved]
  | some file =>
    dsimp only
    by_cases named : file = ""
    · rw [if_pos named]
      simp only [Begun.ended.injEq, reduceCtorEq, false_iff]
      rintro ⟨p, ⟨file', saved', named', -⟩, -⟩
      obtain rfl : file' = file := Option.some.inj (saved'.symm.trans saved)
      exact named' named
    · rw [if_neg named, ← stray saved named]
      rcases Locator.findProject t m (Path.ofText file).parent.text with ⟨e | config, m'⟩
      · simp
      · dsimp only
        split <;> simp

/-- A lint that calls the checker, and to which nothing is remembered, has found the project
nearest to its file, if there is one. -/
theorem config_eq_some_iff {settings : Settings} {timeout : Option Binary64} {t : FileTree}
    {document : Document} {file : String} {lint : Pending} (saved : document.path = some file)
    (begins : (begin settings timeout t .empty document).1 = .calls lint) (p : Path) :
  lint.config = some p ↔
    Locator.Nearest t (Path.ofText file).parent.text Locator.projectMarker p
  := by
  have unknown : Memo.empty.find? ⟨(Path.ofText file).parent.text, Locator.projectMarker⟩ = none :=
    rfl
  rw [← Locator.walkUpward_eq_some_iff]
  simp only [begin, saved, Locator.findProject, Locator.findUpward, unknown] at begins
  split at begins
  · simp at begins
  · rcases walked : Locator.walkUpward t (Path.ofText file).parent.text Locator.projectMarker
      with _ | config
    · simp [walked] at begins
    · simp only [walked] at begins
      split at begins
      · simp at begins
      · obtain rfl := Begun.calls.inj begins
        rw [Except.ok.injEq]

end Lint

end TypeCoverage
