import TypeCoverage.FileTree.Basic

/-!
# Paths and their texts

A path can be spelled if its parts are those of some text: not empty, no single dot, and without
slashes (`Path.IsSpelled`).  The text of such a path is read back as the path (`Path.ofText_text`).

A text is followed from a directory, and a path from the directory where relative paths begin.  Both
come to the same if the path is absolute or the directory is that one (`FileTree.walkText_text`).
-/

namespace TypeCoverage

namespace Text

/-- To cut a text at a character is to split its list of characters. -/
theorem splitAtChar_eq_splitOn (separator : Char) (cs : List Char) :
  splitAtChar separator cs = cs.splitOn separator
  := by
  induction cs with
  | nil => rw [splitAtChar, List.splitOn_nil]
  | cons c cs ih =>
    rw [splitAtChar, ih, List.splitOn_eq_splitOnP, List.splitOn_eq_splitOnP,
      List.splitOnP_cons_eq_if_modifyHead, ← List.splitOn_eq_splitOnP]
    by_cases cut : c = separator
    · rw [if_pos cut, if_pos (beq_iff_eq.mpr cut)]
    · rw [if_neg cut, if_neg (by simpa using cut)]
      cases pieces : cs.splitOn separator with
      | nil => exact absurd pieces (List.splitOn_ne_nil separator cs)
      | cons piece pieces => rfl

/-- The pieces of a text do not hold the character at which it is cut. -/
theorem not_mem_of_mem_splitAtChar {separator : Char} {cs piece : List Char}
    (mem : piece ∈ splitAtChar separator cs) :
  separator ∉ piece
  := by
  induction cs generalizing piece with
  | nil =>
    obtain rfl := List.mem_singleton.mp mem
    exact List.not_mem_nil
  | cons c cs ih =>
    rw [splitAtChar] at mem
    split at mem
    · rcases List.mem_cons.mp mem with rfl | mem
      · exact List.not_mem_nil
      · exact ih mem
    · next other =>
      split at mem
      · obtain rfl := List.mem_singleton.mp mem
        simpa using Ne.symm other
      · next first rest pieces =>
        rw [pieces] at ih
        rcases List.mem_cons.mp mem with rfl | mem
        · rw [List.mem_cons, not_or]
          exact ⟨Ne.symm other, ih List.mem_cons_self⟩
        · exact ih (List.mem_cons_of_mem _ mem)

end Text

namespace Path

/-- A part that a text can have. -/
structure IsPart (part : String) : Prop where
  named : part ≠ ""
  moves : part ≠ "."
  whole : '/' ∉ part.toList

/-- All parts of a path can be written. -/
def IsSpelled (p : Path) : Prop := ∀ part ∈ p.parts, IsPart part

theorem isSpelled_ofText (text : String) :
  (ofText text).IsSpelled
  := by
  intro part mem
  obtain ⟨written, kept⟩ := List.mem_filter.mp mem
  obtain ⟨piece, cut, rfl⟩ := List.mem_map.mp written
  have kept : String.ofList piece ≠ "" ∧ String.ofList piece ≠ "." := by simpa using kept
  refine ⟨kept.1, kept.2, ?_⟩
  rw [String.toList_ofList]
  exact Text.not_mem_of_mem_splitAtChar cut

/-- A path and its parents have some of its first parts each. -/
theorem exists_take_of_mem_ancestors {p q : Path} (mem : q ∈ p.ancestors) :
  ∃ n, q = ⟨p.anchor, p.parts.take n⟩
  := by
  rw [ancestors] at mem
  generalize p.parts.length = k at mem
  induction k with
  | zero => exact ⟨0, by simpa [ancestorsUpTo] using mem⟩
  | succ k ih =>
    rcases List.mem_cons.mp mem with rfl | mem
    · exact ⟨k + 1, rfl⟩
    · exact ih mem

namespace IsSpelled

variable {p q : Path}

theorem parent (spelled : p.IsSpelled) : p.parent.IsSpelled :=
  fun part mem => spelled part (List.dropLast_subset _ mem)

theorem join (spelled : p.IsSpelled) (spelled' : q.IsSpelled) : (p.join q).IsSpelled := by
  rw [Path.join]
  split
  · exact spelled'
  · intro part mem
    rcases List.mem_append.mp mem with mem | mem
    · exact spelled part mem
    · exact spelled' part mem

theorem of_mem_ancestors (spelled : p.IsSpelled) (mem : q ∈ p.ancestors) : q.IsSpelled := by
  obtain ⟨n, rfl⟩ := exists_take_of_mem_ancestors mem
  exact fun part mem => spelled part (List.mem_of_mem_take mem)

end IsSpelled

/-! ### Texts of paths -/

theorem text_eq {p : Path} (named : p.parts ≠ []) :
  p.text = p.anchor.text ++ String.intercalate "/" p.parts
  := by
  obtain ⟨anchor, parts⟩ := p
  cases parts with
  | nil => contradiction
  | cons part parts => cases anchor <;> rfl

section Parts

variable {parts : List String} (spelled : ∀ part ∈ parts, IsPart part) (named : parts ≠ [])

include spelled named

theorem splitAtChar_intercalate :
  Text.splitAtChar '/' (String.intercalate "/" parts).toList = parts.map String.toList
  := by
  rw [Text.splitAtChar_eq_splitOn, String.toList_intercalate]
  apply List.splitOn_intercalate
  · intro piece mem
    obtain ⟨part, known, rfl⟩ := List.mem_map.mp mem
    exact (spelled part known).whole
  · simpa using named

/-- The text of parts does not begin with a slash. -/
theorem exists_toList_intercalate :
  ∃ c cs, (String.intercalate "/" parts).toList = c :: cs ∧ c ≠ '/'
  := by
  obtain ⟨part, rest, rfl⟩ := List.exists_cons_of_ne_nil named
  have first : part.toList ≠ [] := by simpa using (spelled part List.mem_cons_self).named
  have pieces := splitAtChar_intercalate spelled named
  cases text : (String.intercalate "/" (part :: rest)).toList with
  | nil =>
    rw [text] at pieces
    exact absurd (List.cons.inj pieces).1.symm first
  | cons c cs =>
    refine ⟨c, cs, rfl, ?_⟩
    rintro rfl
    rw [text, Text.splitAtChar, if_pos rfl] at pieces
    exact first (List.cons.inj pieces).1.symm

end Parts

theorem isEmpty_text {p : Path} (spelled : p.IsSpelled) (named : p.parts ≠ []) :
  p.text.isEmpty = false
  := by
  obtain ⟨c, cs, text, -⟩ := exists_toList_intercalate spelled named
  have full : String.intercalate "/" p.parts ≠ "" := by
    rw [ne_eq, ← String.toList_eq_nil_iff, text]
    simp
  simp [text_eq named, full]

/-- The text of a path that has parts is cut into them, after an empty piece for each slash in
front. -/
theorem exists_splitAtChar_text {p : Path} (spelled : p.IsSpelled) (named : p.parts ≠ []) :
  ∃ n, Text.splitAtChar '/' p.text.toList =
    List.replicate n [] ++ p.parts.map String.toList
  := by
  have pieces := splitAtChar_intercalate spelled named
  have slash (cs : List Char) :
      Text.splitAtChar '/' ('/' :: cs) = [] :: Text.splitAtChar '/' cs := by
    rw [Text.splitAtChar, if_pos rfl]
  rw [text_eq named, String.toList_append, ← pieces]
  cases p.anchor with
  | here => exact ⟨0, rfl⟩
  | root => exact ⟨1, slash _⟩
  | doubleRoot => exact ⟨2, (slash _).trans (congrArg _ (slash _))⟩

/-- A path that can be spelled is read back from its text. -/
theorem ofText_text {p : Path} (spelled : p.IsSpelled) :
  ofText p.text = p
  := by
  by_cases named : p.parts = []
  · obtain ⟨anchor, parts⟩ := p
    obtain rfl : parts = [] := named
    cases anchor <;> decide
  · have anchor : anchorOf p.text.toList = p.anchor := by
      obtain ⟨c, cs, text, other⟩ := exists_toList_intercalate spelled named
      rw [text_eq named, String.toList_append, text]
      cases p.anchor with
      | here => simp [Anchor.text, anchorOf, other]
      | root => simp [Anchor.text, anchorOf, other]
      | doubleRoot => simp [Anchor.text, anchorOf, other]
    have parts : partsOf p.text.toList = p.parts := by
      obtain ⟨n, cut⟩ := exists_splitAtChar_text spelled named
      have kept : p.parts.filter (fun part => part ≠ "" && part ≠ ".") = p.parts := by
        rw [List.filter_eq_self]
        intro part mem
        simp [(spelled part mem).named, (spelled part mem).moves]
      rw [partsOf, cut]
      simpa [Function.comp_def] using kept
    rw [ofText, anchor, parts]

/-- The text of a path that has parts does not ask for a directory. -/
theorem getLast_splitAtChar_text {p : Path} (spelled : p.IsSpelled) (named : p.parts ≠ []) :
  ∃ part, IsPart part ∧ (Text.splitAtChar '/' p.text.toList).getLast? = some part.toList
  := by
  obtain ⟨n, cut⟩ := exists_splitAtChar_text spelled named
  refine ⟨p.parts.getLast named, spelled _ (List.getLast_mem named), ?_⟩
  rw [cut, List.getLast?_append, List.getLast?_map, List.getLast?_eq_some_getLast named]
  rfl

end Path

namespace FileTree

open Path (IsPart)

/-- The text of a path that has parts leads where the path leads. -/
theorem stepsOf_text {p : Path} (spelled : p.IsSpelled) (named : p.parts ≠ []) (dir : List String) :
  stepsOf p.text dir = (if p.isAbsolute then [] else dir, p.parts)
  := by
  obtain ⟨part, isPart, last⟩ := Path.getLast_splitAtChar_text spelled named
  have plain : part.toList ≠ [] ∧ part.toList ≠ ['.'] := by
    constructor
    · simpa using isPart.named
    · intro dot
      apply isPart.moves
      rw [← String.toList_inj, dot]
      rfl
  simp [stepsOf, Path.ofText_text spelled, last, plain]

/-- A text leads along the parts of its path, and a single dot stands after them if it asks for a
directory. -/
theorem exists_stepsOf (text : String) :
  ∃ dots, (dots = [] ∨ dots = ["."]) ∧ ∀ dir, stepsOf text dir =
    (if (Path.ofText text).isAbsolute then [] else dir, (Path.ofText text).parts ++ dots)
  := by
  refine ⟨_, ?_, fun dir => rfl⟩
  split
  · exact .inr rfl
  · exact .inl rfl

/-- An absolute text leads to the same from everywhere. -/
theorem walkText_of_isAbsolute {text : String} (absolute : (Path.ofText text).isAbsolute = true)
    (t : FileTree) (dir dir' : List String) :
  t.walkText dir text = t.walkText dir' text
  := by
  have steps : stepsOf text dir = stepsOf text dir' := by simp [stepsOf, absolute]
  rw [walkText, walkText, steps]

/-- The text of a path that has parts leads from a directory where the path leads, if the path
is absolute or relative paths begin in the directory. -/
theorem walkText_text {t : FileTree} {p : Path} (spelled : p.IsSpelled) (named : p.parts ≠ [])
    {dir : List String} (reached : p.isAbsolute = true ∨ dir = t.here) :
  t.walkText dir p.text = t.walk p
  := by
  have start : stepsOf p.text dir = t.startOf p := by
    rw [stepsOf_text spelled named, startOf]
    rcases reached with absolute | rfl
    · simp [absolute]
    · rfl
  rw [walkText, walk, Path.isEmpty_text spelled named, Bool.false_or, start]

end FileTree

end TypeCoverage
