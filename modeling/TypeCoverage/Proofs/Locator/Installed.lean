import Mathlib.Logic.Function.Iterate
import Mathlib.Tactic.Use
import TypeCoverage.Proofs.FileTree.Spelling
import TypeCoverage.Proofs.Locator.Upward

/-!
# The checker that is installed nearest to a start

The way upward from a start leads from a directory to its parent, and ends at a path without
parts (`Locator.directoryAt`, `Locator.depth`).  In each directory there is one place for a
checker (`Locator.binaryIn`), and the checker is `InstalledAt` the first directory whose place
holds something, unless one of the places before it is too long to be looked at (`StoppedAt`).
If neither holds for any directory, no place holds anything (`search_cases`).

`Resolves` says of each case which program is run, and `resolves` proves it for all trees, all
starts and all settings, where nothing is remembered.
-/

namespace TypeCoverage

namespace Path

/-- The way upward drops one part after another. -/
theorem iterate_parent (p : Path) (n : Nat) :
  Path.parent^[n] p = ⟨p.anchor, p.parts.take (p.parts.length - n)⟩
  := by
  induction n with
  | zero => rw [Nat.sub_zero, List.take_length, Function.iterate_zero_apply]
  | succ n ih =>
    have shorter : min (min (p.parts.length - n) p.parts.length - 1) (p.parts.length - n) =
        p.parts.length - (n + 1) := by omega
    rw [Function.iterate_succ_apply', ih, parent, List.dropLast_eq_take, List.take_take,
      List.length_take, shorter]

theorem ancestorsUpTo_eq (p : Path) (k : Nat) :
  p.ancestorsUpTo k = (List.range (k + 1)).map fun n => ⟨p.anchor, p.parts.take (k - n)⟩
  := by
  induction k with
  | zero => simp [ancestorsUpTo]
  | succ k ih => simp [ancestorsUpTo, ih, List.range_succ_eq_map (n := k + 1), Function.comp_def]

/-- A path and all its parents are what stands on the way upward. -/
theorem ancestors_eq (p : Path) :
  p.ancestors = (List.range (p.parts.length + 1)).map fun n => Path.parent^[n] p
  := by
  simp only [iterate_parent]
  apply ancestorsUpTo_eq

/-- What stands in front of a name in a directory. -/
def lead (p : Path) : String := if p.parts = [] then p.anchor.text else p.text ++ "/"

theorem text_join {p q : Path} (relative : q.anchor = .here) (named : q.parts ≠ []) :
  (p.join q).text = p.lead ++ String.intercalate "/" q.parts
  := by
  obtain ⟨anchor, parts⟩ := p
  have inside : (⟨anchor, parts⟩ : Path).join q = ⟨anchor, parts ++ q.parts⟩ := by
    rw [join, isAbsolute, relative]
    rfl
  rw [inside, text_eq (List.append_ne_nil_of_right_ne_nil parts named), lead]
  by_cases bare : parts = []
  · rw [if_pos bare, bare, List.nil_append]
  · rw [if_neg bare, text_eq bare, String.intercalate_append_of_ne_nil bare named]
    simp only [String.append_assoc]

end Path

namespace FileTree

/-- A path leads to something. -/
def Leads (t : FileTree) (p : Path) : Prop := ∃ name node, t.walk p = .found name node

/-- A path has been looked at, and it leads to nothing. -/
def LeadsNowhere (t : FileTree) (p : Path) : Prop := ¬ t.Leads p ∧ t.walk p ≠ .nameTooLong

/-- Tests that agree on some paths answer the same first one. -/
theorem firstWhere_congr {test test' : Path → Except Failure Bool} {ps : List Path}
    (same : ∀ p ∈ ps, test' p = test p) :
  firstWhere test' ps = firstWhere test ps
  := by
  induction ps with
  | nil => rfl
  | cons p ps ih =>
    rw [List.forall_mem_cons] at same
    rw [firstWhere, firstWhere, same.1, ih same.2]

theorem exists_eq_true_iff {t : FileTree} {p : Path} :
  t.exists? p = .ok true ↔ t.Leads p
  := by
  rw [exists?, probe, Leads]
  cases t.walk p <;> simp [Except.map]

theorem exists_eq_false_iff {t : FileTree} {p : Path} :
  t.exists? p = .ok false ↔ t.LeadsNowhere p
  := by
  rw [exists?, probe, LeadsNowhere, Leads]
  cases t.walk p <;> simp [Except.map]

end FileTree

namespace Locator

/-- The directory that is looked at after `n` others: the start, its parent, the parent of
that, and so on. -/
def directoryAt (start : String) (n : Nat) : Path := Path.parent^[n] (Path.ofText start)

/-- The number of directories on the way upward from a start, without the start itself. -/
def depth (start : String) : Nat := (Path.ofText start).parts.length

/-- The place in a directory for a checker of its own. -/
def binaryIn (d : Path) : Path := d.join (Path.ofText localBinary)

theorem ofText_localBinary :
  Path.ofText localBinary = ⟨.here, ["node_modules", ".bin", "flow"]⟩
  := by
  decide +kernel

theorem binaryIn_eq (d : Path) :
  binaryIn d = ⟨d.anchor, d.parts ++ ["node_modules", ".bin", "flow"]⟩
  := by
  rw [binaryIn, ofText_localBinary]
  rfl

theorem text_binaryIn (d : Path) :
  (binaryIn d).text = d.lead ++ "node_modules/.bin/flow"
  := by
  rw [binaryIn, ofText_localBinary, Path.text_join rfl (by decide)]
  rfl

/-- The places for a checker stand in the directories on the way upward. -/
theorem places_localBinary (start : String) :
  places start localBinary =
    (List.range (depth start + 1)).map fun n => binaryIn (directoryAt start n)
  := by
  rw [places, Path.ancestors_eq, List.map_map]
  rfl

/-- The places for a checker, cut at one of them. -/
theorem places_cut {start : String} {n : Nat} (le : n ≤ depth start) :
  ∃ farther, places start localBinary =
    ((List.range n).map fun m => binaryIn (directoryAt start m)) ++
      binaryIn (directoryAt start n) :: farther
  := by
  use (List.range (depth start - n)).map fun m => binaryIn (directoryAt start (n + 1 + m))
  rw [places_localBinary, show depth start + 1 = n + 1 + (depth start - n) by omega,
    List.range_add, List.range_succ]
  simp [Function.comp_def]

/-! ### Where the way upward ends -/

/-- A checker is installed in a directory, and in none of those before it on the way upward. -/
structure InstalledAt (t : FileTree) (start : String) (n : Nat) : Prop where
  le : n ≤ depth start
  present : t.Leads (binaryIn (directoryAt start n))
  nearer : ∀ m < n, t.LeadsNowhere (binaryIn (directoryAt start m))

/-- The place in a directory is too long to be looked at, and in none of those before it on the
way upward is a checker installed. -/
structure StoppedAt (t : FileTree) (start : String) (n : Nat) : Prop where
  le : n ≤ depth start
  tooLong : t.walk (binaryIn (directoryAt start n)) = .nameTooLong
  nearer : ∀ m < n, t.LeadsNowhere (binaryIn (directoryAt start m))

/-- No checker is installed on the way upward. -/
def NotInstalled (t : FileTree) (start : String) : Prop :=
  ∀ n ≤ depth start, t.LeadsNowhere (binaryIn (directoryAt start n))

variable {t : FileTree} {start : String}

/-- What the first place answers that does not lead nowhere, is the answer. -/
theorem walkUpward_of_nearer {n : Nat} (le : n ≤ depth start)
    (nearer : ∀ m < n, t.LeadsNowhere (binaryIn (directoryAt start m))) :
  ∃ farther, walkUpward t start localBinary =
    FileTree.firstWhere t.exists? (binaryIn (directoryAt start n) :: farther)
  := by
  obtain ⟨farther, cut⟩ := places_cut le
  use farther
  rw [walkUpward, ← places, cut, FileTree.firstWhere_append]
  intro q mem
  obtain ⟨m, before, rfl⟩ := List.mem_map.mp mem
  apply FileTree.exists_eq_false_iff.mpr
  apply nearer m (List.mem_range.mp before)

theorem walkUpward_of_installedAt {n : Nat} (installed : InstalledAt t start n) :
  walkUpward t start localBinary = .ok (some (binaryIn (directoryAt start n)))
  := by
  obtain ⟨farther, walks⟩ := walkUpward_of_nearer installed.le installed.nearer
  rw [walks, FileTree.firstWhere, FileTree.exists_eq_true_iff.mpr installed.present]

theorem walkUpward_of_stoppedAt {n : Nat} (stopped : StoppedAt t start n) :
  walkUpward t start localBinary =
    .error (.file .nameTooLong (binaryIn (directoryAt start n)).text)
  := by
  obtain ⟨farther, walks⟩ := walkUpward_of_nearer stopped.le stopped.nearer
  rw [walks, FileTree.firstWhere, FileTree.exists_eq_error_iff.mpr ⟨stopped.tooLong, rfl⟩]

theorem walkUpward_of_notInstalled (missing : NotInstalled t start) :
  walkUpward t start localBinary = .ok none
  := by
  rw [walkUpward, ← places, places_localBinary, ← List.append_nil (List.map _ _),
    FileTree.firstWhere_append]
  · rfl
  · intro q mem
    obtain ⟨n, before, rfl⟩ := List.mem_map.mp mem
    apply FileTree.exists_eq_false_iff.mpr
    apply missing n (Nat.le_of_lt_succ (List.mem_range.mp before))

/-- The way upward comes to a checker, to a place that is too long, or to its end. -/
theorem search_cases (t : FileTree) (start : String) :
  (∃ n, InstalledAt t start n) ∨ (∃ n, StoppedAt t start n) ∨ NotInstalled t start
  := by
  -- The first `k` places have been looked at, unless the way has ended before.
  have ascend (k : Nat) (le : k ≤ depth start + 1) :
      (∃ n, InstalledAt t start n) ∨ (∃ n, StoppedAt t start n) ∨
        ∀ m < k, t.LeadsNowhere (binaryIn (directoryAt start m)) := by
    induction k with
    | zero => simp
    | succ k ih =>
      obtain installed | stopped | passed := ih (by omega)
      · exact .inl installed
      · exact .inr (.inl stopped)
      · by_cases present : t.Leads (binaryIn (directoryAt start k))
        · exact .inl ⟨k, by omega, present, passed⟩
        by_cases tooLong : t.walk (binaryIn (directoryAt start k)) = .nameTooLong
        · exact .inr (.inl ⟨k, by omega, tooLong, passed⟩)
        refine .inr (.inr ?_)
        intro m before
        obtain rfl | before := Nat.lt_succ_iff_lt_or_eq.mp before |>.symm
        · exact ⟨present, tooLong⟩
        · apply passed m before
  refine (ascend (depth start + 1) (Nat.le_refl _)).imp_right (.imp_right ?_)
  intro passed n le
  apply passed n (Nat.lt_succ_of_le le)

theorem StoppedAt.not_installedAt {n : Nat} (stopped : StoppedAt t start n) (m : Nat) :
  ¬ InstalledAt t start m
  := by
  intro installed
  have walks := walkUpward_of_installedAt installed
  rw [walkUpward_of_stoppedAt stopped] at walks
  contradiction

theorem NotInstalled.not_installedAt (missing : NotInstalled t start) (n : Nat) :
  ¬ InstalledAt t start n
  := fun installed => (missing n installed.le).1 installed.present

/-- What a tree answers at the places on the way upward decides where the way ends. -/
theorem walkUpward_congr {t' : FileTree}
    (same : ∀ n ≤ depth start, t'.exists? (binaryIn (directoryAt start n)) =
      t.exists? (binaryIn (directoryAt start n))) :
  walkUpward t' start localBinary = walkUpward t start localBinary
  := by
  rw [walkUpward, walkUpward, ← places, places_localBinary]
  apply FileTree.firstWhere_congr
  intro p mem
  obtain ⟨n, before, rfl⟩ := List.mem_map.mp mem
  apply same n (Nat.le_of_lt_succ (List.mem_range.mp before))

/-! ### The program that is run -/

/-- Which program is run for a start, where nothing is remembered. -/
def program (t : FileTree) (start configured : String) : String :=
  (resolveExecutable t .empty start configured).1

theorem program_of_configured {configured : String} (named : configured ≠ "") :
  program t start configured = configured
  := by rw [program, resolveExecutable, if_pos named]

theorem program_eq (t : FileTree) (start : String) :
  program t start "" =
    match walkUpward t start localBinary with
    | .ok (some p) => p.text
    | _ => "flow"
  := by
  have unknown : Memo.empty.find? ⟨start, localBinary⟩ = none := rfl
  rw [program, resolveExecutable, if_neg (by simp), findUpward]
  simp only [unknown]
  rcases walkUpward t start localBinary with why | _ | p <;> rfl

/-- Which program is run for a start, whatever is configured and whatever a tree holds. -/
structure Resolves (t : FileTree) (start configured : String) : Prop where
  /-- A program that is configured is run as it is written. -/
  chosen : configured ≠ "" → program t start configured = configured
  /-- Otherwise it is the checker that is installed in the first directory that has one, if all
  places before it could be looked at. -/
  installed : configured = "" → ∀ n, InstalledAt t start n →
    program t start configured = (directoryAt start n).lead ++ "node_modules/.bin/flow"
  /-- Otherwise it is the bare command. -/
  otherwise : configured = "" → (∀ n, ¬ InstalledAt t start n) →
    program t start configured = "flow"
  /-- This is so if no checker is installed on the way upward, or if a place before the first
  one is too long to be looked at, and not else. -/
  missing : (∀ n, ¬ InstalledAt t start n) ↔ NotInstalled t start ∨ ∃ n, StoppedAt t start n
  /-- The way upward begins at the start and goes on from each directory to its parent. -/
  upward : directoryAt start 0 = Path.ofText start ∧
    ∀ n, directoryAt start (n + 1) = (directoryAt start n).parent
  /-- It ends at the root, or where relative paths begin: the first directory without parts. -/
  ends : ∀ n ≤ depth start, (directoryAt start n).parts = [] ↔ n = depth start
  /-- Only what is at the places on the way upward counts. -/
  alone : ∀ t' : FileTree, (∀ n ≤ depth start, t'.exists? (binaryIn (directoryAt start n)) =
    t.exists? (binaryIn (directoryAt start n))) →
      program t' start configured = program t start configured

/-- The program is resolved for every tree, every start and every configuration. -/
theorem resolves (t : FileTree) (start configured : String) :
  Resolves t start configured
  := by
  constructor
  case chosen => apply program_of_configured
  case installed =>
    rintro rfl n installed
    rw [program_eq, walkUpward_of_installedAt installed]
    apply text_binaryIn
  case otherwise =>
    rintro rfl nowhere
    rw [program_eq]
    obtain ⟨n, installed⟩ | ⟨n, stopped⟩ | missing := search_cases t start
    · exact absurd installed (nowhere n)
    · rw [walkUpward_of_stoppedAt stopped]
    · rw [walkUpward_of_notInstalled missing]
  case missing =>
    constructor
    · intro nowhere
      obtain ⟨n, installed⟩ | stopped | missing := search_cases t start
      · exact absurd installed (nowhere n)
      · exact .inr stopped
      · exact .inl missing
    · rintro (missing | ⟨n, stopped⟩)
      · apply missing.not_installedAt
      · apply stopped.not_installedAt
  case upward => exact ⟨rfl, fun n => Function.iterate_succ_apply' ..⟩
  case ends =>
    intro n le
    rw [directoryAt, Path.iterate_parent, List.take_eq_nil_iff, ← List.length_eq_zero_iff]
    change _ - n = 0 ∨ depth start = 0 ↔ _
    rw [← depth]
    omega
  case alone =>
    intro t' same
    by_cases named : configured = ""
    · rw [named, program_eq, program_eq, walkUpward_congr same]
    · rw [program_of_configured named, program_of_configured named]

/-- The way upward only looks at the parts of a start, and never takes `..` back. -/
example : (directoryAt "a//b/../" 1).text = "a/b" ∧ (directoryAt "a//b/../" 3).text = "." := by
  decide +kernel

end Locator

end TypeCoverage
