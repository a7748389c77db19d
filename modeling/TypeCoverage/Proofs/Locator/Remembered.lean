import TypeCoverage.Proofs.Package.Run

/-!
# What is remembered of a tree that does not change

The memo of the upward lookups spares walks, but does not change what is found.  A memo is
truthful if all that it remembers is what a walk through the tree finds
(`Memo.Truthful`).  Then a lookup answers as the walk does and leaves the memo truthful, so
that a lint begins as if nothing were remembered (`Lint.begin_of_truthful`).

A session begins with an empty memo, and all that is done to it, save a change of the tree,
keeps its memo truthful (`Session.truthful_run`).
-/

namespace TypeCoverage

/-- All that is remembered is what a walk through the tree finds. -/
def Memo.Truthful (m : Memo) (t : FileTree) : Prop :=
  ∀ entry ∈ m.entries, Locator.walkUpward t entry.1.start entry.1.name = .ok entry.2

namespace Memo.Truthful

variable {m : Memo} {t : FileTree}

theorem empty (t : FileTree) : Memo.empty.Truthful t := by
  intro entry mem
  contradiction

theorem touch (truthful : m.Truthful t) {key : Memo.Key} {found : Option Path}
    (walks : Locator.walkUpward t key.start key.name = .ok found) :
  (m.touch key found).Truthful t
  := by
  intro entry mem
  rcases List.mem_cons.mp (List.mem_of_mem_take mem) with rfl | kept
  · apply walks
  · apply truthful entry (List.mem_filter.mp kept).1

theorem find? (truthful : m.Truthful t) {key : Memo.Key} {found : Option Path}
    (remembered : m.find? key = some found) :
  Locator.walkUpward t key.start key.name = .ok found
  := by
  obtain ⟨before, after, same, -⟩ := List.lookup_eq_some_iff.mp remembered
  apply truthful (key, found)
  rw [same]
  apply List.mem_append_right _ List.mem_cons_self

/-- A lookup finds what the walk finds, and remembers nothing else. -/
theorem findUpward (truthful : m.Truthful t) (start name : String) :
  ∃ m', Locator.findUpward t m start name = (Locator.walkUpward t start name, m') ∧
    m'.Truthful t
  := by
  rw [Locator.findUpward]
  split
  · next found remembered =>
    have walks := truthful.find? remembered
    rw [walks]
    exact ⟨_, rfl, truthful.touch walks⟩
  · split
    · next walks =>
      rw [walks]
      exact ⟨_, rfl, truthful.touch walks⟩
    · next fails =>
      rw [fails]
      exact ⟨m, rfl, truthful⟩

/-- The program of the checker is the one that is found when nothing is remembered. -/
theorem resolveExecutable (truthful : m.Truthful t) (start configured : String) :
  ∃ m', Locator.resolveExecutable t m start configured =
      ((Locator.resolveExecutable t .empty start configured).1, m') ∧ m'.Truthful t
  := by
  obtain ⟨m', found, truthful'⟩ := truthful.findUpward start Locator.localBinary
  obtain ⟨fresh, anew, -⟩ := (empty t).findUpward start Locator.localBinary
  by_cases named : configured ≠ ""
  · exact ⟨m, by simp [Locator.resolveExecutable, named], truthful⟩
  · use m'
    rw [Locator.resolveExecutable, Locator.resolveExecutable, if_neg named, if_neg named, found,
      anew]
    refine ⟨?_, truthful'⟩
    rcases Locator.walkUpward t start Locator.localBinary with _ | _ | _ <;> rfl

end Memo.Truthful

/-- A lint begins as if nothing were remembered. -/
theorem Lint.begin_of_truthful {m : Memo} {t : FileTree} (truthful : m.Truthful t)
    (settings : Settings) (timeout : Option Binary64) (document : Document) :
  ∃ m', begin settings timeout t m document = ((begin settings timeout t .empty document).1, m') ∧
    m'.Truthful t
  := by
  rw [begin, begin]
  split
  · exact ⟨m, rfl, truthful⟩
  · next file saved =>
    split
    · exact ⟨m, rfl, truthful⟩
    · obtain ⟨m', found, truthful'⟩ :=
        truthful.findUpward (Path.ofText file).parent.text Locator.projectMarker
      obtain ⟨fresh, anew, unspoilt⟩ := (Memo.Truthful.empty t).findUpward
        (Path.ofText file).parent.text Locator.projectMarker
      simp only [Locator.findProject, found, anew]
      split
      · next same =>
        obtain ⟨walks, rfl⟩ := Prod.mk.inj same
        exact ⟨_, by rw [walks], truthful'⟩
      · next same =>
        obtain ⟨walks, rfl⟩ := Prod.mk.inj same
        rw [walks]
        simp only
        split
        · exact ⟨_, rfl, truthful'⟩
        · obtain ⟨m'', resolved, truthful''⟩ := truthful'.resolveExecutable
            (Path.ofText file).parent.text settings.executablePath
          obtain ⟨_, resolved', -⟩ := unspoilt.resolveExecutable
            (Path.ofText file).parent.text settings.executablePath
          rw [resolved, resolved']
          exact ⟨m'', rfl, truthful''⟩

namespace Package.Session

/-! ### Sessions -/

/-- What surrounds the tasks of a session. -/
def surroundings (s : Session) : FileTree × Option Binary64 × Memo := (s.tree, s.timeout, s.memo)

/-- The tree and the time limit stay, and so does the truth of what is remembered. -/
structure Unmoved (s s' : Session) : Prop where
  tree : s'.tree = s.tree
  timeout : s'.timeout = s.timeout
  truthful : s.memo.Truthful s.tree → s'.memo.Truthful s'.tree

namespace Unmoved

variable {s s' s'' : Session}

theorem of_same (same : s'.surroundings = s.surroundings) : Unmoved s s' := by
  obtain ⟨tree, rest⟩ := Prod.mk.inj same
  obtain ⟨timeout, memo⟩ := Prod.mk.inj rest
  refine ⟨tree, timeout, ?_⟩
  rw [tree, memo]
  exact id

theorem trans (first : Unmoved s s') (second : Unmoved s' s'') : Unmoved s s'' where
  tree := second.tree.trans first.tree
  timeout := second.timeout.trans first.timeout
  truthful := second.truthful ∘ first.truthful

end Unmoved

theorem surroundings_converse (s : Session) (task : Nat) (lint : Lint.Pending)
    (replies : List Reply) :
  (s.converse task lint replies).surroundings = s.surroundings
  := by
  induction replies generalizing s with
  | nil => rfl
  | cons reply replies ih =>
    rw [converse]
    simp only
    split
    · rfl
    · rw [ih]
      rfl

theorem surroundings_hear (s : Session) (task : Nat) (lint : Lint.Pending) (reply : Reply) :
  (s.hear task lint reply).surroundings = s.surroundings
  := by
  rw [hear]
  simp only
  split
  · rfl
  · rw [surroundings_converse]
    rfl

theorem surroundings_answer {s s' : Session} {task : Nat} {reply : Reply}
    (answered : s.answer? task reply = some s') :
  s'.surroundings = s.surroundings
  := by
  rw [answer?] at answered
  split at answered
  · obtain rfl := Option.some.inj answered
    rw [surroundings_hear]
    rfl
  · obtain rfl := Option.some.inj answered
    rfl
  · contradiction

theorem surroundings_forgetAll (s : Session) (tasks : List Nat) :
  (tasks.foldl forget s).surroundings = s.surroundings
  := by
  induction tasks generalizing s with
  | nil => rfl
  | cons task tasks ih => apply ih

theorem surroundings_cancelStops (s : Session) (stops : List Nat) :
  (stops.foldl cancelStop s).surroundings = s.surroundings
  := by
  induction stops generalizing s with
  | nil => rfl
  | cons stop stops ih =>
    rw [List.foldl_cons, ih]
    apply surroundings_forgetAll

theorem surroundings_cancel {s s' : Session} {task : Nat} (cancelled : s.cancel? task = some s') :
  s'.surroundings = s.surroundings
  := by
  rcases cancel_cases cancelled with ⟨_, -, rfl, -⟩ | ⟨stops, -, rfl, -⟩
  · rfl
  · apply surroundings_cancelStops

/-- A lint changes the memo only when it begins. -/
theorem surroundings_lint (s : Session) (document : Document) :
  (s.lint document).surroundings = (s.tree, s.timeout,
    (Lint.begin s.package.settings s.timeout s.tree s.memo document).2)
  := by
  rcases begun : Lint.begin s.package.settings s.timeout s.tree s.memo document with
    ⟨result | lint, memo⟩
  · rw [(lint_ended begun).1]
    rfl
  · rw [(lint_calls begun).1, surroundings_converse]
    rfl

namespace Unmoved

theorem lint (s : Session) (document : Document) : Unmoved s (s.lint document) := by
  obtain ⟨tree, rest⟩ := Prod.mk.inj (surroundings_lint s document)
  obtain ⟨timeout, memo⟩ := Prod.mk.inj rest
  refine ⟨tree, timeout, fun truthful => ?_⟩
  obtain ⟨memo', begun, truthful'⟩ :=
    Lint.begin_of_truthful truthful s.package.settings s.timeout document
  rw [tree, memo, begun]
  apply truthful'

theorem runStops (configured : String) (s : Session) (stops : List StopTask) :
  Unmoved s (stops.foldl (runStop configured) s)
  := by
  induction stops generalizing s with
  | nil => exact of_same rfl
  | cons stop stops ih =>
    apply trans _ (ih _)
    have surroundings : (runStop configured s stop).surroundings = (s.tree, s.timeout,
        (Locator.resolveExecutable s.tree s.memo stop.root.text configured).2) := by
      rw [runStop]
      simp only
      split <;> rfl
    obtain ⟨tree, rest⟩ := Prod.mk.inj surroundings
    obtain ⟨timeout, memo⟩ := Prod.mk.inj rest
    refine ⟨tree, timeout, fun truthful => ?_⟩
    obtain ⟨memo', resolved, truthful'⟩ := truthful.resolveExecutable stop.root.text configured
    rw [tree, memo, resolved]
    apply truthful'

theorem act (s : Session) {action : Action} (still : ∀ tree, action ≠ .changeTree tree) :
  Unmoved s (s.act action)
  := by
  cases action with
  | activate fresh => cases fresh <;> exact of_same rfl
  | deactivate stopServers => 
    refine trans ?_ (runStops _ (s.commit _) _)
    exact of_same rfl
  | lint document => apply lint
  | click => simp only [Session.act, click?]; split <;> exact of_same rfl
  | press index => simp only [Session.act, press?]; split <;> exact of_same rfl
  | dismiss index => simp only [Session.act, dismiss?]; split <;> exact of_same rfl
  | waitPending => simp only [Session.act, waitPending]; split <;> exact of_same rfl
  | changeTree tree => exact absurd rfl (still tree)
  | clearMemo => exact ⟨rfl, rfl, fun _ => Memo.Truthful.empty _⟩
  | _ => exact of_same rfl

/-- An operation that is no change of the tree. -/
theorem perform (s : Session) {operation : Operation}
    (still : ∀ tree, operation ≠ .host (.changeTree tree)) :
  Unmoved s (s.perform operation)
  := by
  cases operation with
  | host action =>
    apply act
    rintro tree rfl
    apply still tree rfl
  | respond index reply =>
    rcases s.respond_cases index reply with ⟨same, -⟩ | ⟨task, -, answered, -⟩
    · rw [same]
      exact of_same rfl
    · apply of_same (surroundings_answer answered)
  | queue replies => exact of_same rfl
  | cancel task =>
    rcases s.perform_cancel_cases task with ⟨same, -⟩ | cancelled
    · rw [same]
      exact of_same rfl
    · apply of_same (surroundings_cancel cancelled)

theorem run (s : Session) {operations : List Operation}
    (still : ∀ tree, .host (.changeTree tree) ∉ operations) :
  Unmoved s (s.run operations)
  := by
  induction operations generalizing s with
  | nil => exact of_same rfl
  | cons operation operations ih =>
    have first : Unmoved s (s.perform operation) := by
      apply perform
      rintro tree rfl
      apply still tree List.mem_cons_self
    apply first.trans
    apply ih
    intro tree mem
    apply still tree (List.mem_cons_of_mem _ mem)

end Unmoved

/-- As long as the tree does not change, all that is remembered is true of it. -/
theorem truthful_run (settings : Settings) (tree : FileTree) (timeout : Option Binary64)
    {operations : List Operation} (still : ∀ tree, .host (.changeTree tree) ∉ operations) :
  ((start settings tree timeout).run operations).memo.Truthful
    ((start settings tree timeout).run operations).tree
  := (Unmoved.run _ still).truthful (Memo.Truthful.empty tree)

end Package.Session

end TypeCoverage
