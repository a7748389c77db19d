import TypeCoverage.Proofs.Settings.Nearest
import TypeCoverage.Invocation

/-!
# Calls that cannot be started

A failure escapes if it is neither one of the library's own nor a cancellation
(`Failure.Escapes`).  A call cannot be started if its directory cannot be entered or there is
no launch for its command (`Call.StartFails`).  A program that is missing and a working
directory that is none are faults of the library (`Call.startFails_fault_iff`), but whatever
else keeps a program from being started escapes (`Call.startFails_escapes_iff`).  A program
that has been started ends with a text, with nothing or with a failure that does not escape,
whatever it writes (`Call.reply_escapes`).
-/

namespace TypeCoverage

/-- A failure that is neither one of the library's own nor a cancellation. -/
def Failure.Escapes : Failure → Prop
  | .fault _ => False
  | .cancelled => False
  | _ => True

theorem Obstacle.escapes_failure_iff (executable : String) (obstacle : Obstacle) :
  (obstacle.failure executable).Escapes ↔ obstacle ≠ .missing
  := by
  cases obstacle <;> simp [failure, Failure.Escapes]

namespace Call

variable {t : FileTree} {environment : List (String × String)} {c : Call} {why : Failure}

/-- The search for the program of a call, in a directory. -/
def lookUp (t : FileTree) (directory : List String) (environment : List (String × String))
    (c : Call) : Except Obstacle Launch :=
  Launch.ofNameWithFormat (fun text => t.walkText directory (Text.ofOctets text))
    (Text.octets ((environment.lookup "PATH").getD Launch.spareSearchPath))
    (Text.octets c.executable) (c.args.map Text.octets)

/-- A text of the call or of its environment is none that can be handed to a program. -/
def HoldsNull (environment : List (String × String)) (c : Call) : Prop :=
  c.command.any FileTree.holdsNull || environment.any isBadVariable

/-- A text of the call is too long to be handed to a program. -/
def IsTooLong (c : Call) : Prop := c.command.any (argumentLimit ≤ ·.utf8ByteSize)

/-- A call cannot be started: there is no directory for it, or no launch of its command. -/
inductive StartFails (t : FileTree) (environment : List (String × String)) (c : Call)
    (why : Failure) : Prop where
  | directory (misplaced : c.directory t = .error why) : StartFails t environment c why
  | launch {directory : List String} (placed : c.directory t = .ok directory)
    (refused : c.launch t directory environment = .error why) : StartFails t environment c why

/-- What keeps a call from being started that is not a fault of the library. -/
inductive Obstructed (t : FileTree) (environment : List (String × String)) (c : Call) :
    Failure → Prop where
  /-- The name of the working directory is too long to be looked at. -/
  | directory {p : Path} (cwd : c.cwd = some p) (tooLong : t.walk p = .nameTooLong) :
    Obstructed t environment c (.file .nameTooLong p.text)
  | null {directory : List String} (placed : c.directory t = .ok directory)
    (null : c.HoldsNull environment) : Obstructed t environment c (.badValue none)
  | arguments {directory : List String} (placed : c.directory t = .ok directory)
    (clean : ¬ c.HoldsNull environment) (tooLong : c.IsTooLong) :
    Obstructed t environment c (.file .argumentsTooLong c.executable)
  /-- The program is there, or the way to it, but it cannot be run. -/
  | program {directory : List String} (placed : c.directory t = .ok directory)
    (clean : ¬ c.HoldsNull environment) (short : ¬ c.IsTooLong) {obstacle : Obstacle}
    (blocked : c.lookUp t directory environment = .error obstacle) (there : obstacle ≠ .missing) :
    Obstructed t environment c (obstacle.failure c.executable)

/-- What keeps a call from being started that is a fault of the library. -/
inductive Refused (t : FileTree) (environment : List (String × String)) (c : Call) :
    Fault → Prop where
  /-- The working directory is none. -/
  | directory {p : Path} (cwd : c.cwd = some p) {node? : Option Node}
    (probed : t.probe p = .ok node?) (other : node? ≠ some .directory) :
    Refused t environment c (.workingDirectory p)
  /-- There is no such program. -/
  | program {directory : List String} (placed : c.directory t = .ok directory)
    (clean : ¬ c.HoldsNull environment) (short : ¬ c.IsTooLong)
    (blocked : c.lookUp t directory environment = .error .missing) :
    Refused t environment c (.executableNotFound c.executable)

theorem directory_eq_error_iff :
  c.directory t = .error why ↔
    ∃ p, c.cwd = some p ∧ ((t.walk p = .nameTooLong ∧ why = .file .nameTooLong p.text) ∨
      ∃ node?, t.probe p = .ok node? ∧ node? ≠ some .directory ∧
        why = .fault (.workingDirectory p))
  := by
  rw [directory]
  cases c.cwd with
  | none => simp
  | some p =>
    simp only [Option.some.injEq, exists_eq_left', ← FileTree.probe_eq_error_iff]
    rcases t.probe p with _ | _ | node
    · simp [eq_comm]
    · simp [eq_comm]
    · cases node <;> simp [eq_comm]

theorem launch_eq_error_iff {directory : List String} :
  c.launch t directory environment = .error why ↔
    (c.HoldsNull environment ∧ why = .badValue none) ∨
    (¬ c.HoldsNull environment ∧ c.IsTooLong ∧ why = .file .argumentsTooLong c.executable) ∨
    (¬ c.HoldsNull environment ∧ ¬ c.IsTooLong ∧ ∃ obstacle,
      c.lookUp t directory environment = .error obstacle ∧ why = obstacle.failure c.executable)
  := by
  rw [launch]
  by_cases null : c.HoldsNull environment
  · have null' := null
    rw [HoldsNull] at null
    simp [null, null', eq_comm]
  · have clean := null
    rw [HoldsNull] at null
    by_cases long : c.IsTooLong
    · have long' := long
      rw [IsTooLong] at long
      simp [null, clean, long, long', eq_comm]
    · have short := long
      rw [IsTooLong] at long
      change (if _ then _ else if _ then _ else
        (c.lookUp t directory environment).mapError fun met : Obstacle =>
          met.failure c.executable) = _ ↔ _
      rw [if_neg null, if_neg long]
      cases c.lookUp t directory environment with
      | ok program =>
        change Except.ok _ = _ ↔ _
        simp [clean, short]
      | error met =>
        change Except.error (met.failure c.executable) = _ ↔ _
        simp [clean, short, eq_comm]

/-- Whatever programs do, a call is started unless its directory or its launch fails. -/
theorem spawn_eq_error_iff {programs : Programs} :
  c.spawn programs t environment = .error why ↔ c.StartFails t environment why
  := by
  rw [spawn]
  constructor
  · intro fails
    cases placed : c.directory t with
    | error why' =>
      rw [placed] at fails
      obtain rfl : why' = why := Except.error.inj fails
      exact .directory placed
    | ok directory =>
      cases launched : c.launch t directory environment with
      | error why' =>
        simp only [placed, launched, bind, Except.bind] at fails
        obtain rfl : why' = why := Except.error.inj fails
        exact .launch placed launched
      | ok launch =>
        simp only [placed, launched, bind, Except.bind] at fails
        cases fails
  · rintro (misplaced | ⟨placed, refused⟩)
    · rw [misplaced]
      rfl
    · rw [placed]
      simp only [bind, Except.bind, refused]

/-- The failures of a start that escape. -/
theorem startFails_escapes_iff :
  c.StartFails t environment why ∧ why.Escapes ↔ c.Obstructed t environment why
  := by
  constructor
  · rintro ⟨misplaced | ⟨placed, refused⟩, escapes⟩
    · obtain ⟨p, cwd, ⟨tooLong, rfl⟩ | ⟨node?, probed, other, rfl⟩⟩ :=
        directory_eq_error_iff.mp misplaced
      · exact .directory cwd tooLong
      · exact escapes.elim
    · rcases launch_eq_error_iff.mp refused with
        ⟨null, rfl⟩ | ⟨clean, tooLong, rfl⟩ | ⟨clean, short, obstacle, blocked, rfl⟩
      · exact .null placed null
      · exact .arguments placed clean tooLong
      · exact .program placed clean short blocked
          ((obstacle.escapes_failure_iff c.executable).mp escapes)
  · intro obstructed
    cases obstructed with
    | directory cwd tooLong =>
      exact ⟨.directory (directory_eq_error_iff.mpr ⟨_, cwd, .inl ⟨tooLong, rfl⟩⟩), trivial⟩
    | null placed null =>
      exact ⟨.launch placed (launch_eq_error_iff.mpr (.inl ⟨null, rfl⟩)), trivial⟩
    | arguments placed clean tooLong =>
      exact ⟨.launch placed (launch_eq_error_iff.mpr (.inr (.inl ⟨clean, tooLong, rfl⟩))), trivial⟩
    | program placed clean short blocked there =>
      exact ⟨.launch placed
        (launch_eq_error_iff.mpr (.inr (.inr ⟨clean, short, _, blocked, rfl⟩))),
        (Obstacle.escapes_failure_iff ..).mpr there⟩

/-- The failures of a start that are faults of the library. -/
theorem startFails_fault_iff {why : Fault} :
  c.StartFails t environment (.fault why) ↔ c.Refused t environment why
  := by
  constructor
  · rintro (misplaced | ⟨placed, refused⟩)
    · obtain ⟨p, cwd, ⟨-, same⟩ | ⟨node?, probed, other, same⟩⟩ :=
        directory_eq_error_iff.mp misplaced
      · cases same
      · cases same
        exact .directory cwd probed other
    · rcases launch_eq_error_iff.mp refused with
        ⟨-, same⟩ | ⟨-, -, same⟩ | ⟨clean, short, obstacle, blocked, same⟩
      · cases same
      · cases same
      · cases obstacle <;> cases same
        exact .program placed clean short blocked
  · intro refused
    cases refused with
    | directory cwd probed other =>
      exact .directory (directory_eq_error_iff.mpr ⟨_, cwd, .inr ⟨_, probed, other, rfl⟩⟩)
    | program placed clean short blocked =>
      exact .launch placed
        (launch_eq_error_iff.mpr (.inr (.inr ⟨clean, short, _, blocked, rfl⟩)))

/-- Whatever a program does that has been started, its failures do not escape. -/
theorem reply_escapes {superseded : Bool} {outcome : Outcome}
    (failed : c.reply superseded outcome = .failed why) :
  ¬ why.Escapes
  := by
  cases outcome with
  | exited e =>
    rw [reply] at failed
    split at failed
    · cases failed
    · rw [verdict] at failed
      split at failed
      · cases failed
        exact id
      · cases failed
  | timedOut =>
    cases failed
    exact id
  | cancelled =>
    cases failed
    exact id

end Call

end TypeCoverage
