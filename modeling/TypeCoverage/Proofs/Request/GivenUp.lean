import TypeCoverage.Invocation
import TypeCoverage.Proofs.Cut
import TypeCoverage.Proofs.Request.Conduct

/-!
# Calls that are given up

A call is given up when its program takes too long or when its working directory is not
there.  The message of such a failure names the executable or the directory in quotes, and
tells of a busy checker exactly if that name does (`isNotice_message_iff`): no words of a
notice lie across a quote, and there is no notice in the rest of the message.

So a request ends with a call that is given up if the name has no words of a notice in it,
and makes its call again otherwise.  `ends_iff_not_isNotice` says this of every attempt of
every run.
-/

namespace TypeCoverage

/-! ### Words beside a quote -/

/-- Words without a character are on one side of each of its places. -/
theorem infix_append_cons_iff {α : Type} {words before after : List α} {quote : α}
    (free : quote ∉ words) :
  words <:+: before ++ quote :: after ↔ words <:+: before ∨ words <:+: after
  := by
  constructor
  · rintro ⟨first, last, same⟩
    obtain ⟨rest, front, rfl⟩ | ⟨rest, rfl, -⟩ := append_eq_cut_iff.mp same
    · obtain ⟨middle, -, rfl⟩ | ⟨middle, -, rfl⟩ := append_eq_cut_iff.mp front
      · exact .inr ⟨middle, last, rfl⟩
      · simp at free
    · exact .inl ⟨first, rest, rfl⟩
  · rintro (⟨first, last, rfl⟩ | ⟨first, last, rfl⟩)
    · exact ⟨first, last ++ quote :: after, by simp⟩
    · exact ⟨before ++ quote :: first, last, by simp⟩

namespace Busy

/-- Words between two quotes, in front of and behind which they do not occur. -/
theorem says_quoted_iff {words opening name closing : String} (free : '\'' ∉ words.toList)
    (before : ¬ Says words opening) (after : ¬ Says words closing) :
  Says words (opening ++ "'" ++ name ++ "'" ++ closing) ↔ Says words name
  := by
  have split : (opening ++ "'" ++ name ++ "'" ++ closing).toList =
      opening.toList ++ '\'' :: (name.toList ++ '\'' :: closing.toList) := by simp
  rw [Says, split, infix_append_cons_iff free, infix_append_cons_iff free]
  simp only [Says] at before after
  simp [before, after, Says]

/-- A text without a letter `w` is no notice. -/
theorem not_says_of_not_mem {words message : String} (present : 'w' ∈ words.toList)
    (absent : 'w' ∉ message.toList) :
  ¬ Says words message
  := fun said => absent (said.subset present)

theorem isNotice_quoted_iff {opening name closing : String} (before : 'w' ∉ opening.toList)
    (after : 'w' ∉ closing.toList) :
  IsNotice (opening ++ "'" ++ name ++ "'" ++ closing) ↔ IsNotice name
  := by
  apply or_congr
  · apply says_quoted_iff (by decide)
    · apply not_says_of_not_mem (by decide) before
    · apply not_says_of_not_mem (by decide) after
  · apply says_quoted_iff (by decide)
    · apply not_says_of_not_mem (by decide) before
    · apply not_says_of_not_mem (by decide) after

end Busy

theorem Decimal.not_mem_numeral {c : Char} (letter : c.isDigit = false) (n : Nat) :
  c ∉ (numeral n).toList
  := by
  intro mem
  have digit := Nat.isDigit_of_mem_toDigits (b := 10) (by omega) (by omega)
    (show c ∈ Nat.toDigits 10 n by simpa [numeral] using mem)
  simp [letter] at digit

theorem Binary64.not_mem_tenths (x : Binary64) :
  'w' ∉ x.tenths.toList
  := by
  cases x with
  | undefined => decide
  | infinite negative => cases negative <;> decide
  | finite negative mantissa exponent =>
    have digits := Decimal.not_mem_numeral (c := 'w') (by decide)
    cases negative <;> simp [tenths, digits]

theorem Fault.message_timeout (command : List String) (seconds : Binary64) :
  (Fault.timeout command seconds).message =
    "Command " ++ "'" ++ command.headD "" ++ "'" ++ (" timed out after " ++ seconds.tenths ++ "s")
  := by
  have written : (Fault.timeout command seconds).message =
      "Command '" ++ command.headD "" ++ "'" ++ " timed out after " ++ seconds.tenths ++ "s" := rfl
  rw [written, ← String.toList_inj]
  simp

theorem Fault.isNotice_timeout_iff (command : List String) (seconds : Binary64) :
  Busy.IsNotice (Fault.timeout command seconds).message ↔ Busy.IsNotice (command.headD "")
  := by
  have after : 'w' ∉ (" timed out after " ++ seconds.tenths ++ "s").toList := by
    simp [seconds.not_mem_tenths]
  rw [message_timeout, Busy.isNotice_quoted_iff (by decide) after]

theorem Fault.message_workingDirectory (path : Path) :
  (Fault.workingDirectory path).message =
    "Working directory " ++ "'" ++ path.text ++ "'" ++ " does not exist"
  := by
  have written : (Fault.workingDirectory path).message =
      "Working directory '" ++ path.text ++ "' does not exist" := rfl
  rw [written, ← String.toList_inj]
  simp

theorem Fault.isNotice_workingDirectory_iff (path : Path) :
  Busy.IsNotice (Fault.workingDirectory path).message ↔ Busy.IsNotice path.text
  := by
  rw [message_workingDirectory, Busy.isNotice_quoted_iff (by decide) (by decide)]

/-! ### Calls that are given up -/

/-- The reply to a call that is given up, the failure in it, and the name that stands in its
message: the executable, or the working directory. -/
inductive Call.GivesUp (c : Call) : Reply → Fault → String → Prop
  | tooLong (superseded : Bool) :
    GivesUp c (c.reply superseded .timedOut) (.timeout c.command c.reportedTimeout) c.executable
  | noDirectory {t : FileTree} {path : Path}
      (absent : c.directory t = .error (.fault (.workingDirectory path))) :
    GivesUp c (.failed (.fault (.workingDirectory path))) (.workingDirectory path) path.text

theorem Call.GivesUp.spec {c : Call} {reply : Reply} {why : Fault} {name : String}
    (given_up : c.GivesUp reply why name) :
  reply = .failed (.fault why) ∧ (∀ executable, why ≠ .executableNotFound executable) ∧
    (Busy.IsNotice why.message ↔ Busy.IsNotice name)
  := by
  cases given_up with
  | tooLong superseded => exact ⟨rfl, by simp, Fault.isNotice_timeout_iff _ _⟩
  | noDirectory absent => exact ⟨rfl, by simp, Fault.isNotice_workingDirectory_iff _⟩

namespace Request

/-- A request that ends with the failure of its `k`th reply, unchanged, and has recorded
only what the replies before it have told. -/
structure EndsAt (r : Request) (p : Progress) (replies : List Reply) (k : Nat) (why : Fault)
    (o : Outcome) : Prop where
  attempts : o.progress.attempts = p.attempts + (k + 1)
  state : o.progress.state = .failed
  result : o.result = .error (.fault why)
  registers : Registers r (∃ j < k, (replyAt replies j).IsStarting) p.servers o.progress.servers

/-- A failure without a notice ends a request as soon as it is heard. -/
theorem Conduct.endsAt {r : Request} {p : Progress} {replies : List Reply} {n k : Nat}
    {o : Outcome} {why : Fault} (conduct : Conduct r p replies n o)
    (made : p.attempts + k < o.progress.attempts)
    (failed : replyAt replies k = .failed (.fault why))
    (found : ∀ executable, why ≠ .executableNotFound executable)
    (quiet : ¬ Busy.IsNotice why.message) :
  EndsAt r p replies k why o
  := by
  have not_busy : ¬ (replyAt replies k).IsBusy := by
    rw [failed, Reply.IsBusy, Reply.tells_failed_iff found]
    exact quiet
  have not_below : ¬ k < n := fun below => not_busy (conduct.passed k below).1
  have attempts := conduct.attempts
  obtain rfl : k = n := by omega
  obtain ⟨count, ends, -⟩ := conduct.ended
  have settles := ends.settles not_busy
  rw [failed] at settles
  obtain ⟨result, state⟩ := settles.fault found
  refine ⟨attempts, state, result, ?_⟩
  apply conduct.registers.congr
  constructor
  · rintro ⟨j, le, starting⟩
    have other : j ≠ k := by
      rintro rfl
      apply not_busy starting.isBusy
    exact ⟨j, by omega, starting⟩
  · rintro ⟨j, below, starting⟩
    exact ⟨j, by omega, starting⟩

/-- A call that is given up ends its request exactly if the name in the message of the
failure has no words of a notice in it. -/
theorem ends_iff_not_isNotice (r : Request) (p : Progress) (replies : List Reply) {k : Nat}
    {why : Fault} {name : String}
    (made : p.attempts + k < (r.run p replies).progress.attempts)
    (given_up : r.call.GivesUp (replyAt replies k) why name) :
  EndsAt r p replies k why (r.run p replies) ↔ ¬ Busy.IsNotice name
  := by
  obtain ⟨failed, found, same⟩ := given_up.spec
  obtain ⟨n, conduct⟩ := exists_conduct r p replies
  rw [← same]
  constructor
  · intro ends
    apply conduct.surfaced why ends.result
  · intro quiet
    apply conduct.endsAt made failed found quiet

/-- The request for the coverage of a file, with an executable. -/
def requestFor (executable : String) : Request :=
  { call := { executable := executable, args := ["coverage", "a.js", "--json"] }
    config := some (.ofText "/repo/.flowconfig") }

/-- A request that passes over a busy reply and ends with a call that takes too long. -/
theorem ends_iff_not_isNotice_second :
  let r := requestFor "/opt/flow-server/bin/flow"
  let p : Progress := { servers := some .empty }
  let replies := [.failed (.fault (.general "flow is rechecking")),
    r.call.reply false .timedOut, .output "late"]
  p.attempts + 1 < (r.run p replies).progress.attempts ∧
    r.call.GivesUp (replyAt replies 1) (.timeout r.call.command r.call.reportedTimeout)
      "/opt/flow-server/bin/flow" ∧
    EndsAt r p replies 1 (.timeout r.call.command r.call.reportedTimeout) (r.run p replies)
  := by
  intro r p replies
  have made : p.attempts + 1 < (r.run p replies).progress.attempts := by decide +kernel
  have quiet : ¬ Busy.IsNotice "/opt/flow-server/bin/flow" := by
    rw [← Busy.isTransient_iff]
    decide
  have given_up := Call.GivesUp.tooLong (c := r.call) false
  exact ⟨made, given_up, (ends_iff_not_isNotice r p replies made given_up).mpr quiet⟩

/-- A call that takes too long is made again if its executable lies in a directory that is
named like a server, and a server is recorded that nobody has started. -/
theorem calls_again_in_flow_server :
  let r := requestFor "/opt/flow server/bin/flow"
  let p : Progress := { servers := some .empty }
  let replies := [r.call.reply false .timedOut, .output "late"]
  let o := r.run p replies
  r.call.GivesUp (replyAt replies 0) (.timeout r.call.command r.call.reportedTimeout)
      "/opt/flow server/bin/flow" ∧
    p.attempts + 0 < o.progress.attempts ∧
    ¬ EndsAt r p replies 0 (.timeout r.call.command r.call.reportedTimeout) o ∧
    o.progress.attempts = 2 ∧ o.progress.state = .succeeded ∧ o.result.toOption = some (some "late") ∧
    o.progress.servers.map (·.roots) = some [.ofText "/repo"]
  := by
  intro r p replies o
  have attempts : o.progress.attempts = 2 := by decide +kernel
  have another : ¬ EndsAt r p replies 0 (.timeout r.call.command r.call.reportedTimeout) o := by
    intro ends
    have only := ends.attempts
    rw [attempts] at only
    simp [p] at only
  have made : p.attempts + 0 < o.progress.attempts := by
    rw [attempts]
    decide
  exact ⟨.tooLong false, made, another, attempts, by decide +kernel, by decide +kernel,
    by decide +kernel⟩

end Request

end TypeCoverage
