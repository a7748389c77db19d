import TypeCoverage.Request

/-!
# The conduct of a request

A request makes one call after another, and each is answered by the next reply.  `Conduct`
says of a request, of what it has found out before and of the replies to come how many of
them it passes over as busy, how it ends with the one after them, and what it has then
called, asked and recorded.  `conduct_run` proves this of every run, whatever the checker
replies and whatever is answered to the question of being cancelled.

The words in a message are spoken of as a contiguous part of it (`Busy.Says`), and what a
reply makes of a request that it ends is a relation of its own (`Settles`).
-/

namespace TypeCoverage

/-! ### Notices -/

theorem Text.occursIn_iff {part cs : List Char} :
  occursIn part cs = true ↔ part <:+: cs
  := by
  induction cs with
  | nil => simp [occursIn]
  | cons c cs ih =>
    rw [occursIn, Bool.or_eq_true, ih, List.isPrefixOf_iff_prefix, List.infix_cons_iff]

namespace Busy

/-- A message with some words in it. -/
def Says (words message : String) : Prop := words.toList <:+: message.toList

/-- A message that tells of a busy checker. -/
def IsNotice (message : String) : Prop := Says "flow server" message ∨ Says "flow is" message

theorem isServerStarting_iff {message : String} :
  isServerStarting message = true ↔ Says "flow server" message
  := Text.occursIn_iff

theorem isTransient_iff {message : String} :
  isTransient message = true ↔ IsNotice message
  := by
  rw [isTransient, Bool.or_eq_true, isServerStarting_iff, Text.occursIn_iff]
  rfl

end Busy

/-! ### Replies -/

/-- A failure of the library with something said in its message, that of a missing
executable apart. -/
def Reply.Tells (said : String → Prop) (reply : Reply) : Prop :=
  ∃ why, reply = .failed (.fault why) ∧ (∀ executable, why ≠ .executableNotFound executable) ∧
    said why.message

/-- A reply of a busy checker. -/
def Reply.IsBusy (reply : Reply) : Prop := reply.Tells Busy.IsNotice

/-- A reply of a checker whose server is being started. -/
def Reply.IsStarting (reply : Reply) : Prop := reply.Tells (Busy.Says "flow server")

theorem Reply.IsStarting.isBusy {reply : Reply} (starting : reply.IsStarting) :
  reply.IsBusy
  := by
  obtain ⟨why, rfl, found, said⟩ := starting
  exact ⟨why, rfl, found, .inl said⟩

theorem Reply.tells_failed_iff {said : String → Prop} {why : Fault}
    (found : ∀ executable, why ≠ .executableNotFound executable) :
  (Reply.failed (.fault why)).Tells said ↔ said why.message
  := by
  constructor
  · rintro ⟨why', same, -, h⟩
    obtain rfl : why = why' := by simpa using same
    exact h
  · intro h
    exact ⟨why, rfl, found, h⟩

/-! ### Records of servers -/

/-- What a record of servers has become when the server of a project is recorded: the project
is in it beside the others, and nothing changes if it was there before. -/
structure Servers.Gains (before : Servers) (root : Path) (after : Servers) : Prop where
  mem_iff : ∀ other, other ∈ after.roots ↔ other = root ∨ other ∈ before.roots
  known : root ∈ before.roots → after = before
  new : root ∉ before.roots → after = { before with roots := before.roots ++ [root] }

theorem Servers.gains_add (s : Servers) (root : Path) :
  s.Gains root (s.add root)
  where
  mem_iff := s.mem_roots_add root
  known := by
    intro mem
    rw [Servers.add, if_pos (List.contains_iff_mem.mpr mem)]
  new := by
    intro absent
    rw [Servers.add, if_neg (mt List.contains_iff_mem.mp absent)]

/-- A project that is recorded twice is recorded once. -/
theorem Servers.Gains.trans {a b c : Servers} {root : Path} (first : a.Gains root b)
    (second : b.Gains root c) :
  a.Gains root c
  := by
  obtain rfl : c = b := second.known ((first.mem_iff root).mpr (.inl rfl))
  exact first

namespace Request

/-- What a reply that ends a request makes of it: its result and its state. -/
inductive Settles : Reply → Except Failure (Option String) → State → Prop
  | output (text : String) : Settles (.output text) (.ok (some text)) .succeeded
  | replaced : Settles .replaced (.ok none) .succeeded
  | missing (executable : String) :
    Settles (.failed (.fault (.executableNotFound executable)))
      (.error (.fault (.lint "Unable to find `flow` executable."))) .failed
  | refused (why : Fault) (found : ∀ executable, why ≠ .executableNotFound executable)
      (quiet : ¬ Busy.IsNotice why.message) :
    Settles (.failed (.fault why)) (.error (.fault why)) .failed
  | outside (why : Failure) (foreign : ∀ fault, why ≠ .fault fault) :
    Settles (.failed why) (.error why) .requesting

theorem Settles.not_isBusy {reply : Reply} {result : Except Failure (Option String)}
    {state : State} (settles : Settles reply result state) :
  ¬ reply.IsBusy
  := by
  rintro ⟨why, rfl, found, notice⟩
  cases settles with
  | missing executable => apply found executable rfl
  | refused why found quiet => apply quiet notice
  | outside why foreign => apply foreign _ rfl

/-- No message that a request ends with tells of a busy checker. -/
theorem Settles.not_isNotice {reply : Reply} {result : Except Failure (Option String)}
    {state : State} (settles : Settles reply result state) {why : Fault}
    (surfaced : result = .error (.fault why)) :
  ¬ Busy.IsNotice why.message
  := by
  cases settles with
  | output text => contradiction
  | replaced => contradiction
  | missing executable =>
    obtain rfl : Fault.lint "Unable to find `flow` executable." = why := by simpa using surfaced
    rw [← Busy.isTransient_iff]
    decide
  | refused why' found quiet =>
    obtain rfl : why' = why := by simpa using surfaced
    exact quiet
  | outside why' foreign =>
    obtain rfl : why' = .fault why := by simpa using surfaced
    exact absurd rfl (foreign why)

/-- A failure of the library is handed on, unless it is that of a missing executable. -/
theorem Settles.fault {why : Fault} {result : Except Failure (Option String)} {state : State}
    (found : ∀ executable, why ≠ .executableNotFound executable)
    (settles : Settles (.failed (.fault why)) result state) :
  result = .error (.fault why) ∧ state = .failed
  := by
  cases settles with
  | missing executable => exact absurd rfl (found executable)
  | refused => exact ⟨rfl, rfl⟩
  | outside _ foreign => exact absurd rfl (foreign why)

/-- A reply either settles a request or tells that the checker is busy. -/
theorem hear_cases (reply : Reply) :
  (∃ result state, hear reply = .ended result state ∧ Settles reply result state) ∨
    ∃ starting, hear reply = .busy starting ∧ reply.IsBusy ∧ (starting = true ↔ reply.IsStarting)
  := by
  unfold hear
  split
  · exact .inl ⟨_, _, rfl, .output _⟩
  · exact .inl ⟨_, _, rfl, .replaced⟩
  · exact .inl ⟨_, _, rfl, .missing _⟩
  · next why found =>
    have found : ∀ executable, why ≠ .executableNotFound executable := by
      rintro executable rfl
      apply found executable rfl
    split
    · next notice =>
      refine .inr ⟨_, rfl, ?_, ?_⟩
      · rw [Reply.IsBusy, Reply.tells_failed_iff found, ← Busy.isTransient_iff]
        exact notice
      · rw [Reply.IsStarting, Reply.tells_failed_iff found, Busy.isServerStarting_iff]
    · next quiet =>
      rw [Busy.isTransient_iff] at quiet
      exact .inl ⟨_, _, rfl, .refused why found quiet⟩
  · next why _ foreign =>
    have foreign : ∀ fault, why ≠ .fault fault := by
      rintro fault rfl
      apply foreign fault rfl
    exact .inl ⟨_, _, rfl, .outside why foreign⟩

/-! ### The question whether a request has been cancelled -/

/-- The answer to the question when it is asked for the `k`th time, counted from zero; the
last answer repeats, and where there is none the answer is no. -/
def answerAt (answers : List Bool) (k : Nat) : Bool :=
  (answers[min k (answers.length - 1)]?).getD false

/-- Whether the question will be answered with yes when it is asked for the `k`th time. -/
def Progress.CancelledAt (p : Progress) (k : Nat) : Prop :=
  ∃ answers, p.answers = some answers ∧ answerAt answers k = true

theorem fst_nextAnswer (answers : List Bool) :
  (nextAnswer answers).1 = answerAt answers 0
  := by
  fun_cases nextAnswer answers <;> simp [answerAt]

theorem answerAt_snd_nextAnswer (answers : List Bool) (k : Nat) :
  answerAt (nextAnswer answers).2 k = answerAt answers (k + 1)
  := by
  fun_cases nextAnswer answers with
  | case1 => simp [answerAt]
  | case2 answer => simp [answerAt]
  | case3 answer answers more =>
    have : 0 < answers.length := List.length_pos_iff.mpr more
    have shift : min (k + 1) (answers.length + 1 - 1) = min k (answers.length - 1) + 1 := by omega
    rw [answerAt, answerAt, List.length_cons, shift, List.getElem?_cons_succ]

theorem Progress.ask_fst_iff (p : Progress) :
  p.ask.1 = true ↔ p.CancelledAt 0
  := by
  cases h : p.answers with
  | none => simp [ask, CancelledAt, h]
  | some answers => simp [ask, CancelledAt, h, fst_nextAnswer]

/-! ### Passing over a busy reply -/

namespace Progress

variable (p : Progress) (r : Request) (starting : Bool)

/-- A request that has made its call and heard that the checker is busy, and has recorded
the server that is being started. -/
def delayed : Progress :=
  { p.attempt r.call with state := .transientBusy }.record (startedRoot starting r.config)

/-- The request after it has asked whether it has been cancelled. -/
def passed : Progress := (p.delayed r starting).ask.2

@[simp]
theorem answers_delayed :
  (p.delayed r starting).answers = p.answers
  := by
  cases h : startedRoot starting r.config <;> simp [delayed, record, h, attempt]

theorem cancelledAt_delayed (k : Nat) :
  (p.delayed r starting).CancelledAt k ↔ p.CancelledAt k
  := by
  rw [CancelledAt, CancelledAt, answers_delayed]

theorem cancelledAt_passed (k : Nat) :
  (p.passed r starting).CancelledAt k ↔ p.CancelledAt (k + 1)
  := by
  cases h : p.answers with
  | none => simp [passed, ask, CancelledAt, h]
  | some answers => simp [passed, ask, CancelledAt, h, answerAt_snd_nextAnswer]

theorem isSome_answers_passed :
  (p.passed r starting).answers.isSome = p.answers.isSome
  := by
  cases h : p.answers <;> simp [passed, ask, h]

theorem calls_passed :
  (p.passed r starting).calls = p.calls ++ [r.call]
  := by
  cases h : p.answers <;> cases h' : startedRoot starting r.config <;>
    simp [passed, ask, h, delayed, record, h', attempt]

theorem attempts_passed :
  (p.passed r starting).attempts = p.attempts + 1
  := by
  cases h : p.answers <;> cases h' : startedRoot starting r.config <;>
    simp [passed, ask, h, delayed, record, h', attempt]

/-- The question is asked while the request knows that the checker is busy, if it can be
asked. -/
theorem consulted_passed :
  (p.passed r starting).consulted =
    p.consulted ++ if p.answers.isSome then [.transientBusy] else []
  := by
  cases h : p.answers <;> cases h' : startedRoot starting r.config <;>
    simp [passed, ask, h, delayed, record, h', attempt]

theorem servers_passed :
  (p.passed r starting).servers =
    match startedRoot starting r.config with
    | some root => p.servers.map (·.add root)
    | none => p.servers
  := by
  cases h : p.answers <;> cases h' : startedRoot starting r.config <;>
    simp [passed, ask, h, delayed, record, h', attempt]

end Progress

variable (r : Request) (p : Progress)

theorem run_cons_of_ended {reply : Reply} {result : Except Failure (Option String)}
    {state : State} (heard : hear reply = .ended result state) (replies : List Reply) :
  r.run p (reply :: replies) = ⟨{ p.attempt r.call with state := state }, result, replies⟩
  := by
  rw [run, heard]

theorem run_cons_of_cancelled {reply : Reply} {starting : Bool}
    (heard : hear reply = .busy starting) (cancelled : p.CancelledAt 0) (replies : List Reply) :
  r.run p (reply :: replies) =
    ⟨{ p.passed r starting with state := .cancelled }, .ok none, replies⟩
  := by
  have answer : (p.delayed r starting).ask.1 = true := by
    rw [Progress.ask_fst_iff, Progress.cancelledAt_delayed]
    exact cancelled
  have asked : (p.delayed r starting).ask = (true, p.passed r starting) := Prod.ext answer rfl
  rw [Progress.delayed] at asked
  rw [run, heard]
  simp only [asked]

theorem run_cons_of_busy {reply : Reply} {starting : Bool}
    (heard : hear reply = .busy starting) (goes_on : ¬ p.CancelledAt 0) (replies : List Reply) :
  r.run p (reply :: replies) = r.run (p.passed r starting) replies
  := by
  have answer : (p.delayed r starting).ask.1 = false := by
    rw [← Bool.not_eq_true, Progress.ask_fst_iff, Progress.cancelledAt_delayed]
    exact goes_on
  have asked : (p.delayed r starting).ask = (false, p.passed r starting) := Prod.ext answer rfl
  rw [Progress.delayed] at asked
  rw [run, heard]
  simp only [asked]

/-! ### The record of servers -/

/-- What becomes of a record of servers: the project of a request is recorded in it if its
server is being started. -/
structure Registers (r : Request) (starting : Prop) (before after : Option Servers) :
    Prop where
  recorded : ∀ config, r.config = some config → starting → ∀ own, before = some own →
    ∃ grown, after = some grown ∧ own.Gains config.parent grown
  missing : before = none → after = none
  kept : r.config = none ∨ ¬ starting → after = before

namespace Registers

variable {r : Request} {starting later : Prop} {a b c : Option Servers}

theorem congr (h : Registers r starting a b) (same : starting ↔ later) :
  Registers r later a b
  := by
  rw [← same]
  exact h

theorem refl (quiet : ¬ starting) :
  Registers r starting a a
  := ⟨fun _ _ started => absurd started quiet, id, fun _ => rfl⟩

theorem trans (first : Registers r starting a b) (second : Registers r later b c) :
  Registers r (starting ∨ later) a c
  := by
  constructor
  case recorded =>
    intro config own started servers before
    by_cases now : starting
    · obtain ⟨grown, after, gains⟩ := first.recorded config own now servers before
      by_cases again : later
      · obtain ⟨regrown, last, regains⟩ := second.recorded config own again grown after
        exact ⟨regrown, last, gains.trans regains⟩
      · rw [second.kept (.inr again)]
        exact ⟨grown, after, gains⟩
    · rw [← first.kept (.inr now)] at before
      apply second.recorded config own (started.resolve_left now) servers before
  case missing =>
    intro none
    apply second.missing (first.missing none)
  case kept =>
    rintro (none | quiet)
    · rw [second.kept (.inl none), first.kept (.inl none)]
    · rw [not_or] at quiet
      rw [second.kept (.inr quiet.2), first.kept (.inr quiet.1)]

theorem passed (r : Request) (p : Progress) (starting : Bool) :
  Registers r (starting = true) p.servers (p.passed r starting).servers
  := by
  rw [Progress.servers_passed]
  constructor
  case recorded =>
    rintro config own rfl servers before
    refine ⟨servers.add config.parent, ?_, servers.gains_add config.parent⟩
    simp [startedRoot, own, before]
  case missing =>
    intro none
    cases startedRoot starting r.config <;> simp [none]
  case kept =>
    rintro (none | quiet)
    · simp [startedRoot, none]
    · simp [startedRoot, quiet]

end Registers

/-! ### The conduct in a run -/

/-- The `k`th reply, counted from zero; a checker whose replies are used up fails. -/
def replyAt (replies : List Reply) (k : Nat) : Reply := (replies[k]?).getD .exhausted

/-- How a request ends with its `n`th reply, after how many busy ones. -/
inductive EndsWith (p : Progress) (reply : Reply) (n : Nat) :
    Except Failure (Option String) → State → Nat → Prop
  | cancelled (busy : reply.IsBusy) (cancelled : p.CancelledAt n) :
    EndsWith p reply n (.ok none) .cancelled (n + 1)
  | settled {result : Except Failure (Option String)} {state : State}
      (settles : Settles reply result state) :
    EndsWith p reply n result state n

theorem EndsWith.shift {p q : Progress} {reply : Reply} {n count : Nat}
    {result : Except Failure (Option String)} {state : State}
    (ends : EndsWith q reply n result state count)
    (asked : q.CancelledAt n ↔ p.CancelledAt (n + 1)) :
  EndsWith p reply (n + 1) result state (count + 1)
  := by
  cases ends with
  | cancelled busy cancelled => exact .cancelled busy (asked.mp cancelled)
  | settled settles => exact .settled settles

theorem EndsWith.settles {p : Progress} {reply : Reply} {n count : Nat}
    {result : Except Failure (Option String)} {state : State}
    (ends : EndsWith p reply n result state count) (quiet : ¬ reply.IsBusy) :
  Settles reply result state
  := by
  cases ends with
  | cancelled busy cancelled => exact absurd busy quiet
  | settled settles => exact settles

/-- What a request comes to that passes over `n` replies and ends with the next one. -/
structure Conduct (r : Request) (p : Progress) (replies : List Reply) (n : Nat)
    (o : Outcome) : Prop where
  /-- The replies that the request passes over are busy, and it is not cancelled. -/
  passed : ∀ k < n, (replyAt replies k).IsBusy ∧ ¬ p.CancelledAt k
  /-- The next reply ends it: because it is not busy, or because the request is cancelled.
  The question for that is asked once after each busy reply, and at no other time. -/
  ended : ∃ busy, EndsWith p (replyAt replies n) n o.result o.progress.state busy ∧
    o.progress.consulted =
      p.consulted ++ if p.answers.isSome then List.replicate busy .transientBusy else []
  /-- There is one call for each reply, and it is always the same one. -/
  calls : o.progress.calls = p.calls ++ List.replicate (n + 1) r.call
  attempts : o.progress.attempts = p.attempts + (n + 1)
  left : o.left = replies.drop (n + 1)
  /-- The project is recorded if one of the replies tells that its server is being
  started. -/
  registers : Registers r (∃ k ≤ n, (replyAt replies k).IsStarting) p.servers o.progress.servers
  /-- No failure with which it ends tells of a busy checker. -/
  surfaced : ∀ why, o.result = .error (.fault why) → ¬ Busy.IsNotice why.message

theorem replyAt_cons_succ (reply : Reply) (replies : List Reply) (k : Nat) :
  replyAt (reply :: replies) (k + 1) = replyAt replies k
  := rfl

theorem exists_le_succ_iff {P : Nat → Prop} {n : Nat} :
  (∃ k ≤ n + 1, P k) ↔ P 0 ∨ ∃ k ≤ n, P (k + 1)
  := by
  constructor
  · rintro ⟨_ | k, le, h⟩
    · exact .inl h
    · exact .inr ⟨k, by omega, h⟩
  · rintro (h | ⟨k, le, h⟩)
    · exact ⟨0, by omega, h⟩
    · exact ⟨k + 1, by omega, h⟩

/-- The conduct of a request that is settled by its first reply. -/
theorem conduct_settled {replies : List Reply} {result : Except Failure (Option String)}
    {state : State} (settles : Settles (replyAt replies 0) result state) :
  Conduct r p replies 0 ⟨{ p.attempt r.call with state := state }, result, replies.drop 1⟩
  where
  passed := by simp
  ended := ⟨0, .settled settles, by simp [Progress.attempt]⟩
  calls := rfl
  attempts := rfl
  left := rfl
  registers := by
    apply Registers.refl
    rintro ⟨k, le, starting⟩
    obtain rfl : k = 0 := Nat.le_zero.mp le
    apply settles.not_isBusy starting.isBusy
  surfaced := fun _ => settles.not_isNotice

/-- The conduct of a request that is cancelled after its first reply. -/
theorem conduct_cancelled {reply : Reply} {starting : Bool} (busy : reply.IsBusy)
    (starts : starting = true ↔ reply.IsStarting) (cancelled : p.CancelledAt 0)
    (replies : List Reply) :
  Conduct r p (reply :: replies) 0
    ⟨{ p.passed r starting with state := .cancelled }, .ok none, replies⟩
  where
  passed := by simp
  ended := ⟨1, .cancelled busy cancelled, p.consulted_passed r starting⟩
  calls := p.calls_passed r starting
  attempts := p.attempts_passed r starting
  left := rfl
  registers := by
    apply (Registers.passed r p starting).congr
    rw [starts]
    constructor
    · intro h
      exact ⟨0, Nat.le_refl _, h⟩
    · rintro ⟨k, le, h⟩
      obtain rfl : k = 0 := Nat.le_zero.mp le
      exact h
  surfaced := by simp

/-- A busy reply before the others. -/
theorem Conduct.cons {reply : Reply} {starting : Bool} {replies : List Reply} {n : Nat}
    {o : Outcome} (busy : reply.IsBusy) (starts : starting = true ↔ reply.IsStarting)
    (goes_on : ¬ p.CancelledAt 0) (conduct : Conduct r (p.passed r starting) replies n o) :
  Conduct r p (reply :: replies) (n + 1) o
  where
  passed := by
    rintro (_ | k) below
    · exact ⟨busy, goes_on⟩
    · rw [replyAt_cons_succ, ← p.cancelledAt_passed r starting]
      apply conduct.passed k (by omega)
  ended := by
    obtain ⟨count, ends, consulted⟩ := conduct.ended
    refine ⟨count + 1, ends.shift (p.cancelledAt_passed r starting n), ?_⟩
    rw [consulted, Progress.consulted_passed, Progress.isSome_answers_passed]
    cases p.answers.isSome <;> simp [List.replicate_succ]
  calls := by
    rw [conduct.calls, Progress.calls_passed, List.append_assoc, List.replicate_succ (n := n + 1)]
    rfl
  attempts := by
    rw [conduct.attempts, Progress.attempts_passed]
    omega
  left := conduct.left
  registers := by
    apply ((Registers.passed r p starting).trans conduct.registers).congr
    rw [starts, exists_le_succ_iff]
    rfl
  surfaced := conduct.surfaced

/-- Every run of a request is a conduct. -/
theorem exists_conduct (r : Request) (p : Progress) (replies : List Reply) :
  ∃ n, Conduct r p replies n (r.run p replies)
  := by
  induction replies generalizing p with
  | nil => exact ⟨0, conduct_settled r p (.outside _ (by simp))⟩
  | cons reply replies ih =>
    obtain ⟨result, state, heard, settles⟩ | ⟨starting, heard, busy, starts⟩ := hear_cases reply
    · rw [run_cons_of_ended r p heard]
      exact ⟨0, conduct_settled r p settles⟩
    · by_cases cancelled : p.CancelledAt 0
      · rw [run_cons_of_cancelled r p heard cancelled]
        exact ⟨0, conduct_cancelled r p busy starts cancelled replies⟩
      · obtain ⟨n, conduct⟩ := ih (p.passed r starting)
        rw [run_cons_of_busy r p heard cancelled]
        exact ⟨n + 1, conduct.cons r p busy starts cancelled⟩

/-- A checker whose replies are used up is not busy. -/
theorem Conduct.le_length {replies : List Reply} {n : Nat} {o : Outcome}
    (conduct : Conduct r p replies n o) :
  n ≤ replies.length
  := by
  apply Nat.le_of_not_lt
  intro beyond
  obtain ⟨busy, -⟩ := conduct.passed replies.length beyond
  rw [replyAt, List.getElem?_eq_none (Nat.le_refl _)] at busy
  apply (Settles.outside _ (by simp)).not_isBusy busy

/-- What a request does in a run; it makes at most one call more than there are replies. -/
theorem conduct_run (r : Request) (p : Progress) (replies : List Reply) :
  ∃ n ≤ replies.length, Conduct r p replies n (r.run p replies)
  := by
  obtain ⟨n, conduct⟩ := exists_conduct r p replies
  exact ⟨n, conduct.le_length, conduct⟩

/-- The request for the coverage of a file of a project. -/
def projectSample : Request :=
  { call := { executable := "flow", args := ["coverage", "a.js", "--json"] }
    config := some (.ofText "/repo/.flowconfig") }

/-- A request that hears of its server twice and is then answered has its project in the record
once, beside the one that was there. -/
theorem conduct_run_started :
  let r := projectSample
  let starting : Reply := .failed (.fault (.general "Started a new flow server"))
  let p : Progress := { servers := some ⟨[.ofText "/other"], [], 0⟩ }
  let replies := [starting, starting, .output "late"]
  let o := r.run p replies
  Conduct r p replies 2 o ∧ ∃ servers, o.progress.servers = some servers ∧
    servers.roots = [.ofText "/other", .ofText "/repo"] ∧
      ∀ root, root ∈ servers.roots ↔ root = .ofText "/repo" ∨ root = .ofText "/other"
  := by
  intro r starting p replies o
  obtain ⟨n, -, conduct⟩ := conduct_run r p replies
  have attempts : o.progress.attempts = 3 := by decide +kernel
  obtain rfl : n = 2 := by
    have counted := conduct.attempts.symm.trans attempts
    simp only [p] at counted
    omega
  have told : ∃ k ≤ 2, (replyAt replies k).IsStarting := by
    refine ⟨0, by omega, .general "Started a new flow server", rfl, by simp, ?_⟩
    rw [← Busy.isServerStarting_iff]
    decide
  obtain ⟨servers, recorded, gains⟩ := conduct.registers.recorded _ rfl told _ rfl
  have parent : (Path.ofText "/repo/.flowconfig").parent = .ofText "/repo" := by decide +kernel
  rw [parent] at gains
  have roots : servers.roots = [.ofText "/other", .ofText "/repo"] := by
    rw [gains.new (by decide +kernel)]
    rfl
  refine ⟨conduct, servers, recorded, roots, fun root => ?_⟩
  rw [gains.mem_iff, List.mem_singleton]

end Request

end TypeCoverage
