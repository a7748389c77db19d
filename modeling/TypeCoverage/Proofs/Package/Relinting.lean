import Mathlib.Logic.Function.Iterate
import TypeCoverage.Proofs.Package.Run
import TypeCoverage.Proofs.Package.Watching

/-!
# Asking for another lint

The host is asked to lint its active document when it is attached, and when the value of
`showUncovered` changes.  Only the observers ask, each once for a change, so there are as many
requests for a change as activations since the host was last detached
(`Watching.requests_seen`).

In a session every operation is followed in the same way: `asked` says what the host is asked for
in an operation, and `requested_run` what it is asked for in a run.  Most operations are foreign to
the settings and ask for nothing.
-/

namespace TypeCoverage.Package

variable {p : Package} {n : Nat}

/-! ### Requests in a happening -/

/-- The document that an event asks to lint, if it does. -/
def request? : Event → Option String
  | .requestLint document => some document
  | _ => none

/-- The documents that some events ask to lint. -/
def requests (events : List Event) : List String := events.filterMap request?

theorem requests_append (first second : List Event) :
  requests (first ++ second) = requests first ++ requests second
  := List.filterMap_append

theorem requests_filter (events : List Event) :
  requests (events.filter isPrompt) = requests events
  := by
  rw [requests, requests, List.filterMap_filter]
  congr 1
  funext e
  cases e <;> rfl

/-- The active document, if there is one. -/
def named (focus : Option Document) : List String := (focus.map Document.id).toList

/-- What a reaction asks for. -/
def requestsOf (focus : Option Document) : Reaction → List String
  | .priorityChanged => []
  | .showUncoveredChanged => named focus

/-- What the host is asked to lint in a happening. -/
def dueRequests (n : Nat) (before after : Settings) : Happening → List String
  | .activated focus => named focus
  | h =>
    if after.showUncovered ≠ before.showUncovered then
      (List.replicate n (named h.activeDocument)).flatten
    else []

theorem requests_turn {t : Turn} (hosted : t.package.hosted = true) :
  requests t.events = requestsOf t.focus t.reaction
  := by
  obtain ⟨reaction, focus, p⟩ := t
  cases reaction with
  | priorityChanged =>
    simp only [Turn.events, react, hearPriority]
    split <;> rfl
  | showUncoveredChanged =>
    simp only at hosted
    simp only [Turn.events, react, askForLint, hosted]
    cases focus <;> rfl

theorem requests_turns (ts : List Turn) :
  requests (ts.flatMap Turn.events) = ts.flatMap fun t => requests t.events
  := by
  rw [requests, List.filterMap_flatMap]
  rfl

theorem flatMap_requestsOf (n : Nat) (before after : Settings) (h : Happening) :
  (dueReactions n before after h).flatMap (requestsOf h.activeDocument) =
    dueRequests n before after h
  := by
  cases h <;> simp only [dueReactions, dueRequests]
  case activated => simp [requestsOf, Happening.activeDocument]
  all_goals
    rw [List.flatMap_append]
    split <;> split <;> simp [requestsOf, List.flatMap_replicate]

/-- The host is asked for what is due. -/
theorem Watching.requests_seen (watching : Watching n p) (h : Happening) :
  requests (p.seen h) = dueRequests n p.settings (p.after h).settings h
  := by
  rw [← requests_filter, prompts_seen, requests_turns, ← flatMap_requestsOf]
  apply watching.flatMap_turnsIn
  intro t mem
  obtain ⟨hosted, focus, -⟩ := watching.mem_turnsIn mem
  rw [requests_turn hosted, focus]

/-- While no host is attached, a happening that assigns something shows nothing. -/
theorem Watching.seen_of_assigning (watching : Watching 0 p) {h : Happening}
    (assigning : h.IsAssigning) :
  p.seen h = []
  := by
  have none : dueReactions 0 p.settings (p.after h).settings h = [] := by
    rw [dueReactions_of_assigning assigning watching, watching.flatMap_observersOf]
    simp
  have turns : p.turnsIn h = [] := by
    rw [← List.map_eq_nil_iff, watching.reactions_turnsIn, none]
  cases p.concerns h with
  | assigned a _ given _ _ effect =>
    obtain ⟨-, seen⟩ := Prod.mk.inj effect
    rw [turnsIn_of_assigning assigning, given, Option.map_some, Option.getD_some] at turns
    rw [seen, events_assignAll, turns]
    rfl
  | refused _ _ effect => exact (Prod.mk.inj effect).2
  | foreign foreign => cases h <;> contradiction
  | _ => contradiction

/-- A foreign happening asks for nothing. -/
theorem requests_of_foreign (p : Package) {h : Happening} (foreign : h.IsForeign) :
  requests (p.seen h) = []
  := by
  rw [← requests_filter, prompts_of_foreign p foreign]
  rfl

namespace Session

/-! ### Foreign operations -/

/-- What the host has been asked to lint. -/
def requested (s : Session) : List String := requests s.events

theorem requested_emit (s : Session) (events : List Event) :
  (s.emit events).requested = s.requested ++ requests events
  := requests_append ..

theorem requested_commit (s : Session) (step : Package × List Event) :
  (s.commit step).requested = s.requested ++ requests step.2
  := requested_emit { s with package := step.1 } step.2

theorem requested_call (s : Session) (call : Call) :
  (s.emit [.call call]).requested = s.requested
  := (requested_emit s _).trans (List.append_nil _)

/-- Hearing a reply asks for nothing. -/
theorem requested_heard {s : Session} {lint : Lint.Pending} {reply : Reply} {p : Package}
    {events : List Event} {step : LintStep}
    (heard : s.package.hearReply lint reply = (p, events, step)) :
  (s.commit (p, events)).requested = s.requested
  := by
  have quiet : requests (s.package.hearReply lint reply).2.1 = [] :=
    requests_of_foreign s.package (h := .heard 0 lint reply) trivial
  rw [heard] at quiet
  rw [requested_commit, quiet, List.append_nil]

theorem requested_hear (s : Session) (task : Nat) (lint : Lint.Pending) (reply : Reply) :
  (s.hear task lint reply).requested = s.requested
  := by
  -- A reply that finds the checker busy makes the lint take the next one that lies ready.
  generalize ready : s.replies = replies
  induction replies generalizing s reply with
  | nil =>
    rcases heard : s.package.hearReply lint reply with ⟨p, events, result | _⟩
    · rw [hear, heard]
      apply requested_heard heard
    · rw [hear, heard]
      simp only
      rw [show (s.commit (p, events)).replies = [] from ready]
      exact (requested_call { s.commit (p, events) with replies := [] } lint.call).trans
        (requested_heard heard)
  | cons next replies ih =>
    rcases heard : s.package.hearReply lint reply with ⟨p, events, result | _⟩
    · rw [hear, heard]
      apply requested_heard heard
    · rw [hear, heard]
      simp only
      rw [show (s.commit (p, events)).replies = next :: replies from ready, converse_cons,
        ih _ _ rfl]
      exact (requested_call { s.commit (p, events) with replies := replies } lint.call).trans
        (requested_heard heard)

theorem requested_converse (s : Session) (task : Nat) (lint : Lint.Pending)
    (replies : List Reply) :
  (s.converse task lint replies).requested = s.requested
  := by
  cases replies with
  | nil => exact requested_call { s with replies := [] } lint.call
  | cons reply replies =>
    rw [converse_cons, requested_hear]
    apply requested_call { s with replies := replies } lint.call

theorem requested_lint (s : Session) (document : Document) :
  (s.lint document).requested = s.requested
  := by
  rcases begun : Lint.begin s.package.settings s.timeout s.tree s.memo document with
    ⟨result | lint, memo⟩
  · rw [(lint_ended begun).1]
    rfl
  · rw [(lint_calls begun).1, requested_converse]
    rfl

theorem requested_runStops (configured : String) (s : Session) (tasks : List StopTask) :
  (tasks.foldl (runStop configured) s).requested = s.requested
  := by
  induction tasks generalizing s with
  | nil => rfl
  | cons task tasks ih =>
    obtain ⟨call, calls⟩ : ∃ call,
        (runStop configured s task).events = s.events ++ [.call call] := by
      simp only [runStop]
      cases s.replies <;> exact ⟨_, rfl⟩
    rw [List.foldl_cons, ih, requested, calls, requests_append]
    apply List.append_nil _

theorem requested_cancelStops (s : Session) (stops : List Nat) :
  (stops.foldl cancelStop s).requested = s.requested
  := by
  have forgets (s : Session) (tasks : List Nat) : (tasks.foldl forget s).events = s.events := by
    induction tasks generalizing s with
    | nil => rfl
    | cons task tasks ih => apply ih
  induction stops generalizing s with
  | nil => rfl
  | cons stop stops ih =>
    rw [List.foldl_cons, ih, requested]
    simp only [cancelStop, finishStop, forgets]
    rfl

end Session

/-- An operation that has to do with documents, with tiles, with servers or with the world. -/
def Operation.IsForeign : Operation → Prop
  | .host (.activate _) | .host (.deactivate _) | .host (.set ..) | .host (.replace _)
  | .host .click | .host (.dismiss _) => False
  | _ => True

namespace Session

theorem isForeign_of_mem_heardBy {p : Package} {task : Nat} {lint : Lint.Pending}
    {replies : List Reply} {h : Happening} (mem : h ∈ heardBy p task lint replies) :
  h.IsForeign
  := by
  obtain ⟨reply, -, rfl⟩ := mem_heardBy mem
  trivial

theorem isForeign_of_mem_happenings {s : Session} {operation : Operation}
    (foreign : operation.IsForeign) {h : Happening} (mem : h ∈ s.happenings operation) :
  h.IsForeign
  := by
  cases operation with
  | host action =>
    cases action with
    | lint document =>
      simp only [happenings, happeningsOf, heardAtOnce] at mem
      split at mem
      · contradiction
      · apply isForeign_of_mem_heardBy mem
    | takeTile | activeChanged | opened | closed =>
      obtain rfl := List.mem_singleton.mp mem
      trivial
    | _ => contradiction
  | respond index reply =>
    simp only [happenings, heardInReply] at mem
    split at mem
    · split at mem
      · apply isForeign_of_mem_heardBy mem
      · obtain rfl := List.mem_singleton.mp mem
        trivial
      · contradiction
    · contradiction
  | queue replies => contradiction
  | cancel task =>
    simp only [happenings, stoppedBy] at mem
    split at mem
    · obtain ⟨task, -, rfl⟩ := List.mem_map.mp mem
      trivial
    · contradiction

theorem requested_answer {s s' : Session} {task : Nat} {reply : Reply}
    (answered : s.answer? task reply = some s') :
  s'.requested = s.requested
  := by
  rcases found : s.jobs.lookup task with _ | ⟨lint | ⟨stop, call⟩ | stops⟩
  · simp [answer?, found] at answered
  · simp only [answer?, found, Option.some.injEq] at answered
    rw [← answered, requested_hear]
    rfl
  · simp only [answer?, found, Option.some.injEq] at answered
    rw [← answered]
    rfl
  · simp [answer?, found] at answered

theorem requested_cancel {s s' : Session} {task : Nat} (cancelled : s.cancel? task = some s') :
  s'.requested = s.requested
  := by
  obtain ⟨_, -, rfl, -⟩ | ⟨stops, -, rfl, -⟩ := cancel_cases cancelled
  · rfl
  · apply requested_cancelStops (s.forget task) stops

theorem requested_of_foreign (s : Session) {operation : Operation}
    (foreign : operation.IsForeign) :
  (s.perform operation).requested = s.requested
  := by
  have commits (h : Happening) (foreign : h.IsForeign) (p : Package) :
      (s.commit (p, s.package.seen h)).requested = s.requested := by
    rw [requested_commit, requests_of_foreign s.package foreign, List.append_nil]
  cases operation with
  | host action =>
    cases action with
    | takeTile surface => exact commits (.tileTaken surface) trivial _
    | activeChanged document => exact commits (.activeChanged document) trivial _
    | closed document => exact commits (.closed document) trivial _
    | lint document => exact requested_lint s document
    | press index =>
      simp only [perform, act, press?]
      split
      · exact (requested_emit s [.restart]).trans (List.append_nil _)
      · rfl
    | waitPending =>
      simp only [perform, act, waitPending]
      split <;> rfl
    | opened | focus | changeTree | clearMemo => rfl
    | _ => contradiction
  | respond index reply =>
    obtain ⟨same, -⟩ | ⟨task, -, answered, -⟩ := s.respond_cases index reply
    · rw [same]
    · apply requested_answer answered
  | queue replies => rfl
  | cancel task =>
    obtain ⟨same, -⟩ | cancelled := s.perform_cancel_cases task
    · rw [same]
    · apply requested_cancel cancelled

/-! ### What an operation asks for -/

end Session

namespace Operation

/-- How often a host has been attached since one was last detached, after an operation. -/
def attachments (n : Nat) : Operation → Nat
  | .host (.activate _) => n + 1
  | .host (.deactivate _) => 0
  | _ => n

/-- An operation that neither attaches a host nor detaches it. -/
def IsSteady : Operation → Prop
  | .host (.activate _) | .host (.deactivate _) => False
  | _ => True

/-- An operation that changes settings. -/
def Assigns : Operation → Prop
  | .host (.set ..) | .host (.replace _) | .host .click => True
  | _ => False

end Operation

namespace Session

/-- How often a host has been attached since one was last detached. -/
def attachments (operations : List Operation) : Nat :=
  operations.foldl Operation.attachments 0

variable {s : Session}

theorem foldl_attachments_of_foreign {happenings : List Happening}
    (foreign : ∀ h ∈ happenings, h.IsForeign) (n : Nat) :
  happenings.foldl Happening.attachments n = n
  := by
  induction happenings with
  | nil => rfl
  | cons h happenings ih =>
    obtain ⟨first, others⟩ := List.forall_mem_cons.mp foreign
    rw [List.foldl_cons, first.attachments, ih others]

/-- Stop tasks that finish are foreign. -/
theorem isForeign_of_mem_stops {stops : List StopTask} {h : Happening}
    (mem : h ∈ stops.map fun t => Happening.stopFinished t.id) :
  h.IsForeign
  := by
  obtain ⟨stop, -, rfl⟩ := List.mem_map.mp mem
  trivial

theorem foldl_attachments (s : Session) (operation : Operation) (n : Nat) :
  (s.happenings operation).foldl Happening.attachments n = operation.attachments n
  := by
  by_cases foreign : operation.IsForeign
  · rw [foldl_attachments_of_foreign fun h => isForeign_of_mem_happenings foreign]
    obtain action | _ | _ | _ := operation
    · cases action <;> first | rfl | contradiction
    all_goals rfl
  · obtain action | _ | _ | _ := operation
    · cases action with
      | deactivate stopServers =>
        apply foldl_attachments_of_foreign (fun h => isForeign_of_mem_stops) 0
      | click =>
        simp only [happenings, happeningsOf]
        split <;> rfl
      | dismiss index =>
        simp only [happenings, happeningsOf]
        split <;> rfl
      | activate | set | replace => rfl
      | _ => exact absurd trivial foreign
    all_goals exact absurd trivial foreign

/-- Every operation keeps account of the observers. -/
theorem watching_perform (watching : Watching n s.package) (operation : Operation) :
  Watching (operation.attachments n) (s.perform operation).package
  := by
  rw [package_perform, ← s.foldl_attachments operation n]
  apply watching.afterAll

theorem watching_run (watching : Watching n s.package) (operations : List Operation) :
  Watching (operations.foldl Operation.attachments n) (s.run operations).package
  := by
  induction operations generalizing n s with
  | nil => exact watching
  | cons operation operations ih => exact ih (watching_perform watching operation)

theorem watching_start (settings : Settings) (tree : FileTree) (timeout : Option Binary64)
    (operations : List Operation) :
  Watching (attachments operations) ((start settings tree timeout).run operations).package
  := by
  have initial : Watching 0 (start settings tree timeout).package := rfl
  apply watching_run initial operations

/-- Whether regions without coverage are shown. -/
def shown (s : Session) : Bool := s.package.settings.showUncovered

/-- What an observer asks for in an operation: a lint of the active document when it is
registered, and when it hears of a change. -/
def asked (s : Session) : Operation → List String
  | .host (.activate fresh) => if fresh then [] else named s.focus
  | operation => if (s.perform operation).shown ≠ s.shown then named s.focus else []

/-- How many observers ask in an operation: the new one when a host is attached, and all of them
otherwise. -/
def askers (n : Nat) : Operation → Nat
  | .host (.activate _) => 1
  | _ => n

theorem settings_of_foreign (s : Session) {operation : Operation}
    (foreign : operation.IsForeign) :
  (s.perform operation).package.settings = s.package.settings
  := by
  have all : ∀ h ∈ s.happenings operation, h.IsForeign := fun h =>
    isForeign_of_mem_happenings foreign
  rw [package_perform]
  exact (unmoved_afterAll s.package all).settings

theorem settings_deactivate (s : Session) (stopServers : Bool) :
  (s.deactivate stopServers).package.settings = s.package.settings
  := by
  have all : ∀ h ∈ (s.stoppedAtOnce stopServers).map fun t => Happening.stopFinished t.id,
      h.IsForeign := fun h => isForeign_of_mem_stops
  rw [package_deactivate]
  exact (unmoved_afterAll (s.package.after (.deactivated stopServers)) all).settings.trans
    (deactivate_eq s.package stopServers).1

/-- An operation that leaves the settings as they are makes no observer ask. -/
theorem asked_eq_nil {operation : Operation} (same : (s.perform operation).shown = s.shown)
    (other : ∀ fresh, operation ≠ .host (.activate fresh)) :
  s.asked operation = []
  := by
  rw [asked]
  · apply if_neg (not_not_intro same)
  · apply other

theorem dueRequests_of_assigning {before after : Settings} {h : Happening}
    (assigning : h.IsAssigning) :
  dueRequests n before after h =
    (List.replicate n
      (if after.showUncovered ≠ before.showUncovered then named h.activeDocument else [])).flatten
  := by
  cases h <;> first | contradiction | (simp only [dueRequests]; split <;> simp)

/-- What the observers ask for when something is assigned. -/
theorem requested_of_assigning (watching : Watching n s.package) (h : Happening)
    (assigning : h.IsAssigning) :
  (s.commit (s.package.after h, s.package.seen h)).requested =
    s.requested ++ (List.replicate n
      (if (s.package.after h).settings.showUncovered ≠ s.package.settings.showUncovered then
        named h.activeDocument else [])).flatten
  := by
  rw [requested_commit, watching.requests_seen, dueRequests_of_assigning assigning]

theorem requested_activate (watching : Watching n s.package) :
  s.activate.requested = s.requested ++ named s.focus
  := by
  have due := watching.requests_seen (.activated s.focus)
  rw [activate, requested_commit]
  apply congrArg (s.requested ++ ·) due

/-- Detaching the host asks for nothing. -/
theorem requested_deactivate (s : Session) (stopServers : Bool) :
  (s.deactivate stopServers).requested = s.requested
  := by
  have quiet : requests (s.package.deactivate stopServers).2.1 = [] := by
    have prompts := prompts_seen s.package (.deactivated stopServers)
    rw [← requests_filter]
    apply congrArg requests prompts
  have committed := requested_commit s
    ((s.package.deactivate stopServers).1, (s.package.deactivate stopServers).2.1)
  rw [quiet, List.append_nil] at committed
  exact (requested_runStops ..).trans committed

theorem perform_click (attached : s.package.attached = true) :
  s.perform (.host .click) =
    s.commit (s.package.after (.clicked s.focus), s.package.seen (.clicked s.focus))
  := by
  simp [perform, act, click?, attached, after, seen]

/-- What the observers of a session ask for in an operation. -/
theorem requested_perform (watching : Watching n s.package) (operation : Operation) :
  (s.perform operation).requested =
    s.requested ++ (List.replicate (askers n operation) (s.asked operation)).flatten
  := by
  have silent (same : (s.perform operation).shown = s.shown)
      (other : ∀ fresh, operation ≠ .host (.activate fresh)) :
      s.requested ++ (List.replicate (askers n operation) (s.asked operation)).flatten =
        s.requested := by
    rw [asked_eq_nil same other, List.flatten_replicate_nil, List.append_nil]
  by_cases foreign : operation.IsForeign
  · rw [silent, requested_of_foreign s foreign]
    · apply congrArg Settings.showUncovered (settings_of_foreign s foreign)
    · rintro fresh rfl
      contradiction
  · obtain action | _ | _ | _ := operation
    · cases action with
      | activate fresh =>
        have once (names : List String) : (List.replicate 1 names).flatten = names := by simp
        rw [askers, once]
        cases fresh with
        | true => exact requested_activate (s := s.newHost) watching
        | false => exact requested_activate watching
      | deactivate stopServers =>
        rw [silent]
        · apply requested_deactivate s stopServers
        · apply congrArg Settings.showUncovered (settings_deactivate s stopServers)
        · rintro fresh ⟨⟩
      | set name value =>
        apply requested_of_assigning watching (.set s.focus name value) trivial
      | replace values => exact requested_of_assigning watching (.replaced s.focus values) trivial
      | click =>
        cases attached : s.package.attached with
        | true =>
          change _ = s.requested ++ (List.replicate n
            (if (s.perform (.host .click)).shown ≠ s.shown then named s.focus else [])).flatten
          rw [perform_click attached]
          apply requested_of_assigning watching (.clicked s.focus) trivial
        | false =>
          have idle : s.perform (.host .click) = s := by simp [perform, act, click?, attached]
          rw [silent, idle]
          · rw [idle]
          · rintro fresh ⟨⟩
      | dismiss index =>
        rw [silent]
        · simp only [perform, act, dismiss?]
          split <;> rfl
        · simp only [perform, act, dismiss?]
          split <;> rfl
        · rintro fresh ⟨⟩
      | _ => exact absurd trivial foreign
    all_goals exact absurd trivial foreign

/-! ### Runs -/

/-- What one observer asks for in some operations. -/
def askedAll (s : Session) : List Operation → List String
  | [] => []
  | operation :: operations => s.asked operation ++ (s.perform operation).askedAll operations

/-- With one observer, the host is asked for what this one asks for. -/
theorem requested_perform_single (operation : Operation) (single : askers n operation = 1)
    (watching : Watching n s.package) :
  (s.perform operation).requested = s.requested ++ s.asked operation
  := by
  rw [requested_perform watching, single]
  simp

theorem requested_run (watching : Watching 1 s.package) {operations : List Operation}
    (steady : ∀ operation ∈ operations, operation.IsSteady) :
  (s.run operations).requested = s.requested ++ s.askedAll operations
  := by
  induction operations generalizing s with
  | nil => exact (List.append_nil _).symm
  | cons operation operations ih =>
    obtain ⟨first, others⟩ := List.forall_mem_cons.mp steady
    have kept : operation.attachments 1 = 1 ∧ askers 1 operation = 1 := by
      obtain action | _ | _ | _ := operation
      · cases action <;> first | contradiction | exact ⟨rfl, rfl⟩
      all_goals exact ⟨rfl, rfl⟩
    have watching' := watching_perform watching operation
    rw [kept.1] at watching'
    rw [askedAll, ← List.append_assoc, ← requested_perform_single operation kept.2 watching]
    apply ih watching' others

/-- A click toggles whether regions without coverage are shown. -/
theorem click_eq (attached : s.package.attached = true) :
  (s.perform (.host .click)).shown = !s.shown ∧
    (s.perform (.host .click)).package.attached = true
  := by
  rw [perform_click attached]
  constructor
  · have values := get_assignAll s.package s.focus
      (s.package.settings.set .showUncovered (!s.package.settings.showUncovered))
      [.showUncovered] .showUncovered
    rw [← assign_eq_assignAll, if_pos List.mem_cons_self, Settings.get_set_self] at values
    apply values
  · have view := view_click s.package s.focus
    exact (congrArg View.attached view).trans attached

theorem shown_clicks (attached : s.package.attached = true) (n : Nat) :
  (s.run (List.replicate n (.host .click))).shown = Nat.iterate not n s.shown
  := by
  induction n generalizing s with
  | zero => rfl
  | succ n ih =>
    obtain ⟨toggled, attached'⟩ := click_eq attached
    rw [Function.iterate_succ_apply, ← toggled]
    apply ih attached'

theorem attachments_of_detached (before : List Operation) (stopServers : Bool)
    {following : List Operation}
    (without : ∀ operation ∈ following, ∀ fresh, operation ≠ .host (.activate fresh)) :
  attachments (before ++ .host (.deactivate stopServers) :: following) = 0
  := by
  have stays : following.foldl Operation.attachments 0 = 0 := by
    induction following with
    | nil => rfl
    | cons operation following ih =>
      obtain ⟨first, others⟩ := List.forall_mem_cons.mp without
      have none : operation.attachments 0 = 0 := by
        obtain action | _ | _ | _ := operation
        · cases action <;> first | rfl | exact absurd rfl (first _)
        all_goals rfl
      rw [List.foldl_cons, none, ih others]
  rw [attachments, List.foldl_append, List.foldl_cons]
  apply stays

/-- While no host is attached, changing settings shows nothing. -/
theorem events_of_assigns (watching : Watching 0 s.package) {operation : Operation}
    (assigns : operation.Assigns) :
  (s.perform operation).events = s.events
  := by
  have silent (h : Happening) (assigning : h.IsAssigning) (p : Package) :
      (s.commit (p, s.package.seen h)).events = s.events := by
    rw [watching.seen_of_assigning assigning]
    apply List.append_nil
  obtain action | _ | _ | _ := operation
  · cases action with
    | set name value => exact silent (.set s.focus name value) trivial _
    | replace values => exact silent (.replaced s.focus values) trivial _
    | click =>
      cases attached : s.package.attached with
      | true =>
        rw [perform_click attached]
        apply silent (.clicked s.focus) trivial _
      | false => simp [perform, act, click?, attached]
    | _ => contradiction
  all_goals contradiction

/-- What the host of a session is asked to lint. -/
structure Relints (initial : Session) : Prop where
  /-- In an operation it is asked by every observer: by the new one when it is attached, and
  otherwise, if the value of `showUncovered` changes, by as many as there were activations since a
  host was last detached. -/
  performed : ∀ before operation,
    ((initial.run before).perform operation).requested =
      (initial.run before).requested ++
        (List.replicate (askers (attachments before) operation)
          ((initial.run before).asked operation)).flatten
  /-- After a single activation it is asked once: for its active document on activation, and
  then for the active document of the time with every change. -/
  single : ∀ before fresh following, attachments before = 0 →
    (∀ operation ∈ following, operation.IsSteady) →
    (initial.run (before ++ .host (.activate fresh) :: following)).requested =
      (initial.run before).requested ++
        (initial.run before).askedAll (.host (.activate fresh) :: following)
  /-- Clicks toggle the value as often as they are made. -/
  toggled : ∀ before n, (initial.run before).package.attached = true →
    ((initial.run before).run (List.replicate n (.host .click))).shown =
      Nat.iterate not n (initial.run before).shown
  /-- From the detaching of the host to the next activation, changing settings shows a host
  nothing at all, however often it was attached. -/
  silent : ∀ before stopServers following operation,
    (∀ operation ∈ following, ∀ fresh, operation ≠ .host (.activate fresh)) →
    operation.Assigns →
    ((initial.run (before ++ .host (.deactivate stopServers) :: following)).perform
        operation).events =
      (initial.run (before ++ .host (.deactivate stopServers) :: following)).events

/-- The host of a session is asked for a lint with every change, and once for each. -/
theorem relints (settings : Settings) (tree : FileTree) (timeout : Option Binary64) :
  Relints (start settings tree timeout)
  := by
  constructor
  case performed =>
    intro before operation
    apply requested_perform (watching_start settings tree timeout before) operation
  case single =>
    intro before fresh following none steady
    have watching := watching_start settings tree timeout before
    rw [none] at watching
    have activated := requested_perform_single (.host (.activate fresh)) rfl watching
    have watching' : Watching 1 _ := watching_perform watching (.host (.activate fresh))
    have followed := requested_run watching' steady
    rw [activated, List.append_assoc] at followed
    rw [askedAll, ← followed, run, List.foldl_append]
    rfl
  case toggled =>
    intro before n attached
    apply shown_clicks attached n
  case silent =>
    intro before stopServers following operation without assigns
    have watching := watching_start settings tree timeout
      (before ++ .host (.deactivate stopServers) :: following)
    rw [attachments_of_detached before stopServers without] at watching
    apply events_of_assigns watching assigns

/-! ### Clicks while the active document changes -/

/-- A host attaches a package, clicks on its tile, goes to another document, sets the value that
is there, and clicks again. -/
def relintingSample : List Operation :=
  [.host (.takeTile {}), .host .click, .host (.focus (some (.ofFile "b.js"))),
    .host (.set "show_uncovered" (.boolean true)), .host .click, .host (.focus none),
    .host .click]

theorem relints_sample :
  ((start {} { entries := [], here := [] } none).run
      ([.host (.focus (some (.ofFile "a.js")))] ++ .host (.activate false) ::
        relintingSample)).requested =
    ["a.js", "a.js", "b.js"]
  := by
  rw [(relints {} { entries := [], here := [] } none).single _ _ _ rfl]
  · decide
  · simp [relintingSample, Operation.IsSteady]

end Session

end TypeCoverage.Package
