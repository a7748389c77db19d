import TypeCoverage.Package.Basic

/-!
# What happens to a package

A `Package.Happening` is one thing that happens to a package: an operation of the host, a
lint that hears a reply, or a stop task that finishes.  `Package.after` is the package
after it.  Any number of lints may be under way at once, so that what they hear comes in
any order, between any operations of the host.

What concerns reports is the `Package.view`: the cache, the documents that are closed and
the one that is active, and the tile.  Most operations leave it alone (`view_after`), and a
reply changes it only if it brings a report of an open document (`hearReply_of_open`).
-/

namespace TypeCoverage

/-- The report that a reply brings, if its text is one. -/
def Reply.report? : Reply → Option Report
  | .output text => (Report.parse text).toOption
  | _ => none

/-- A reply that brings a report is a text that was read. -/
theorem Reply.parse_of_report? {reply : Reply} {r : Report} (brings : reply.report? = some r) :
  ∃ text, reply = .output text ∧ Report.parse text = .ok r
  := by
  cases reply with
  | output text =>
    refine ⟨text, rfl, ?_⟩
    cases h : Report.parse text with
    | error why => simp [Reply.report?, h, Except.toOption] at brings
    | ok report => simpa [Reply.report?, h, Except.toOption] using brings
  | replaced => simp [Reply.report?] at brings
  | failed why => simp [Reply.report?] at brings

theorem Lint.Pending.hear_eq_report (lint : Lint.Pending) {reply : Reply} {r : Report}
    (brings : reply.report? = some r) :
  lint.hear reply = .report r
  := by
  obtain ⟨text, rfl, parsed⟩ := Reply.parse_of_report? brings
  simp [hear, Request.hear, parsed]

/-- Only a text ends a request with a text. -/
theorem Request.hear_failed_ne (why : Failure) (text : String) (state : State) :
  hear (.failed why) ≠ .ended (.ok (some text)) state
  := by
  unfold hear
  split
  · contradiction
  · simp
  · simp
  · split <;> simp
  · simp

theorem Lint.Pending.hear_ne_report (lint : Lint.Pending) {reply : Reply}
    (none : reply.report? = none) (r : Report) :
  lint.hear reply ≠ .report r
  := by
  cases reply with
  | output text =>
    cases h : Report.parse text with
    | error why => simp [hear, Request.hear, h]
    | ok report => simp [Reply.report?, h, Except.toOption] at none
  | replaced => simp [hear, Request.hear]
  | failed why =>
    rw [hear]
    split
    · simp
    · simp
    · simp
    · next h => exact absurd h (Request.hear_failed_ne why _ _)

namespace Package

/-! ### The view -/

/-- What of a package concerns reports. -/
structure View where
  cache : Cache
  closed : List String
  active : Option String
  tile : Option Tile
  attached : Bool

/-- What of a package concerns reports. -/
def view (p : Package) : View := ⟨p.cache, p.closed, p.active, p.tile, p.attached⟩

theorem view_react (p : Package) (focus : Option Document) (reaction : Reaction) :
  (p.react focus reaction).1.view = p.view
  := by
  cases reaction with
  | priorityChanged =>
    rw [react, hearPriority]
    simp only
    split <;> rfl
  | showUncoveredChanged => rfl

theorem view_reactAll (p : Package) (focus : Option Document) (reactions : List Reaction) :
  (p.reactAll focus reactions).1.view = p.view
  := by
  induction reactions generalizing p with
  | nil => rfl
  | cons reaction reactions ih =>
    rw [reactAll]
    simp only
    rw [ih, view_react]

theorem view_assign (p : Package) (focus : Option Document) (f : Field) (v : f.Carrier) :
  (p.assign focus f v).1.view = p.view
  := by
  rw [assign]
  apply view_reactAll

theorem view_set (p : Package) (focus : Option Document) (name : String) (d : Datum) :
  (p.set focus name d).package.view = p.view
  := by
  rw [set]
  split
  · rfl
  · apply view_assign

theorem view_assignAll (p : Package) (focus : Option Document) (settings : Settings)
    (fields : List Field) :
  (p.assignAll focus settings fields).1.view = p.view
  := by
  induction fields generalizing p with
  | nil => rfl
  | cons f fs ih =>
    rw [assignAll]
    simp only
    rw [ih, view_assign]

theorem view_replace (p : Package) (focus : Option Document) (values : Members) :
  (p.replace focus values).package.view = p.view
  := by
  rw [replace]
  split
  · rfl
  · apply view_assignAll

theorem view_click (p : Package) (focus : Option Document) :
  (p.click focus).1.view = p.view
  := view_assign ..

theorem view_subscribe (p : Package) (focus : Option Document) (f : Field)
    (reaction : Reaction) :
  (p.subscribe focus f reaction).1.view = p.view
  := view_react ..

theorem view_activate (p : Package) (focus : Option Document) :
  (p.activate focus).1.view = p.view
  := by
  rw [activate]
  simp only
  rw [view_subscribe, view_subscribe]
  rfl

/-- What detaching the host leaves of the view. -/
theorem view_deactivate (p : Package) (stopServers : Bool) :
  (p.deactivate stopServers).1.view =
    ⟨p.cache, [], none,
      if p.attached then p.tile.map (·.applyAll Tile.releaseCalls) else p.tile, false⟩
  := by
  rw [deactivate, detach]
  cases attached : p.attached <;> simp [unsubscribe, view, attached]

/-! ### Happenings -/

/-- One thing that happens to a package.  `focus` is the active document of the host. -/
inductive Happening where
  | activated (focus : Option Document)
  | deactivated (stopServers : Bool)
  | tileTaken (surface : Tile)
  | activeChanged (document : Option String)
  | opened (document : String)
  | closed (document : String)
  | set (focus : Option Document) (name : String) (value : Datum)
  | replaced (focus : Option Document) (values : Members)
  | clicked (focus : Option Document)
  | dismissed
  | stopFinished (task : Nat)
  /-- A lint, by the number of its task, hears a reply. -/
  | heard (task : Nat) (lint : Lint.Pending) (reply : Reply)

/-- The package after a happening. -/
def after (p : Package) : Happening → Package
  | .activated focus => (p.activate focus).1
  | .deactivated stopServers => (p.deactivate stopServers).1
  | .tileTaken surface => (p.consumeStatusBar surface).package
  | .activeChanged document => (p.activeChanged document).package
  | .opened document => p.opened document
  | .closed document => (p.closedDocument document).package
  | .set focus name value => (p.set focus name value).package
  | .replaced focus values => (p.replace focus values).package
  | .clicked focus => (p.click focus).1
  | .dismissed => p.dismissed
  | .stopFinished task => { p with servers := p.servers.finish task }
  | .heard _ lint reply => (p.hearReply lint reply).1

/-- The package after some happenings. -/
def afterAll (p : Package) (happenings : List Happening) : Package := happenings.foldl after p

/-- The happenings that do not concern reports. -/
def Happening.IsQuiet : Happening → Prop
  | .activated _ | .set .. | .replaced .. | .clicked _ | .dismissed | .stopFinished _ => True
  | _ => False

theorem view_after (p : Package) {h : Happening} (quiet : h.IsQuiet) :
  (p.after h).view = p.view
  := by
  cases h with
  | activated focus => apply view_activate
  | set focus name value => apply view_set
  | replaced focus values => apply view_replace
  | clicked focus => apply view_click
  | dismissed => rfl
  | stopFinished task => rfl
  | _ => contradiction

/-! ### Replies -/

/-- A package that records the server of a project, if there is one. -/
def recordServer (p : Package) (root : Option Path) : Package :=
  match root with
  | some root => { p with servers := p.servers.add root }
  | none => p

theorem view_recordServer (p : Package) (root : Option Path) :
  (p.recordServer root).view = p.view
  := by
  cases root <;> rfl

theorem isOpen_recordServer (p : Package) (root : Option Path) (d : String) :
  (p.recordServer root).isOpen d = p.isOpen d
  := by
  cases root <;> rfl

/-- A busy checker makes a lint call again, unless its document has been closed. -/
theorem hearReply_of_busy (p : Package) (lint : Lint.Pending) {reply : Reply}
    {root : Option Path} (busy : lint.hear reply = .busy root) :
  p.hearReply lint reply =
    (p.recordServer root, [],
      if p.isOpen lint.document.id then .again else .ended (.ok none))
  := by
  rw [← isOpen_recordServer p root, hearReply, busy]
  rfl

/-- A reply that brings no report leaves the view as it is. -/
theorem view_hearReply (p : Package) (lint : Lint.Pending) {reply : Reply}
    (none : reply.report? = none) :
  (p.hearReply lint reply).1.view = p.view
  := by
  rw [hearReply]
  split
  · rfl
  · apply view_recordServer
  · next h => exact absurd h (lint.hear_ne_report none _)

/-- A reply that brings a report of a closed document changes nothing. -/
theorem hearReply_of_closed (p : Package) (lint : Lint.Pending) {reply : Reply} {r : Report}
    (brings : reply.report? = some r) (closed : p.isOpen lint.document.id = false) :
  p.hearReply lint reply = (p, [], .ended (.ok none))
  := by
  rw [hearReply]
  rw [lint.hear_eq_report brings]
  simp [closed]

/-- A reply that brings a report of an open document makes the package keep it, and the
lint answers its diagnostics, unless the tile cannot show it. -/
theorem hearReply_of_open (p : Package) (lint : Lint.Pending) {reply : Reply} {r : Report}
    (brings : reply.report? = some r) (isOpen : p.isOpen lint.document.id = true) :
  p.hearReply lint reply =
    ((p.keepReport lint.document.id r).package, (p.keepReport lint.document.id r).events,
      .ended ((p.keepReport lint.document.id r).result.map fun _ => some (lint.diagnostics r)))
  := by
  rw [hearReply]
  rw [lint.hear_eq_report brings]
  simp [isOpen]

/-- A reply makes the package keep its report and ends the lint with its diagnostics, or it
leaves the cache as it is. -/
theorem hearReply_cases (p : Package) (lint : Lint.Pending) (reply : Reply) :
  (∃ r, reply.report? = some r ∧ p.hearReply lint reply =
    ((p.keepReport lint.document.id r).package, (p.keepReport lint.document.id r).events,
      .ended ((p.keepReport lint.document.id r).result.map fun _ =>
        some (lint.diagnostics r)))) ∨
    (p.hearReply lint reply).1.cache = p.cache
  := by
  cases brings : reply.report? with
  | none => exact .inr (congrArg View.cache (view_hearReply p lint brings))
  | some r =>
    cases isOpen : p.isOpen lint.document.id with
    | false =>
      rw [hearReply_of_closed p lint brings isOpen]
      exact .inr rfl
    | true => exact .inl ⟨r, rfl, hearReply_of_open p lint brings isOpen⟩

end Package

end TypeCoverage
