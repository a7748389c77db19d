import TypeCoverage.Lint
import TypeCoverage.Settings.Store
import TypeCoverage.Tile

/-!
# The package

A `Package` binds the parts of the integration to a host editor: settings with two
observers, the cache of reports, the servers that were started, and a status tile.  Each
operation answers the package after it, what the host gets to see of it, in order, and
whether it fails (`Package.Effect`).

The tile shows the active document.  A document that has been closed keeps no report and
takes no new one until it is opened or becomes active again.  A change of the shown
regions asks the host to lint its active document, and a change of the priority shows one
notification, which is not shown again before it has been dismissed.
-/

namespace TypeCoverage

open Settings (Store)

/-- What a change of a setting leads to. -/
inductive Reaction where
  | priorityChanged
  | showUncoveredChanged
  deriving DecidableEq, Repr

/-- What the host gets to see. -/
inductive Event where
  | tile (call : TileCall)
  | install (package : String)
  | notify (message : String) (dismissable : Bool) (buttons : List String)
  | tileAdded (priority : Nat)
  | tileDisposed
  | requestLint (document : String)
  | restart
  | call (call : Call)
  deriving DecidableEq, Repr

/-- The integration in one host. -/
structure Package where
  store : Store Reaction
  cache : Cache := .empty
  servers : Servers := .empty
  /-- The newest tile that was handed over. -/
  tile : Option Tile := none
  /-- Whether the package shows something on the newest tile. -/
  attached : Bool := false
  subscriptions : List (Field × Reaction) := []
  /-- Whether a host is attached. -/
  hosted : Bool := false
  active : Option String := none
  closed : List String := []
  /-- The priority that was heard last. -/
  priority : Option Int := none
  /-- Whether a notification is shown and has not been dismissed. -/
  notified : Bool := false

namespace Package

/-- The name of the package. -/
def name : String := "flowcov"

/-- The priority of the tile in the status bar. -/
def tilePriority : Nat := 10

/-- The message of the notification. -/
def restartMessage : String := "Restart to update flowcov priority?"

/-- The button of the notification. -/
def restartButton : String := "Restart"

/-- What an operation does: the package after it, what the host sees, and whether the
operation fails. -/
structure Effect where
  package : Package
  events : List Event := []
  result : Except Failure Unit := .ok ()

/-- The package with some settings. -/
def ofSettings (settings : Settings) : Package := { store := .ofSettings settings }

/-- The current settings. -/
def settings (p : Package) : Settings := p.store.settings

/-- Carries out calls on the tile. -/
def paint (p : Package) (painting : Tile.Painting) : Effect :=
  { package := { p with tile := p.tile.map (·.applyAll painting.calls) }
    events := painting.calls.map .tile
    result := painting.result }

/-- Shows the active document, if there is a tile. -/
def refresh (p : Package) : Effect :=
  if p.attached then p.paint (Tile.documentCalls p.cache p.active) else ⟨p, [], .ok ()⟩

/-- Hears of a priority.  A first one, an old one and one that no host can show change
nothing but the memory. -/
def hearPriority (p : Package) (priority : Int) : Package × List Event :=
  let heard := { p with priority := some priority }
  if p.priority.isNone || p.priority = some priority || !p.hosted || p.notified then (heard, [])
  else ({ heard with notified := true }, [.notify restartMessage true [restartButton]])

/-- Asks the host to lint its active document. -/
def askForLint (p : Package) (focus : Option Document) : List Event :=
  match p.hosted, focus with
  | true, some document => [.requestLint document.id]
  | _, _ => []

/-- One reaction to the current settings; `focus` is the active document of the host. -/
def react (p : Package) (focus : Option Document) : Reaction → Package × List Event
  | .priorityChanged => p.hearPriority p.settings.hyperclickPriority
  | .showUncoveredChanged => (p, p.askForLint focus)

/-- Some reactions, one after another. -/
def reactAll (p : Package) (focus : Option Document) : List Reaction → Package × List Event
  | [] => (p, [])
  | reaction :: reactions =>
    let (p, events) := p.react focus reaction
    let (p, later) := p.reactAll focus reactions
    (p, events ++ later)

/-- Changes a setting. -/
def assign (p : Package) (focus : Option Document) (f : Field) (v : f.Carrier) :
    Package × List Event :=
  let (store, reactions) := p.store.change f v
  { p with store := store }.reactAll focus reactions

/-- Changes the setting with a name to a value that has not been checked. -/
def set (p : Package) (focus : Option Document) (name : String) (d : Datum) : Effect :=
  match Store.checkValue name d with
  | .error e => ⟨p, [], .error e⟩
  | .ok ⟨f, v⟩ =>
    let (p, events) := p.assign focus f v
    ⟨p, events, .ok ()⟩

/-- Changes some settings to those given, one after another. -/
def assignAll (p : Package) (focus : Option Document) (settings : Settings) :
    List Field → Package × List Event
  | [] => (p, [])
  | f :: fs =>
    let (p, events) := p.assign focus f (settings.get f)
    let (p, later) := p.assignAll focus settings fs
    (p, events ++ later)

/-- Changes all settings to those of a table. -/
def replace (p : Package) (focus : Option Document) (values : Members) : Effect :=
  match Settings.ofTable values with
  | .error findings => ⟨p, [], .error (.invalid findings)⟩
  | .ok settings =>
    let (p, events) := p.assignAll focus settings Field.all
    ⟨p, events, .ok ()⟩

/-- Toggles whether uncovered regions are shown, as a click on the tile does. -/
def click (p : Package) (focus : Option Document) : Package × List Event :=
  p.assign focus .showUncovered (!p.settings.showUncovered)

/-- Observes a setting and reacts to its current value. -/
def subscribe (p : Package) (focus : Option Document) (f : Field) (reaction : Reaction) :
    Package × List Event :=
  { p with
    store := p.store.observe f reaction
    subscriptions := p.subscriptions ++ [(f, reaction)] }.react focus reaction

/-- Attaches a host and begins to observe the settings. -/
def activate (p : Package) (focus : Option Document) : Package × List Event :=
  let p := { p with hosted := true }
  let (p, first) := p.subscribe focus .hyperclickPriority .priorityChanged
  let (p, second) := p.subscribe focus .showUncovered .showUncoveredChanged
  (p, .install name :: first ++ second)

/-- Stops observing the settings. -/
def unsubscribe (p : Package) : Package :=
  { p with
    store := p.subscriptions.foldl (fun store (f, reaction) => store.forget f reaction) p.store
    subscriptions := [] }

/-- Releases the tile. -/
def detach (p : Package) : Package × List Event :=
  if p.attached then
    ({ p with tile := p.tile.map (·.applyAll Tile.releaseCalls), attached := false },
      Tile.releaseCalls.map .tile ++ [.tileDisposed])
  else (p, [])

/-- Detaches the host, and schedules a stop task for each server if they are to be
stopped. -/
def deactivate (p : Package) (stopServers : Bool) : Package × List Event × List StopTask :=
  let (p, events) := p.unsubscribe.detach
  let (servers, tasks) := if stopServers then p.servers.stopAll else (p.servers, [])
  ({ p with servers := servers, closed := [], active := none, hosted := false }, events, tasks)

/-- Takes over a tile, as the host hands it over. -/
def consumeStatusBar (p : Package) (surface : Tile := {}) : Effect :=
  let e := { p with tile := some surface, attached := true }.refresh
  { e with events := .tileAdded tilePriority :: e.events }

/-- A document becomes active, or none. -/
def activeChanged (p : Package) (document : Option String) : Effect :=
  refresh { p with
    active := document
    closed := match document with
      | some d => p.closed.filter (· ≠ d)
      | none => p.closed }

/-- A document is opened. -/
def opened (p : Package) (document : String) : Package :=
  { p with closed := p.closed.filter (· ≠ document) }

/-- A document is closed. -/
def closedDocument (p : Package) (document : String) : Effect :=
  let p := { p with
    cache := p.cache.evict document
    closed := document :: p.closed.filter (· ≠ document) }
  if p.active = some document then p.activeChanged none else ⟨p, [], .ok ()⟩

/-- Whether a document is open. -/
def isOpen (p : Package) (document : String) : Bool := !p.closed.contains document

/-- The notification has been dismissed. -/
def dismissed (p : Package) : Package := { p with notified := false }

/-- Whether a new report of a document is shown at once. -/
def showsReportOf (p : Package) (document : String) : Bool :=
  p.attached && (p.active.isNone || p.active = some document)

/-- Keeps a report of a document, and shows it. -/
def keepReport (p : Package) (document : String) (r : Report) : Effect :=
  let p := { p with cache := p.cache.set document r }
  if p.showsReportOf document then p.paint (Tile.reportCalls r) else ⟨p, [], .ok ()⟩

/-- What a lint does after a reply. -/
inductive LintStep where
  | ended (result : Lint.Result)
  | again

/-- A lint hears a reply.  A document that has been closed meanwhile ends it. -/
def hearReply (p : Package) (lint : Lint.Pending) (reply : Reply) :
    Package × List Event × LintStep :=
  match lint.hear reply with
  | .ended result => (p, [], .ended result)
  | .busy root =>
    let p := match root with
      | some root => { p with servers := p.servers.add root }
      | none => p
    (p, [], if p.isOpen lint.document.id then .again else .ended (.ok none))
  | .report r =>
    if p.isOpen lint.document.id then
      let e := p.keepReport lint.document.id r
      (e.package, e.events, .ended (e.result.map fun _ => some (lint.diagnostics r)))
    else (p, [], .ended (.ok none))

end Package

end TypeCoverage
