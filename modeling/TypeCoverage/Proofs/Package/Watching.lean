import TypeCoverage.Proofs.Package.Happening

/-!
# Watching the settings

Each activation registers an observer of the priority and one of the shown regions, and
detaching the host removes them all.  So there are as many of each as activations since the host
was last detached, and no others; `Watching` says this, and every happening keeps it
(`Watching.after`).

An observer reacts to a change of its field.  `Package.turnsIn` lists the reactions that run
during a happening, each with the package that it finds.  These are two reactions of an
activation, and otherwise those of all observers of the fields whose values change
(`Watching.reactions_turnsIn`).
-/

namespace TypeCoverage.Package

open Settings (Store)

/-! ### Who watches -/

/-- Who watches the settings of a package. -/
structure Watch where
  observers : List (Field × Reaction)
  subscriptions : List (Field × Reaction)
  hosted : Bool

/-- Who watches the settings of a package. -/
def watch (p : Package) : Watch := ⟨p.store.observers, p.subscriptions, p.hosted⟩

/-- What a package remembers of the priority. -/
structure Memory where
  /-- The priority that was heard last. -/
  priority : Option Int
  /-- Whether a notification is shown and has not been dismissed. -/
  notified : Bool

/-- What a package remembers of the priority. -/
def memory (p : Package) : Memory := ⟨p.priority, p.notified⟩

/-- A happening that has to do with documents, with tiles or with servers. -/
def Happening.IsForeign : Happening → Prop
  | .tileTaken _ | .activeChanged _ | .opened _ | .closed _ | .stopFinished _ | .heard .. => True
  | _ => False

/-- A package with the same settings, watched in the same way, and with the same memory. -/
structure Unmoved (p q : Package) : Prop where
  settings : q.settings = p.settings
  watch : q.watch = p.watch
  memory : q.memory = p.memory

theorem Unmoved.rfl {p : Package} :
  Unmoved p p
  := ⟨Eq.refl _, Eq.refl _, Eq.refl _⟩

theorem Unmoved.refresh {p q : Package} (unmoved : Unmoved p q) :
  Unmoved p q.refresh.package
  := by
  obtain ⟨settings, watch, memory⟩ := unmoved
  rw [Package.refresh]
  split <;> exact ⟨settings, watch, memory⟩

theorem unmoved_activeChanged (p : Package) (document : Option String) :
  Unmoved p (p.activeChanged document).package
  := by
  apply Unmoved.refresh
  exact ⟨rfl, rfl, rfl⟩

theorem unmoved_closedDocument (p : Package) (d : String) :
  Unmoved p (p.closedDocument d).package
  := by
  rw [closedDocument]
  simp only
  split
  · obtain ⟨settings, watch, memory⟩ := unmoved_activeChanged { p with
      cache := p.cache.evict d
      closed := d :: p.closed.filter (· ≠ d) } none
    exact ⟨settings, watch, memory⟩
  · exact ⟨rfl, rfl, rfl⟩

theorem unmoved_keepReport (p : Package) (d : String) (r : Report) :
  Unmoved p (p.keepReport d r).package
  := by
  simp only [keepReport]
  split <;> exact ⟨rfl, rfl, rfl⟩

theorem unmoved_hearReply (p : Package) (lint : Lint.Pending) (reply : Reply) :
  Unmoved p (p.hearReply lint reply).1
  := by
  rw [hearReply]
  split
  · exact .rfl
  · next root _ => cases root <;> exact ⟨rfl, rfl, rfl⟩
  · split
    · apply unmoved_keepReport
    · exact .rfl

/-- A foreign happening does not concern the settings. -/
theorem unmoved_after (p : Package) {h : Happening} (foreign : h.IsForeign) :
  Unmoved p (p.after h)
  := by
  cases h with
  | tileTaken surface =>
    apply Unmoved.refresh
    exact ⟨rfl, rfl, rfl⟩
  | activeChanged document => apply unmoved_activeChanged
  | opened d => exact ⟨rfl, rfl, rfl⟩
  | closed d => apply unmoved_closedDocument
  | stopFinished task => exact ⟨rfl, rfl, rfl⟩
  | heard task lint reply => apply unmoved_hearReply
  | _ => contradiction

theorem Unmoved.trans {p q r : Package} (first : Unmoved p q) (second : Unmoved q r) :
  Unmoved p r
  where
  settings := second.settings.trans first.settings
  watch := second.watch.trans first.watch
  memory := second.memory.trans first.memory

theorem unmoved_afterAll (p : Package) {happenings : List Happening}
    (foreign : ∀ h ∈ happenings, h.IsForeign) :
  Unmoved p (p.afterAll happenings)
  := by
  induction happenings generalizing p with
  | nil => exact .rfl
  | cons h happenings ih =>
    obtain ⟨first, others⟩ := List.forall_mem_cons.mp foreign
    exact (unmoved_after p first).trans (ih _ others)

/-! ### Reactions that run -/

/-- A reaction that runs, with the active document of the host and the package that it finds. -/
structure Turn where
  reaction : Reaction
  focus : Option Document
  package : Package

/-- What the host sees of a reaction. -/
def Turn.events (t : Turn) : List Event := (t.package.react t.focus t.reaction).2

/-- Some reactions that run one after another. -/
def turns (p : Package) (focus : Option Document) : List Reaction → List Turn
  | [] => []
  | reaction :: reactions =>
    ⟨reaction, focus, p⟩ :: (p.react focus reaction).1.turns focus reactions

/-- The package with another value of a setting, before anybody has reacted. -/
def changed (p : Package) (f : Field) (v : f.Carrier) : Package :=
  { p with store := (p.store.change f v).1 }

/-- The reactions to a change of a setting. -/
def turnsOfAssign (p : Package) (focus : Option Document) (f : Field) (v : f.Carrier) :
    List Turn :=
  (p.changed f v).turns focus (p.store.change f v).2

/-- The reactions to changes of some settings to those given, one after another. -/
def turnsOfAll (p : Package) (focus : Option Document) (settings : Settings) :
    List Field → List Turn
  | [] => []
  | f :: fs =>
    p.turnsOfAssign focus f (settings.get f) ++
      (p.assign focus f (settings.get f)).1.turnsOfAll focus settings fs

variable {p : Package} {focus : Option Document} {reactions : List Reaction}

theorem react_eq (p : Package) (focus : Option Document) (reaction : Reaction) :
  (p.react focus reaction).1.settings = p.settings ∧
    (p.react focus reaction).1.watch = p.watch
  := by
  cases reaction with
  | priorityChanged =>
    rw [react, hearPriority]
    simp only
    split <;> exact ⟨rfl, rfl⟩
  | showUncoveredChanged => exact ⟨rfl, rfl⟩

/-- Reactions leave the settings, and who watches them, as they are. -/
theorem reactAll_eq (p : Package) (focus : Option Document) (reactions : List Reaction) :
  (p.reactAll focus reactions).1.settings = p.settings ∧
    (p.reactAll focus reactions).1.watch = p.watch
  := by
  induction reactions generalizing p with
  | nil => exact ⟨rfl, rfl⟩
  | cons reaction reactions ih =>
    obtain ⟨settings, watch⟩ := react_eq p focus reaction
    rw [← settings, ← watch]
    apply ih

theorem events_reactAll (p : Package) (focus : Option Document) (reactions : List Reaction) :
  (p.reactAll focus reactions).2 = (p.turns focus reactions).flatMap Turn.events
  := by
  induction reactions generalizing p with
  | nil => rfl
  | cons reaction reactions ih =>
    rw [reactAll, turns, List.flatMap_cons, ← ih]
    rfl

theorem reactions_turns (p : Package) (focus : Option Document) (reactions : List Reaction) :
  (p.turns focus reactions).map Turn.reaction = reactions
  := by
  induction reactions generalizing p with
  | nil => rfl
  | cons reaction reactions ih => rw [turns, List.map_cons, ih]

theorem eq_of_mem_turns {t : Turn} (mem : t ∈ p.turns focus reactions) :
  t.reaction ∈ reactions ∧ t.focus = focus ∧ t.package.settings = p.settings ∧
    t.package.watch = p.watch
  := by
  induction reactions generalizing p with
  | nil => contradiction
  | cons reaction reactions ih =>
    obtain rfl | mem := List.mem_cons.mp mem
    · exact ⟨List.mem_cons_self, rfl, rfl, rfl⟩
    · obtain ⟨runs, focus, settings, watch⟩ := ih mem
      obtain ⟨settings', watch'⟩ := react_eq p _ reaction
      exact ⟨List.mem_cons_of_mem _ runs, focus, settings.trans settings', watch.trans watch'⟩

/-! ### Reactions to assignments -/

/-- Assigning a value changes the setting only. -/
theorem assign_eq (p : Package) (focus : Option Document) (f : Field) (v : f.Carrier) :
  (p.assign focus f v).1.settings = p.settings.set f v ∧ (p.assign focus f v).1.watch = p.watch
  := reactAll_eq (p.changed f v) focus _

theorem observersOf_of_watch {q : Package} (same : q.watch = p.watch) :
  q.store.observersOf = p.store.observersOf
  := by
  obtain ⟨observers, -, -⟩ := Watch.mk.inj same
  funext f
  rw [Store.observersOf, observers]
  rfl

/-- Those who are told of a value: all observers of its field, if the value is new. -/
theorem told_eq (p : Package) (f : Field) (v : f.Carrier) :
  (p.store.change f v).2 = if v = p.settings.get f then [] else p.store.observersOf f
  := rfl

theorem watch_assignAll (p : Package) (focus : Option Document) (settings : Settings)
    (fields : List Field) :
  (p.assignAll focus settings fields).1.watch = p.watch
  := by
  induction fields generalizing p with
  | nil => rfl
  | cons f fs ih =>
    rw [← (assign_eq p focus f (settings.get f)).2]
    apply ih

theorem get_assignAll (p : Package) (focus : Option Document) (settings : Settings)
    (fields : List Field) (f : Field) :
  (p.assignAll focus settings fields).1.settings.get f =
    if f ∈ fields then settings.get f else p.settings.get f
  := by
  induction fields generalizing p with
  | nil => rfl
  | cons g fs ih =>
    have values := ih (p.assign focus g (settings.get g)).1
    rw [(assign_eq p focus g (settings.get g)).1] at values
    rw [assignAll]
    simp only
    rw [values]
    by_cases same : f = g
    · subst same
      simp
    · rw [Settings.get_set_of_ne _ _ same]
      simp [same]

theorem events_assignAll (p : Package) (focus : Option Document) (settings : Settings)
    (fields : List Field) :
  (p.assignAll focus settings fields).2 =
    (p.turnsOfAll focus settings fields).flatMap Turn.events
  := by
  induction fields generalizing p with
  | nil => rfl
  | cons f fs ih =>
    rw [assignAll, turnsOfAll, List.flatMap_append, ← ih, turnsOfAssign, ← events_reactAll]
    rfl

/-- The observers of the fields that change react, field by field. -/
theorem reactions_turnsOfAll (p : Package) (focus : Option Document) (settings : Settings)
    {fields : List Field} (nodup : fields.Nodup) :
  (p.turnsOfAll focus settings fields).map Turn.reaction =
    (fields.filter fun f => settings.get f ≠ p.settings.get f).flatMap p.store.observersOf
  := by
  induction fields generalizing p with
  | nil => rfl
  | cons f fs ih =>
    obtain ⟨new, nodup⟩ := List.nodup_cons.mp nodup
    obtain ⟨set, watch⟩ := assign_eq p focus f (settings.get f)
    have others : (fs.filter fun g =>
        settings.get g ≠ (p.assign focus f (settings.get f)).1.settings.get g) =
          fs.filter fun g => settings.get g ≠ p.settings.get g := by
      apply List.filter_congr
      intro g mem
      rw [set, Settings.get_set_of_ne]
      rintro rfl
      contradiction
    rw [turnsOfAll, List.map_append, ih _ nodup, others, turnsOfAssign, reactions_turns,
      List.filter_cons, observersOf_of_watch watch, told_eq]
    by_cases same : settings.get f = p.settings.get f
    · rw [if_pos same, if_neg (by simpa using same)]
      rfl
    · rw [if_neg same, if_pos (by simpa using same)]
      rfl

/-- A reaction finds the new value of its field. -/
theorem eq_of_mem_turnsOfAll {settings : Settings} {fields : List Field} {t : Turn}
    (mem : t ∈ p.turnsOfAll focus settings fields) :
  ∃ f ∈ fields, t.reaction ∈ p.store.observersOf f ∧ t.focus = focus ∧
    t.package.settings.get f = settings.get f ∧ t.package.watch = p.watch
  := by
  induction fields generalizing p with
  | nil => contradiction
  | cons f fs ih =>
    obtain ⟨set, watch⟩ := assign_eq p focus f (settings.get f)
    obtain mem | mem := List.mem_append.mp mem
    · obtain ⟨runs, focus, found, watch⟩ := eq_of_mem_turns mem
      refine ⟨f, List.mem_cons_self, ?_, focus, ?_, watch⟩
      · rw [told_eq] at runs
        split at runs
        · contradiction
        · apply runs
      · rw [found]
        apply Settings.get_set_self
    · obtain ⟨g, mem, runs, focus, found, watch'⟩ := ih mem
      rw [observersOf_of_watch watch] at runs
      exact ⟨g, List.mem_cons_of_mem f mem, runs, focus, found, watch'.trans watch⟩

/-! ### What a happening assigns -/

/-- New values of some settings, and the active document of the host. -/
structure Assignment where
  focus : Option Document
  settings : Settings
  fields : List Field

/-- What a happening assigns, unless it refuses the values. -/
def assignment? (p : Package) : Happening → Option Assignment
  | .set focus name d =>
    match Store.checkValue name d with
    | .ok ⟨f, v⟩ => some ⟨focus, p.settings.set f v, [f]⟩
    | .error _ => none
  | .replaced focus values =>
    match Settings.ofTable values with
    | .ok settings => some ⟨focus, settings, Field.all⟩
    | .error _ => none
  | .clicked focus =>
    some ⟨focus, p.settings.set .showUncovered (!p.settings.showUncovered), [.showUncovered]⟩
  | _ => none

/-- What the host sees of a happening. -/
def seen (p : Package) : Happening → List Event
  | .activated focus => (p.activate focus).2
  | .deactivated stopServers => (p.deactivate stopServers).2.1
  | .tileTaken surface => (p.consumeStatusBar surface).events
  | .activeChanged document => (p.activeChanged document).events
  | .closed document => (p.closedDocument document).events
  | .set focus name value => (p.set focus name value).events
  | .replaced focus values => (p.replace focus values).events
  | .clicked focus => (p.click focus).2
  | .heard _ lint reply => (p.hearReply lint reply).2.1
  | .opened _ | .dismissed | .stopFinished _ => []

theorem assign_eq_assignAll (p : Package) (focus : Option Document) (f : Field) (v : f.Carrier) :
  p.assign focus f v = p.assignAll focus (p.settings.set f v) [f]
  := by
  simp [assignAll]

/-- A happening that assigns something, or refuses to. -/
def Happening.IsAssigning : Happening → Prop
  | .set .. | .replaced .. | .clicked _ => True
  | _ => False

/-- The active document of the host in a happening, as far as it counts. -/
def Happening.activeDocument : Happening → Option Document
  | .activated focus | .set focus .. | .replaced focus _ | .clicked focus => focus
  | _ => none

/-- How a happening concerns the settings. -/
inductive Concerns (p : Package) : Happening → Prop
  | activated (focus : Option Document) : Concerns p (.activated focus)
  | deactivated (stopServers : Bool) : Concerns p (.deactivated stopServers)
  | dismissed : Concerns p .dismissed
  | foreign {h : Happening} (foreign : h.IsForeign) : Concerns p h
  | assigned {h : Happening} (a : Assignment) (assigning : h.IsAssigning)
      (given : p.assignment? h = some a) (focus : a.focus = h.activeDocument)
      (fields : a.fields = Field.all ∨ ∃ f, a.fields = [f])
      (effect : (p.after h, p.seen h) = p.assignAll a.focus a.settings a.fields) : Concerns p h
  | refused {h : Happening} (assigning : h.IsAssigning) (nothing : p.assignment? h = none)
      (effect : (p.after h, p.seen h) = (p, [])) : Concerns p h

theorem concerns (p : Package) (h : Happening) :
  Concerns p h
  := by
  cases h with
  | activated focus => exact .activated focus
  | deactivated stopServers => exact .deactivated stopServers
  | dismissed => exact .dismissed
  | set focus name d =>
    cases checked : Store.checkValue name d with
    | error e =>
      apply Concerns.refused
      · trivial
      · rw [assignment?, checked]
      · rw [after, seen, set, checked]
    | ok value =>
      obtain ⟨f, v⟩ := value
      apply Concerns.assigned ⟨focus, p.settings.set f v, [f]⟩
      · trivial
      · rw [assignment?, checked]
      · rfl
      · exact .inr ⟨f, rfl⟩
      · rw [after, seen, set, checked, ← assign_eq_assignAll]
  | replaced focus values =>
    cases checked : Settings.ofTable values with
    | error findings =>
      apply Concerns.refused
      · trivial
      · rw [assignment?, checked]
      · rw [after, seen, replace, checked]
    | ok settings =>
      apply Concerns.assigned ⟨focus, settings, Field.all⟩
      · trivial
      · rw [assignment?, checked]
      · rfl
      · exact .inl rfl
      · rw [after, seen, replace, checked]
  | clicked focus =>
    apply Concerns.assigned ⟨focus, _, _⟩
    · trivial
    · rfl
    · rfl
    · exact .inr ⟨_, rfl⟩
    · rw [after, seen, click, ← assign_eq_assignAll]
  | _ => exact .foreign trivial

/-! ### The reactions in a happening -/

/-- The package with one more observer. -/
def registered (p : Package) (f : Field) (reaction : Reaction) : Package :=
  { p with
    store := p.store.observe f reaction
    subscriptions := p.subscriptions ++ [(f, reaction)] }

/-- The reactions of an activation. -/
def turnsOfActivation (p : Package) (focus : Option Document) : List Turn :=
  let first := { p with hosted := true }.registered .hyperclickPriority .priorityChanged
  let second := (first.react focus .priorityChanged).1.registered .showUncovered
    .showUncoveredChanged
  [⟨.priorityChanged, focus, first⟩, ⟨.showUncoveredChanged, focus, second⟩]

/-- The reactions that run during a happening. -/
def turnsIn (p : Package) (h : Happening) : List Turn :=
  match h with
  | .activated focus => p.turnsOfActivation focus
  | h =>
    match p.assignment? h with
    | some a => p.turnsOfAll a.focus a.settings a.fields
    | none => []

/-! ### What the host sees of them -/

/-- Whether the host is asked to lint or shown a notification. -/
def isPrompt : Event → Bool
  | .notify .. | .requestLint _ => true
  | _ => false

theorem prompts_turn (t : Turn) :
  t.events.filter isPrompt = t.events
  := by
  obtain ⟨reaction, focus, p⟩ := t
  rw [Turn.events]
  cases reaction with
  | priorityChanged =>
    rw [react, hearPriority]
    simp only
    split <;> rfl
  | showUncoveredChanged =>
    simp only [react, askForLint]
    split <;> rfl

theorem prompts_turns (ts : List Turn) :
  (ts.flatMap Turn.events).filter isPrompt = ts.flatMap Turn.events
  := by
  rw [List.filter_flatMap]
  simp only [prompts_turn]

theorem prompts_tiles (calls : List TileCall) :
  (calls.map Event.tile).filter isPrompt = []
  := by
  rw [List.filter_eq_nil_iff]
  intro e mem
  obtain ⟨call, -, rfl⟩ := List.mem_map.mp mem
  simp [isPrompt]

theorem prompts_refresh (p : Package) :
  p.refresh.events.filter isPrompt = []
  := by
  rw [refresh]
  split
  · apply prompts_tiles
  · rfl

theorem prompts_hearReply (p : Package) (lint : Lint.Pending) (reply : Reply) :
  (p.hearReply lint reply).2.1.filter isPrompt = []
  := by
  rw [hearReply]
  split
  · rfl
  · rfl
  · split
    · simp only [keepReport]
      split
      · apply prompts_tiles
      · rfl
    · rfl

/-- Of a foreign happening the host sees no prompts. -/
theorem prompts_of_foreign (p : Package) {h : Happening} (foreign : h.IsForeign) :
  (p.seen h).filter isPrompt = []
  := by
  cases h with
  | tileTaken surface => apply prompts_refresh
  | activeChanged document => apply prompts_refresh
  | opened d => rfl
  | closed d =>
    rw [seen, closedDocument]
    simp only
    split
    · apply prompts_refresh
    · rfl
  | stopFinished task => rfl
  | heard task lint reply => apply prompts_hearReply
  | _ => contradiction

theorem turnsIn_of_foreign (p : Package) {h : Happening} (foreign : h.IsForeign) :
  p.turnsIn h = []
  := by
  cases h <;> first | rfl | contradiction

theorem turnsIn_of_assigning {h : Happening} (assigning : h.IsAssigning) :
  p.turnsIn h = ((p.assignment? h).map fun a =>
    p.turnsOfAll a.focus a.settings a.fields).getD []
  := by
  rw [turnsIn]
  · cases p.assignment? h <;> rfl
  · rintro focus rfl
    contradiction

/-- The prompts that the host sees are those of the reactions. -/
theorem prompts_seen (p : Package) (h : Happening) :
  (p.seen h).filter isPrompt = (p.turnsIn h).flatMap Turn.events
  := by
  cases p.concerns h with
  | activated focus =>
    rw [turnsIn, ← prompts_turns]
    simp [seen, activate, subscribe, turnsOfActivation, Turn.events, registered, isPrompt]
  | deactivated stopServers =>
    simp only [seen, deactivate, detach]
    split
    · rw [List.filter_append, prompts_tiles]
      rfl
    · rfl
  | dismissed => rfl
  | foreign foreign =>
    rw [prompts_of_foreign p foreign, turnsIn_of_foreign p foreign]
    rfl
  | assigned a assigning given focus fields effect =>
    obtain ⟨-, events⟩ := Prod.mk.inj effect
    rw [turnsIn_of_assigning assigning, given, Option.map_some, Option.getD_some, ← prompts_turns,
      ← events_assignAll, events]
  | refused assigning nothing effect =>
    obtain ⟨-, events⟩ := Prod.mk.inj effect
    rw [turnsIn_of_assigning assigning, nothing, events]
    rfl

/-! ### The observers of activations -/

/-- The observers that a number of activations register. -/
def watchers : Nat → List (Field × Reaction)
  | 0 => []
  | n + 1 =>
    watchers n ++ [(.hyperclickPriority, .priorityChanged), (.showUncovered, .showUncoveredChanged)]

/-- The package is watched by the observers of a number of activations and by no others. -/
def Watching (n : Nat) (p : Package) : Prop := p.watch = ⟨watchers n, watchers n, decide (0 < n)⟩

/-- How often a host has been attached since one was last detached, after a happening. -/
def Happening.attachments (n : Nat) : Happening → Nat
  | .activated _ => n + 1
  | .deactivated _ => 0
  | _ => n

/-- How often a host has been attached since one was last detached. -/
def attachments (happenings : List Happening) : Nat := happenings.foldl Happening.attachments 0

theorem Happening.IsForeign.attachments {h : Happening} (foreign : h.IsForeign) (n : Nat) :
  h.attachments n = n
  := by
  cases h <;> first | rfl | contradiction

theorem Happening.IsAssigning.attachments {h : Happening} (assigning : h.IsAssigning) (n : Nat) :
  h.attachments n = n
  := by
  cases h <;> first | rfl | contradiction

theorem foldl_forget (store : Store Reaction) (observers : List (Field × Reaction)) :
  observers.foldl (fun store (f, reaction) => store.forget f reaction) store =
    { store with observers := observers.foldl List.erase store.observers }
  := by
  induction observers generalizing store with
  | nil => rfl
  | cons o observers ih =>
    rw [List.foldl_cons, ih]
    rfl

theorem foldl_erase_self {α : Type} [BEq α] [LawfulBEq α] (xs : List α) :
  xs.foldl List.erase xs = []
  := by
  induction xs with
  | nil => rfl
  | cons x xs ih => rw [List.foldl_cons, List.erase_cons_head, ih]

variable {n : Nat}

theorem subscribe_eq (p : Package) (focus : Option Document) (f : Field) (reaction : Reaction) :
  (p.subscribe focus f reaction).1.settings = p.settings ∧
    (p.subscribe focus f reaction).1.watch =
      ⟨p.watch.observers ++ [(f, reaction)], p.watch.subscriptions ++ [(f, reaction)],
        p.watch.hosted⟩
  := react_eq (p.registered f reaction) focus reaction

theorem activate_eq (p : Package) (focus : Option Document) :
  (p.activate focus).1.settings = p.settings ∧
    (p.activate focus).1.watch =
      ⟨p.watch.observers ++ watchers 1, p.watch.subscriptions ++ watchers 1, true⟩
  := by
  obtain ⟨settings, watch⟩ := subscribe_eq { p with hosted := true } focus .hyperclickPriority
    .priorityChanged
  obtain ⟨settings', watch'⟩ := subscribe_eq ({ p with hosted := true }.subscribe focus
    .hyperclickPriority .priorityChanged).1 focus .showUncovered .showUncoveredChanged
  constructor
  · apply settings'.trans settings
  · apply watch'.trans
    rw [watch]
    simp [watchers, Package.watch]

theorem unsubscribe_eq (p : Package) :
  p.unsubscribe.settings = p.settings ∧
    p.unsubscribe.watch = ⟨p.subscriptions.foldl List.erase p.store.observers, [], p.hosted⟩
  := by
  rw [unsubscribe, foldl_forget]
  exact ⟨rfl, rfl⟩

theorem deactivate_eq (p : Package) (stopServers : Bool) :
  (p.deactivate stopServers).1.settings = p.settings ∧
    (p.deactivate stopServers).1.watch =
      ⟨p.subscriptions.foldl List.erase p.store.observers, [], false⟩
  := by
  obtain ⟨settings, watch⟩ := unsubscribe_eq p
  obtain ⟨observers, subscriptions, -⟩ := Watch.mk.inj watch
  rw [deactivate, ← settings, ← observers, ← subscriptions]
  simp only [detach]
  split <;> exact ⟨rfl, rfl⟩

theorem Watching.activated (watching : Watching n p) (focus : Option Document) :
  Watching (n + 1) (p.activate focus).1
  := by
  rw [Watching, (activate_eq p focus).2, watching]
  simp [watchers]

theorem Watching.deactivated (watching : Watching n p) (stopServers : Bool) :
  Watching 0 (p.deactivate stopServers).1
  := by
  obtain ⟨observers, subscriptions, -⟩ := Watch.mk.inj watching
  rw [Watching, (deactivate_eq p stopServers).2, observers, subscriptions, foldl_erase_self]
  rfl

/-- Every happening keeps account of the observers. -/
theorem Watching.after (watching : Watching n p) (h : Happening) :
  Watching (h.attachments n) (p.after h)
  := by
  cases p.concerns h with
  | activated focus => apply watching.activated
  | deactivated stopServers => apply watching.deactivated
  | dismissed => exact watching
  | foreign foreign =>
    rw [foreign.attachments, Watching, (unmoved_after p foreign).watch, watching]
  | assigned a assigning given focus fields effect =>
    obtain ⟨after, -⟩ := Prod.mk.inj effect
    rw [assigning.attachments, Watching, after, watch_assignAll, watching]
  | refused assigning nothing effect =>
    obtain ⟨after, -⟩ := Prod.mk.inj effect
    rw [assigning.attachments, after]
    apply watching

theorem Watching.afterAll (watching : Watching n p) (happenings : List Happening) :
  Watching (happenings.foldl Happening.attachments n) (p.afterAll happenings)
  := by
  induction happenings generalizing n p with
  | nil => exact watching
  | cons h happenings ih => exact ih (watching.after h)

theorem watching (settings : Settings) (happenings : List Happening) :
  Watching (attachments happenings) ((ofSettings settings).afterAll happenings)
  := by
  have start : Watching 0 (ofSettings settings) := rfl
  apply start.afterAll happenings

/-! ### The reactions to a happening -/

/-- The reaction of the observers of a field. -/
def reactionTo? : Field → Option Reaction
  | .hyperclickPriority => some .priorityChanged
  | .showUncovered => some .showUncoveredChanged
  | _ => none

theorem Watching.observersOf (watching : Watching n p) (f : Field) :
  p.store.observersOf f = (List.replicate n (reactionTo? f)).filterMap id
  := by
  obtain ⟨observers, -, -⟩ := Watch.mk.inj watching
  rw [Store.observersOf, observers]
  clear watching observers
  induction n with
  | zero => rfl
  | succ n ih =>
    rw [watchers, List.filter_append, List.map_append, ih, List.replicate_succ',
      List.filterMap_append]
    cases f <;> rfl

/-- One field, or all of them, in the order of all. -/
theorem filter_eq_of_fields {fields : List Field} (known : fields = Field.all ∨ ∃ f, fields = [f])
    (c : Field → Bool) :
  fields.Nodup ∧ fields.filter c = Field.all.filter fun g => decide (g ∈ fields) && c g
  := by
  obtain rfl | ⟨f, rfl⟩ := known
  · refine ⟨Field.nodup_all, List.filter_congr ?_⟩
    intro g mem
    simp [mem]
  · refine ⟨by simp, ?_⟩
    cases f <;> simp [Field.all, List.filter_cons]

theorem Watching.flatMap_observersOf (watching : Watching n p) (c : Field → Bool) :
  (Field.all.filter c).flatMap p.store.observersOf =
    (if c .showUncovered then List.replicate n .showUncoveredChanged else []) ++
      if c .hyperclickPriority then List.replicate n .priorityChanged else []
  := by
  have told (f : Field) : p.store.observersOf f = (List.replicate n (reactionTo? f)).filterMap id :=
    watching.observersOf f
  simp only [Field.all, List.filter_cons, List.filter_nil]
  split <;> split <;> split <;> split <;> simp [told, reactionTo?]

/-- The reactions that run during a happening: two of an activation, and otherwise those of all
observers of the fields that change. -/
def dueReactions (n : Nat) (before after : Settings) : Happening → List Reaction
  | .activated _ => [.priorityChanged, .showUncoveredChanged]
  | _ =>
    (if after.showUncovered ≠ before.showUncovered then List.replicate n .showUncoveredChanged
      else []) ++
    if after.hyperclickPriority ≠ before.hyperclickPriority then List.replicate n .priorityChanged
      else []

/-- A happening that assigns something makes the observers of the fields that change react. -/
theorem dueReactions_of_assigning {before after : Settings} {h : Happening}
    (assigning : h.IsAssigning) (watching : Watching n p) :
  dueReactions n before after h =
    (Field.all.filter fun f => decide (after.get f ≠ before.get f)).flatMap p.store.observersOf
  := by
  rw [watching.flatMap_observersOf]
  simp only [decide_eq_true_eq]
  cases h <;> first | contradiction | rfl

theorem Watching.reactions_turnsIn (watching : Watching n p) (h : Happening) :
  (p.turnsIn h).map Turn.reaction = dueReactions n p.settings (p.after h).settings h
  := by
  cases p.concerns h with
  | activated focus => rfl
  | deactivated stopServers =>
    rw [Package.after, (deactivate_eq p stopServers).1]
    simp [dueReactions, turnsIn, assignment?]
  | dismissed =>
    have same : (p.after .dismissed).settings = p.settings := rfl
    simp [dueReactions, turnsIn, assignment?, same]
  | foreign foreign =>
    rw [(unmoved_after p foreign).settings, turnsIn_of_foreign p foreign]
    cases h <;> first | contradiction | simp [dueReactions]
  | assigned a assigning given focus fields effect =>
    obtain ⟨after, -⟩ := Prod.mk.inj effect
    obtain ⟨nodup, all⟩ := filter_eq_of_fields fields fun f => decide (_ ≠ p.settings.get f)
    rw [turnsIn_of_assigning assigning, given, Option.map_some, Option.getD_some,
      reactions_turnsOfAll _ _ _ nodup, all, dueReactions_of_assigning assigning watching, after]
    congr 1
    apply List.filter_congr
    intro f _
    rw [get_assignAll]
    split <;> simp [*]
  | refused assigning nothing effect =>
    obtain ⟨after, -⟩ := Prod.mk.inj effect
    rw [turnsIn_of_assigning assigning, nothing, after]
    cases h <;> first | contradiction | simp [dueReactions]

/-- A reaction in a happening finds a host, and the priority that is there afterwards if it is
the priority that has changed. -/
theorem Watching.mem_turnsIn (watching : Watching n p) {h : Happening} {t : Turn}
    (mem : t ∈ p.turnsIn h) :
  t.package.hosted = true ∧ t.focus = h.activeDocument ∧
    (t.reaction = .priorityChanged →
      t.package.settings.hyperclickPriority = (p.after h).settings.hyperclickPriority)
  := by
  cases p.concerns h with
  | activated focus =>
    obtain ⟨settings, -⟩ := activate_eq p focus
    rw [Package.after, settings]
    obtain ⟨-, watch⟩ := react_eq
      ({ p with hosted := true }.registered .hyperclickPriority .priorityChanged) focus
      .priorityChanged
    obtain ⟨-, -, hosted⟩ := Watch.mk.inj watch
    obtain rfl | mem := List.mem_cons.mp mem
    · exact ⟨rfl, rfl, fun _ => rfl⟩
    · rw [List.mem_singleton.mp mem]
      exact ⟨hosted, rfl, nofun⟩
  | deactivated stopServers => contradiction
  | dismissed => contradiction
  | foreign foreign =>
    rw [turnsIn_of_foreign p foreign] at mem
    contradiction
  | assigned a assigning given focus fields effect =>
    obtain ⟨after, -⟩ := Prod.mk.inj effect
    rw [turnsIn_of_assigning assigning, given] at mem
    obtain ⟨f, mem, runs, own, found, watch⟩ := eq_of_mem_turnsOfAll mem
    obtain ⟨-, -, hosted⟩ := Watch.mk.inj (watch.trans watching)
    rw [watching.observersOf f, List.mem_filterMap] at runs
    obtain ⟨_, rep, same⟩ := runs
    obtain ⟨positive, rfl⟩ := List.mem_replicate.mp rep
    refine ⟨?_, own.trans focus, ?_⟩
    · rw [hosted]
      simpa using Nat.pos_of_ne_zero positive
    · intro priority
      rw [priority] at same
      obtain rfl : f = .hyperclickPriority := by
        cases f <;> first | rfl | cases same
      have value := get_assignAll p a.focus a.settings a.fields .hyperclickPriority
      rw [if_pos mem, ← after] at value
      apply found.trans value.symm
  | refused assigning nothing effect =>
    rw [turnsIn_of_assigning assigning, nothing] at mem
    contradiction

/-- What follows from the reactions in a happening alone. -/
theorem Watching.flatMap_turnsIn (watching : Watching n p) (h : Happening) {α : Type}
    {what : Turn → List α} {follows : Reaction → List α}
    (same : ∀ t ∈ p.turnsIn h, what t = follows t.reaction) :
  (p.turnsIn h).flatMap what = (dueReactions n p.settings (p.after h).settings h).flatMap follows
  := by
  rw [← watching.reactions_turnsIn, List.flatMap_map, List.flatMap_def, List.flatMap_def,
    List.map_congr_left same]

end TypeCoverage.Package
