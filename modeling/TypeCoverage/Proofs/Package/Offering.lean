import Mathlib.Data.Finset.Card
import Mathlib.Data.Finset.Range
import TypeCoverage.Proofs.Package.Watching

/-!
# Offering a restart

A change of the priority makes its observers offer a restart.  An `Occasion` is a moment at which
such an observer hears of a priority, or at which a notification is dismissed; `occasionsAll` lists
those of a run.  The package remembers the priority that was heard last and whether a notification
stands.
What it does at an occasion depends on this memory alone (`Memory.Allows`), and every run is a
sequence of such steps (`traces_occasionsAll`).

As long as each notification is dismissed at most once, and not before it is shown, one more has
been shown than were dismissed exactly if one stands (`Accounts`).  So they never stack
(`neverStacks`).
-/

namespace TypeCoverage.Package

/-! ### Occasions -/

/-- What bears on the notifications. -/
inductive Occasion where
  /-- An observer hears of a priority, and may show a notification. -/
  | heard (priority : Int) (hosted shown : Bool)
  /-- A notification is dismissed. -/
  | dismissed
  deriving DecidableEq, Repr

/-- The occasions of a reaction. -/
def Turn.occasions (t : Turn) : List Occasion :=
  match t.reaction with
  | .priorityChanged =>
    [.heard t.package.settings.hyperclickPriority t.package.hosted (!t.events.isEmpty)]
  | .showUncoveredChanged => []

/-- The occasions of a happening. -/
def occasions (p : Package) : Happening → List Occasion
  | .dismissed => [.dismissed]
  | h => (p.turnsIn h).flatMap Turn.occasions

/-- The occasions of some happenings. -/
def occasionsAll (p : Package) : List Happening → List Occasion
  | [] => []
  | h :: happenings => p.occasions h ++ (p.after h).occasionsAll happenings

/-- What the host sees of some happenings. -/
def seenAll (p : Package) : List Happening → List Event
  | [] => []
  | h :: happenings => p.seen h ++ (p.after h).seenAll happenings

/-- The notification. -/
def offer : Event := .notify restartMessage true [restartButton]

/-- Whether an event is a notification, whichever. -/
def isNotification : Event → Bool
  | .notify .. => true
  | _ => false

/-- Whether a notification is shown at an occasion. -/
def Occasion.shows : Occasion → Bool
  | .heard _ _ shown => shown
  | .dismissed => false

/-- The priority that is heard at an occasion. -/
def Occasion.priority? : Occasion → Option Int
  | .heard priority _ _ => some priority
  | .dismissed => none

/-- The number of notifications that were shown. -/
def offers (trace : List Occasion) : Nat := trace.countP Occasion.shows

/-- The number of dismissals. -/
def dismissals (trace : List Occasion) : Nat := trace.count .dismissed

/-- The priority that was heard last. -/
def lastHeard (trace : List Occasion) : Option Int := (trace.filterMap Occasion.priority?).getLast?

/-! ### Steps of the memory -/

/-- Whether a priority that is heard makes a package show a notification: if there is a host, no
notification stands, and another priority was heard before. -/
def Memory.shows (m : Memory) (priority : Int) (hosted : Bool) : Bool :=
  hosted && !m.notified && m.priority.any (· ≠ priority)

/-- What a package does at an occasion. -/
def Memory.Allows (m : Memory) : Occasion → Prop
  | .heard priority hosted shown => shown = m.shows priority hosted
  | .dismissed => True

/-- The memory after an occasion. -/
def Memory.after (m : Memory) : Occasion → Memory
  | .heard priority _ shown => ⟨some priority, m.notified || shown⟩
  | .dismissed => ⟨m.priority, false⟩

/-- Occasions that lead from one memory to another. -/
inductive Traces : Memory → List Occasion → Memory → Prop
  | nil {m : Memory} : Traces m [] m
  | cons {m m' : Memory} {x : Occasion} {trace : List Occasion} (allows : m.Allows x)
      (rest : Traces (m.after x) trace m') : Traces m (x :: trace) m'

theorem traces_singleton {m m' : Memory} {x : Occasion} (allows : m.Allows x)
    (leads : m.after x = m') :
  Traces m [x] m'
  := by
  rw [← leads]
  exact .cons allows .nil

theorem Traces.append {m m' m'' : Memory} {first second : List Occasion} (begins : Traces m first m')
    (ends : Traces m' second m'') :
  Traces m (first ++ second) m''
  := by
  induction begins with
  | nil => exact ends
  | cons allows _ ih => exact .cons allows (ih ends)

/-- A trace can be stopped anywhere. -/
theorem Traces.stop {m m' : Memory} {first second : List Occasion}
    (traces : Traces m (first ++ second) m') :
  ∃ between, Traces m first between ∧ Traces between second m'
  := by
  induction first generalizing m with
  | nil => exact ⟨m, .nil, traces⟩
  | cons x first ih =>
    obtain _ | ⟨allows, rest⟩ := traces
    obtain ⟨between, begins, ends⟩ := ih rest
    exact ⟨between, .cons allows begins, ends⟩

variable {p : Package} {focus : Option Document}

theorem hearPriority_eq (p : Package) (priority : Int) :
  p.hearPriority priority =
    if p.memory.shows priority p.hosted then
      ({ p with priority := some priority, notified := true }, [offer])
    else ({ p with priority := some priority }, [])
  := by
  rw [hearPriority, Memory.shows, memory]
  cases p.hosted <;> cases p.notified <;> cases heard : p.priority with
  | none => simp
  | some w => by_cases same : w = priority <;> simp [same, offer]

theorem traces_turn (p : Package) (focus : Option Document) (reaction : Reaction) :
  Traces p.memory (Turn.occasions ⟨reaction, focus, p⟩) (p.react focus reaction).1.memory
  := by
  cases reaction with
  | showUncoveredChanged => exact .nil
  | priorityChanged =>
    simp only [Turn.occasions, Turn.events, react, hearPriority_eq]
    split
    · next shows =>
      apply traces_singleton
      · apply shows.symm
      · simp [Memory.after, memory]
    · next silent =>
      rw [Bool.not_eq_true] at silent
      apply traces_singleton
      · apply silent.symm
      · simp [Memory.after, memory]

theorem traces_turns (p : Package) (focus : Option Document) (reactions : List Reaction) :
  Traces p.memory ((p.turns focus reactions).flatMap Turn.occasions)
    (p.reactAll focus reactions).1.memory
  := by
  induction reactions generalizing p with
  | nil => exact .nil
  | cons reaction reactions ih =>
    rw [turns, List.flatMap_cons]
    exact (traces_turn p focus reaction).append (ih _)

theorem traces_turnsOfAll (p : Package) (focus : Option Document) (settings : Settings)
    (fields : List Field) :
  Traces p.memory ((p.turnsOfAll focus settings fields).flatMap Turn.occasions)
    (p.assignAll focus settings fields).1.memory
  := by
  induction fields generalizing p with
  | nil => exact .nil
  | cons f fs ih =>
    rw [turnsOfAll, List.flatMap_append]
    exact (traces_turns (p.changed f _) focus _).append (ih _)

theorem occasions_of_assigning {h : Happening} (assigning : h.IsAssigning) :
  p.occasions h = (p.turnsIn h).flatMap Turn.occasions
  := by
  cases h <;> first | rfl | contradiction

/-- The occasions of a happening lead from the memory before it to the memory after it. -/
theorem traces_occasions (p : Package) (h : Happening) :
  Traces p.memory (p.occasions h) (p.after h).memory
  := by
  cases p.concerns h with
  | activated focus =>
    have first := traces_turn
      ({ p with hosted := true }.registered .hyperclickPriority .priorityChanged) focus
      .priorityChanged
    apply first.append .nil
  | deactivated stopServers =>
    have same : (p.after (.deactivated stopServers)).memory = p.memory := by
      rw [after, deactivate, unsubscribe]
      simp only [detach]
      split <;> rfl
    rw [same]
    exact .nil
  | dismissed => exact .cons trivial .nil
  | foreign foreign =>
    have nothing : p.occasions h = [] := by
      cases h <;> first | rfl | contradiction
    rw [nothing, (unmoved_after p foreign).memory]
    exact .nil
  | assigned a assigning given focus fields effect =>
    obtain ⟨after, -⟩ := Prod.mk.inj effect
    rw [occasions_of_assigning assigning, turnsIn_of_assigning assigning, given, after]
    apply traces_turnsOfAll
  | refused assigning nothing effect =>
    obtain ⟨after, -⟩ := Prod.mk.inj effect
    rw [occasions_of_assigning assigning, turnsIn_of_assigning assigning, nothing, after]
    exact .nil

theorem traces_occasionsAll (p : Package) (happenings : List Happening) :
  Traces p.memory (p.occasionsAll happenings) (p.afterAll happenings).memory
  := by
  induction happenings generalizing p with
  | nil => exact .nil
  | cons h happenings ih => exact (traces_occasions p h).append (ih _)

/-! ### Notifications that stand -/

/-- Each notification is dismissed at most once, and not before it is shown.  Notifications are
numbered in the order in which they are shown, and dismissals likewise; `which` tells the
notification of a dismissal. -/
structure DismissedOnce (which : ℕ → ℕ) (trace : List Occasion) : Prop where
  shown : ∀ before, before <+: trace → ∀ i < dismissals before, which i < offers before
  once : ∀ i < dismissals trace, ∀ j < dismissals trace, which i = which j → i = j

/-- The notifications that have been shown and have not been dismissed. -/
def undismissed (which : ℕ → ℕ) (trace : List Occasion) : Finset ℕ :=
  Finset.range (offers trace) \ (Finset.range (dismissals trace)).image which

variable {which : ℕ → ℕ} {trace before : List Occasion}

theorem dismissals_le_of_prefix (begins : before <+: trace) :
  dismissals before ≤ dismissals trace
  := begins.sublist.count_le _

theorem DismissedOnce.earlier (once : DismissedOnce which trace) (begins : before <+: trace) :
  DismissedOnce which before
  where
  shown first begins' := once.shown first (begins'.trans begins)
  once i small j small' := by
    have le := dismissals_le_of_prefix begins
    apply once.once i (Nat.lt_of_lt_of_le small le) j (Nat.lt_of_lt_of_le small' le)

theorem DismissedOnce.card_dismissed (once : DismissedOnce which trace) :
  ((Finset.range (dismissals trace)).image which).card = dismissals trace
  := by
  rw [Finset.card_image_of_injOn, Finset.card_range]
  intro i small j small'
  apply once.once i (by simpa using small) j (by simpa using small')

theorem DismissedOnce.dismissed_subset (once : DismissedOnce which trace) :
  (Finset.range (dismissals trace)).image which ⊆ Finset.range (offers trace)
  := by
  rw [Finset.image_subset_iff]
  intro i small
  rw [Finset.mem_range] at small ⊢
  apply once.shown trace (List.prefix_refl _) i small

theorem DismissedOnce.dismissals_le (once : DismissedOnce which trace) :
  dismissals trace ≤ offers trace
  := by
  have le := Finset.card_le_card once.dismissed_subset
  rwa [once.card_dismissed, Finset.card_range] at le

theorem DismissedOnce.card_undismissed (once : DismissedOnce which trace) :
  (undismissed which trace).card = offers trace - dismissals trace
  := by
  rw [undismissed, Finset.card_sdiff_of_subset once.dismissed_subset, once.card_dismissed,
    Finset.card_range]

/-- A memory agrees with a trace: it has the priority that was heard last, and a notification
stands exactly if one more was shown than were dismissed. -/
structure Accounts (trace : List Occasion) (m : Memory) : Prop where
  priority : m.priority = lastHeard trace
  balance : offers trace = dismissals trace + if m.notified then 1 else 0

theorem Accounts.concat {m : Memory} {x : Occasion} (accounts : Accounts trace m)
    (allows : m.Allows x) (once : DismissedOnce which (trace ++ [x])) :
  Accounts (trace ++ [x]) (m.after x)
  := by
  obtain ⟨priority, balance⟩ := accounts
  cases x with
  | heard v hosted shown =>
    constructor
    · simp [Memory.after, lastHeard, Occasion.priority?]
    · have more : offers (trace ++ [.heard v hosted shown]) =
          offers trace + if shown then 1 else 0 := by
        cases shown <;> simp [offers, Occasion.shows]
      have same : dismissals (trace ++ [.heard v hosted shown]) = dismissals trace := by
        simp [dismissals]
      rw [more, same, balance]
      cases shown with
      | false => simp [Memory.after]
      | true =>
        have silent : m.notified = false := by
          simp only [Memory.Allows, Memory.shows] at allows
          simp_all
        simp [Memory.after, silent]
  | dismissed =>
    constructor
    · simpa [Memory.after, lastHeard, Occasion.priority?] using priority
    · have same : offers (trace ++ [.dismissed]) = offers trace := by
        simp [offers, Occasion.shows]
      have more : dismissals (trace ++ [.dismissed]) = dismissals trace + 1 := by
        simp [dismissals]
      -- What is dismissed has been shown, so a notification stands.
      have le := once.dismissals_le
      rw [same, more, balance] at le
      cases stands : m.notified with
      | false =>
        rw [stands, if_neg Bool.false_ne_true, Nat.add_zero] at le
        apply absurd le (Nat.not_succ_le_self _)
      | true => simp [same, more, balance, stands, Memory.after]

theorem Traces.accounts {m m' : Memory} {later : List Occasion} (traces : Traces m later m')
    (accounts : Accounts before m) (once : DismissedOnce which (before ++ later)) :
  Accounts (before ++ later) m'
  := by
  induction traces generalizing before with
  | nil =>
    rw [List.append_nil]
    apply accounts
  | cons allows rest ih =>
    rw [List.append_cons] at once ⊢
    apply ih (accounts.concat allows (once.earlier (List.prefix_append ..))) once

/-! ### What the host sees -/

theorem notifications_turn (t : Turn) :
  t.events.filter isNotification = List.replicate (offers t.occasions) offer
  := by
  obtain ⟨reaction, focus, p⟩ := t
  cases reaction with
  | showUncoveredChanged =>
    simp only [Turn.events, react, askForLint]
    split <;> rfl
  | priorityChanged =>
    simp only [Turn.occasions, Turn.events, react, hearPriority_eq]
    split <;> rfl

theorem offers_append (first second : List Occasion) :
  offers (first ++ second) = offers first + offers second
  := List.countP_append

theorem notifications_turns (ts : List Turn) :
  (ts.flatMap Turn.events).filter isNotification =
    List.replicate (offers (ts.flatMap Turn.occasions)) offer
  := by
  induction ts with
  | nil => rfl
  | cons t ts ih =>
    rw [List.flatMap_cons, List.flatMap_cons, List.filter_append, notifications_turn, ih,
      offers_append, List.replicate_append_replicate]

theorem filter_isPrompt (events : List Event) :
  (events.filter isPrompt).filter isNotification = events.filter isNotification
  := by
  rw [List.filter_filter]
  apply List.filter_congr
  intro e _
  cases e <;> rfl

/-- The notifications that the host sees in a happening are those of its occasions. -/
theorem notifications_seen (p : Package) (h : Happening) :
  (p.seen h).filter isNotification = List.replicate (offers (p.occasions h)) offer
  := by
  rw [← filter_isPrompt, prompts_seen, notifications_turns]
  cases h <;> rfl

theorem notifications_seenAll (p : Package) (happenings : List Happening) :
  (p.seenAll happenings).filter isNotification =
    List.replicate (offers (p.occasionsAll happenings)) offer
  := by
  induction happenings generalizing p with
  | nil => rfl
  | cons h happenings ih =>
    rw [seenAll, occasionsAll, List.filter_append, notifications_seen, ih, offers_append,
      List.replicate_append_replicate]

/-- The priorities that are heard in a happening: the present one on activation, and otherwise a
new one by each observer. -/
def dueHearings (n : Nat) (before after : Settings) : Happening → List Int
  | .activated _ => [after.hyperclickPriority]
  | _ =>
    if after.hyperclickPriority ≠ before.hyperclickPriority then
      List.replicate n after.hyperclickPriority
    else []

/-- The priorities that are heard in a trace. -/
def hearings (trace : List Occasion) : List Int := trace.filterMap Occasion.priority?

/-- Who hears of the priority in a reaction. -/
def hearingOf (priority : Int) : Reaction → List Int
  | .priorityChanged => [priority]
  | .showUncoveredChanged => []

theorem hearings_turns (ts : List Turn) :
  hearings (ts.flatMap Turn.occasions) = ts.flatMap fun t => hearings t.occasions
  := by
  rw [hearings, List.filterMap_flatMap]
  rfl

theorem flatMap_hearingOf (n : Nat) (before after : Settings) (h : Happening) :
  (dueReactions n before after h).flatMap (hearingOf after.hyperclickPriority) =
    dueHearings n before after h
  := by
  cases h <;> simp only [dueReactions, dueHearings]
  case activated => rfl
  all_goals
    rw [List.flatMap_append]
    split <;> split <;> simp [hearingOf, List.flatMap_replicate]

theorem Watching.hearings_occasions {n : ℕ} (watching : Watching n p) (h : Happening) :
  hearings (p.occasions h) = dueHearings n p.settings (p.after h).settings h
  := by
  have same : hearings (p.occasions h) = hearings ((p.turnsIn h).flatMap Turn.occasions) := by
    cases h <;> rfl
  rw [same, hearings_turns, ← flatMap_hearingOf]
  apply watching.flatMap_turnsIn
  intro t mem
  obtain ⟨-, -, priority⟩ := watching.mem_turnsIn mem
  cases reaction : t.reaction with
  | showUncoveredChanged =>
    rw [Turn.occasions, reaction]
    rfl
  | priorityChanged =>
    rw [Turn.occasions, reaction]
    simp [hearings, Occasion.priority?, hearingOf, priority reaction]

/-- Where nobody observes the priority, nobody hears of it. -/
theorem dueHearings_zero {h : Happening} (other : ∀ focus, h ≠ .activated focus)
    (before after : Settings) :
  dueHearings 0 before after h = []
  := by
  rw [dueHearings]
  · split <;> rfl
  · apply other

/-- Where nobody hears of a priority, no notification is shown. -/
theorem offers_eq_zero {trace : List Occasion} (silent : hearings trace = []) :
  offers trace = 0
  := by
  rw [hearings, List.filterMap_eq_nil_iff] at silent
  rw [offers, List.countP_eq_zero]
  intro x mem
  cases x with
  | heard v hosted shown => cases silent _ mem
  | dismissed => exact Bool.false_ne_true

/-! ### Never more than one -/

theorem Accounts.card_undismissed {m : Memory} (accounts : Accounts trace m)
    (once : DismissedOnce which trace) :
  (undismissed which trace).card = if m.notified then 1 else 0
  := by
  rw [once.card_undismissed, accounts.balance, Nat.add_sub_cancel_left]

/-- A notification is shown exactly if another priority was heard before, a host is there and
none stands. -/
theorem Accounts.shows_iff {m : Memory} (accounts : Accounts trace m)
    (once : DismissedOnce which trace) (v : Int) (hosted : Bool) :
  m.shows v hosted = true ↔
    hosted = true ∧ (∃ w, lastHeard trace = some w ∧ w ≠ v) ∧ undismissed which trace = ∅
  := by
  rw [← Finset.card_eq_zero, accounts.card_undismissed once, ← accounts.priority, Memory.shows]
  cases m.priority <;> cases m.notified <;> simp

/-- What is certain of the notifications of a run. -/
structure NeverStacks (settings : Settings) (happenings : List Happening) (which : ℕ → ℕ) :
    Prop where
  /-- At most one notification stands at any time. -/
  single : ∀ before, before <+: (ofSettings settings).occasionsAll happenings →
    (undismissed which before).card ≤ 1
  /-- One is shown exactly when an observer hears of another priority than was heard before,
  while a host is attached and none stands. -/
  shown : ∀ before v hosted shown later,
    (ofSettings settings).occasionsAll happenings = before ++ .heard v hosted shown :: later →
    (shown = true ↔
      hosted = true ∧ (∃ w, lastHeard before = some w ∧ w ≠ v) ∧ undismissed which before = ∅)
  /-- So the first priority that is heard shows none, and neither does one that is heard again. -/
  unchanged : ∀ before v hosted shown later,
    (ofSettings settings).occasionsAll happenings = before ++ .heard v hosted shown :: later →
    lastHeard before = none ∨ lastHeard before = some v → shown = false
  /-- An activation makes the present priority heard, and a change the new one, by as many
  observers as there were activations since the host was last detached. -/
  heard : ∀ before h later, happenings = before ++ h :: later →
    hearings (((ofSettings settings).afterAll before).occasions h) =
      dueHearings (attachments before) ((ofSettings settings).afterAll before).settings
        (((ofSettings settings).afterAll before).after h).settings h
  /-- Nothing shows a notification while no host is attached. -/
  detached : ∀ before h later, happenings = before ++ h :: later → attachments before = 0 →
    (∀ focus, h ≠ .activated focus) →
    (((ofSettings settings).afterAll before).seen h).filter isNotification = []
  /-- The host sees the notifications that are shown, and no others. -/
  seen : ((ofSettings settings).seenAll happenings).filter isNotification =
    List.replicate (offers ((ofSettings settings).occasionsAll happenings)) offer

/-- Notifications never stack. -/
theorem neverStacks {settings : Settings} {happenings : List Happening} {which : ℕ → ℕ}
    (once : DismissedOnce which ((ofSettings settings).occasionsAll happenings)) :
  NeverStacks settings happenings which
  := by
  have traces := traces_occasionsAll (ofSettings settings) happenings
  have start : Accounts [] (ofSettings settings).memory := ⟨rfl, rfl⟩
  have shown (before : List Occasion) (v : Int) (hosted shown : Bool) (later : List Occasion)
      (cut : (ofSettings settings).occasionsAll happenings =
        before ++ .heard v hosted shown :: later) :
      shown = true ↔
        hosted = true ∧ (∃ w, lastHeard before = some w ∧ w ≠ v) ∧
          undismissed which before = ∅ := by
    rw [cut] at traces once
    obtain ⟨m, begins, _ | ⟨allows, -⟩⟩ := traces.stop
    have once := once.earlier (List.prefix_append ..)
    have accounts : Accounts before m := begins.accounts start once
    rw [← accounts.shows_iff once, allows]
  constructor
  case single =>
    rintro before ⟨later, cut⟩
    rw [← cut] at traces once
    obtain ⟨m, begins, -⟩ := traces.stop
    have once := once.earlier (List.prefix_append ..)
    have accounts : Accounts before m := begins.accounts start once
    rw [accounts.card_undismissed once]
    split <;> decide
  case shown => exact shown
  case unchanged =>
    intro before v hosted appears later cut same
    rw [← Bool.not_eq_true, shown before v hosted appears later cut]
    rintro ⟨-, ⟨w, heard, other⟩, -⟩
    obtain none | again := same
    · rw [none] at heard
      contradiction
    · rw [again] at heard
      apply other (Option.some.inj heard).symm
  case heard =>
    intro before h later cut
    apply (watching settings before).hearings_occasions
  case detached =>
    intro before h later cut none other
    have heard := (watching settings before).hearings_occasions h
    rw [none, dueHearings_zero other] at heard
    rw [notifications_seen, offers_eq_zero heard]
    rfl
  case seen => apply notifications_seenAll

/-! ### A notification that is dismissed and offered again -/

/-- The priority is changed twice, the second time without a host. -/
def offeringSample : List Happening :=
  [.activated none, .set none "hyperclick_priority" (.integer 5),
    .set none "hyperclick_priority" (.integer 6), .dismissed, .deactivated false,
    .set none "hyperclick_priority" (.integer 7), .activated none]

/-- The first change shows a notification, the second none, and the change that nobody heard of
shows one at the next activation. -/
theorem neverStacks_sample :
  (ofSettings {}).occasionsAll offeringSample =
      [.heard 0 true false, .heard 5 true true, .heard 6 true false, .dismissed,
        .heard 7 true true] ∧
    NeverStacks {} offeringSample id
  := by
  have trace : (ofSettings {}).occasionsAll offeringSample =
      [.heard 0 true false, .heard 5 true true, .heard 6 true false, .dismissed,
        .heard 7 true true] := by decide
  refine ⟨trace, neverStacks ?_⟩
  rw [trace]
  constructor
  · intro before begins
    rw [← List.mem_inits] at begins
    revert before
    decide
  · decide

end TypeCoverage.Package
