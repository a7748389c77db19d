import TypeCoverage.Proofs.Settings.Calm

/-!
# Observers that act while they are called

An observer may assign settings, register observers and remove them while others are still
to be called.  `Session.Dispatches` says what of this is certain for an action performed on
any session: each assignment of a new value, however deep it is nested, is told once to all
entries that its setting has at that moment, in the order of their registration; an entry
that is added meanwhile hears the value that the setting then has, and of later assignments
only; the old value is told to nobody, and a value that does not fit changes nothing.

Observers that do not raise (`Session.IsCalm`) let every action return.
-/

namespace TypeCoverage.Settings

namespace Session

/-- An action is performed by a run in which it is the only thing on the agenda. -/
theorem perform_eq_run (s : Session) (a : Action) :
  (s.perform a).1 = (s.run [.perform a]).1 ∧
    ((∃ answer, (s.perform a).2 = .ok answer) ↔ (s.run [.perform a]).2 = .ok ())
  := by
  rw [perform]
  cases begun : s.begin a with
  | mk s' result =>
    cases result with
    | error e =>
      have failed : s.step (.perform a) = (s', .error e) := by rw [step, begun]
      rw [run_cons_of_error [] failed]
      simp
    | ok answered =>
      obtain ⟨answer, tasks⟩ := answered
      have done : s.step (.perform a) = (s', .ok tasks) := by rw [step, begun]
      rw [run_cons_of_ok [] done, List.append_nil]
      dsimp only
      cases ran : s'.run tasks with
      | mk s'' result => cases result <;> simp

/-- The session watched while an action is performed on it. -/
def watch (s : Session) (a : Action) : Watched × Except Failure Unit :=
  Watched.run s ⟨s, []⟩ [⟨.perform a, none⟩]

/-- What is noted while an action is performed. -/
def notes (s : Session) (a : Action) : List Note := (s.watch a).1.log

/-- An action returns. -/
def Returns (s : Session) (a : Action) : Prop := ∃ answer, (s.perform a).2 = .ok answer

theorem kept_watch (s : Session) (a : Action) :
  ∃ left, Kept s (s.watch a).1 left ∧ (s.Returns a → left = [])
  := by
  obtain ⟨left, kept, done⟩ := (Kept.start s a).run
  refine ⟨left, kept, fun returns => done ?_⟩
  have ran := Watched.session_run s ⟨s, []⟩ [⟨.perform a, none⟩]
  rw [Returns, (perform_eq_run s a).2] at returns
  rw [← returns]
  exact (congrArg Prod.snd ran).symm

theorem session_watch (s : Session) (a : Action) :
  (s.watch a).1.session = (s.perform a).1
  := by
  have ran := Watched.session_run s ⟨s, []⟩ [⟨.perform a, none⟩]
  rw [(perform_eq_run s a).1]
  exact (congrArg Prod.fst ran).symm

/-! ### Assignments -/

/-- An action that assigns is noted first of all. -/
theorem notes_set (s : Session) {name : String} {d : Datum} {f : Field} {v : f.Carrier}
    (checked : Store.checkValue name d = .ok ⟨f, v⟩) :
  ∃ recipients after, s.notes (.set name d) = .assigned 0 f v recipients :: after
  := by
  let w : Watched := ⟨s, []⟩
  let item : Item := ⟨.perform (.set name d), none⟩
  have note : w.note? s item = some (w.assignment s f v) := by
    simp only [Watched.note?, item, checked]
  have done : w.step s item = (⟨(s.assign f v).1, [w.assignment s f v]⟩,
      .ok ((s.assign f v).2.map (Item.of (Watched.ticket? item (w.assignment s f v))))) := by
    have begun : s.step (.perform (.set name d)) = ((s.assign f v).1, .ok (s.assign f v).2) := by
      rw [step, begin_set checked]
    rw [Watched.step, note]
    simp only [w, item, begun]
    rfl
  obtain ⟨after, more⟩ := Watched.log_prefix_run s ⟨(s.assign f v).1, [w.assignment s f v]⟩
    ((s.assign f v).2.map (Item.of (Watched.ticket? item (w.assignment s f v))) ++ [])
  rw [← Watched.run_cons_of_ok s [] done] at more
  exact ⟨_, after, more.symm⟩

/-- A setting that is assigned the value that it has: nothing changes and nobody is to be
called. -/
theorem assign_self (s : Session) (f : Field) :
  s.assign f (s.store.settings.get f) = (s, [.deliver f (s.store.settings.get f) []])
  := by
  simp [assign, Store.change]

/-- Assigning a setting the value that it has changes nothing and calls nobody. -/
theorem perform_set_of_eq (s : Session) {name : String} {d : Datum} {f : Field}
    (checked : Store.checkValue name d = .ok ⟨f, s.store.settings.get f⟩) :
  s.perform (.set name d) = (s, .ok .done)
  := by
  rw [perform, begin_set checked, assign_self]
  dsimp only
  have told : s.step (.deliver f (s.store.settings.get f) []) = (s, .ok []) := rfl
  rw [run_cons_of_ok [] told, List.nil_append, run]

/-- A value that does not fit is refused and changes nothing.  The words of the refusal show
the value, so a value that cannot be shown makes the refusal fail itself. -/
theorem perform_set_of_error (s : Session) {name : String} {d : Datum} {f : Field}
    {findings : List Finding} (known : Field.ofName? name = some f)
    (unfit : Checked.below (.key name) (f.check d) = .error findings) :
  s.perform (.set name d) = (s, .error (match d.shown? with
    | some shown => .fault (.config (.invalidValue name shown findings))
    | none => .badValue none))
  := by
  have checked : Store.checkValue name d = .error (match d.shown? with
      | some shown => .fault (.config (.invalidValue name shown findings))
      | none => .badValue none) := by
    rw [Store.checkValue, known]
    simp only [unfit]
    cases d.shown? <;> rfl
  rw [perform, begin, checked]

/-- What is certain of an action performed on a session, whatever its observers do. -/
structure Dispatches (s : Session) (a : Action) : Prop where
  /-- If no observer raises, the action returns. -/
  returns : s.IsCalm → a.IsCalm → s.Returns a
  /-- The notes are of the calls that are made, and of what becomes of the store. -/
  calls : (s.perform a).1.calls = ((s.notes a).filterMap Note.delivery?).reverse ++ s.calls
  store : (s.perform a).1.store =
    ⟨s.settingsAfter (s.notes a), (s.entriesAfter (s.notes a)).map Entry.pair⟩
  /-- An action that assigns is noted first of all. -/
  first : ∀ name d f v, a = .set name d → Store.checkValue name d = .ok ⟨f, v⟩ →
    ∃ recipients after, s.notes a = .assigned 0 f v recipients :: after
  /-- Each assignment, however deep it is nested, is told to the entries that its setting has
  at this moment, in the order of their registration and to each once, if the value is a new
  one, and else to nobody. -/
  assigned : ∀ before k f v recipients after,
    s.notes a = before ++ .assigned k f v recipients :: after →
      (recipients = if v = (s.settingsAfter before).get f then []
        else (s.entriesAfter before).filter (·.field = f)) ∧
      recipients.Pairwise (fun d e => d.number < e.number) ∧
      paid (.change k) before = [] ∧
      (s.Returns a → paid (.change k) after = recipients.map (·.hears f v))
  /-- Each entry that is added is a new one.  It is called once for itself, with the value
  that the setting has then, and otherwise only for assignments that come later. -/
  registered : ∀ before e v after, s.notes a = before ++ .registered e v :: after →
    (∀ d ∈ s.entriesAfter before, d.number < e.number) ∧
      v = (s.settingsAfter before).get e.field ∧
      paid (.entry e.number) before = [] ∧
      (s.Returns a → paid (.entry e.number) after = [e.hears e.field v]) ∧
      ∀ past cause d delivery rest, s.notes a = past ++ .called cause d delivery :: rest →
        d.number = e.number → cause = .entry e.number ∨
          ∃ k f v recipients, cause = .change k ∧ .assigned k f v recipients ∈ after
  /-- An entry that is removed is the first one of its observer for the setting. -/
  removed : ∀ before e after, s.notes a = before ++ .removed e :: after →
    (s.entriesAfter before).find? (fun d : Entry => d.pair = e.pair) = some e
  /-- Nobody is called but for an assignment or for a registration of their own. -/
  called : ∀ before cause e delivery after,
    s.notes a = before ++ .called cause e delivery :: after →
      (∃ k f v recipients, cause = .change k ∧ .assigned k f v recipients ∈ before ∧
        e ∈ recipients ∧ delivery = ⟨e.observer, f, v⟩) ∨
      ∃ v, cause = .entry e.number ∧ .registered e v ∈ before ∧
        delivery = ⟨e.observer, e.field, v⟩
  /-- A setting that is assigned the value it has: nothing changes and nobody is called. -/
  same : ∀ name d f, a = .set name d →
    Store.checkValue name d = .ok ⟨f, s.store.settings.get f⟩ → s.perform a = (s, .ok .done)
  /-- A value that does not fit: nothing changes and nobody is called.  The refusal is of the
  settings if the value can be shown, and else of the showing. -/
  unfit : ∀ name d f findings, a = .set name d → Field.ofName? name = some f →
    Checked.below (.key name) (f.check d) = .error findings →
      s.perform a = (s, .error (match d.shown? with
        | some shown => .fault (.config (.invalidValue name shown findings))
        | none => .badValue none))

/-- Observers may assign, register and remove as they like, at any depth: whoever is to hear
of an assignment hears of it once and in order, whoever is added hears the value of then and
what comes later, and nothing else is told to anyone. -/
theorem dispatches (s : Session) (a : Action) :
  s.Dispatches a
  := by
  obtain ⟨left, kept, complete⟩ := s.kept_watch a
  have tells : s.Tells (s.notes a) := kept.tells
  have done (returns : s.Returns a) (cause : Cause) :
      paid cause (s.notes a) = owed cause (s.notes a) := by
    have all := kept.owed cause
    rw [complete returns, List.flatMap_nil, List.append_nil] at all
    exact all.symm
  exact {
    returns := by
      intro calm quiet
      rw [Returns, (perform_eq_run s a).2]
      apply run_of_isCalm calm
      intro task mem
      obtain rfl := List.mem_singleton.1 mem
      exact quiet
    calls := by
      rw [← session_watch]
      exact kept.calls
    store := by
      rw [← session_watch, notes, ← kept.settings, ← kept.observers]
    first := by
      rintro name d f v rfl checked
      exact s.notes_set checked
    assigned := by
      intro before k f v recipients after cut
      obtain ⟨-, fits⟩ := tells before _ after cut
      obtain ⟨silent, told⟩ := tells.paid_assigned cut
      refine ⟨fits, ?_, silent, fun returns => told (done returns _)⟩
      rw [cut] at tells
      rw [fits]
      split
      · exact List.Pairwise.nil
      · exact tells.prefix.numbers.1.sublist List.filter_sublist
    registered := by
      intro before e v after cut
      obtain ⟨number, value⟩ := tells before _ after cut
      obtain ⟨silent, told⟩ := tells.paid_registered cut
      refine ⟨?_, value, silent, fun returns => told (done returns _), ?_⟩
      · rw [cut] at tells
        rw [number]
        exact tells.prefix.numbers.2
      · intro past cause d delivery rest called same
        exact tells.later cut called same
    removed := fun before e after cut => tells before _ after cut
    called := fun before cause e delivery after cut => tells.caused cut
    same := by
      rintro name d f rfl checked
      exact s.perform_set_of_eq checked
    unfit := by
      rintro name d f findings rfl known unfit
      exact s.perform_set_of_error known unfit }

/-- An integer with so many digits that it cannot be shown. -/
def longInteger : Datum := .integer (tenTo Datum.digitLimit)

theorem shown?_longInteger :
  longInteger.shown? = none
  := by
  have long : Datum.digitLimit < Decimal.digitCount (tenTo Datum.digitLimit) := by
    rw [← Nat.not_le, Decimal.digitCount_le_iff _ _ (by decide)]
    exact Nat.lt_irrefl _
  rw [longInteger, Datum.shown?, Int.natAbs_natCast, if_pos long]

/-- A long integer does not fit a truth value, and yet it is not refused as one: the refusal
fails when it is to show the integer. -/
theorem unshown_longInteger :
  let name := Field.showUncovered.name
  (∃ findings, Checked.below (.key name) (Field.showUncovered.check longInteger) =
    .error findings) ∧
      ∀ why, ((start {}).perform (.set name longInteger)).2 ≠ .error (.fault (.config why))
  := by
  intro name
  have large : Field.isWord (tenTo Datum.digitLimit) = false := by decide +kernel
  have unfit : Checked.below (.key name) (Field.showUncovered.check longInteger) =
      .error [⟨[.key name], .notBoolean⟩] := by
    rw [Field.check, longInteger, Field.checkFlag, large]
    rfl
  refine ⟨⟨_, unfit⟩, fun why => ?_⟩
  rw [perform_set_of_error _ (Field.ofName?_name _) unfit, shown?_longInteger]
  simp

end Session

end TypeCoverage.Settings
