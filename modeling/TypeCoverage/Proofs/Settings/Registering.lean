import TypeCoverage.Proofs.Settings.Handles

/-!
# Registrations that are broken off

An observer is registered first and called next, and only then its handle is returned.  If the
call raises, the entry is there and its handle is not.

The entries after some notes are those that have been registered and not removed
(`Session.Tells.mem_entriesAfter_iff`).  A run keeps the handle of an entry from being returned
as long as the return of its registration does not stand on the agenda (`Unbound`).

`Session.registering` says what the registration of an observer leaves, in every session that
can be reached: nothing if the setting is unknown, and else an entry, which stays and is called
until the handle of another one removes it.  It has a handle if and only if the call returned.
-/

namespace TypeCoverage.Settings

/-! ### Entries after some notes -/

namespace Session

section Tells

variable {s : Session} {log later : List Note} {e : Entry}

theorem nextEntry_mono (s : Session) (log later : List Note) :
  s.nextEntry log ≤ s.nextEntry (log ++ later)
  := by
  rw [nextEntry, nextEntry, List.countP_append]
  omega

/-- An entry that has been removed is none of those that come next. -/
theorem Tells.number_lt_of_removed (tells : s.Tells log) (removed : .removed e ∈ log) :
  e.number < s.nextEntry log
  := by
  obtain ⟨before, after, rfl⟩ := List.append_of_mem removed
  have present := List.mem_of_find?_eq_some (tells before _ after rfl)
  have old := tells.prefix.numbers.2 e present
  exact Nat.lt_of_lt_of_le old (s.nextEntry_mono before _)

/-- An entry that is registered is one of those that come next. -/
theorem Tells.nextEntry_le_of_registered (tells : s.Tells (log ++ later)) {v : e.field.Carrier}
    (registered : .registered e v ∈ later) :
  s.nextEntry log ≤ e.number
  := by
  obtain ⟨between, after, rfl⟩ := List.append_of_mem registered
  rw [← List.append_assoc] at tells
  rw [(tells _ _ after rfl).1]
  apply nextEntry_mono

/-- The entries are those that were there, or have been registered, and have not been removed. -/
theorem Tells.mem_entriesAfter_iff (tells : s.Tells (log ++ later)) (d : Entry) :
  d ∈ s.entriesAfter (log ++ later) ↔
    (d ∈ s.entriesAfter log ∨ ∃ v, .registered d v ∈ later) ∧ .removed d ∉ later
  := by
  induction later using List.reverseRecOn with
  | nil => simp
  | append_singleton later note ih =>
    rw [← List.append_assoc] at tells ⊢
    obtain ⟨told, fits⟩ := (tells_concat ..).mp tells
    rw [entriesAfter_concat]
    cases note with
    | assigned | called => simp [Note.entries, ih told]
    | registered d' v' =>
      by_cases same : d = d'
      · subst same
        -- A new entry cannot have been removed before.
        have kept : .removed d ∉ later := by
          intro removed
          have old := told.number_lt_of_removed (List.mem_append_right log removed)
          rw [fits.1] at old
          exact Nat.lt_irrefl _ old
        simp [Note.entries, kept]
      · have other : ∀ v, Note.registered d v ≠ .registered d' v' := by
          rintro v same'
          exact same (by cases same'; rfl)
        simp [Note.entries, same, other, ih told]
    | removed d' =>
      rw [Note.entries, told.nodup.mem_erase_iff, ih told]
      simp only [List.mem_append, List.mem_singleton, reduceCtorEq, or_false,
        Note.removed.injEq, not_or]
      rw [and_comm, and_assoc]

/-- The entries are the same as before if and only if those registered meanwhile have been
removed, and no others. -/
theorem Tells.entriesAfter_eq_iff (tells : s.Tells (log ++ later)) :
  s.entriesAfter (log ++ later) = s.entriesAfter log ↔
    (∀ d v, .registered d v ∈ later → .removed d ∈ later) ∧
      ∀ d ∈ s.entriesAfter log, .removed d ∉ later
  := by
  constructor
  · intro same
    constructor
    · intro d v registered
      by_contra kept
      have present := (tells.mem_entriesAfter_iff d).mpr ⟨Or.inr ⟨v, registered⟩, kept⟩
      rw [same] at present
      have old := tells.prefix.numbers.2 d present
      have new := tells.nextEntry_le_of_registered registered
      omega
    · intro d mem
      rw [← same] at mem
      exact ((tells.mem_entriesAfter_iff d).mp mem).2
  · rintro ⟨gone, kept⟩
    have alike : (s.entriesAfter (log ++ later)).Perm (s.entriesAfter log) := by
      rw [List.perm_ext_iff_of_nodup tells.nodup tells.prefix.nodup]
      intro d
      rw [tells.mem_entriesAfter_iff]
      constructor
      · rintro ⟨mem | ⟨v, registered⟩, left⟩
        · exact mem
        · exact absurd (gone d v registered) left
      · exact fun mem => ⟨Or.inl mem, kept d mem⟩
    apply alike.eq_of_pairwise _ tells.numbers.1 tells.prefix.numbers.1
    intro d d' _ _ less more
    omega

/-- An entry that has been registered stays until it is removed. -/
theorem Tells.mem_iff_of_registered {v : e.field.Carrier}
    (tells : s.Tells (log ++ .registered e v :: later)) :
  e ∈ s.entriesAfter (log ++ .registered e v :: later) ↔ .removed e ∉ later
  := by
  rw [tells.mem_entriesAfter_iff]
  simp

/-- An entry is to hear of every new value of its setting. -/
theorem Tells.hears_of_mem {before after : List Note} {k : Nat} {v : e.field.Carrier}
    {recipients : List Entry} (tells : s.Tells log)
    (cut : log = before ++ .assigned k e.field v recipients :: after)
    (mem : e ∈ s.entriesAfter before) (new : v ≠ (s.settingsAfter before).get e.field) :
  e ∈ recipients
  := by
  obtain ⟨-, told⟩ := tells before _ after cut
  rw [told, if_neg new, List.mem_filter]
  exact ⟨mem, by simp⟩

end Tells

theorem entriesAfter_of_quiet {s : Session} {log later : List Note}
    (quiet : ∀ note ∈ later, ∀ entries, note.entries entries = entries) :
  s.entriesAfter (log ++ later) = s.entriesAfter log
  := by
  induction later using List.reverseRecOn with
  | nil => rw [List.append_nil]
  | append_singleton later note ih =>
    rw [List.forall_mem_append, List.forall_mem_singleton] at quiet
    rw [← List.append_assoc, entriesAfter_concat, quiet.2, ih quiet.1]

end Session

/-! ### The first step of a registration -/

variable {base : Session} {h h' : Held} {item : Item} {agenda rest items : List Item} {e : Entry}

/-- A registration adds an entry, whose observer is called before its handle is returned. -/
theorem Held.run_observe (base : Session) (h : Held) {name : String} {f : Field}
    (known : Field.ofName? name = some f) (subscription observer : String)
    (script : List (List Action)) :
  let e : Entry := ⟨base.nextEntry h.watched.log, f, observer⟩
  let note : Note := .registered e ((base.settingsAfter h.watched.log).get f)
  let call : Item :=
    ⟨.deliver f (h.watched.session.store.settings.get f) [observer], some (.entry e.number, [e])⟩
  ∃ h' : Held, { h with unreturned := [] }.run base
        [⟨.perform (.observe subscription name observer script), none⟩] =
      h'.run base ([call] ++ [⟨.bind subscription f observer, none⟩]) ∧
    h'.watched.log = h.watched.log ++ [note] ∧ h'.unreturned = [e] ∧
      h'.deeds = h.deeds ++ [.noted note]
  := by
  intro e note call
  have noted : h.watched.note? base ⟨.perform (.observe subscription name observer script), none⟩ =
      some note := Watched.note?_observe known subscription observer script none
  have begun : ∃ session,
      h.watched.session.step (.perform (.observe subscription name observer script)) =
        (session, .ok [.deliver f (h.watched.session.store.settings.get f) [observer],
          .bind subscription f observer]) := by
    rw [Session.step, Session.begin, known]
    exact ⟨_, rfl⟩
  obtain ⟨session, begun⟩ := begun
  have done : { h with unreturned := [] }.step base
        ⟨.perform (.observe subscription name observer script), none⟩ =
      (⟨⟨session, h.watched.log ++ [note]⟩, [e], h.handles, h.deeds ++ [.noted note]⟩,
        .ok [call, ⟨.bind subscription f observer, none⟩]) := by
    simp only [Held.step, Watched.step, noted, begun, Held.handle]
    rfl
  exact ⟨_, run_cons_of_ok base [] done, rfl, rfl, rfl⟩

/-! ### Handles that are not returned -/

/-- What a note can be of: of new entries the next one is registered, and entries are removed
only if a handle is disposed. -/
theorem Watched.note?_cases {w : Watched} {note : Note} (noted : w.note? base item = some note) :
  (∃ k f v recipients, note = .assigned k f v recipients) ∨
    (∃ f observer v, note = .registered ⟨base.nextEntry w.log, f, observer⟩ v) ∨
    (∃ d subscription, note = .removed d ∧ item.task = .perform (.dispose subscription)) ∨
    ∃ cause d delivery, note = .called cause d delivery
  := by
  rw [note?] at noted
  split at noted
  · split at noted
    · cases noted
      exact Or.inl ⟨_, _, _, _, rfl⟩
    · cases noted
  · cases noted
    exact Or.inl ⟨_, _, _, _, rfl⟩
  · obtain ⟨f, -, rfl⟩ := Option.map_eq_some_iff.mp noted
    exact Or.inr (Or.inl ⟨_, _, _, rfl⟩)
  · next subscription known =>
    obtain ⟨pair, -, found⟩ := Option.bind_eq_some_iff.mp noted
    obtain ⟨d, -, rfl⟩ := Option.map_eq_some_iff.mp found
    exact Or.inr (Or.inr (Or.inl ⟨d, subscription, rfl, known⟩))
  · split at noted
    · cases noted
      exact Or.inr (Or.inr (Or.inr ⟨_, _, _, rfl⟩))
    · cases noted
  · cases noted

theorem Watched.number_of_new? {w : Watched}
    (new : (w.note? base item).bind Note.new? = some e) :
  e.number = base.nextEntry w.log
  := by
  obtain ⟨note, noted, new⟩ := Option.bind_eq_some_iff.mp new
  rcases note?_cases noted with
    ⟨_, _, _, _, rfl⟩ | ⟨_, _, _, rfl⟩ | ⟨_, _, rfl, -⟩ | ⟨_, _, _, rfl⟩ <;> cases new
  rfl

/-- What is done returns no handle, unless it is the return of a registration. -/
theorem Held.handle_of_not_returning (base : Session) (h : Held)
    (other : item.task.returning? = none) :
  (h.handle base item).unreturned =
      ((h.watched.note? base item).bind Note.new?).toList ++ h.unreturned ∧
    ∀ d, .returned d ∈ (h.handle base item).deeds → .returned d ∈ h.deeds
  := by
  rw [Held.handle]
  split
  · next known => simp [known, Task.returning?] at other
  · next subscription known =>
    obtain ⟨task, ticket?⟩ := item
    obtain rfl := known
    rw [Watched.new?_dispose]
    split <;> simp
  · refine ⟨rfl, fun d mem => ?_⟩
    simpa using mem

/-- The handle of an entry has not been returned, and is not returned by what stands on the
agenda: this returns the handles of newer entries, until the old ones are left. -/
structure Unbound (base : Session) (e : Entry) (old : List Entry) (h : Held)
    (agenda : List Item) : Prop where
  unreturned : ∃ news, h.unreturned = news ++ old ∧ (∀ d ∈ news, e.number < d.number) ∧
    news.length = (agenda.filterMap (·.task.returning?)).length
  known : e.number < base.nextEntry h.watched.log
  silent : .returned e ∉ h.deeds

namespace Unbound

variable {old : List Entry}

/-- The handle of the newest entry is returned. -/
theorem bind {subscription observer : String} {f : Field}
    {ticket? : Option (Cause × List Entry)}
    (unbound : Unbound base e old h (⟨.bind subscription f observer, ticket?⟩ :: rest))
    (done : h.step base ⟨.bind subscription f observer, ticket?⟩ = (h', .ok items)) :
  Unbound base e old h' (items ++ rest)
  := by
  obtain ⟨watched, unreturned', -, deeds'⟩ := Held.step_of_ok base done
  obtain rfl : items = [] := by
    have nothing : Except.ok [] = Except.ok (items.map (·.task)) :=
      congrArg (·.2) (Watched.step_of_ok base watched)
    simpa using nothing
  obtain ⟨news, same, newer, count⟩ := unbound.unreturned
  cases news with
  | nil => simp [Task.returning?] at count
  | cons d news =>
    rw [List.forall_mem_cons] at newer
    simp only [Held.handle, same, List.cons_append] at unreturned' deeds'
    constructor
    case unreturned =>
      refine ⟨news, unreturned', newer.2, ?_⟩
      simpa [Task.returning?] using count
    case known =>
      rw [Watched.log_of_ok watched]
      exact Nat.lt_of_lt_of_le unbound.known (base.nextEntry_mono ..)
    case silent =>
      have other : e ≠ d := by
        rintro rfl
        exact Nat.lt_irrefl _ newer.1
      rw [deeds']
      simpa [other] using unbound.silent

theorem other (unbound : Unbound base e old h (item :: rest))
    (returning : item.task.returning? = none) (done : h.step base item = (h', .ok items)) :
  Unbound base e old h' (items ++ rest)
  := by
  obtain ⟨watched, unreturned', -, deeds'⟩ := Held.step_of_ok base done
  obtain ⟨opened, silent⟩ := h.handle_of_not_returning base returning
  obtain ⟨-, begins⟩ :=
    Session.step_of_not_returning base (Watched.step_of_ok base watched) returning
  rw [filterMap_returning] at begins
  obtain ⟨news, same, newer, count⟩ := unbound.unreturned
  constructor
  case unreturned =>
    refine ⟨((h.watched.note? base item).bind Note.new?).toList ++ news, ?_, ?_, ?_⟩
    · rw [unreturned', opened, same, List.append_assoc]
    · rw [List.forall_mem_append]
      refine ⟨fun d mem => ?_, newer⟩
      rw [Watched.number_of_new? (Option.mem_toList.mp mem)]
      exact unbound.known
    · rw [List.filterMap_append, begins]
      simp [count, returning]
  case known =>
    rw [Watched.log_of_ok watched]
    exact Nat.lt_of_lt_of_le unbound.known (base.nextEntry_mono ..)
  case silent =>
    rw [deeds']
    exact fun mem => unbound.silent (silent e mem)

/-- Every step keeps it. -/
theorem step (unbound : Unbound base e old h (item :: rest))
    (done : h.step base item = (h', .ok items)) :
  Unbound base e old h' (items ++ rest)
  := by
  obtain ⟨task, ticket?⟩ := item
  cases task with
  | bind => exact unbound.bind done
  | perform | assign | deliver => exact unbound.other rfl done

theorem of_error (unbound : Unbound base e old h agenda) {why : Failure}
    (failed : h.step base item = (h', .error why)) :
  Unbound base e old h' agenda
  := by
  obtain ⟨watched, unreturned, -, deeds⟩ := Held.step_of_error base failed
  exact {
    unreturned := by rw [unreturned]; exact unbound.unreturned
    known := by rw [(Watched.step_of_error base watched).2]; exact unbound.known
    silent := by rw [deeds]; exact unbound.silent }

/-- A whole run keeps it, and if nothing fails, the old entries are left. -/
theorem run (unbound : Unbound base e old h agenda) :
  ∃ left, Unbound base e old (h.run base agenda).1 left ∧
    ((h.run base agenda).2 = .ok () → left = [])
  := by
  fun_induction Held.run base h agenda with
  | case1 h => exact ⟨[], unbound, fun _ => rfl⟩
  | case2 h item rest h' why failed =>
    exact ⟨_, unbound.of_error failed, fun done => by cases done⟩
  | case3 h item rest h' items done ih => exact ih (unbound.step done)

end Unbound

namespace Held

/-- The removal of an entry is not noted as such, but as what the disposal of a handle does. -/
theorem removed_not_noted (base : Session) (h : Held) (agenda : List Item)
    (unnoted : .noted (.removed e) ∉ h.deeds) :
  .noted (.removed e) ∉ (h.run base agenda).1.deeds
  := by
  fun_induction Held.run base h agenda with
  | case1 h => exact unnoted
  | case2 h item rest h' why failed =>
    rw [(step_of_error base failed).2.2.2]
    exact unnoted
  | case3 h item rest h' items done ih =>
    apply ih
    rw [(step_of_ok base done).2.2.2, handle]
    split
    · split <;> simp [unnoted]
    · split <;> simp [unnoted]
    · next other =>
      intro mem
      rcases List.mem_append.mp mem with mem | mem
      · exact unnoted mem
      · obtain ⟨note, noted, same⟩ := List.mem_map.mp mem
        cases same
        rcases Watched.note?_cases (Option.mem_toList.mp noted) with
          ⟨_, _, _, _, same⟩ | ⟨_, _, _, same⟩ | ⟨_, subscription, -, known⟩ | ⟨_, _, _, same⟩
        · cases same
        · cases same
        · exact other subscription known
        · cases same

theorem run_append (base : Session) (h : Held) (agenda more : List Item) :
  h.run base (agenda ++ more) = match h.run base agenda with
    | (h', .ok ()) => h'.run base more
    | (h', .error why) => (h', .error why)
  := by
  fun_induction Held.run base h agenda with
  | case1 h => rfl
  | case2 h item rest h' why failed =>
    rw [List.cons_append, Held.run]
    split <;> simp_all
  | case3 h item rest h' items done ih =>
    rw [List.cons_append, run_cons_of_ok base _ done, ← List.append_assoc, ih]

theorem returns_iff (base : Session) (h : Held) (a : Action) :
  h.watched.session.Returns a ↔
    ({ h with unreturned := [] }.run base [⟨.perform a, none⟩]).2 = .ok ()
  := by
  have held := watched_run base { h with unreturned := [] } [⟨.perform a, none⟩]
  have ran := Watched.session_run base h.watched [⟨.perform a, none⟩]
  rw [held] at ran
  rw [Session.Returns, (Session.perform_eq_run h.watched.session a).2]
  exact Eq.congr_left (congrArg Prod.snd ran)

/-- The return of a registration returns the handle of the newest entry. -/
theorem step_bind (base : Session) {h : Held} {older : List Entry}
    (opened : h.unreturned = e :: older) (subscription observer : String) (f : Field) :
  ∃ h', h.step base ⟨.bind subscription f observer, none⟩ = (h', .ok []) ∧
    h'.deeds = h.deeds ++ [.returned e]
  := by
  simp only [Held.step, Watched.step, Session.step, Held.handle, opened]
  exact ⟨_, rfl, rfl⟩

/-- A handle is returned if and only if nothing fails that stands before its return. -/
theorem returned_iff_of_bind (unbound : Unbound base e [e] h agenda)
    (subscription observer : String) (f : Field) :
  let ran := h.run base (agenda ++ [⟨.bind subscription f observer, none⟩])
  .returned e ∈ ran.1.deeds ↔ ran.2 = .ok ()
  := by
  intro ran
  obtain ⟨left, unbound', ended⟩ := unbound.run
  have cut : ran = _ := run_append base h agenda _
  rw [cut]
  cases first : run base h agenda with
  | mk h' result =>
    rw [first] at unbound' ended
    cases result with
    | error why => simpa using unbound'.silent
    | ok =>
      obtain rfl := ended rfl
      -- All newer registrations have returned, so that the next handle is that of the entry.
      obtain ⟨news, same, -, none⟩ := unbound'.unreturned
      obtain rfl := List.eq_nil_of_length_eq_zero none
      obtain ⟨h'', returned, deeds⟩ := step_bind base same subscription observer f
      dsimp only
      rw [run_cons_of_ok base [] returned, List.append_nil, run]
      simp [deeds]

/-- The handle of a new entry is returned if and only if the call of its observer returns. -/
theorem returned_perform_observe_iff (base : Session) (h : Held) {name : String} {f : Field}
    (known : Field.ofName? name = some f) (subscription observer : String)
    (script : List (List Action)) :
  let e : Entry := ⟨base.nextEntry h.watched.log, f, observer⟩
  let a : Action := .observe subscription name observer script
  .returned e ∉ h.deeds → (.returned e ∈ (h.perform base a).deeds ↔ h.watched.session.Returns a)
  := by
  intro e a fresh
  obtain ⟨h', ran, log, unreturned, deeds⟩ :=
    run_observe base h known subscription observer script
  rw [returns_iff base, perform, ran]
  apply returned_iff_of_bind
  exact {
    unreturned := ⟨[], unreturned, by simp, rfl⟩
    known := by
      rw [log, Session.nextEntry, List.countP_append]
      exact Nat.lt_succ_self _
    silent := by simpa [deeds] using fresh }

end Held

/-! ### What a registration leaves -/

namespace Session

variable {base : Session} {actions : List Action} {e : Entry}

/-- A handle that has not been returned by now, of an entry that is none of those that come
next, is never returned. -/
theorem returned_not_mem_of_later (known : e.number < base.nextEntry (base.history actions))
    (silent : .returned e ∉ base.deeds actions) (later : List Action) :
  .returned e ∉ base.deeds (actions ++ later)
  := by
  induction later using List.reverseRecOn with
  | nil => rwa [List.append_nil]
  | append_singleton later a ih =>
    rw [← List.append_assoc, deeds, holdAll_concat, Held.perform]
    have old : e.number < base.nextEntry (base.history (actions ++ later)) := by
      obtain ⟨more, same⟩ := base.history_prefix actions later
      rw [← same]
      exact Nat.lt_of_lt_of_le known (base.nextEntry_mono ..)
    rw [history, ← watched_holdAll] at old
    have unbound : Unbound base e [] { base.holdAll (actions ++ later) with unreturned := [] }
        [⟨.perform a, none⟩] := {
      unreturned := ⟨[], rfl, by simp, rfl⟩
      known := old
      silent := ih }
    obtain ⟨left, unbound, -⟩ := unbound.run
    exact unbound.silent

theorem removed_not_noted (base : Session) (actions : List Action) (e : Entry) :
  .noted (.removed e) ∉ base.deeds actions
  := by
  induction actions using List.reverseRecOn with
  | nil => simp [deeds, holdAll]
  | append_singleton actions a ih =>
    rw [deeds, holdAll_concat]
    apply Held.removed_not_noted
    exact ih

theorem history_eq (s : Session) (actions : List Action) :
  s.history actions = (s.holdAll actions).watched.log
  := by rw [history, watched_holdAll]

section Fresh

variable (fresh : base.subscriptions = [])

include fresh

theorem notesOf_deeds (actions : List Action) :
  notesOf (base.deeds actions) = base.history actions
  := by
  obtain ⟨left, handled⟩ := handled_holdAll fresh actions
  rw [history_eq]
  exact handled.notes

/-- A handle is returned for an entry that has been registered. -/
theorem registered_of_returned (returned : .returned e ∈ base.deeds actions) :
  ∃ v, .registered e v ∈ base.history actions
  := by
  obtain ⟨left, handled⟩ := handled_holdAll fresh actions
  obtain ⟨before, after, cut⟩ := List.append_of_mem returned
  obtain ⟨v, begun⟩ := handled.fits before (.returned e) after cut
  rw [← notesOf_deeds fresh, cut, notesOf_append]
  exact ⟨v, List.mem_append_left _ (List.mem_filterMap.mpr ⟨_, begun, rfl⟩)⟩

/-- An entry is removed by a handle that has been returned, for its setting and observer. -/
theorem disposed_of_removed (removed : .removed e ∈ base.history actions) :
  ∃ d before after, base.deeds actions = before ++ .disposed d (some e) :: after ∧
    .returned d ∈ before ∧ d.pair = e.pair
  := by
  obtain ⟨left, handled⟩ := handled_holdAll fresh actions
  rw [← notesOf_deeds fresh, notesOf, List.mem_filterMap] at removed
  obtain ⟨deed, mem, noted⟩ := removed
  cases deed with
  | noted note =>
    cases noted
    exact absurd mem (base.removed_not_noted actions e)
  | returned d => cases noted
  | disposed d removed? =>
    obtain ⟨first, rfl, same⟩ := Option.map_eq_some_iff.mp noted
    cases same
    obtain ⟨before, after, cut⟩ := List.append_of_mem mem
    obtain ⟨returned, found⟩ := handled.fits before _ after cut
    have like := List.find?_some found.symm
    exact ⟨d, before, after, cut, returned, (of_decide_eq_true like).symm⟩

end Fresh

/-- The registration of an observer is noted first of all. -/
theorem history_observe (base : Session) (actions : List Action) {name : String} {f : Field}
    (known : Field.ofName? name = some f) (subscription observer : String)
    (script : List (List Action)) :
  let e : Entry := ⟨base.nextEntry (base.history actions), f, observer⟩
  ∃ v after, base.history (actions ++ [.observe subscription name observer script]) =
    base.history actions ++ .registered e v :: after
  := by
  intro e
  obtain ⟨h', ran, log, -⟩ :=
    Held.run_observe base (base.holdAll actions) known subscription observer script
  obtain ⟨after, more⟩ := Watched.log_prefix_run base h'.watched _
  rw [Held.watched_run, log, List.append_assoc] at more
  have whole := history_eq base (actions ++ [.observe subscription name observer script])
  rw [holdAll_concat, Held.perform, ran, ← more, ← history_eq] at whole
  exact ⟨_, after, whole⟩

/-- What is certain of an entry that is registered by an action after some others. -/
structure Registered (base : Session) (actions : List Action) (a : Action) (e : Entry) : Prop where
  /-- The entries are what becomes of the observers of the store. -/
  observers : ∀ later, (base.performAll (actions ++ later)).store.observers =
    (base.entriesAfter (base.history (actions ++ later))).map Entry.pair
  /-- The registration is noted first of all. -/
  begins : ∀ later, ∃ v after,
    base.history (actions ++ a :: later) = base.history actions ++ .registered e v :: after
  /-- From then on it is an entry, as long as it has not been removed. -/
  stays_iff : ∀ later v after rest,
    base.history (actions ++ a :: later) =
        base.history actions ++ .registered e v :: (after ++ rest) →
      (e ∈ base.entriesAfter (base.history actions ++ .registered e v :: after) ↔
        .removed e ∉ after)
  /-- So long it is to hear of every new value of its setting. -/
  hears : ∀ later v after k w recipients rest,
    base.history (actions ++ a :: later) = base.history actions ++
        .registered e v :: (after ++ .assigned k e.field w recipients :: rest) →
      .removed e ∉ after →
      w ≠ (base.settingsAfter (base.history actions ++ .registered e v :: after)).get e.field →
      e ∈ recipients
  /-- The action leaves no trace among the entries if and only if it and all that are registered
  meanwhile are removed again, and no others. -/
  noTrace_iff : ∀ v after,
    base.history (actions ++ [a]) = base.history actions ++ .registered e v :: after →
      (base.entriesAfter (base.history (actions ++ [a])) =
          base.entriesAfter (base.history actions) ↔
        .removed e ∈ after ∧ (∀ d u, .registered d u ∈ after → .removed d ∈ after) ∧
          ∀ d ∈ base.entriesAfter (base.history actions), .removed d ∉ after)
  /-- If nobody is registered or removed meanwhile, it is the one entry more. -/
  alone : ∀ v after,
    base.history (actions ++ [a]) = base.history actions ++ .registered e v :: after →
      (∀ note ∈ after, ∀ entries, note.entries entries = entries) →
      (base.performAll (actions ++ [a])).store.observers =
        (base.performAll actions).store.observers ++ [e.pair]
  /-- Its handle is returned if and only if the action returns. -/
  handle_iff : (∃ later, .returned e ∈ base.deeds (actions ++ a :: later)) ↔
    (base.performAll actions).Returns a
  /-- It is removed only by a handle that has been returned, for its setting and its observer,
  and if the action does not return, by the handle of another entry. -/
  removed : ∀ later, .removed e ∈ base.history (actions ++ a :: later) →
    ∃ d before after, base.deeds (actions ++ a :: later) = before ++ .disposed d (some e) :: after ∧
      .returned d ∈ before ∧ d.pair = e.pair ∧ (¬ (base.performAll actions).Returns a → d ≠ e)

/-- What an action does whose first note is of a new entry. -/
theorem registered_of_noted (fresh : base.subscriptions = []) {a : Action}
    (number : e.number = base.nextEntry (base.history actions))
    (noted : ∃ v after,
      base.history (actions ++ [a]) = base.history actions ++ .registered e v :: after)
    (returned_iff : .returned e ∉ base.deeds actions →
      (.returned e ∈ base.deeds (actions ++ [a]) ↔ (base.performAll actions).Returns a)) :
  base.Registered actions a e
  := by
  have unreturned : .returned e ∉ base.deeds actions := by
    intro mem
    obtain ⟨v, registered⟩ := registered_of_returned fresh mem
    have old := (base.tells_history actions).number_lt_of_registered registered
    rw [number] at old
    exact Nat.lt_irrefl _ old
  have never (broken : ¬ (base.performAll actions).Returns a) (later : List Action) :
      .returned e ∉ base.deeds (actions ++ a :: later) := by
    have old : e.number < base.nextEntry (base.history (actions ++ [a])) := by
      obtain ⟨v, after, cut⟩ := noted
      apply (base.tells_history _).number_lt_of_registered (v := v)
      rw [cut]
      exact List.mem_append_right _ List.mem_cons_self
    have silent := mt (returned_iff unreturned).mp broken
    rw [List.append_cons]
    exact returned_not_mem_of_later old silent later
  have tells {later : List Action} {log rest : List Note}
      (cut : base.history (actions ++ a :: later) = log ++ rest) : base.Tells log := by
    have told := base.tells_history (actions ++ a :: later)
    rw [cut] at told
    exact told.prefix
  constructor
  case observers => exact fun later => base.observers_performAll (actions ++ later)
  case begins =>
    intro later
    obtain ⟨v, after, cut⟩ := noted
    obtain ⟨rest, more⟩ := base.history_prefix (actions ++ [a]) later
    rw [cut, List.append_assoc, List.cons_append, ← List.append_cons] at more
    exact ⟨v, after ++ rest, more.symm⟩
  case stays_iff =>
    intro later v after rest cut
    rw [← List.cons_append, ← List.append_assoc] at cut
    exact (tells cut).mem_iff_of_registered
  case hears =>
    intro later v after k w recipients rest cut stays new
    rw [← List.cons_append, ← List.append_assoc] at cut
    apply (base.tells_history _).hears_of_mem cut _ new
    exact (tells cut).mem_iff_of_registered.mpr stays
  case noTrace_iff =>
    intro v after cut
    have told := base.tells_history (actions ++ [a])
    rw [cut] at told ⊢
    rw [told.entriesAfter_eq_iff]
    simp only [List.mem_cons, reduceCtorEq, false_or]
    constructor
    · rintro ⟨gone, kept⟩
      exact ⟨gone e v (Or.inl rfl), fun d u mem => gone d u (Or.inr mem), kept⟩
    · rintro ⟨gone, others, kept⟩
      refine ⟨fun d u registered => ?_, kept⟩
      rcases registered with same | mem
      · cases same
        exact gone
      · exact others d u mem
  case alone =>
    intro v after cut quiet
    rw [base.observers_performAll, base.observers_performAll, cut, List.append_cons,
      entriesAfter_of_quiet quiet, entriesAfter_concat, Note.entries, List.map_append]
    rfl
  case handle_iff =>
    constructor
    · rintro ⟨later, mem⟩
      by_contra broken
      exact never broken later mem
    · exact fun returns => ⟨[], (returned_iff unreturned).mpr returns⟩
  case removed =>
    intro later removed
    obtain ⟨d, before, after, cut, returned, like⟩ := disposed_of_removed fresh removed
    refine ⟨d, before, after, cut, returned, like, ?_⟩
    rintro broken rfl
    apply never broken later
    rw [cut]
    exact List.mem_append_left _ returned

theorem registered_observe (fresh : base.subscriptions = []) (actions : List Action)
    {name : String} {f : Field} (known : Field.ofName? name = some f)
    (subscription observer : String) (script : List (List Action)) :
  base.Registered actions (.observe subscription name observer script)
    ⟨base.nextEntry (base.history actions), f, observer⟩
  := by
  apply registered_of_noted fresh rfl
  · exact base.history_observe actions known subscription observer script
  · have returned_iff := Held.returned_perform_observe_iff base (base.holdAll actions) known
      subscription observer script
    rw [← history_eq, watched_holdAll, session_watchAll] at returned_iff
    rwa [deeds, deeds, holdAll_concat]

/-- What the registration of an observer leaves, in a session on some settings after some
actions. -/
structure Registering (settings : Settings) (actions : List Action)
    (subscription name observer : String) (script : List (List Action)) : Prop where
  /-- Nothing, if there is no setting of this name. -/
  unknown : Field.ofName? name = none →
    let s := (start settings).performAll actions
    s.perform (.observe subscription name observer script) =
      ({ s with scripts := addScript observer script s.scripts },
        .error (.fault (.config (.unknownSetting name))))
  /-- Else an entry, for good or until it is removed. -/
  known : ∀ f, Field.ofName? name = some f →
    (start settings).Registered actions (.observe subscription name observer script)
      ⟨(start settings).nextEntry ((start settings).history actions), f, observer⟩

/-- A registration that is refused leaves nothing, and one that is broken off leaves an entry
that has no handle. -/
theorem registering (settings : Settings) (actions : List Action)
    (subscription name observer : String) (script : List (List Action)) :
  Registering settings actions subscription name observer script
  where
  unknown absent := by
    intro s
    rw [perform, begin, absent]
  known f known := registered_observe rfl actions known subscription observer script

/-- An observer that raises when it is called for its registration stays without a handle, and
is called again when its setting changes. -/
theorem broken_registration_stays :
  let a : Action := .observe "first" "show_uncovered" "raiser" [[.raise]]
  let s := (start {}).performAll [a]
  ¬ (start {}).Returns a ∧ s.subscriptions = [] ∧
    (start {}).store.observers = [] ∧ s.store.observers = [(.showUncovered, "raiser")] ∧
      (s.performAll [.set "show_uncovered" (.boolean true)]).calls =
        [⟨"raiser", .showUncovered, true⟩, ⟨"raiser", .showUncovered, false⟩]
  := by
  intro a s
  let left : Session :=
    { store := ⟨{}, [(.showUncovered, "raiser")]⟩
      scripts := [("raiser", [])]
      subscriptions := []
      copies := []
      calls := [⟨"raiser", .showUncovered, false⟩] }
  have raised : (start {}).run [.perform a] = (left, .error (.runtime "observer failed")) :=
    run_of_runWithin (n := 3) rfl
  have same : s = left := performAll_of_within (n := 3) rfl
  have changed : left.performAll [.set "show_uncovered" (.boolean true)] =
      { left with
        store := ⟨{ showUncovered := true }, [(.showUncovered, "raiser")]⟩
        calls := ⟨"raiser", .showUncovered, true⟩ :: left.calls } :=
    performAll_of_within (n := 3) rfl
  rw [Returns, (perform_eq_run _ _).2, raised, same, changed]
  exact ⟨by simp, rfl, rfl, rfl, rfl⟩

end Session

end TypeCoverage.Settings
