import TypeCoverage.Proofs.Package.Closing
import TypeCoverage.Proofs.Package.Sharing
import TypeCoverage.Proofs.Request.Conduct

/-!
# Lints of different documents

In a `Play` the lints of some documents begin and hear their replies in any order; each
`Move` is about the document whose lint begins or hears a reply.  While some document is
active and the tree does not change, each document fares as it does when the moves of the
others are left out (`Session.view_play`).

So two orders in which each lint has its own moves one after another lead to the same
results, cache, servers and tile, and each result and each report in the cache is the one to
which the lint of its document comes alone (`Session.commute`).
-/

namespace TypeCoverage

theorem Lint.Pending.isBusy_of_hear {lint : Lint.Pending} {reply : Reply} {root : Option Path}
    (busy : lint.hear reply = .busy root) :
  reply.IsBusy
  := by
  rcases Request.hear_cases reply with ⟨result, state, heard, -⟩ | ⟨_, -, isBusy, -⟩
  · rcases result with _ | _ | text
    · simp [hear, heard] at busy
    · simp [hear, heard] at busy
    · simp only [hear, heard] at busy
      split at busy <;> contradiction
  · apply isBusy

/-- Different documents have different keys. -/
theorem Lint.uniqueKey_injective : Function.Injective Lint.uniqueKey := by
  intro d d' same
  apply (String.append_right_inj _).mp same

namespace Package

open Session (Tasks)

/-- A lint is called again only by a checker that is busy. -/
theorem isBusy_of_again {p : Package} {lint : Lint.Pending} {reply : Reply}
    (again : (p.hearReply lint reply).2.2 = .again) :
  reply.IsBusy
  := by
  rw [hearReply] at again
  cases heard : lint.hear reply with
  | ended result => simp [heard] at again
  | busy root => apply Lint.Pending.isBusy_of_hear heard
  | report r =>
    simp only [heard] at again
    split at again <;> contradiction

/-! ### Sessions in which lints are played -/

theorem Session.Unmoved.answer (s : Session) (task : Nat) (reply : Reply) :
  s.Unmoved (s.answer task reply)
  := by
  rw [Session.answer]
  cases answered : s.answer? task reply with
  | none => exact of_same rfl
  | some s' => exact of_same (surroundings_answer answered)

/-- A session whose tasks are told apart, whose replies all come from moves, and whose memo
is truthful. -/
structure Session.Playable (s : Session) : Prop where
  numbered : s.tasks.Numbered
  silent : s.replies = []
  truthful : s.memo.Truthful s.tree

namespace Session.Playable

variable {s : Session}

theorem run (settings : Settings) (tree : FileTree) (timeout : Option Binary64)
    {operations : List Operation} (still : ∀ tree, .host (.changeTree tree) ∉ operations)
    (silent : ((start settings tree timeout).run operations).replies = []) :
  ((start settings tree timeout).run operations).Playable
  where
  numbered := (Tasks.Continues.run _ operations).numbered (numbered_start ..)
  silent := silent
  truthful := truthful_run settings tree timeout still

theorem lint (playable : s.Playable) (document : Document) : (s.lint document).Playable where
  numbered := (Tasks.Continues.lint s document).numbered playable.numbered
  silent := by
    apply List.subset_nil.mp
    rw [← playable.silent]
    apply replies_lint
  truthful := (Unmoved.lint s document).truthful playable.truthful

theorem answer (playable : s.Playable) (task : Nat) (reply : Reply) :
  (s.answer task reply).Playable
  where
  numbered := (Live.continues_answer s task reply).numbered playable.numbered
  silent := by
    apply List.subset_nil.mp
    rw [← playable.silent]
    apply Live.replies_answer
  truthful := (Unmoved.answer s task reply).truthful playable.truthful

end Session.Playable

/-! ### Plays -/

/-- What happens to the lint of a document. -/
inductive Move where
  | begins (document : Document)
  | hears (document : Document) (reply : Reply)

/-- The document that a move is about. -/
def Move.document : Move → Document
  | .begins document => document
  | .hears document _ => document

/-- A session, and the tasks in which documents are linted. -/
structure Play where
  session : Session
  tasks : List (String × Nat) := []

namespace Play

/-- A play after a move. -/
def step (p : Play) : Move → Play
  | .begins document =>
    { session := p.session.perform (.host (.lint document))
      tasks := (document.id, p.session.next) :: p.tasks }
  | .hears document reply =>
    match p.tasks.lookup document.id with
    | some task => { p with session := p.session.answer task reply }
    | none => p

/-- How far the lint of a document has come. -/
def stage? (p : Play) (d : String) : Option Stage :=
  (p.tasks.lookup d).bind p.session.tasks.stage?

/-- The result of the lint of a document, if it has ended. -/
def result? (p : Play) (d : String) : Option Lint.Result :=
  match p.stage? d with
  | some (.ended result) => some result
  | _ => none

/-- What of a play concerns one document. -/
def view (p : Play) (d : String) : Share × Option Stage := (p.session.package.share d, p.stage? d)

theorem result_of_view {p q : Play} {d : String} (same : q.view d = p.view d) :
  q.result? d = p.result? d
  := by
  have stages : q.stage? d = p.stage? d := congrArg Prod.snd same
  rw [result?, result?, stages]

/-- The task of a document when a lint has begun. -/
theorem tasks_begins (p : Play) (document : Document) (d : String) :
  (p.step (.begins document)).tasks.lookup d =
    if d = document.id then some p.session.next else p.tasks.lookup d
  := by
  rw [step, List.lookup_cons]
  split
  · next own => rw [if_pos (beq_iff_eq.mp own)]
  · next other => rw [if_neg (beq_eq_false_iff_ne.mp other)]

/-- Of a play, only the package and the stage of one document have changed. -/
structure Tells (p p' : Play) (d : String) (after : Package × Stage) : Prop where
  package : p'.session.package = after.1
  stage : p'.stage? d = some after.2
  others : ∀ other, other ≠ d → p'.stage? other = p.stage? other

theorem Tells.view {p p' : Play} {d : String} {after : Package × Stage}
    (tells : p.Tells p' d after) :
  p'.view d = (after.1.share d, some after.2)
  := by
  rw [Play.view, tells.package, tells.stage]

/-- A play that began with a session `s`.  Nothing that no lint changes has changed, and each
document has a task of its own, with a stage. -/
structure Sound (s : Session) (p : Play) : Prop where
  playable : p.session.Playable
  tree : p.session.tree = s.tree
  timeout : p.session.timeout = s.timeout
  frame : p.session.package.frame = s.package.frame
  staged : ∀ d task, p.tasks.lookup d = some task →
    ∃ stage, p.session.tasks.stage? task = some stage ∧ stage.IsOf d
  apart : ∀ d d' task, p.tasks.lookup d = some task → p.tasks.lookup d' = some task → d = d'

namespace Sound

variable {s : Session} {p q : Play}

theorem start (playable : s.Playable) : Sound s { session := s } where
  playable := playable
  tree := rfl
  timeout := rfl
  frame := rfl
  staged d task found := by contradiction
  apart d d' task found := by contradiction

/-- The settings are those with which the play began. -/
theorem settings (sound : Sound s p) : p.session.package.settings = s.package.settings := by
  have store : p.session.package.store = s.package.store := congrArg Frame.store sound.frame
  rw [Package.settings, store]
  rfl

theorem active (sound : Sound s p) : p.session.package.active = s.package.active :=
  congrArg Frame.active sound.frame

/-! A lint begins. -/

/-- The number of the next task belongs to no document. -/
theorem ne_next (sound : Sound s p) {d : String} {task : Nat}
    (found : p.tasks.lookup d = some task) :
  task ≠ p.session.next
  := by
  obtain ⟨stage, staged, -⟩ := sound.staged _ _ found
  apply Nat.ne_of_lt (Tasks.lt_of_stage sound.playable.numbered staged)

/-- A lint that begins comes as far as if nothing were remembered. -/
theorem tells_begins (sound : Sound s p) (document : Document) :
  Tells p (p.step (.begins document)) document.id (p.session.package,
    .ofBegun (Lint.begin s.package.settings s.timeout s.tree .empty document).1)
  := by
  have tells := Session.tells_lint sound.playable.numbered sound.playable.silent document
  obtain ⟨memo, begun, -⟩ := Lint.begin_of_truthful sound.playable.truthful
    p.session.package.settings p.session.timeout document
  rw [begun, sound.settings, sound.timeout, sound.tree] at tells
  refine ⟨tells.package, ?_, ?_⟩
  · rw [stage?, tasks_begins, if_pos rfl]
    apply tells.stage
  · intro other apart
    rw [stage?, stage?, tasks_begins, if_neg apart]
    cases found : p.tasks.lookup other with
    | none => rfl
    | some task => apply tells.others _ (sound.ne_next found)

theorem begins (sound : Sound s p) (document : Document) :
  Sound s (p.step (.begins document))
  := by
  have tells := Session.tells_lint sound.playable.numbered sound.playable.silent document
  have unmoved := Session.Unmoved.lint p.session document
  constructor
  · apply sound.playable.lint
  · apply unmoved.tree.trans sound.tree
  · apply unmoved.timeout.trans sound.timeout
  · apply (congrArg Package.frame tells.package).trans sound.frame
  · intro d task found
    rw [tasks_begins] at found
    split at found
    · next own =>
      obtain rfl := Option.some.inj found
      subst own
      exact ⟨_, tells.stage, Stage.isOf_ofBegun document⟩
    · obtain ⟨stage, staged, own⟩ := sound.staged _ _ found
      exact ⟨stage, (tells.others _ (sound.ne_next found)).trans staged, own⟩
  · intro d d' task found found'
    rw [tasks_begins] at found found'
    split at found <;> split at found'
    · next own own' => exact own.trans own'.symm
    · exact absurd (Option.some.inj found).symm (sound.ne_next found')
    · exact absurd (Option.some.inj found').symm (sound.ne_next found)
    · apply sound.apart _ _ _ found found'

/-! A lint hears a reply. -/

theorem isOf (sound : Sound s p) {d : String} {stage : Stage} (staged : p.stage? d = some stage) :
  stage.IsOf d
  := by
  obtain ⟨task, found, staged⟩ := Option.bind_eq_some_iff.mp staged
  obtain ⟨stage', staged', own⟩ := sound.staged d task found
  obtain rfl := Option.some.inj (staged.symm.trans staged')
  apply own

/-- A document whose lint has not begun hears nothing. -/
theorem hears_nothing (sound : Sound s p) {document : Document}
    (absent : p.stage? document.id = none) (reply : Reply) :
  p.step (.hears document reply) = p
  := by
  rw [step]
  cases found : p.tasks.lookup document.id with
  | none => rfl
  | some task =>
    obtain ⟨stage, staged, -⟩ := sound.staged _ _ found
    simp [stage?, found, staged] at absent

/-- A lint that has begun comes as far as the reply brings it. -/
theorem tells_hears (sound : Sound s p) {document : Document} {stage : Stage}
    (staged : p.stage? document.id = some stage) (reply : Reply) :
  Tells p (p.step (.hears document reply)) document.id (stage.hear p.session.package reply)
  := by
  obtain ⟨task, found, staged⟩ := Option.bind_eq_some_iff.mp staged
  have tells := Session.tells_answer sound.playable.numbered sound.playable.silent staged reply
  rw [step, found]
  refine ⟨tells.package, ?_, ?_⟩
  · rw [stage?, found]
    apply tells.stage
  · intro other apart
    rw [stage?, stage?]
    cases found' : p.tasks.lookup other with
    | none => rfl
    | some task' =>
      apply tells.others
      rintro rfl
      apply apart (sound.apart _ _ _ found' found)

theorem hears (sound : Sound s p) (document : Document) (reply : Reply) :
  Sound s (p.step (.hears document reply))
  := by
  cases staged : p.stage? document.id with
  | none =>
    rw [sound.hears_nothing staged]
    apply sound
  | some stage =>
    have tells := sound.tells_hears staged reply
    have own := sound.isOf staged
    obtain ⟨task, found, -⟩ := Option.bind_eq_some_iff.mp staged
    have answered : p.step (.hears document reply) =
        { p with session := p.session.answer task reply } := by rw [step, found]
    have unmoved := Session.Unmoved.answer p.session task reply
    constructor
    · rw [answered]
      apply sound.playable.answer
    · rw [answered]
      apply unmoved.tree.trans sound.tree
    · rw [answered]
      apply unmoved.timeout.trans sound.timeout
    · rw [tells.package, Stage.frame_hear, sound.frame]
    · intro d task' found'
      have asked : (p.step (.hears document reply)).stage? d =
          (p.step (.hears document reply)).session.tasks.stage? task' := by
        rw [stage?, found']
        rfl
      rw [answered] at found'
      rw [← asked]
      by_cases same : d = document.id
      · subst same
        exact ⟨_, tells.stage, Stage.isOf_hear own ..⟩
      · obtain ⟨stage', staged', own'⟩ := sound.staged d task' found'
        refine ⟨stage', ?_, own'⟩
        rw [tells.others d same, stage?, found']
        apply staged'
    · rw [answered]
      apply sound.apart

theorem step (sound : Sound s p) (move : Move) :
  Sound s (p.step move)
  := by
  cases move with
  | begins document => apply sound.begins
  | hears document reply => apply sound.hears

/-! ### What a move concerns -/

/-- A move does not concern other documents. -/
theorem view_step_of_ne (sound : Sound s p) (active : s.package.active ≠ none) {move : Move}
    {d : String} (apart : move.document.id ≠ d) :
  (p.step move).view d = p.view d
  := by
  rw [← sound.active] at active
  rw [view, view]
  cases move with
  | begins document =>
    have tells := sound.tells_begins document
    rw [tells.package, tells.others d (Ne.symm apart)]
  | hears document reply =>
    cases staged : p.stage? document.id with
    | none => rw [sound.hears_nothing staged]
    | some stage =>
      have tells := sound.tells_hears staged reply
      rw [tells.package, tells.others d (Ne.symm apart),
        Stage.share_hear_of_ne (sound.isOf staged) apart active]

/-- What a move does to its own document depends on nothing else. -/
theorem view_step_congr (sound : Sound s p) (sound' : Sound s q) {move : Move}
    (same : q.view move.document.id = p.view move.document.id) :
  (q.step move).view move.document.id = (p.step move).view move.document.id
  := by
  obtain ⟨shares, stages⟩ := Prod.mk.inj same
  cases move with
  | begins document =>
    calc (q.step (.begins document)).view document.id
        = (q.session.package.share document.id, some (.ofBegun _))
          := (sound'.tells_begins document).view
      _ = (p.session.package.share document.id, some (.ofBegun _))
          := congrArg₂ Prod.mk shares rfl
      _ = (p.step (.begins document)).view document.id
          := (sound.tells_begins document).view.symm
  | hears document reply =>
    cases staged : p.stage? document.id with
    | none =>
      have staged' : q.stage? document.id = none := stages.trans staged
      rw [sound.hears_nothing staged, sound'.hears_nothing staged', same]
    | some stage =>
      have staged' : q.stage? document.id = some stage := stages.trans staged
      have frames := sound'.frame.trans sound.frame.symm
      obtain ⟨share, stage⟩ := Stage.hear_congr (sound.isOf staged) frames shares reply
      apply (sound'.tells_hears staged' reply).view.trans
      apply Eq.trans _ (sound.tells_hears staged reply).view.symm
      rw [share, stage]

end Sound

/-- A lint hears in a move that the checker is starting a server for a project. -/
def Records (p : Play) (root : Path) : Move → Prop
  | .begins _ => False
  | .hears document reply => ∃ stage, p.stage? document.id = some stage ∧ stage.Records reply root

theorem records_congr {p q : Play} {root : Path} {move : Move}
    (same : q.stage? move.document.id = p.stage? move.document.id) :
  q.Records root move ↔ p.Records root move
  := by
  cases move with
  | begins document => rfl
  | hears document reply =>
    have same : q.stage? document.id = p.stage? document.id := same
    rw [Records, Records, same]

/-- The servers recorded after a move. -/
theorem Sound.mem_roots_step {s : Session} {p : Play} (sound : Sound s p) (move : Move)
    (root : Path) :
  root ∈ (p.step move).session.package.servers.roots ↔
    p.Records root move ∨ root ∈ p.session.package.servers.roots
  := by
  cases move with
  | begins document =>
    rw [(sound.tells_begins document).package]
    simp [Records]
  | hears document reply =>
    cases staged : p.stage? document.id with
    | none => simp [sound.hears_nothing staged, Records, staged]
    | some stage =>
      rw [(sound.tells_hears staged reply).package, Stage.mem_roots_hear]
      simp [Records, staged]

end Play

/-! ### Orders of moves -/

/-- The moves that are about one document. -/
def movesOf (moves : List Move) (d : String) : List Move := moves.filter (·.document.id = d)

theorem movesOf_concat (moves : List Move) (move : Move) (d : String) :
  movesOf (moves ++ [move]) d =
    if move.document.id = d then movesOf moves d ++ [move] else movesOf moves d
  := by
  rw [movesOf, List.filter_append, List.filter_singleton]
  split <;> simp_all [movesOf]

namespace Session

variable {s : Session}

/-- A session after some moves. -/
def play (s : Session) (moves : List Move) : Play := moves.foldl Play.step { session := s }

theorem play_concat (s : Session) (moves : List Move) (move : Move) :
  s.play (moves ++ [move]) = (s.play moves).step move
  := List.foldl_append

theorem Playable.sound (playable : s.Playable) (moves : List Move) :
  Play.Sound s (s.play moves)
  := by
  induction moves using List.reverseRecOn with
  | nil => apply Play.Sound.start playable
  | append_singleton moves move ih =>
    rw [play_concat]
    apply ih.step

/-- Each document fares as it does when the moves of the others are left out. -/
theorem view_play (playable : s.Playable) (active : s.package.active ≠ none) (moves : List Move)
    (d : String) :
  (s.play moves).view d = (s.play (movesOf moves d)).view d
  := by
  induction moves using List.reverseRecOn with
  | nil => rfl
  | append_singleton moves move ih =>
    rw [play_concat, movesOf_concat]
    split
    · next own =>
      subst own
      rw [play_concat]
      apply (playable.sound _).view_step_congr (playable.sound _) ih
    · next other =>
      rw [← ih]
      apply (playable.sound moves).view_step_of_ne active other

/-- A server is recorded exactly if it is recorded when the moves of some document are made
alone. -/
theorem mem_roots_play (playable : s.Playable) (active : s.package.active ≠ none)
    (moves : List Move) (root : Path) :
  root ∈ (s.play moves).session.package.servers.roots ↔
    ∃ d, root ∈ (s.play (movesOf moves d)).session.package.servers.roots
  := by
  induction moves using List.reverseRecOn with
  | nil => simp [movesOf]
  | append_singleton moves move ih =>
    have alone (d : String) :
        root ∈ (s.play (movesOf (moves ++ [move]) d)).session.package.servers.roots ↔
          (move.document.id = d ∧ (s.play moves).Records root move) ∨
            root ∈ (s.play (movesOf moves d)).session.package.servers.roots := by
      rw [movesOf_concat]
      split
      · next own =>
        subst own
        have stages := congrArg Prod.snd (view_play playable active moves move.document.id)
        rw [play_concat, (playable.sound _).mem_roots_step, ← Play.records_congr stages]
        simp
      · next other => simp [other]
    rw [play_concat, (playable.sound moves).mem_roots_step, ih]
    simp only [alone, exists_or, exists_eq_left']

/-- The tile belongs to the share of the active document. -/
theorem tile_play (playable : s.Playable) {a : String} (active : s.package.active = some a)
    (moves : List Move) :
  (s.play moves).session.package.tile = ((s.play moves).session.package.share a).tile
  := by
  rw [share, (playable.sound moves).active, if_pos active]

/-- Lints of different documents wait for calls with different keys. -/
theorem keys_play (playable : s.Playable) (moves : List Move) {d d' : String}
    {lint lint' : Lint.Pending} (waits : (s.play moves).stage? d = some (.waits lint))
    (waits' : (s.play moves).stage? d' = some (.waits lint'))
    (same : lint.call.uniqueKey = lint'.call.uniqueKey) :
  d = d'
  := by
  obtain ⟨rfl, keyed⟩ := (playable.sound moves).isOf waits
  obtain ⟨rfl, keyed'⟩ := (playable.sound moves).isOf waits'
  rw [keyed, keyed'] at same
  apply Lint.uniqueKey_injective (Option.some.inj same)

/-! ### Documents in turn -/

/-- The moves of a document whose lint begins and then hears some replies. -/
def turns (document : Document) (replies : List Reply) : List Move :=
  .begins document :: replies.map (.hears document)

/-- A lint that has heard some replies has ended, unless the checker was busy each time. -/
theorem stage_turns (playable : s.Playable) (document : Document) (replies : List Reply) :
  ∃ stage, (s.play (turns document replies)).stage? document.id = some stage ∧
    ∀ lint, stage = .waits lint → ∀ reply ∈ replies, reply.IsBusy
  := by
  induction replies using List.reverseRecOn with
  | nil =>
    refine ⟨_, ((Play.Sound.start playable).tells_begins document).stage, ?_⟩
    intro lint _ reply mem
    contradiction
  | append_singleton replies reply ih =>
    obtain ⟨stage, staged, busy⟩ := ih
    have last : turns document (replies ++ [reply]) =
        turns document replies ++ [.hears document reply] := by simp [turns]
    rw [last, play_concat]
    refine ⟨_, ((playable.sound _).tells_hears staged reply).stage, ?_⟩
    intro lint waits other mem
    obtain ⟨rfl, again⟩ := Stage.waits_of_hear waits
    rcases List.mem_append.mp mem with mem | mem
    · apply busy lint rfl other mem
    · rw [List.mem_singleton.mp mem]
      apply isBusy_of_again again

/-- Moves in which the lint of each of some documents begins and then hears the replies of a
script, one after another, while the moves of different documents come in any order. -/
structure Interleaves (documents : List Document) (script : Document → List Reply)
    (moves : List Move) : Prop where
  within : ∀ move ∈ moves, move.document ∈ documents
  inTurn : ∀ document ∈ documents, movesOf moves document.id = turns document (script document)

theorem Interleaves.movesOf_eq {documents : List Document} {script : Document → List Reply}
    {first second : List Move} (interleaves : Interleaves documents script first)
    (interleaves' : Interleaves documents script second) (d : String) :
  movesOf first d = movesOf second d
  := by
  by_cases linted : ∃ document ∈ documents, document.id = d
  · obtain ⟨document, mem, rfl⟩ := linted
    rw [interleaves.inTurn document mem, interleaves'.inTurn document mem]
  · have absent {moves : List Move} (interleaves : Interleaves documents script moves) :
        movesOf moves d = [] := by
      rw [movesOf, List.filter_eq_nil_iff]
      intro move mem own
      apply linted ⟨move.document, interleaves.within move mem, of_decide_eq_true own⟩
    rw [absent interleaves, absent interleaves']

/-- What two orders of moves of some documents have in common. -/
structure Commutes (s : Session) (documents : List Document) (script : Document → List Reply)
    (first second : List Move) : Prop where
  /-- A lint ends if some reply does not find the checker busy. -/
  ends : ∀ document ∈ documents, (∃ reply ∈ script document, ¬ reply.IsBusy) →
    ∃ result, (s.play first).result? document.id = some result
  results : ∀ document ∈ documents,
    (s.play first).result? document.id = (s.play second).result? document.id
  cache : ∀ document, (s.play first).session.package.cache.get document =
    (s.play second).session.package.cache.get document
  servers : ∀ root, root ∈ (s.play first).session.package.servers.roots ↔
    root ∈ (s.play second).session.package.servers.roots
  tile : (s.play first).session.package.tile = (s.play second).session.package.tile
  /-- The stop tasks and all else that no lint changes. -/
  frame : (s.play first).session.package.frame = (s.play second).session.package.frame
  /-- Each lint comes to the result and the report to which it comes alone. -/
  alone : ∀ document ∈ documents,
    (s.play first).result? document.id =
        (s.play (turns document (script document))).result? document.id ∧
      (s.play first).session.package.cache.get (some document.id) =
        (s.play (turns document (script document))).session.package.cache.get (some document.id)
  /-- At no time does a lint wait for a call that the call of another document replaces. -/
  keys : ∀ moves, moves <+: first → ∀ d d' lint lint',
    (s.play moves).stage? d = some (.waits lint) → (s.play moves).stage? d' = some (.waits lint') →
      lint.call.uniqueKey = lint'.call.uniqueKey → d = d'

/-- While some document is active and the tree does not change, the order in which lints of
different documents begin and hear their replies makes no difference. -/
theorem commute (settings : Settings) (tree : FileTree) (timeout : Option Binary64)
    {before : List Operation} (still : ∀ tree, .host (.changeTree tree) ∉ before)
    (silent : ((start settings tree timeout).run before).replies = []) {a : String}
    (active : ((start settings tree timeout).run before).package.active = some a)
    {documents : List Document} {script : Document → List Reply} {first second : List Move}
    (interleaves : Interleaves documents script first)
    (interleaves' : Interleaves documents script second) :
  Commutes ((start settings tree timeout).run before) documents script first second
  := by
  have playable := Playable.run settings tree timeout still silent
  generalize (start settings tree timeout).run before = s at playable active
  have someActive : s.package.active ≠ none := by simp [active]
  have views (d : String) : (s.play first).view d = (s.play second).view d := by
    rw [view_play playable someActive first, view_play playable someActive second,
      interleaves.movesOf_eq interleaves']
  have own (document : Document) (mem : document ∈ documents) :
      (s.play first).view document.id =
        (s.play (turns document (script document))).view document.id := by
    rw [view_play playable someActive first, interleaves.inTurn document mem]
  constructor
  · intro document mem decisive
    obtain ⟨stage, staged, busy⟩ := stage_turns playable document (script document)
    have staged : (s.play first).stage? document.id = some stage :=
      (congrArg Prod.snd (own document mem)).trans staged
    cases stage with
    | ended result => exact ⟨result, by rw [Play.result?, staged]⟩
    | waits lint =>
      obtain ⟨reply, brought, free⟩ := decisive
      exact absurd (busy lint rfl reply brought) free
  · intro document mem
    apply Play.result_of_view (views document.id)
  · rintro (_ | d)
    · rfl
    · exact congrArg (·.1.report) (views d)
  · intro root
    rw [mem_roots_play playable someActive first, mem_roots_play playable someActive second]
    simp only [interleaves.movesOf_eq interleaves']
  · rw [tile_play playable active, tile_play playable active]
    exact congrArg (·.1.tile) (views a)
  · rw [(playable.sound first).frame, (playable.sound second).frame]
  · intro document mem
    exact ⟨Play.result_of_view (own document mem), congrArg (·.1.report) (own document mem)⟩
  · intro moves _ d d' lint lint'
    apply keys_play playable moves

/-! Two documents are linted side by side. -/

/-- Another document than the one that is active. -/
def otherSample : Document := ⟨"b", some "/b.js"⟩

/-- The replies to the lint of a document: the checker starts a server and then finds a
report, or is busy and then replaced. -/
def scriptSample (document : Document) : List Reply :=
  if document = sampleDocument then [startingSample, .output sampleText]
  else [busySample, .replaced]

/-- The moves of one document, and then those of the other. -/
def apartSample : List Move :=
  turns sampleDocument (scriptSample sampleDocument) ++ turns otherSample (scriptSample otherSample)

/-- The moves of the two documents by turns. -/
def mixedSample : List Move :=
  [.begins otherSample, .begins sampleDocument, .hears otherSample busySample,
    .hears sampleDocument startingSample, .hears otherSample .replaced,
    .hears sampleDocument (.output sampleText)]

theorem interleaves_samples :
  Interleaves [sampleDocument, otherSample] scriptSample apartSample ∧
    Interleaves [sampleDocument, otherSample] scriptSample mixedSample
  := by
  refine ⟨⟨?_, ?_⟩, ⟨?_, ?_⟩⟩ <;>
    simp [apartSample, mixedSample, turns, Move.document, movesOf, scriptSample, sampleDocument,
      otherSample]

/-- A document is active, and a tile is there. -/
def activeSample : List Operation :=
  [.host (.takeTile {}), .host (.activeChanged (some "a"))]

/-- The two orders come to the same. -/
theorem commute_sample :
  Interleaves [sampleDocument, otherSample] scriptSample apartSample ∧
    Interleaves [sampleDocument, otherSample] scriptSample mixedSample ∧
      Commutes ((start sampleSettings projectSample none).run activeSample)
        [sampleDocument, otherSample] scriptSample apartSample mixedSample
  := by
  obtain ⟨interleaves, interleaves'⟩ := interleaves_samples
  refine ⟨interleaves, interleaves', ?_⟩
  apply commute sampleSettings projectSample none _ rfl rfl interleaves interleaves'
  simp [activeSample]

end Session

end Package

end TypeCoverage
