import TypeCoverage.Proofs.Package.Closing

/-!
# What is on the tile

A `Display` tells which report of which document was last put on the tile, and what has
happened since.  It follows from what happens to the package, one happening after another
(`Package.puts?`, `Package.display`).  A report that was put on the tile stays in the cache
until its document is closed (`Displays.kept`).  The tile is cleared when the active document
is closed, but a lint may also show a report while no document is active, and then the tile
outlives the report (`Displays.outlived`).  `Session.showsLive` says that this is the only
way in which a visible tile shows something that is not in the cache.
-/

namespace TypeCoverage.Package

/-- The report of a document that was last put on the tile, and what has happened since. -/
structure Display where
  shown : Option (String × Report) := none
  since : List Happening := []

/-- The cached report of a document, with the document. -/
def cached (p : Package) (document : Option String) : Option (String × Report) :=
  document.bind fun d => (p.cache.get (some d)).map (d, ·)

/-- What a happening puts on the tile of a package, or that it takes away what is there; nothing
if it leaves the tile alone. -/
def puts? (p : Package) : Happening → Option (Option (String × Report))
  | .tileTaken _ => some (p.cached p.active)
  | .deactivated _ => some none
  | .activeChanged document => if p.attached then some (p.cached document) else none
  | .closed d => if p.attached ∧ p.active = some d then some none else none
  | .heard _ lint reply =>
    if p.isOpen lint.document.id ∧ p.showsReportOf lint.document.id then
      reply.report?.map fun r => some (lint.document.id, r)
    else none
  | _ => none

/-- The display after a happening to a package. -/
def Display.after (x : Display) (p : Package) (h : Happening) : Display :=
  match p.puts? h with
  | some shown => { shown := shown }
  | none => { x with since := x.since ++ [h] }

/-- The display after some happenings to a package. -/
def display (p : Package) (x : Display) : List Happening → Display
  | [] => x
  | h :: hs => (p.after h).display (x.after p h) hs

theorem cached_map (p : Package) (document : Option String) :
  (p.cached document).map Prod.snd = p.cache.get document
  := by
  cases document with
  | none => rfl
  | some d => cases cached : p.cache.get (some d) <;> simp [Package.cached, cached]

theorem cached_eq_some_iff {p : Package} {document : Option String} {d : String} {r : Report} :
  p.cached document = some (d, r) ↔ document = some d ∧ p.cache.get (some d) = some r
  := by
  cases document with
  | none => simp [cached]
  | some other =>
    simp only [cached, Option.bind_some, Option.map_eq_some_iff, Prod.mk.injEq, Option.some.injEq]
    constructor
    · rintro ⟨r, get, rfl, rfl⟩
      exact ⟨rfl, get⟩
    · rintro ⟨rfl, get⟩
      exact ⟨r, get, rfl, rfl⟩

/-- How the display accounts for the tile of a package. -/
structure Displays (p : Package) (x : Display) : Prop where
  tile : p.attached = true → p.tile = some (Tile.rendering (x.shown.map Prod.snd))
  /-- Something is shown of the active document, or while none is active. -/
  only : ∀ d r, x.shown = some (d, r) → p.attached = true ∧ (p.active = none ∨ p.active = some d)
  kept : ∀ d r, x.shown = some (d, r) → .closed d ∉ x.since → p.cache.get (some d) = some r
  outlived : ∀ d r, x.shown = some (d, r) → .closed d ∈ x.since →
    p.active = none ∧ p.cache.get (some d) = none

namespace Displays

variable {p q : Package} {x : Display}

theorem ofSettings (settings : Settings) : Displays (ofSettings settings) {} where
  tile attached := by simp [Package.ofSettings] at attached
  only d r shown := by simp at shown
  kept d r shown := by simp at shown
  outlived d r shown := by simp at shown

/-- A package that shows nothing. -/
theorem detached (attached : p.attached = false) (nothing : x.shown = none) : Displays p x where
  tile attached' := by simp [attached] at attached'
  only d r shown := by simp [nothing] at shown
  kept d r shown := by simp [nothing] at shown
  outlived d r shown := by simp [nothing] at shown

theorem shown_eq_none (h : Displays p x) (attached : p.attached = false) :
  x.shown = none
  := by
  rw [Option.eq_none_iff_forall_ne_some]
  rintro ⟨d, r⟩ shown
  rw [(h.only d r shown).1] at attached
  contradiction

/-- Something is put on the tile. -/
theorem put {shown : Option (String × Report)}
    (tile : q.tile = some (Tile.rendering (shown.map Prod.snd)))
    (only : ∀ d r, shown = some (d, r) → q.attached = true ∧ (q.active = none ∨ q.active = some d))
    (live : ∀ d r, shown = some (d, r) → q.cache.get (some d) = some r) :
  Displays q { shown := shown }
  where
  tile _ := tile
  only := only
  kept d r same _ := live d r same
  outlived d r same closed := by simp at closed

/-- A happening that leaves the tile alone, and closes no document. -/
theorem leave (h : Displays p x) {happening : Happening} (others : ∀ d, happening ≠ .closed d)
    (tile : q.tile = p.tile) (attached : q.attached = p.attached) (active : q.active = p.active)
    (cache : ∀ d r, x.shown = some (d, r) → q.cache.get (some d) = p.cache.get (some d)) :
  Displays q { x with since := x.since ++ [happening] }
  where
  tile := by
    rw [tile, attached]
    apply h.tile
  only := by
    rw [attached, active]
    apply h.only
  kept d r shown spared := by
    rw [cache d r shown]
    apply h.kept d r shown
    intro closed
    apply spared (List.mem_append_left _ closed)
  outlived d r shown closed := by
    rw [active, cache d r shown]
    apply h.outlived d r shown
    rcases List.mem_append.mp closed with closed | closed
    · apply closed
    · apply absurd (List.mem_singleton.mp closed).symm (others d)

theorem leave_quiet (h : Displays p x) {happening : Happening} (quiet : happening.IsQuiet) :
  Displays (p.after happening) (x.after p happening)
  := by
  have untouched : p.puts? happening = none := by cases happening <;> first | rfl | contradiction
  obtain ⟨cache, -, active, tile, attached⟩ := View.mk.inj (view_after p quiet)
  rw [Display.after, untouched]
  apply h.leave _ tile attached active
  · intro d r _
    rw [cache]
  · rintro d rfl
    contradiction

/-- Showing the active document puts its cached report on the tile. -/
theorem refresh (writable : ∀ document r, p.cache.get document = some r → r.IsWritable)
    (present : ∃ t, p.tile = some t) (attached : p.attached = true) :
  Displays p.refresh.package { shown := p.cached p.active }
  := by
  obtain ⟨t, tile⟩ := present
  rw [Package.refresh, if_pos attached]
  apply put
  · simp only [paint, tile, Option.map_some]
    rw [Tile.applyAll_documentCalls t (writable _), cached_map]
  · intro d r shown
    exact ⟨attached, .inr (cached_eq_some_iff.mp shown).1⟩
  · intro d r shown
    apply (cached_eq_some_iff.mp shown).2

/-- A package without a tile of its own shows nothing, whatever is refreshed. -/
theorem refresh_detached (nothing : x.shown = none) (attached : p.attached = false) :
  Displays p.refresh.package x
  := by
  have idle : p.refresh = ⟨p, [], .ok ()⟩ := by simp [Package.refresh, attached]
  rw [idle]
  apply detached attached nothing

theorem activeChanged (h : Displays p x) (coherent : p.view.Coherent) (document : Option String) :
  Displays (p.after (.activeChanged document)) (x.after p (.activeChanged document))
  := by
  rw [Display.after, puts?]
  cases attached : p.attached with
  | true => exact refresh coherent.writable (coherent.present attached) attached
  | false => exact refresh_detached (h.shown_eq_none attached) attached

/-- Closing the active document clears the tile.  Another document leaves it alone, also one
whose report it shows. -/
theorem closed (h : Displays p x) (coherent : p.view.Coherent) (d : String) :
  Displays (p.after (.closed d)) (x.after p (.closed d))
  := by
  rw [Display.after, puts?, Package.after, Package.closedDocument]
  dsimp only
  by_cases active : p.active = some d
  · rw [if_pos active]
    rcases Bool.eq_false_or_eq_true p.attached with attached | detached
    · rw [if_pos ⟨attached, active⟩]
      apply refresh (cache_get_evict_writable coherent.writable)
      · apply coherent.present attached
      · apply attached
    · rw [if_neg (by simp [detached])]
      exact refresh_detached (h.shown_eq_none detached) detached
  · rw [if_neg active, if_neg (by simp [active])]
    constructor
    · apply h.tile
    · apply h.only
    · intro d' r shown spared
      have other : d' ≠ d := by
        rintro rfl
        apply spared (List.mem_append_right _ List.mem_cons_self)
      rw [Cache.get_evict, if_neg other]
      apply h.kept d' r shown
      intro closed
      apply spared (List.mem_append_left _ closed)
    · intro d' r shown closed
      rw [Cache.get_evict]
      split
      · next own =>
        subst own
        exact ⟨(h.only d' r shown).2.resolve_right active, rfl⟩
      · next other =>
        apply h.outlived d' r shown
        rcases List.mem_append.mp closed with closed | closed
        · apply closed
        · apply absurd (Happening.closed.inj (List.mem_singleton.mp closed)) other

/-- A report is put on the tile, or it is one of another document than the tile shows. -/
theorem heard (h : Displays p x) (coherent : p.view.Coherent) (task : Nat) (lint : Lint.Pending)
    {reply : Reply} (writable : reply.IsWritable) :
  Displays (p.after (.heard task lint reply)) (x.after p (.heard task lint reply))
  := by
  have others : ∀ d, Happening.heard task lint reply ≠ .closed d := by
    intro d same
    cases same
  rw [Display.after, puts?, Package.after]
  cases brings : reply.report? with
  | none =>
    obtain ⟨cache, -, active, tile, attached⟩ := View.mk.inj (view_hearReply p lint brings)
    simp only [Option.map_none, ite_self]
    apply h.leave others tile attached active
    intro d r _
    rw [cache]
  | some r =>
    cases isOpen : p.isOpen lint.document.id with
    | false =>
      rw [hearReply_of_closed p lint brings isOpen]
      apply h.leave others rfl rfl rfl fun _ _ _ => rfl
    | true =>
      rw [hearReply_of_open p lint brings isOpen, Package.keepReport]
      cases shows : p.showsReportOf lint.document.id with
      | true =>
        obtain ⟨attached, active⟩ := Bool.and_eq_true_iff.mp shows
        have active : p.active = none ∨ p.active = some lint.document.id := by simpa using active
        obtain ⟨t, tile⟩ := coherent.present attached
        have tile : p.tile = some t := tile
        have shows' : showsReportOf { p with cache := p.cache.set lint.document.id r }
            lint.document.id = true := shows
        simp only [shows', if_true, and_self, Option.map_some]
        apply put
        · simp only [paint, tile, Option.map_some]
          rw [Tile.applyAll_reportCalls t (writable r brings)]
        · intro d r' same
          obtain ⟨rfl, rfl⟩ := Prod.mk.inj (Option.some.inj same)
          exact ⟨attached, active⟩
        · intro d r' same
          obtain ⟨rfl, rfl⟩ := Prod.mk.inj (Option.some.inj same)
          change (p.cache.set lint.document.id r).get _ = _
          rw [Cache.get_set, if_pos rfl]
      | false =>
        have shows' : showsReportOf { p with cache := p.cache.set lint.document.id r }
            lint.document.id = false := shows
        simp only [shows', Bool.false_eq_true, if_false, and_false]
        refine h.leave (q := { p with cache := p.cache.set lint.document.id r }) others rfl rfl
          rfl ?_
        intro d r' shown
        -- A report of the document that is shown would have been put on the tile.
        have other : d ≠ lint.document.id := by
          rintro rfl
          obtain ⟨attached, active⟩ := h.only _ r' shown
          rcases active with none | own
          · simp [showsReportOf, attached, none] at shows
          · simp [showsReportOf, attached, own] at shows
        change (p.cache.set lint.document.id r).get _ = _
        rw [Cache.get_set, if_neg other]

/-- The display goes on accounting for the tile. -/
theorem after (h : Displays p x) (coherent : p.view.Coherent) {happening : Happening}
    (writable : happening.IsWritable) :
  Displays (p.after happening) (x.after p happening)
  := by
  cases happening with
  | deactivated stopServers =>
    apply detached
    · apply congrArg View.attached (view_deactivate p stopServers)
    · rfl
  | tileTaken surface =>
    apply refresh (p := { p with tile := some surface, attached := true }) coherent.writable
      ⟨surface, rfl⟩ rfl
  | activeChanged document => exact h.activeChanged coherent document
  | opened d =>
    refine h.leave (q := p.opened d) ?_ rfl rfl rfl fun _ _ _ => rfl
    intro d' same
    cases same
  | closed d => exact h.closed coherent d
  | heard task lint reply => exact h.heard coherent task lint writable
  | activated focus => exact h.leave_quiet trivial
  | set focus name value => exact h.leave_quiet trivial
  | replaced focus values => exact h.leave_quiet trivial
  | clicked focus => exact h.leave_quiet trivial
  | dismissed => exact h.leave_quiet trivial
  | stopFinished task => exact h.leave_quiet trivial

/-- The display accounts for the tile whatever happens. -/
theorem afterAll (h : Displays p x) (coherent : p.view.Coherent) {happenings : List Happening}
    (writable : ∀ happening ∈ happenings, happening.IsWritable) :
  Displays (p.afterAll happenings) (p.display x happenings)
  := by
  induction happenings generalizing p x with
  | nil => exact h
  | cons first rest ih =>
    have here := writable first List.mem_cons_self
    apply ih (h.after coherent here) (coherent.after here)
    intro happening mem
    apply writable happening (List.mem_cons_of_mem _ mem)

end Displays

/-! ### Live tiles -/

/-- A visible tile is the rendering of a report that is in the cache. -/
def IsLive (p : Package) : Prop :=
  ∀ t, p.tile = some t → t.visible = true →
    ∃ d r, p.cache.get (some d) = some r ∧ t = Tile.rendering (some r)

/-- What the tile of a package shows, and when that is in the cache. -/
structure ShowsLive (p : Package) (x : Display) : Prop where
  tile : p.tile = some (Tile.rendering (x.shown.map Prod.snd))
  kept : ∀ d r, x.shown = some (d, r) → .closed d ∉ x.since → p.cache.get (some d) = some r
  outlived : ∀ d r, x.shown = some (d, r) → .closed d ∈ x.since →
    p.active = none ∧ p.cache.get (some d) = none
  /-- A report that has been outlived may still look like another one that is cached. -/
  live_iff : p.IsLive ↔ ∀ d r, x.shown = some (d, r) → .closed d ∈ x.since →
    ∃ d' r', p.cache.get (some d') = some r' ∧ Tile.rendering (some r') = Tile.rendering (some r)

theorem Displays.live_iff {p : Package} {x : Display} (h : Displays p x)
    (attached : p.attached = true) :
  p.IsLive ↔ ∀ d r, x.shown = some (d, r) → .closed d ∈ x.since →
    ∃ d' r', p.cache.get (some d') = some r' ∧ Tile.rendering (some r') = Tile.rendering (some r)
  := by
  have tile := h.tile attached
  constructor
  · intro live d r shown _
    rw [shown] at tile
    obtain ⟨d', r', cached, same⟩ := live _ tile rfl
    exact ⟨d', r', cached, same.symm⟩
  · intro outlived t here visible
    obtain rfl := Option.some.inj (tile.symm.trans here)
    rcases shown : x.shown with _ | ⟨d, r⟩
    · rw [shown] at visible
      contradiction
    · by_cases closed : .closed d ∈ x.since
      · obtain ⟨d', r', cached, same⟩ := outlived d r shown closed
        exact ⟨d', r', cached, same.symm⟩
      · exact ⟨d, r, h.kept d r shown closed, rfl⟩

namespace Session

/-- In every state of a run in which the package shows something on its tile, the report that was
last put there is live until its document is closed. -/
theorem showsLive (settings : Settings) (tree : FileTree) (timeout : Option Binary64)
    {operations : List Operation}
    (writable : ∀ operation ∈ operations, ∀ reply ∈ operation.replies, reply.IsWritable)
    (attached : ((start settings tree timeout).run operations).package.attached = true) :
  ShowsLive ((start settings tree timeout).run operations).package
    ((ofSettings settings).display {} ((start settings tree timeout).history operations))
  := by
  have displays : Displays ((start settings tree timeout).run operations).package
      ((ofSettings settings).display {} ((start settings tree timeout).history operations)) := by
    rw [package_run]
    apply (Displays.ofSettings settings).afterAll (View.Coherent.ofSettings settings)
      (isWritable_of_history writable)
  exact ⟨displays.tile attached, displays.kept, displays.outlived, displays.live_iff attached⟩

/-! A lint shows a report while no document is active, and its document is closed. -/

/-- The operations of the run. -/
def outlivedOperations : List Operation :=
  [.host (.lint sampleDocument), .host (.takeTile {}), .respond 0 (.output sampleText),
    .host (.closed "a")]

theorem isWritable_outlived :
  ∀ operation ∈ outlivedOperations, ∀ reply ∈ operation.replies, reply.IsWritable
  := by
  have brought (r : Report) (brings : (Reply.output sampleText).report? = some r) :
      r.IsWritable := by
    obtain rfl := Option.some.inj (brings.symm.trans report_sampleText)
    rw [Report.IsWritable]
    decide +kernel
  simpa [outlivedOperations, Operation.replies, Reply.IsWritable] using brought

theorem package_outlived :
  ((start sampleSettings ⟨[], []⟩ none).run outlivedOperations).package =
    ((((ofSettings sampleSettings).consumeStatusBar {}).package.keepReport "a"
      ⟨3, 1, []⟩).package.closedDocument "a").package
  := by
  obtain ⟨lint, memo, same, waits⟩ := lint_sample
  generalize reached : ((start sampleSettings ⟨[], []⟩ none).run [.host (.lint sampleDocument)]).run
    [.host (.takeTile {})] = s
  have rest : (start sampleSettings ⟨[], []⟩ none).run outlivedOperations =
      (s.perform (.respond 0 (.output sampleText))).perform (.host (.closed "a")) := by
    rw [← reached]
    rfl
  rw [waits] at reached
  have package : s.package = ((ofSettings sampleSettings).consumeStatusBar {}).package := by
    rw [← reached]
    rfl
  have waiting : s.waiting = [0] := by rw [← reached]; rfl
  have found : s.jobs.lookup 0 = some (.lint lint) := by rw [← reached]; rfl
  have kept := hearReply_of_open s.package lint report_sampleText (by rw [package]; rfl)
  have answered : (s.perform (.respond 0 (.output sampleText))).package =
      (s.package.keepReport "a" ⟨3, 1, []⟩).package := by
    simp [perform, respond?, waiting, answer?, found, forget, hear, kept, commit, emit, endTask,
      same]
  rw [rest, ← package, ← answered]
  rfl

/-- The tile still shows the report when the document has been closed and nothing is cached. -/
theorem tile_outlives :
  let p := ((start sampleSettings ⟨[], []⟩ none).run outlivedOperations).package
  p.attached = true ∧ p.cache.documents = [] ∧
    p.tile = some (Tile.rendering (some ⟨3, 1, []⟩)) ∧ ¬ p.IsLive
  := by
  intro p
  have attached : p.attached = true := by
    rw [show p = _ from package_outlived]
    rfl
  have documents : p.cache.documents = [] := by
    rw [show p = _ from package_outlived]
    rfl
  have tile : p.tile = some (Tile.rendering (some ⟨3, 1, []⟩)) := by
    have writable : Report.IsWritable ⟨3, 1, []⟩ := by
      rw [Report.IsWritable]
      decide +kernel
    rw [← Tile.applyAll_reportCalls {} writable, show p = _ from package_outlived]
    rfl
  refine ⟨attached, documents, tile, ?_⟩
  intro live
  obtain ⟨d, r, cached, -⟩ := live _ tile rfl
  have empty : p.cache.get (some d) = none := by
    rw [show p = _ from package_outlived]
    rfl
  rw [empty] at cached
  contradiction

/-- The run that shows a report while no document is active. -/
theorem showsLive_outlived :
  (∀ operation ∈ outlivedOperations, ∀ reply ∈ operation.replies, reply.IsWritable) ∧
    ((start sampleSettings ⟨[], []⟩ none).run outlivedOperations).package.attached = true ∧
      ShowsLive ((start sampleSettings ⟨[], []⟩ none).run outlivedOperations).package
        ((ofSettings sampleSettings).display {}
          ((start sampleSettings ⟨[], []⟩ none).history outlivedOperations))
  := by
  have attached : ((start sampleSettings ⟨[], []⟩ none).run
      outlivedOperations).package.attached = true := by
    rw [package_outlived]
    rfl
  exact ⟨isWritable_outlived, attached,
    showsLive sampleSettings ⟨[], []⟩ none isWritable_outlived attached⟩

end Session

end TypeCoverage.Package
