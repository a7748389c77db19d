import TypeCoverage.Proofs.Package.Run
import TypeCoverage.Proofs.Report.Percentage

/-!
# The tile shows the active document

`Tile.rendering` is the tile that shows a report, or none.  A package is coherent if the
tile that it shows something on is the rendering of the cached report of the active
document (`Package.View.Coherent`).  Everything that can happen to a package keeps it
coherent, as long as the counts of the reports can be written (`Coherent.after`), so that
the tile is right in every state of every run (`Session.tile_eq_rendering`).
-/

namespace TypeCoverage

/-- The counts of a report are short enough to be written. -/
def Report.IsWritable (r : Report) : Prop := Decimal.digitCount r.total ≤ digitLimit

theorem Report.IsWritable.percent? {r : Report} (writable : r.IsWritable) :
  r.percent? = some r.percent
  := by
  apply Report.percent?_of_digitCount
  rw [Decimal.digitCount_le_iff _ _ (by decide)]
  apply Nat.lt_of_le_of_lt (Nat.le_add_right ..)
  exact (Decimal.digitCount_le_iff _ _ (by decide)).mp writable

/-- The summary of a report whose counts can be written. -/
theorem Report.IsWritable.summary? {r : Report} (writable : r.IsWritable) :
  r.summary? = some ⟨r.percent, r.covered, r.total⟩
  := by
  rw [Report.summary?, writable.percent?]
  rfl

/-- A report that a reply brings has counts that can be written. -/
def Reply.IsWritable (reply : Reply) : Prop := ∀ r, reply.report? = some r → r.IsWritable

namespace Tile

/-- The tile that shows a report, or that no report is there. -/
def rendering : Option Report → Tile
  | none => { text := "", tooltip := none, visible := false }
  | some r =>
    { text := "Coverage: " ++ Decimal.numeral r.percent ++ "%"
      tooltip := some ("Covered " ++ Decimal.numeral r.percent ++ "% ("
        ++ Decimal.numeral r.covered ++ " of " ++ Decimal.numeral r.total ++ " expressions)"
        ++ "\n" ++ hint)
      visible := true }

theorem applyAll_reportCalls (t : Tile) {r : Report} (writable : r.IsWritable) :
  t.applyAll (reportCalls r).calls = rendering (some r)
  := by
  rw [reportCalls, writable.summary?]
  simp only [Summary.tooltip?, if_neg (Nat.not_lt.mpr writable)]
  rfl

/-- A report whose counts can be written is shown without a failure. -/
theorem result_reportCalls {r : Report} (writable : r.IsWritable) :
  (reportCalls r).result = .ok ()
  := by
  rw [reportCalls, writable.summary?]
  simp only [Summary.tooltip?, if_neg (Nat.not_lt.mpr writable)]

theorem applyAll_documentCalls (t : Tile) {cache : Cache} {document : Option String}
    (writable : ∀ r, cache.get document = some r → r.IsWritable) :
  t.applyAll (documentCalls cache document).calls = rendering (cache.get document)
  := by
  rw [documentCalls]
  split
  · next absent =>
    rw [absent]
    apply applyAll_clearCalls
  · next r cached =>
    rw [cached]
    apply applyAll_reportCalls t (writable r cached)

end Tile

namespace Package

/-- The tile shows the cached report of the active document, and can show all the others
that are cached. -/
structure View.Coherent (v : View) : Prop where
  writable : ∀ document r, v.cache.get document = some r → r.IsWritable
  present : v.attached = true → ∃ t, v.tile = some t
  shows : v.attached = true → ∀ d, v.active = some d →
    v.tile = some (Tile.rendering (v.cache.get (some d)))

/-- A happening brings no report whose counts cannot be written. -/
def Happening.IsWritable : Happening → Prop
  | .heard _ _ reply => reply.IsWritable
  | _ => True

/-! ### Caches -/

theorem cache_get_set_writable {c : Cache} {d : String} {r : Report}
    (writable : ∀ document r, c.get document = some r → r.IsWritable) (new : r.IsWritable) :
  ∀ document r', (c.set d r).get document = some r' → r'.IsWritable
  := by
  intro document r' cached
  cases document with
  | none => simp [Cache.get] at cached
  | some other =>
    rw [Cache.get_set] at cached
    split at cached
    · obtain rfl := Option.some.inj cached
      apply new
    · apply writable _ _ cached

theorem cache_get_evict_writable {c : Cache} {d : String}
    (writable : ∀ document r, c.get document = some r → r.IsWritable) :
  ∀ document r', (c.evict d).get document = some r' → r'.IsWritable
  := by
  intro document r' cached
  cases document with
  | none => simp [Cache.get] at cached
  | some other =>
    rw [Cache.get_evict] at cached
    split at cached
    · simp at cached
    · apply writable _ _ cached

namespace View.Coherent

variable {p : Package}

theorem ofSettings (settings : Settings) : (ofSettings settings).view.Coherent where
  writable := by
    intro document r
    cases document <;> simp [view, Package.ofSettings, Cache.get, Cache.empty]
  present attached := by simp [view, Package.ofSettings] at attached
  shows attached := by simp [view, Package.ofSettings] at attached

theorem of_view {q : Package} (h : p.view.Coherent) (same : q.view = p.view) :
  q.view.Coherent
  := by
  rw [same]
  apply h

/-- Showing the active document makes the tile right. -/
theorem refresh (writable : ∀ document r, p.cache.get document = some r → r.IsWritable)
    (present : p.attached = true → ∃ t, p.tile = some t) :
  p.refresh.package.view.Coherent
  := by
  rw [Package.refresh]
  split
  · next attached =>
    obtain ⟨t, tile⟩ := present attached
    constructor
    · apply writable
    · intro _
      simp [view, paint, tile]
    · intro _ d active
      have active : p.active = some d := active
      simp only [view, paint, tile, Option.map_some, Option.some.injEq]
      rw [Tile.applyAll_documentCalls t (writable _), active]
  · next detached =>
    constructor
    · apply writable
    · intro attached
      apply absurd attached detached
    · intro attached
      apply absurd attached detached

theorem deactivate (h : p.view.Coherent) (stopServers : Bool) :
  (p.deactivate stopServers).1.view.Coherent
  := by
  rw [view_deactivate]
  constructor
  · apply h.writable
  · simp
  · simp

theorem consumeStatusBar (h : p.view.Coherent) (surface : Tile) :
  (p.consumeStatusBar surface).package.view.Coherent
  := by
  apply refresh
  · apply h.writable
  · intro _
    exact ⟨surface, rfl⟩

theorem activeChanged (h : p.view.Coherent) (document : Option String) :
  (p.activeChanged document).package.view.Coherent
  := by
  apply refresh
  · apply h.writable
  · apply h.present

theorem opened (h : p.view.Coherent) (d : String) :
  (p.opened d).view.Coherent
  := ⟨h.writable, h.present, h.shows⟩

/-- Closing the active document leaves none active; closing another one takes nothing away
that the tile shows. -/
theorem closedDocument (h : p.view.Coherent) (d : String) :
  (p.closedDocument d).package.view.Coherent
  := by
  rw [Package.closedDocument]
  simp only
  split
  · apply refresh
    · apply cache_get_evict_writable h.writable
    · apply h.present
  · next other =>
    constructor
    · apply cache_get_evict_writable h.writable
    · apply h.present
    · intro attached a active
      have active : p.active = some a := active
      have spared : a ≠ d := by
        rintro rfl
        apply other active
      have shown := h.shows attached a active
      simp only [view] at shown ⊢
      rw [shown, Cache.get_evict, if_neg spared]

/-- A new report is shown if its document is the active one, and takes nothing away that
the tile shows if it is not. -/
theorem keepReport (h : p.view.Coherent) (d : String) {r : Report} (writable : r.IsWritable) :
  (p.keepReport d r).package.view.Coherent
  := by
  have kept := cache_get_set_writable (d := d) h.writable writable
  unfold Package.keepReport
  simp only
  split
  · next shown =>
    constructor
    · apply kept
    · intro attached
      obtain ⟨t, tile⟩ := h.present attached
      have tile : p.tile = some t := tile
      simp [view, paint, tile]
    · intro attached a active
      have active : p.active = some a := active
      obtain ⟨t, tile⟩ := h.present attached
      have tile : p.tile = some t := tile
      obtain rfl : a = d := by simpa [showsReportOf, active] using (Bool.and_eq_true_iff.mp shown).2
      simp only [view, paint, tile, Option.map_some, Option.some.injEq]
      rw [Tile.applyAll_reportCalls t writable, Cache.get_set, if_pos rfl]
  · next hidden =>
    constructor
    · apply kept
    · apply h.present
    · intro attached a active
      -- The report was not shown, so that another document must be the active one.
      have other : a ≠ d := by
        rintro rfl
        apply hidden
        have is_attached : p.attached = true := attached
        have is_active : p.active = some a := active
        simp [showsReportOf, is_attached, is_active]
      have shown := h.shows attached a active
      simp only [view] at shown ⊢
      rw [shown, Cache.get_set, if_neg other]

theorem heard (h : p.view.Coherent) (lint : Lint.Pending) {reply : Reply}
    (writable : reply.IsWritable) :
  (p.hearReply lint reply).1.view.Coherent
  := by
  cases brings : reply.report? with
  | none =>
    rw [view_hearReply p lint brings]
    apply h
  | some r =>
    cases isOpen : p.isOpen lint.document.id with
    | false =>
      rw [hearReply_of_closed p lint brings isOpen]
      apply h
    | true =>
      rw [hearReply_of_open p lint brings isOpen]
      apply h.keepReport _ (writable r brings)

/-- Whatever happens, a coherent package stays coherent. -/
theorem after (h : p.view.Coherent) {happening : Happening} (writable : happening.IsWritable) :
  (p.after happening).view.Coherent
  := by
  cases happening with
  | deactivated stopServers => apply h.deactivate
  | tileTaken surface => apply h.consumeStatusBar
  | activeChanged document => apply h.activeChanged
  | opened d => apply h.opened
  | closed d => apply h.closedDocument
  | heard task lint reply => apply h.heard lint writable
  | _ =>
    apply h.of_view
    apply view_after p
    trivial

theorem afterAll (h : p.view.Coherent) {happenings : List Happening}
    (writable : ∀ happening ∈ happenings, happening.IsWritable) :
  (p.afterAll happenings).view.Coherent
  := by
  induction happenings generalizing p with
  | nil => apply h
  | cons first rest ih =>
    apply ih
    · apply h.after (writable _ List.mem_cons_self)
    · intro happening mem
      apply writable _ (List.mem_cons_of_mem _ mem)

end View.Coherent

/-! ### Runs -/

namespace Session

/-- If a run brings in no report whose counts cannot be written, then neither does what
happens in it. -/
theorem isWritable_of_history {settings : Settings} {tree : FileTree}
    {timeout : Option Binary64} {operations : List Operation}
    (writable : ∀ operation ∈ operations, ∀ reply ∈ operation.replies, reply.IsWritable) :
  ∀ happening ∈ (start settings tree timeout).history operations, happening.IsWritable
  := by
  intro happening mem
  cases happening with
  | heard task lint reply =>
    rcases reply_of_history mem with ready | ⟨operation, carried_out, brought⟩
    · contradiction
    · apply writable operation carried_out reply brought
  | _ => trivial

/-- In every state of a run in which the package shows something on its tile and a document
is active, the tile is the rendering of the cached report of the document. -/
theorem tile_eq_rendering (settings : Settings) (tree : FileTree) (timeout : Option Binary64)
    {operations : List Operation}
    (writable : ∀ operation ∈ operations, ∀ reply ∈ operation.replies, reply.IsWritable)
    (attached : ((start settings tree timeout).run operations).package.attached = true)
    {d : String} (active : ((start settings tree timeout).run operations).package.active = some d) :
  ((start settings tree timeout).run operations).package.tile =
    some (Tile.rendering (((start settings tree timeout).run operations).package.cache.get (some d)))
  := by
  have coherent : ((start settings tree timeout).run operations).package.view.Coherent := by
    rw [package_run]
    apply View.Coherent.afterAll (View.Coherent.ofSettings settings)
    apply isWritable_of_history writable
  apply coherent.shows attached d active

/-! A run in which a lint of the active document brings a report. -/

/-- The text of a report. -/
def sampleText : String :=
  "\x7b\"expressions\": \x7b\"covered_count\": 3, \"uncovered_count\": 1\x7d, "
    ++ "\"uncoveredLocations\": []\x7d"

theorem report_sampleText :
  (Reply.output sampleText).report? = some ⟨3, 1, []⟩
  := by decide +kernel

/-- Settings that name the checker, so that it need not be looked for. -/
def sampleSettings : Settings := { executablePath := "flow" }

/-- A document that is active while nothing is known about it. -/
def shownSample : Session :=
  (start sampleSettings ⟨[], []⟩ none).run
    [.host (.takeTile {}), .host (.activeChanged (some "a"))]

/-- The operations of the run. -/
def sampleOperations : List Operation :=
  [.host (.takeTile {}), .host (.activeChanged (some "a")),
    .host (.lint ⟨"a", some "/a.js"⟩), .respond 0 (.output sampleText)]

theorem walkUpward_sample :
  Locator.walkUpward ⟨[], []⟩ "/" Locator.projectMarker = .ok none
  := by
  have places : (Path.ofText "/").ancestors.map (·.join (Path.ofText Locator.projectMarker)) =
      [Path.ofText "/.flowconfig"] := by decide +kernel
  have parts : FileTree.startOf ⟨[], []⟩ (Path.ofText "/.flowconfig") = ([], [".flowconfig"]) := by
    decide +kernel
  have missing : FileTree.walkFrom ⟨[], []⟩ FileTree.linkLimit [] [".flowconfig"] = .missing := by
    rw [FileTree.walkFrom]
    decide +kernel
  rw [Locator.walkUpward, places, FileTree.firstWhere, FileTree.exists?, FileTree.probe,
    FileTree.walk, if_neg (by decide +kernel), if_neg (by decide +kernel), parts]
  simp only [missing]
  rfl

/-- The document that is linted. -/
def sampleDocument : Document := ⟨"a", some "/a.js"⟩

/-- A lint calls the checker, if no project is remembered for the file. -/
theorem begin_sample_of {m : Memo} (timeout : Option Binary64) (id : String) (shown : Bool)
    (forgetful : m.find? ⟨"/", Locator.projectMarker⟩ = none ∨
      m.find? ⟨"/", Locator.projectMarker⟩ = some none) :
  ∃ lint memo, Lint.begin { sampleSettings with showUncovered := shown } timeout ⟨[], []⟩ m
      ⟨id, some "/a.js"⟩ = (.calls lint, memo) ∧ lint.document.id = id ∧
    memo.find? ⟨"/", Locator.projectMarker⟩ = some none
  := by
  have directory : (Path.ofText "/a.js").parent.text = "/" := by decide +kernel
  have remembered : (m.touch ⟨"/", Locator.projectMarker⟩ none).find?
      ⟨"/", Locator.projectMarker⟩ = some none := by
    simp [Memo.touch, Memo.find?, Memo.capacity]
  rcases forgetful with new | old
  · simp only [Lint.begin, directory, Locator.findProject, Locator.findUpward, new,
      walkUpward_sample]
    exact ⟨_, _, rfl, rfl, remembered⟩
  · simp only [Lint.begin, directory, Locator.findProject, Locator.findUpward, old]
    exact ⟨_, _, rfl, rfl, remembered⟩

theorem begin_sample :
  ∃ lint memo, Lint.begin sampleSettings none ⟨[], []⟩ .empty sampleDocument =
    (.calls lint, memo) ∧ lint.document.id = "a"
  := by
  have forgetful : Memo.empty.find? ⟨"/", Locator.projectMarker⟩ = none := rfl
  obtain ⟨lint, memo, begun, same, -⟩ := begin_sample_of none "a" false (Or.inl forgetful)
  exact ⟨lint, memo, begun, same⟩

theorem package_sample :
  ((start sampleSettings ⟨[], []⟩ none).run sampleOperations).package =
    (shownSample.package.keepReport "a" ⟨3, 1, []⟩).package
  := by
  obtain ⟨lint, memo, begun, same⟩ := begin_sample
  have isOpen : shownSample.package.isOpen lint.document.id = true := rfl
  have heard := hearReply_of_open _ lint report_sampleText isOpen
  calc ((start sampleSettings ⟨[], []⟩ none).run sampleOperations).package
      = ((shownSample.lint sampleDocument).perform (.respond 0 (.output sampleText))).package
        := rfl
    _ = shownSample.package.afterAll (heardBy shownSample.package 0 lint [.output sampleText])
        := by
          rw [(lint_calls (s := shownSample) begun).1]
          apply package_perform
    _ = (shownSample.package.keepReport "a" ⟨3, 1, []⟩).package
        := by
          rw [heardBy, heard, ← same]
          simp only [afterAll, List.foldl, after, heard]

/-- The tile shows the report that the lint has brought. -/
theorem tile_sample :
  ((start sampleSettings ⟨[], []⟩ none).run sampleOperations).package.tile =
    some (Tile.rendering (some ⟨3, 1, []⟩))
  := by
  have cached : ((start sampleSettings ⟨[], []⟩ none).run sampleOperations).package.cache.get
      (some "a") = some ⟨3, 1, []⟩ := by
    rw [package_sample]
    decide +kernel
  have writable : ∀ operation ∈ sampleOperations, ∀ reply ∈ operation.replies,
      reply.IsWritable := by
    have brought (r : Report) (brings : (Reply.output sampleText).report? = some r) :
        r.IsWritable := by
      obtain rfl := Option.some.inj (brings.symm.trans report_sampleText)
      rw [Report.IsWritable]
      decide +kernel
    simpa [sampleOperations, Operation.replies, Reply.IsWritable] using brought
  rw [← cached]
  apply tile_eq_rendering sampleSettings ⟨[], []⟩ none writable
  · rw [package_sample]
    decide +kernel
  · rw [package_sample]
    decide +kernel

end Session

end Package

end TypeCoverage
