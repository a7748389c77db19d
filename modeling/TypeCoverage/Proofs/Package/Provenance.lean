import Mathlib.Data.List.Induction
import TypeCoverage.Proofs.Cut
import TypeCoverage.Proofs.Package.Ledger

/-!
# Where cached reports come from

Whether a document is open, and which report is cached for it, can be read off what has
happened.  A document is open if it has been opened after each time that it was closed
(`IsOpenAfter`), and its cached report is the last one that a lint brought while it was
open, unless it has been closed since (`LastReport`).  The ledger of a package agrees with
this after everything that can happen (`ledger_closed_iff`, `ledger_get_iff`).
-/

namespace TypeCoverage.Package

/-- A happening opens a document, or all documents. -/
def Happening.Reopens (h : Happening) (d : String) : Prop :=
  h = .opened d ∨ h = .activeChanged (some d) ∨ ∃ stopServers, h = .deactivated stopServers

/-- A lint of a document hears a reply that is a report. -/
def Happening.Offers (h : Happening) (d : String) (r : Report) : Prop :=
  ∃ task lint reply, h = .heard task lint reply ∧ lint.document.id = d ∧ reply.report? = some r

/-- Each time that a document was closed, it has been opened afterwards. -/
def IsOpenAfter (past : List Happening) (d : String) : Prop :=
  ∀ before later, past = before ++ .closed d :: later → ∃ h ∈ later, h.Reopens d

/-- A lint brings a report of a document while the document is open. -/
def Brings (past : List Happening) (h : Happening) (d : String) (r : Report) : Prop :=
  h.Offers d r ∧ IsOpenAfter past d

/-- A report is the last one that a lint has brought while the document was open, and the
document has not been closed since. -/
def LastReport (past : List Happening) (d : String) (r : Report) : Prop :=
  ∃ before h later, past = before ++ h :: later ∧ Brings before h d r ∧
    .closed d ∉ later ∧
    ∀ middle next rest r', later = middle ++ next :: rest →
      ¬ Brings (before ++ h :: middle) next d r'

theorem Happening.not_reopens_closed (d d' : String) :
  ¬ (Happening.closed d).Reopens d'
  := by
  simp [Reopens]

theorem Happening.offers_heard (task : Nat) (lint : Lint.Pending) (reply : Reply) (d : String)
    (r : Report) :
  (Happening.heard task lint reply).Offers d r ↔
    lint.document.id = d ∧ reply.report? = some r
  := by
  constructor
  · rintro ⟨task', lint', reply', same, offers⟩
    obtain ⟨-, rfl, rfl⟩ := Happening.heard.inj same
    apply offers
  · intro offers
    exact ⟨task, lint, reply, rfl, offers⟩

/-! ### One happening more -/

theorem isOpenAfter_nil (d : String) :
  IsOpenAfter [] d
  := by
  intro before later same
  simp at same

theorem isOpenAfter_concat (past : List Happening) (h : Happening) (d : String) :
  IsOpenAfter (past ++ [h]) d ↔ h.Reopens d ∨ h ≠ .closed d ∧ IsOpenAfter past d
  := by
  constructor
  · intro isOpen
    by_cases reopens : h.Reopens d
    · apply Or.inl reopens
    · apply Or.inr
      constructor
      · rintro rfl
        obtain ⟨h, mem, -⟩ := isOpen past [] rfl
        contradiction
      · rintro before later rfl
        obtain ⟨h', mem, reopens'⟩ := isOpen before (later ++ [h]) (by simp)
        rcases List.mem_append.mp mem with mem | mem
        · exact ⟨h', mem, reopens'⟩
        · rw [List.mem_singleton.mp mem] at reopens'
          contradiction
  · rintro (reopens | ⟨not_closed, isOpen⟩) before later same
    · rcases concat_eq_cut_iff.mp same with ⟨-, rfl, -⟩ | ⟨rest, rfl, -⟩
      · exact absurd reopens (Happening.not_reopens_closed d d)
      · exact ⟨h, by simp, reopens⟩
    · rcases concat_eq_cut_iff.mp same with ⟨-, closed, -⟩ | ⟨rest, rfl, cut⟩
      · contradiction
      · obtain ⟨h', mem, reopens⟩ := isOpen before rest cut
        exact ⟨h', List.mem_append_left _ mem, reopens⟩

theorem not_lastReport_nil (d : String) (r : Report) :
  ¬ LastReport [] d r
  := by
  rintro ⟨before, h, later, same, -⟩
  simp at same

theorem lastReport_concat (past : List Happening) (h : Happening) (d : String) (r : Report) :
  LastReport (past ++ [h]) d r ↔
    Brings past h d r ∨ h ≠ .closed d ∧ (∀ r', ¬ Brings past h d r') ∧ LastReport past d r
  := by
  constructor
  · rintro ⟨before, first, later, same, brings, not_closed, last⟩
    rcases concat_eq_cut_iff.mp same with ⟨rfl, rfl, -⟩ | ⟨rest, rfl, rfl⟩
    · apply Or.inl brings
    · rw [List.mem_append, not_or, List.mem_singleton] at not_closed
      refine Or.inr ⟨Ne.symm not_closed.2, ?_, ?_⟩
      · intro r'
        apply last rest h [] r' rfl
      · refine ⟨before, first, rest, rfl, brings, not_closed.1, ?_⟩
        rintro middle next rest' r' rfl
        apply last middle next (rest' ++ [h]) r' (by simp)
  · rintro (brings | ⟨not_closed, none, before, first, later, rfl, brings, spared, last⟩)
    · refine ⟨past, h, [], rfl, brings, List.not_mem_nil, ?_⟩
      intro middle next rest r' same
      simp at same
    · refine ⟨before, first, later ++ [h], by simp, brings, ?_, ?_⟩
      · rw [List.mem_append, not_or, List.mem_singleton]
        exact ⟨spared, Ne.symm not_closed⟩
      · intro middle next rest r' same
        rcases concat_eq_cut_iff.mp same with ⟨rfl, rfl, -⟩ | ⟨rest', -, rfl⟩
        · apply none
        · apply last middle next rest' r' rfl

/-! ### The ledger -/

namespace Ledger

theorem not_mem_closed_after (l : Ledger) (h : Happening) (d : String) :
  d ∉ (l.after h).closed ↔ h.Reopens d ∨ h ≠ .closed d ∧ d ∉ l.closed
  := by
  cases h with
  | activeChanged document => cases document <;> simp [after, Happening.Reopens, reopen]; grind
  | opened d' => simp [after, Happening.Reopens, reopen]; grind
  | closed d' => simp [after, Happening.Reopens, close]; grind
  | heard task lint reply =>
    simp only [after, take, Happening.Reopens]
    grind
  | _ => simp [after, Happening.Reopens]

theorem get_after (l : Ledger) (h : Happening) (d : String) (r : Report) :
  (l.after h).cache.get (some d) = some r ↔
    (h.Offers d r ∧ d ∉ l.closed) ∨
      h ≠ .closed d ∧ (∀ r', h.Offers d r' → d ∈ l.closed) ∧ l.cache.get (some d) = some r
  := by
  cases h with
  | activeChanged document => cases document <;> simp [after, Happening.Offers, reopen]
  | opened d' => simp [after, Happening.Offers, reopen]
  | closed d' =>
    simp only [after, close, Happening.Offers, Cache.get_evict]
    grind
  | heard task lint reply =>
    simp only [Happening.offers_heard]
    cases brings : reply.report? with
    | none => simp [after, brings]
    | some r' =>
      simp only [after, brings, take]
      split
      · next closed => grind
      · next isOpen =>
        rw [Cache.get_set]
        grind
  | _ => simp [after, Happening.Offers]

/-- A package remembers that a document is closed exactly if it has been closed and not
opened since. -/
theorem closed_iff {l : Ledger} (none : l.closed = []) (past : List Happening) (d : String) :
  d ∉ (past.foldl after l).closed ↔ IsOpenAfter past d
  := by
  induction past using List.reverseRecOn with
  | nil => simp [none, isOpenAfter_nil]
  | append_singleton past h ih =>
    rw [List.foldl_append, List.foldl_cons, List.foldl_nil, not_mem_closed_after,
      isOpenAfter_concat, ih]

/-- A package that began with nothing has the last report cached, if there is one. -/
theorem get_iff {l : Ledger} (none : l.closed = []) (empty : l.cache = .empty)
    (past : List Happening) (d : String) (r : Report) :
  (past.foldl after l).cache.get (some d) = some r ↔ LastReport past d r
  := by
  induction past using List.reverseRecOn with
  | nil => simp [empty, not_lastReport_nil, Cache.get, Cache.empty]
  | append_singleton past h ih =>
    rw [List.foldl_append, List.foldl_cons, List.foldl_nil, get_after, lastReport_concat, ih]
    simp only [Brings, ← closed_iff none past d]
    grind

/-- No closed document is cached or active. -/
structure Tidy (l : Ledger) : Prop where
  vacant : ∀ d ∈ l.closed, l.cache.get (some d) = none
  present : ∀ d, l.active = some d → d ∉ l.closed

theorem Tidy.close {l : Ledger} (tidy : l.Tidy) (d : String) :
  (l.close d).Tidy
  := by
  constructor
  · intro d' mem
    simp only [Ledger.close, Cache.get_evict]
    split
    · rfl
    · next other =>
      rcases List.mem_cons.mp mem with own | mem
      · contradiction
      · apply tidy.vacant d' (List.mem_filter.mp mem).1
  · intro d' active mem
    simp only [Ledger.close] at active mem
    split at active
    · contradiction
    · next other =>
      rcases List.mem_cons.mp mem with rfl | mem
      · contradiction
      · apply tidy.present d' active (List.mem_filter.mp mem).1

theorem Tidy.take {l : Ledger} (tidy : l.Tidy) (d : String) (r : Report) :
  (l.take d r).Tidy
  := by
  rw [Ledger.take]
  split
  · apply tidy
  · next isOpen =>
    constructor
    · intro d' mem
      have other : d' ≠ d := by
        rintro rfl
        contradiction
      simp only [Cache.get_set, if_neg other]
      apply tidy.vacant d' mem
    · apply tidy.present

theorem Tidy.after {l : Ledger} (tidy : l.Tidy) (h : Happening) :
  (l.after h).Tidy
  := by
  cases h with
  | deactivated stopServers => exact ⟨by simp [Ledger.after], by simp [Ledger.after]⟩
  | activeChanged document =>
    cases document with
    | none => exact ⟨tidy.vacant, by simp [Ledger.after]⟩
    | some d =>
      constructor
      · intro d' mem
        apply tidy.vacant d' (List.mem_filter.mp mem).1
      · simp [Ledger.after, reopen]
  | opened d =>
    constructor
    · intro d' mem
      apply tidy.vacant d' (List.mem_filter.mp mem).1
    · intro d' active mem
      apply tidy.present d' active (List.mem_filter.mp mem).1
  | closed d => apply tidy.close
  | heard task lint reply =>
    simp only [Ledger.after]
    split
    · apply tidy.take
    · apply tidy
  | _ => apply tidy

theorem Tidy.afterAll {l : Ledger} (tidy : l.Tidy) (past : List Happening) :
  (past.foldl Ledger.after l).Tidy
  := by
  induction past generalizing l with
  | nil => apply tidy
  | cons h past ih => apply ih (tidy.after h)

end Ledger

theorem tidy_ofSettings (settings : Settings) :
  (ofSettings settings).ledger.Tidy
  := ⟨by simp [ofSettings, ledger], by simp [ofSettings, ledger]⟩

end TypeCoverage.Package
