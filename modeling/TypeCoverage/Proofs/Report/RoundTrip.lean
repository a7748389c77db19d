import TypeCoverage.Proofs.Json.Written
import TypeCoverage.Proofs.Report.AnySize
import TypeCoverage.Proofs.Report.Language
import TypeCoverage.Report.Document

/-!
# Reports that are written and read again

The reports that can be read are those with short numbers (`exists_parse_iff`): the texts
of their regions may be any.  The document of such a report describes the report and can be
written, so that its text is read as the same report, in whatever layout the report was
read and the document is written (`parse_render`).
-/

namespace TypeCoverage

open Decimal
open Json (Value Fits)

/-! ### Short numbers -/

/-- The numbers in a place. -/
def Position.numbers (p : Position) : List Int := [p.line, p.column]

/-- The numbers in a region. -/
def Region.numbers (r : Region) : List Int := r.start.numbers ++ r.stop.numbers

namespace Report

/-- The numbers in a report. -/
def numbers (r : Report) : List Int :=
  (r.covered : Int) :: (r.uncovered : Int) :: r.regions.flatMap Region.numbers

/-- Numbers that are short enough to be read. -/
def AreShort (ns : List Int) : Prop := ∀ n ∈ ns, (Json.Atom.integer n).IsShort

instance : DecidablePred AreShort :=
  fun ns => inferInstanceAs (Decidable (∀ n ∈ ns, (Json.Atom.integer n).IsShort))

variable {d : Nat} {v w : Value}

theorem areShort_cons {n : Int} {ns : List Int} :
  AreShort (n :: ns) ↔ (Json.Atom.integer n).IsShort ∧ AreShort ns
  := List.forall_mem_cons

theorem areShort_append {ms ns : List Int} :
  AreShort (ms ++ ns) ↔ AreShort ms ∧ AreShort ns
  := List.forall_mem_append

theorem areShort_flatMap {α : Type} {f : α → List Int} {as : List α} :
  AreShort (as.flatMap f) ↔ ∀ a ∈ as, AreShort (f a)
  := by
  simp only [AreShort, List.mem_flatMap]
  grind

/-! ### What is described by a value that can be written -/

/-- A member of a value stands inside one more container. -/
theorem fits_of_has {key : String} (fits : Fits d v) (has : v.Has key w) :
  Fits (d + 1) w
  := by
  obtain ⟨before, after, rfl, -⟩ := has
  exact (Json.fits_object_iff.mp fits).2 (key, w) (by simp)

theorem isShort_of_has {key : String} {n : Int} (fits : Fits d v)
    (has : v.Has key (.integer n)) :
  (Json.Atom.integer n).IsShort
  := (Json.fits_atom_iff.mp (fits_of_has fits has)).2

theorem IsPosition.areShort {p : Position} (describes : IsPosition v p) (fits : Fits d v) :
  AreShort p.numbers
  := by
  have column : (Json.Atom.integer p.column).IsShort := by
    cases describes.column with
    | col has => exact isShort_of_has fits has
    | column _ has => exact isShort_of_has fits has
  simp [Position.numbers, AreShort, isShort_of_has fits describes.line, column]

theorem IsRegion.areShort {r : Region} (describes : IsRegion v r) (fits : Fits d v) :
  AreShort r.numbers
  := by
  obtain ⟨_, has, start⟩ := describes.start
  obtain ⟨_, has', stop⟩ := describes.stop
  exact areShort_append.mpr
    ⟨start.areShort (fits_of_has fits has), stop.areShort (fits_of_has fits has')⟩

theorem areShort_regions {items : List Value} {regions : List Region}
    (each : List.Forall₂ IsRegion items regions) (fits : ∀ v ∈ items, Fits d v) :
  ∀ region ∈ regions, AreShort region.numbers
  := by
  induction each with
  | nil => simp
  | cons describes others ih =>
    rw [List.forall_mem_cons] at fits ⊢
    exact ⟨describes.areShort fits.1, ih fits.2⟩

/-- The value that counts as the locations of a report lies inside the report. -/
theorem HasLocations.fits (locations : HasLocations v w) (fits : Fits d v) :
  ∃ d, Fits d w
  := by
  cases locations with
  | own has => exact ⟨_, fits_of_has fits has⟩
  | second _ has => exact ⟨_, fits_of_has fits has⟩
  | nested _ _ expressions has => exact ⟨_, fits_of_has (fits_of_has fits expressions) has⟩

theorem Describes.areShort {r : Report} (describes : Describes v r) (fits : Fits d v) :
  AreShort r.numbers
  := by
  obtain ⟨⟨counts, has, covered, uncovered⟩, items, locations, each⟩ := describes
  have fits_counts := fits_of_has fits has
  obtain ⟨d', fits_items⟩ := locations.fits fits
  rw [numbers, areShort_cons, areShort_cons, areShort_flatMap]
  exact ⟨isShort_of_has fits_counts covered, isShort_of_has fits_counts uncovered,
    areShort_regions each (Json.fits_array_iff.mp fits_items).2⟩

/-! ### The document of a report -/

theorem isPosition_toJson (p : Position) :
  IsPosition p.toJson p
  := by
  constructor
  · exact Json.has_iff.mpr rfl
  · exact .column (Json.lacks_iff.mpr rfl) (Json.has_iff.mpr rfl)

theorem isRegion_toJson (r : Region) :
  IsRegion r.toJson r
  where
  start := ⟨_, Json.has_iff.mpr rfl, isPosition_toJson r.start⟩
  stop := ⟨_, Json.has_iff.mpr rfl, isPosition_toJson r.stop⟩
  source := .present (Json.has_iff.mpr rfl)

theorem describes_toJson (r : Report) :
  Describes r.toJson r
  := by
  have regions : List.Forall₂ IsRegion (r.regions.map Region.toJson) r.regions := by
    rw [List.forall₂_map_left_iff]
    exact List.forall₂_same.mpr fun region _ => isRegion_toJson region
  constructor
  · exact ⟨_, Json.has_iff.mpr rfl, Json.has_iff.mpr rfl, Json.has_iff.mpr rfl⟩
  · exact ⟨_, .own (Json.has_iff.mpr rfl), regions⟩

theorem fits_position {p : Position} (short : AreShort p.numbers)
    (depth : d + 1 ≤ Json.depthLimit) :
  Fits d p.toJson
  := by
  have limits : d ≤ Json.depthLimit := Nat.le_of_succ_le depth
  simpa [Position.toJson, Value.integer, Json.fits_object_iff, Json.fits_atom_iff, depth, limits,
    Position.numbers, AreShort] using short

theorem fits_region {r : Region} (short : AreShort r.numbers) (depth : d + 2 ≤ Json.depthLimit) :
  Fits d r.toJson
  := by
  obtain ⟨start, stop⟩ := areShort_append.mp short
  have source : Fits (d + 1) (.ofText? r.source) := by
    cases r.source <;> exact .atom (by omega) trivial
  refine .object (by omega) ?_
  simp [fits_position start depth, fits_position stop depth, source]

theorem fits_report {r : Report} (short : AreShort r.numbers) (depth : d + 4 ≤ Json.depthLimit) :
  Fits d r.toJson
  := by
  rw [numbers, areShort_cons, areShort_cons, areShort_flatMap] at short
  obtain ⟨covered, uncovered, regions⟩ := short
  have counts : Fits (d + 1) (.object
      [("covered_count", .integer r.covered), ("uncovered_count", .integer r.uncovered)]) := by
    have covered_fits : Fits (d + 2) (.integer r.covered) := .atom (by omega) covered
    have uncovered_fits : Fits (d + 2) (.integer r.uncovered) := .atom (by omega) uncovered
    refine .object (by omega) ?_
    simp [covered_fits, uncovered_fits]
  have locations : Fits (d + 1) (.array (r.regions.map Region.toJson)) := by
    refine .array (by omega) ?_
    rw [List.forall_mem_map]
    exact fun region mem => fits_region (regions region mem) (by omega)
  refine .object (by omega) ?_
  simp [counts, locations]

/-- A report with short numbers is read from its document. -/
theorem parse_render_of_areShort {r : Report} (short : AreShort r.numbers)
    (layout : Json.Layout) :
  parse (r.toJson.render layout) = .ok r
  := by
  have fits : Fits 0 r.toJson := fits_report short (by decide)
  exact parse_eq_ok_iff.mpr ⟨_, fits.writes_render layout, describes_toJson r⟩

theorem areShort_of_parse {payload : String} {r : Report} (parsed : parse payload = .ok r) :
  AreShort r.numbers
  := by
  obtain ⟨v, writes, describes⟩ := parse_eq_ok_iff.mp parsed
  have fits : Fits 0 v := writes.fits
  exact describes.areShort fits

/-- The reports that can be read are those with short numbers. -/
theorem exists_parse_iff (r : Report) :
  (∃ payload, parse payload = .ok r) ↔ AreShort r.numbers
  := by
  constructor
  · rintro ⟨payload, parsed⟩
    exact areShort_of_parse parsed
  · intro short
    exact ⟨_, parse_render_of_areShort short .oneLine⟩

/-- A report that was read is read again from its document. -/
theorem parse_render {payload : String} {r : Report} (parsed : parse payload = .ok r)
    (layout : Json.Layout) :
  parse (r.toJson.render layout) = .ok r
  := parse_render_of_areShort (areShort_of_parse parsed) layout

theorem isShort_percent {r : Report} {n : Nat} (percent : r.percent? = some n) :
  (Json.Atom.integer n).IsShort
  := by
  have small : digitCount n ≤ 3 := (digitCount_le_iff _ _ (by decide)).mpr
    (Nat.lt_of_le_of_lt (percent_le_hundred percent) (by decide))
  exact Nat.le_trans small (by decide)

/-- A report that was read has a percentage. -/
theorem percent?_of_areShort {r : Report} (short : AreShort r.numbers) :
  r.percent? = some r.percent
  := percent?_of_digitCount (areShort_cons.mp short).1

end Report

end TypeCoverage
