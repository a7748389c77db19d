import Mathlib.Data.List.Forall2
import TypeCoverage.Proofs.Decimal.Numeral
import TypeCoverage.Proofs.Json.Grammar
import TypeCoverage.Report.Reader

/-!
# The language of reports

`Describes` says which report a JSON value describes: which members hold its counts and its
regions, in either of the two layouts, and what each of them must be.  It is stated of the
members of objects and says nothing about how they are checked.

A text is read as a report exactly if it writes a value that describes this report, and it
is refused in all other cases (`reads`).
-/

namespace TypeCoverage

namespace Json

/-! ### Members of objects -/

/-- An object in which the last member with a key has a value. -/
def Value.Has (v : Value) (key : String) (w : Value) : Prop :=
  ∃ before after, v = .object (before ++ (key, w) :: after) ∧ ∀ m ∈ after, m.1 ≠ key

/-- An object without a member with a key. -/
def Value.Lacks (v : Value) (key : String) : Prop :=
  ∃ members, v = .object members ∧ ∀ m ∈ members, m.1 ≠ key

variable {key : String} {members : List (String × Value)} {v w : Value}

theorem Value.Has.object (has : v.Has key w) :
  ∃ members, v = .object members
  := by
  obtain ⟨before, after, rfl, -⟩ := has
  exact ⟨_, rfl⟩

theorem has_iff :
  (Value.object members).Has key w ↔ lookup key members = some w
  := by
  rw [lookup, Option.map_eq_some_iff]
  constructor
  · rintro ⟨before, after, same, last⟩
    obtain rfl := Value.object.inj same
    refine ⟨(key, w), ?_, rfl⟩
    rw [List.find?_eq_some_iff_append]
    refine ⟨by simp, after.reverse, before.reverse, by simp, ?_⟩
    intro m mem
    simpa using last m (List.mem_reverse.mp mem)
  · rintro ⟨⟨key', w'⟩, found, rfl⟩
    obtain ⟨same, after, before, split, last⟩ := List.find?_eq_some_iff_append.mp found
    obtain rfl : key' = key := by simpa using same
    refine ⟨before.reverse, after.reverse, ?_, ?_⟩
    · rw [← members.reverse_reverse, split]
      simp
    · intro m mem
      simpa using last m (List.mem_reverse.mp mem)

theorem lacks_iff :
  (Value.object members).Lacks key ↔ lookup key members = none
  := by
  rw [lookup, Option.map_eq_none_iff, List.find?_eq_none]
  constructor
  · rintro ⟨_, ⟨⟩, lacks⟩ m mem
    simpa using lacks m (List.mem_reverse.mp mem)
  · intro lacks
    refine ⟨members, rfl, ?_⟩
    intro m mem
    simpa using lacks m (List.mem_reverse.mpr mem)

theorem field?_eq_some_iff :
  v.field? key = some w ↔ v.Has key w
  := by
  cases v with
  | object members => exact has_iff.symm
  | atom | array =>
    simp only [Value.field?, reduceCtorEq, false_iff]
    intro has
    obtain ⟨members, same⟩ := has.object
    contradiction

end Json

namespace Report

open Json (Value)

/-! ### What a value describes -/

/-- The counts of covered and of uncovered expressions. -/
structure IsCounts (v : Value) (covered uncovered : Nat) : Prop where
  covered : v.Has "covered_count" (.integer covered)
  uncovered : v.Has "uncovered_count" (.integer uncovered)

/-- A column under its first key, or under the second one if there is no first. -/
inductive IsColumn (v : Value) (n : Int) : Prop
  | col (col : v.Has "col" (.integer n))
  | column (no_col : v.Lacks "col") (column : v.Has "column" (.integer n))

/-- A place in a file. -/
structure IsPosition (v : Value) (p : Position) : Prop where
  line : v.Has "line" (.integer p.line)
  column : IsColumn v p.column

/-- A source, which may be left out or `null`. -/
inductive IsSource (v : Value) : Option String → Prop
  | absent (no_source : v.Lacks "source") : IsSource v none
  | present {s : Option String} (source : v.Has "source" (.ofText? s)) : IsSource v s

/-- A region between two places. -/
structure IsRegion (v : Value) (r : Region) : Prop where
  start : ∃ w, v.Has "start" w ∧ IsPosition w r.start
  stop : ∃ w, v.Has "end" w ∧ IsPosition w r.stop
  source : IsSource v r.source

/-- The value that counts as the locations of a report, whatever it is: that of a key of the
report, or else that of a key beside the counts. -/
inductive HasLocations (v w : Value) : Prop
  | own (own : v.Has "uncoveredLocations" w)
  | second (no_own : v.Lacks "uncoveredLocations") (second : v.Has "uncovered_locations" w)
  | nested {counts : Value} (no_own : v.Lacks "uncoveredLocations")
      (no_second : v.Lacks "uncovered_locations") (expressions : v.Has "expressions" counts)
      (nested : counts.Has "uncovered_locations" w)

/-- The report that a value describes. -/
structure Describes (v : Value) (r : Report) : Prop where
  expressions : ∃ counts, v.Has "expressions" counts ∧ IsCounts counts r.covered r.uncovered
  locations : ∃ items, HasLocations v (.array items) ∧ List.Forall₂ IsRegion items r.regions

/-! ### Checking members -/

variable {α : Type} {members : List (String × Value)} {v w : Value}

theorem readObject_eq_ok_iff {read : List (String × Value) → Checked α} {a : α} :
  readObject read v = .ok a ↔ ∃ members, v = .object members ∧ read members = .ok a
  := by
  cases v <;> simp [readObject, Checked.fail]

/-- What has to be there is there and passes its check. -/
theorem present_eq_ok_iff {step : Step} {read : Value → Checked α} {value? : Option Value}
    {a : α} :
  Checked.below step (match value? with
    | some v => read v
    | none => .fail .missing) = .ok a ↔
    ∃ w, value? = some w ∧ read w = .ok a
  := by
  rw [Checked.below_eq_ok_iff]
  cases value? <;> simp [Checked.fail]

theorem required_eq_ok_iff {key : String} {read : Value → Checked α} {a : α} :
  required key read members = .ok a ↔
    ∃ w, (Value.object members).Has key w ∧ read w = .ok a
  := by
  have checked : required key read members = .ok a ↔
      ∃ w, Json.lookup key members = some w ∧ read w = .ok a := present_eq_ok_iff
  rw [checked]
  simp only [Json.has_iff]

theorem readInteger_eq_ok_iff {n : Int} :
  readInteger v = .ok n ↔ v = .integer n
  := by
  unfold readInteger
  split
  · simp [Value.integer]
  · next other =>
    simp only [Checked.fail, reduceCtorEq, false_iff]
    rintro rfl
    exact other n rfl

theorem readCount_eq_ok_iff {n : Nat} :
  readCount v = .ok n ↔ v = .integer n
  := by
  unfold readCount
  split
  · next m =>
    split
    · next negative =>
      simp only [Checked.fail, reduceCtorEq, false_iff, Value.integer]
      rintro ⟨⟩
      omega
    · next negative =>
      simp only [Except.ok.injEq, Value.integer, Value.atom.injEq, Json.Atom.integer.injEq]
      omega
  · next other =>
    simp only [Checked.fail, reduceCtorEq, false_iff]
    rintro rfl
    exact other n rfl

theorem readSource_eq_ok_iff {s : Option String} :
  readSource v = .ok s ↔ v = .ofText? s
  := by
  unfold readSource
  split
  · cases s <;> simp [Value.ofText?, Value.null, Value.text]
  · cases s <;> simp [Value.ofText?, Value.null, Value.text]
  · next no_null no_text =>
    simp only [Checked.fail, reduceCtorEq, false_iff]
    rintro rfl
    cases s with
    | none => exact no_null rfl
    | some s => exact no_text s rfl

/-! ### Checking the parts of a report -/

theorem readCounts_eq_ok_iff {covered uncovered : Nat} :
  readCounts v = .ok (covered, uncovered) ↔ IsCounts v covered uncovered
  := by
  rw [readCounts, readObject_eq_ok_iff]
  simp only [Checked.both_eq_ok, required_eq_ok_iff, readCount_eq_ok_iff]
  constructor
  · rintro ⟨members, rfl, ⟨_, first, rfl⟩, ⟨_, second, rfl⟩⟩
    exact ⟨first, second⟩
  · rintro ⟨first, second⟩
    obtain ⟨members, rfl⟩ := first.object
    exact ⟨members, rfl, ⟨_, first, rfl⟩, ⟨_, second, rfl⟩⟩

/-- The key of the column is the first one unless only the second one is there. -/
theorem isColumn_iff {n : Int} :
  IsColumn (.object members) n ↔ (Value.object members).Has (columnKey members) (.integer n)
  := by
  have split : IsColumn (.object members) n ↔
      Json.lookup "col" members = some (.integer n) ∨
        Json.lookup "col" members = none ∧ Json.lookup "column" members = some (.integer n) := by
    simp only [← Json.has_iff, ← Json.lacks_iff]
    constructor
    · rintro (col | ⟨no_col, column⟩)
      · exact .inl col
      · exact .inr ⟨no_col, column⟩
    · rintro (col | ⟨no_col, column⟩)
      · exact .col col
      · exact .column no_col column
  rw [split, Json.has_iff, columnKey]
  cases col : Json.lookup "col" members <;> cases column : Json.lookup "column" members <;>
    simp [col, column]

theorem readPosition_eq_ok_iff {p : Position} :
  readPosition v = .ok p ↔ IsPosition v p
  := by
  rw [readPosition, readObject_eq_ok_iff]
  simp only [Checked.map_eq_ok_iff, Prod.exists, Checked.both_eq_ok, required_eq_ok_iff,
    readInteger_eq_ok_iff]
  constructor
  · rintro ⟨members, rfl, line, column, ⟨⟨_, first, rfl⟩, ⟨_, second, rfl⟩⟩, rfl⟩
    exact ⟨first, isColumn_iff.mpr second⟩
  · rintro ⟨first, second⟩
    obtain ⟨members, rfl⟩ := first.object
    exact ⟨members, rfl, p.line, p.column, ⟨⟨_, first, rfl⟩, ⟨_, isColumn_iff.mp second, rfl⟩⟩, rfl⟩

/-- A source is checked if it is there. -/
theorem isSource_iff {source : Option String} :
  IsSource (.object members) source ↔
    (match Json.lookup "source" members with
      | some w => Checked.below (.key "source") (readSource w)
      | none => .ok none) = .ok source
  := by
  constructor
  · rintro (lacks | has)
    · rw [Json.lacks_iff.mp lacks]
    · rw [Json.has_iff.mp has]
      exact Checked.below_eq_ok_iff.mpr (readSource_eq_ok_iff.mpr rfl)
  · intro checked
    cases found : Json.lookup "source" members with
    | none =>
      rw [found] at checked
      cases checked
      exact .absent (Json.lacks_iff.mpr found)
    | some w =>
      rw [found] at checked
      obtain rfl := readSource_eq_ok_iff.mp (Checked.below_eq_ok_iff.mp checked)
      exact .present (Json.has_iff.mpr found)

theorem readRegion_eq_ok_iff {r : Region} :
  readRegion v = .ok r ↔ IsRegion v r
  := by
  rw [readRegion, readObject_eq_ok_iff]
  simp only [Checked.map_eq_ok_iff, Prod.exists, Checked.both_eq_ok, required_eq_ok_iff,
    readPosition_eq_ok_iff]
  constructor
  · rintro ⟨members, rfl, start, stop, source, ⟨first, second, third⟩, rfl⟩
    exact ⟨first, second, isSource_iff.mpr third⟩
  · rintro ⟨first, second, third⟩
    have object := first
    obtain ⟨_, has, -⟩ := object
    obtain ⟨members, rfl⟩ := has.object
    exact ⟨members, rfl, r.start, r.stop, r.source,
      ⟨first, second, isSource_iff.mp third⟩, rfl⟩

/-- All items of an array are checked, wherever their findings are placed. -/
theorem all_mapIdx_eq_ok_iff {read : Value → Checked α} {items : List Value} {as : List α}
    (place : Nat → Step) :
  Checked.all (items.mapIdx fun i v => .below (place i) (read v)) = .ok as ↔
    List.Forall₂ (fun v a => read v = .ok a) items as
  := by
  rw [Checked.all_eq_ok_iff]
  induction items generalizing place as with
  | nil => cases as <;> simp
  | cons v items ih =>
    cases as with
    | nil => simp
    | cons a as =>
      rw [List.mapIdx_cons, List.map_cons, List.cons.injEq, Checked.below_eq_ok_iff,
        List.forall₂_cons]
      exact and_congr_right fun _ => ih fun i => place (i + 1)

theorem readRegions_eq_ok_iff {regions : List Region} :
  readRegions v = .ok regions ↔
    ∃ items, v = .array items ∧ List.Forall₂ IsRegion items regions
  := by
  have items (items : List Value) :
      readRegions (.array items) = .ok regions ↔ List.Forall₂ IsRegion items regions := by
    rw [readRegions, all_mapIdx_eq_ok_iff]
    simp only [readRegion_eq_ok_iff]
  cases v with
  | array vs => simp [items]
  | atom | object => simp [readRegions, Checked.fail]

theorem hasLocations_iff :
  HasLocations (.object members) w ↔ (locations members).2 = some w
  := by
  have split : HasLocations (.object members) w ↔
      Json.lookup "uncoveredLocations" members = some w ∨
        Json.lookup "uncoveredLocations" members = none ∧
          (Json.lookup "uncovered_locations" members = some w ∨
            Json.lookup "uncovered_locations" members = none ∧
              ∃ counts, Json.lookup "expressions" members = some counts ∧
                counts.field? "uncovered_locations" = some w) := by
    simp only [← Json.has_iff, ← Json.lacks_iff, Json.field?_eq_some_iff]
    constructor
    · rintro (own | ⟨no_own, second⟩ | ⟨no_own, no_second, expressions, nested⟩)
      · exact .inl own
      · exact .inr ⟨no_own, .inl second⟩
      · exact .inr ⟨no_own, .inr ⟨no_second, _, expressions, nested⟩⟩
    · rintro (own | ⟨no_own, second | ⟨no_second, _, expressions, nested⟩⟩)
      · exact .own own
      · exact .second no_own second
      · exact .nested no_own no_second expressions nested
  rw [split, locations]
  cases Json.lookup "uncoveredLocations" members <;>
    cases Json.lookup "uncovered_locations" members <;> simp [Option.bind_eq_some_iff]

/-- The check of the regions, under the key that names them in a finding. -/
def checkLocations (found : String × Option Value) : Checked (List Region) :=
  .below (.key found.1) (match found.2 with
    | some v => readRegions v
    | none => .fail .missing)

theorem ofJson_object (members : List (String × Value)) :
  ofJson (.object members) =
    (Checked.both (required "expressions" readCounts members)
      (checkLocations (locations members))).map
        fun ((covered, uncovered), regions) => ⟨covered, uncovered, regions⟩
  := rfl

theorem checkLocations_eq_ok_iff {found : String × Option Value} {regions : List Region} :
  checkLocations found = .ok regions ↔
    ∃ items, found.2 = some (.array items) ∧ List.Forall₂ IsRegion items regions
  := by
  rw [checkLocations, present_eq_ok_iff]
  simp only [readRegions_eq_ok_iff]
  constructor
  · rintro ⟨_, same, items, rfl, each⟩
    exact ⟨items, same, each⟩
  · rintro ⟨items, same, each⟩
    exact ⟨_, same, items, rfl, each⟩

/-- The checks pass exactly the values that describe a report, and answer this report. -/
theorem ofJson_eq_ok_iff {r : Report} :
  ofJson v = .ok r ↔ Describes v r
  := by
  have object (members : List (String × Value)) :
      ofJson (.object members) = .ok r ↔ Describes (.object members) r := by
    rw [ofJson_object]
    simp only [Checked.map_eq_ok_iff, Prod.exists, Checked.both_eq_ok, required_eq_ok_iff,
      readCounts_eq_ok_iff, checkLocations_eq_ok_iff, ← hasLocations_iff]
    constructor
    · rintro ⟨covered, uncovered, regions, ⟨expressions, locations⟩, rfl⟩
      exact ⟨expressions, locations⟩
    · rintro ⟨expressions, locations⟩
      exact ⟨r.covered, r.uncovered, r.regions, ⟨expressions, locations⟩, rfl⟩
  cases v with
  | object members => exact object members
  | atom | array =>
    simp only [ofJson, readObject, Checked.fail, reduceCtorEq, false_iff]
    rintro ⟨⟨counts, has, -⟩, -⟩
    obtain ⟨members, same⟩ := has.object
    contradiction

/-! ### Texts -/

/-- What writes an atom begins with a character that is not blank. -/
theorem not_blank_of_lexeme {a : Json.Atom} {l : List Char} (lexeme : Json.Lexeme a l) :
  ∃ c ∈ l, Text.isBlank c = false
  := by
  cases lexeme with
  | null => exact ⟨'n', by decide, by decide⟩
  | yes => exact ⟨'t', by decide, by decide⟩
  | no => exact ⟨'f', by decide, by decide⟩
  | undefined => exact ⟨'N', by decide, by decide⟩
  | infinite => exact ⟨'I', by decide, by decide⟩
  | negativeInfinite => exact ⟨'I', by decide, by decide⟩
  | number number =>
    obtain ⟨c, rest, rfl, digit⟩ := number.head
    exact ⟨c, List.mem_cons_self, Decimal.isBlank_of_isDigit digit⟩
  | negative => exact ⟨'-', List.mem_cons_self, by decide⟩
  | text quoted =>
    obtain ⟨body, -, rfl⟩ := quoted
    exact ⟨'"', List.mem_cons_self, by decide⟩

/-- A text that writes a value is not blank. -/
theorem not_blank_of_writes {payload : String} (writes : Json.Writes payload v) :
  Text.isAllBlank payload = false
  := by
  obtain ⟨c, mem, ink⟩ : ∃ c ∈ payload.toList, Text.isBlank c = false := by
    unfold Json.Writes at writes
    generalize payload.toList = cs at writes
    cases writes with
    | @element _ _ _ cs _ depth before value after =>
      have inside : ∃ c ∈ cs, Text.isBlank c = false := by
        cases value with
        | atom lexeme => exact not_blank_of_lexeme lexeme
        | emptyArray | array => exact ⟨'[', List.mem_cons_self, by decide⟩
        | emptyObject | object => exact ⟨'\x7b', List.mem_cons_self, by decide⟩
      obtain ⟨c, mem, ink⟩ := inside
      exact ⟨c, by simp [mem], ink⟩
  rw [Text.isAllBlank, ← Bool.not_eq_true, List.all_eq_true]
  intro blank
  rw [blank c mem] at ink
  contradiction

/-- What a text says as a report. -/
structure Reads (payload : String) : Prop where
  /-- A text is read as a report exactly if it writes a value that describes the report. -/
  accepted : ∀ r, parse payload = .ok r ↔ ∃ v, Json.Writes payload v ∧ Describes v r
  /-- A text without anything in it is refused as empty. -/
  empty : parse payload = .error .empty ↔ Text.isAllBlank payload = true
  /-- Every other text is refused with what is wrong with it. -/
  invalid : (∃ findings, parse payload = .error (.invalid findings)) ↔
    Text.isAllBlank payload = false ∧ ¬ ∃ v r, Json.Writes payload v ∧ Describes v r

theorem parse_of_blank {payload : String} (blank : Text.isAllBlank payload = true) :
  parse payload = .error .empty
  := if_pos blank

/-- A text that is not blank is read as its value is checked. -/
theorem parse_of_not_blank {payload : String} (ink : Text.isAllBlank payload = false) :
  parse payload = match Json.parse? payload with
    | none => .error (.invalid [⟨[], .malformed⟩])
    | some v => (ofJson v).mapError .invalid
  := if_neg (by simp [ink])

theorem parse_eq_ok_iff {payload : String} {r : Report} :
  parse payload = .ok r ↔ ∃ v, Json.Writes payload v ∧ Describes v r
  := by
  simp only [← Json.parse?_eq_some_iff, ← ofJson_eq_ok_iff]
  cases blank : Text.isAllBlank payload with
  | true =>
    rw [parse_of_blank blank]
    constructor
    · intro ok
      contradiction
    · rintro ⟨v, writes, -⟩
      rw [not_blank_of_writes (Json.parse?_eq_some_iff.mp writes)] at blank
      contradiction
  | false =>
    rw [parse_of_not_blank blank]
    cases Json.parse? payload with
    | none => simp
    | some v => cases read : ofJson v <;> simp [read, Except.mapError]

/-- A text that is not blank is read as a report, or refused with findings. -/
theorem parse_ok_or_invalid {payload : String} (ink : Text.isAllBlank payload = false) :
  (∃ r, parse payload = .ok r) ∨ ∃ findings, parse payload = .error (.invalid findings)
  := by
  rw [parse_of_not_blank ink]
  cases Json.parse? payload with
  | none => exact .inr ⟨_, rfl⟩
  | some v =>
    dsimp only
    cases ofJson v with
    | ok r => exact .inl ⟨r, rfl⟩
    | error findings => exact .inr ⟨findings, rfl⟩

theorem reads (payload : String) :
  Reads payload
  := by
  constructor
  case accepted =>
    intro r
    exact parse_eq_ok_iff
  all_goals cases blank : Text.isAllBlank payload
  case empty.true => simp [parse_of_blank blank]
  case empty.false =>
    obtain ⟨r, ok⟩ | ⟨findings, invalid⟩ := parse_ok_or_invalid blank
    · simp [ok]
    · simp [invalid]
  case invalid.true => simp [parse_of_blank blank]
  case invalid.false =>
    obtain ⟨r, ok⟩ | ⟨findings, invalid⟩ := parse_ok_or_invalid blank
    · obtain ⟨v, describes⟩ := parse_eq_ok_iff.mp ok
      simp only [ok, reduceCtorEq, exists_false, true_and, false_iff, not_not]
      exact ⟨v, r, describes⟩
    · simp only [invalid, true_and]
      constructor
      · rintro - ⟨v, r, describes⟩
        rw [parse_eq_ok_iff.mpr ⟨v, describes⟩] at invalid
        contradiction
      · intro _
        exact ⟨findings, rfl⟩

end Report

end TypeCoverage
