import TypeCoverage.Proofs.Json.Written
import TypeCoverage.Proofs.Settings.Layering
import TypeCoverage.Proofs.Settings.Numeral

/-!
# Spellings of settings

Settings can be written down in three ways: as a table under either spelling of their names, as
the document that `config` prints, and as the variables of the environment.  From each the same
settings are read, which is what `Survives` says.

A table that has each field once is read field by field, so it is enough that every field finds
its own datum there (`find?_table`).  The members of the document are the members of such a table,
and the printer writes them so that the reader finds them again.  A variable gives its field what
was written, because a word for a truth value stands for it, and because a numeral is read back
(`check_of_spelled`).
-/

namespace TypeCoverage

open Decimal (digitCount signedNumeral)

namespace Field

/-- The text of a variable for a value of a field. -/
def spelled : (f : Field) → f.Carrier → String
  | executablePath, s => s
  | onlyIfAppropriate, b => if b then "True" else "False"
  | showUncovered, b => if b then "True" else "False"
  | hyperclickPriority, n => signedNumeral n

end Field

namespace Settings

variable {s : Settings}

/-! ### Tables -/

/-- A key spells one field only. -/
theorem eq_of_spelledBy {f g : Field} {key : String} (first : f.SpelledBy key)
    (second : g.SpelledBy key) :
  f = g
  := by
  apply Field.name_injective
  rw [← Field.fieldKey_eq_name_iff.mpr first, Field.fieldKey_eq_name_iff.mpr second]

section Table

variable {spelling : Field → String} (spells : ∀ f : Field, f.SpelledBy (spelling f))

include spells

/-- A table has a field under its spelling. -/
theorem lookup_table (f : Field) :
  (s.table spelling).lookup (spelling f) = some (f.datum (s.get f))
  := by
  have find (fs : List Field) (mem : f ∈ fs) :
      (fs.map fun g => (spelling g, g.datum (s.get g))).lookup (spelling f) =
        some (f.datum (s.get f)) := by
    induction fs with
    | nil => contradiction
    | cons g fs ih =>
      rw [List.map_cons, List.lookup_cons]
      by_cases same : spelling f = spelling g
      · obtain rfl : f = g := by
          apply eq_of_spelledBy (spells f)
          rw [same]
          apply spells
        rw [beq_self_eq_true]
      · rw [beq_false_of_ne same]
        apply ih
        obtain rfl | mem := List.mem_cons.mp mem
        · exact absurd rfl same
        · apply mem
  apply find Field.all f.mem_all

/-- It has it under no other key. -/
theorem lookup_table_of_ne {f : Field} {key : String} (spelled : f.SpelledBy key)
    (other : key ≠ spelling f) :
  (s.table spelling).lookup key = none
  := by
  rw [List.lookup_eq_none_iff]
  intro m mem
  obtain ⟨g, -, rfl⟩ := List.mem_map.mp mem
  rw [bne_iff_ne]
  rintro rfl
  obtain rfl := eq_of_spelledBy spelled (spells g)
  contradiction

theorem find?_table (f : Field) :
  f.find? (s.table spelling) = some (spelling f, f.datum (s.get f))
  := by
  rw [Field.find?]
  obtain named | camel := spells f
  · have other : f.camelName ≠ spelling f := by
      rw [named]
      cases f <;> decide
    rw [lookup_table_of_ne spells (.inr rfl) other, ← named, lookup_table spells]
    rfl
  · rw [← camel, lookup_table spells]

/-- A table that spells every field once is read back. -/
theorem ofTable_table :
  ofTable (s.table spelling) = .ok s
  := by
  rw [ofTable_eq_ok_iff]
  constructor
  · intro f
    simp only [Field.checkIn, find?_table spells, Field.check_datum]
    rfl
  · rw [unusedKeys, List.filter_eq_nil_iff]
    intro key mem
    obtain ⟨f, all, rfl⟩ : ∃ f ∈ Field.all, spelling f = key := by
      simpa [table] using mem
    have used : spelling f ∈ Field.all.filterMap fun f => (f.find? (s.table spelling)).map (·.1) :=
      List.mem_filterMap.mpr ⟨f, all, by rw [find?_table spells]; rfl⟩
    simpa using used

end Table

/-! ### The printed document -/

/-- The value in a document as which a datum is printed. -/
inductive PrintedAs : Datum → Json.Value → Prop
  | boolean (b : Bool) : PrintedAs (.boolean b) (.boolean b)
  | integer (n : Int) : PrintedAs (.integer n) (.integer n)
  | text (s : String) : PrintedAs (.text s) (.text s)

/-- A document has the members of a table, in the same order. -/
def PrintedMembers : Members → List (String × Json.Value) → Prop :=
  List.Forall₂ fun m m' => m.1 = m'.1 ∧ PrintedAs m.2 m'.2

open CommandLine (printSettings settingsDocument World)

theorem exists_printedMembers (s : Settings) :
  ∃ members, settingsDocument s = .object members ∧
    PrintedMembers (s.table Field.camelName) members
  := by
  refine ⟨_, rfl, ?_⟩
  rw [PrintedMembers, table, List.forall₂_map_left_iff, List.forall₂_map_right_iff]
  rw [List.forall₂_same]
  intro f _
  refine ⟨rfl, ?_⟩
  cases f with
  | executablePath => apply PrintedAs.text
  | onlyIfAppropriate => apply PrintedAs.boolean
  | showUncovered => apply PrintedAs.boolean
  | hyperclickPriority => apply PrintedAs.integer

/-- What is printed is read back as the document. -/
theorem parse?_printSettings {σ : Type} {w : World σ} {root : Path}
    (loads : load w.room w.tree w.environment root = .ok s)
    (short : digitCount s.hyperclickPriority.natAbs ≤ Datum.digitLimit)
    (o : CommandLine.Options) :
  ∃ text, printSettings w root o = ⟨0, text, none⟩ ∧
    Json.parse? text = some (settingsDocument s)
  := by
  refine ⟨(settingsDocument s).render .indented ++ "\n", ?_, ?_⟩
  · rw [printSettings, loads]
    apply if_neg (Nat.not_lt_of_le short)
  · have fits : Json.Fits 0 (settingsDocument s) := by
      rw [settingsDocument, Json.fits_object_iff]
      refine ⟨by decide, ?_⟩
      intro m mem
      obtain ⟨f, -, rfl⟩ := List.mem_map.mp mem
      cases f with
      | executablePath => exact .atom (by decide) trivial
      | onlyIfAppropriate => exact .atom (by decide) trivial
      | showUncovered => exact .atom (by decide) trivial
      | hyperclickPriority => exact .atom (by decide) short
    have blank : Json.Blank ['\n'] := by simp [Json.Blank, Json.isSpace]
    rw [Json.parse?_eq_some_iff, Json.Writes, String.toList_append]
    exact (fits.writes_render .indented).append_blank blank

/-! ### The variables -/

theorem exists_given_of_spelled
    (short : digitCount s.hyperclickPriority.natAbs ≤ Field.numeralLimit) (f : Field) :
  ∃ d, VariableGives f (f.spelled (s.get f)) d ∧ f.check d = .ok (s.get f)
  := by
  have word (b : Bool) : StandsFor (if b then "True" else "False") b := by
    cases b with
    | true => exact .yes (by decide)
    | false => exact .no (by decide)
  cases f with
  | executablePath => exact ⟨_, .path _, rfl⟩
  | onlyIfAppropriate => exact ⟨_, .flag trivial (word _), rfl⟩
  | showUncovered => exact ⟨_, .flag trivial (word _), rfl⟩
  | hyperclickPriority => exact ⟨_, .priority _, Field.checkNumeral_signedNumeral short⟩

/-- Variables that spell settings win over whatever the files give. -/
theorem combined_of_spelled {env : Environment} {project file : Members}
    (short : digitCount s.hyperclickPriority.natAbs ≤ Field.numeralLimit)
    (knownProject : Known project) (knownFile : Known file)
    (set : ∀ f, env.lookup (variableName f) = some (f.spelled (s.get f))) :
  combined project file env = .ok s
  := by
  rw [combined_eq_ok_iff]
  refine ⟨knownProject, knownFile, ?_, ?_⟩
  · rintro ⟨f, -, flag, raw, set', bad⟩
    obtain ⟨d, given, -⟩ := exists_given_of_spelled short f
    obtain ⟨b, word⟩ := given.standsFor flag
    rw [set f] at set'
    obtain rfl := Option.some.inj set'
    apply bad b word
  · intro f
    obtain ⟨d, given, valid⟩ := exists_given_of_spelled short f
    exact .won (.environment (set f) given) valid

/-! ### Surviving -/

/-- Settings are read back from each of their spellings. -/
structure Survives (s : Settings) : Prop where
  /-- A table with the names of the fields. -/
  named : ofTable (s.table Field.name) = .ok s
  /-- A table with their second spellings. -/
  aliased : ofTable (s.table Field.camelName) = .ok s
  /-- This is the table that `config` prints, and its output is read back as a document, unless
  the priority has too many digits to be written. -/
  printed : ∃ members, settingsDocument s = .object members ∧
    PrintedMembers (s.table Field.camelName) members ∧
    ∀ (σ : Type) (w : World σ) (root : Path) (o : CommandLine.Options),
      load w.room w.tree w.environment root = .ok s →
      digitCount s.hyperclickPriority.natAbs ≤ Datum.digitLimit →
      ∃ text, printSettings w root o = ⟨0, text, none⟩ ∧
        Json.parse? text = some (.object members)
  /-- The variables of the environment, over files that can be read and have no unknown keys,
  whatever values they give. -/
  loaded : ∀ (room : Nat) (t : FileTree) (env : Environment) (root start : Path)
    (project file : Members), startOf t root = .ok start →
    ProjectLayer room t start project → FileLayer room t start file → Known project → Known file →
    s.hyperclickPriority.natAbs < 10 ^ 4299 →
    (∀ f, env.lookup (variableName f) = some (f.spelled (s.get f))) →
    load room t env root = .ok s

/-- Settings survive all their spellings. -/
theorem survives (s : Settings) :
  Survives s
  := by
  constructor
  case named => exact ofTable_table fun _ => .inl rfl
  case aliased => exact ofTable_table fun _ => .inr rfl
  case printed =>
    obtain ⟨members, same, prints⟩ := exists_printedMembers s
    refine ⟨members, same, prints, ?_⟩
    intro σ w root o loads short
    rw [← same]
    apply parse?_printSettings loads short o
  case loaded =>
    intro room t env root start project file at_start projectLayer fileLayer knownProject knownFile
      small set
    rw [load_eq_combined env at_start projectLayer fileLayer]
    apply combined_of_spelled _ knownProject knownFile set
    have few := Decimal.digitCount_le_of_lt_pow (by decide) small
    apply Nat.le_trans few (by decide)

/-! ### Variables over a project with both files -/

/-- Settings with a blank in front of the path and a negative priority. -/
def sampleSettings : Settings := ⟨" /opt/flow ", true, false, -12⟩

/-- The variables that spell them. -/
def sampleVariables : Environment :=
  Field.all.map fun f => (variableName f, f.spelled (sampleSettings.get f))

theorem survives_sample :
  sampleVariables = [("FLOWCOV_EXECUTABLE_PATH", " /opt/flow "),
      ("FLOWCOV_ONLY_IF_APPROPRIATE", "True"), ("FLOWCOV_SHOW_UNCOVERED", "False"),
      ("FLOWCOV_HYPERCLICK_PRIORITY", "-12")] ∧
    load CommandLine.sample.room CommandLine.sample.tree sampleVariables CommandLine.sampleStart =
      .ok sampleSettings
  := by
  refine ⟨by cbv, ?_⟩
  apply (survives sampleSettings).loaded _ _ _ _ _ _ _ (by cbv) CommandLine.projectLayer_sample
    CommandLine.fileLayer_sample
  · exact List.forall_mem_singleton.mpr ⟨.showUncovered, .inl rfl⟩
  · exact List.forall_mem_singleton.mpr ⟨.showUncovered, .inr rfl⟩
  · have small (k : Nat) (large : 2 ≤ k) : sampleSettings.hyperclickPriority.natAbs < 10 ^ k :=
      Nat.lt_of_lt_of_le (by decide) (Nat.pow_le_pow_right (by decide) large)
    exact small 4299 (by decide)
  · rintro (_ | _ | _ | _) <;> cbv

end Settings

end TypeCoverage
