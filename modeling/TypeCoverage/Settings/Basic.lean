import TypeCoverage.Datum

/-!
# Settings

There are four settings, the values of `Field`, each with a type of values of its own.
`Settings.get` and `Settings.set` read and replace one of them, and `get_set` says that a
value that was set is read back while the others stay.  A field has a name and a second
spelling in camel case.
-/

namespace TypeCoverage

/-- The settings of the coverage integration. -/
structure Settings where
  executablePath : String := ""
  onlyIfAppropriate : Bool := false
  showUncovered : Bool := false
  hyperclickPriority : Int := 0
  deriving DecidableEq, Repr

/-- The names of the settings, in the order in which they are declared. -/
inductive Field where
  | executablePath
  | onlyIfAppropriate
  | showUncovered
  | hyperclickPriority
  deriving DecidableEq, Repr

namespace Field

/-- All fields in the order of declaration. -/
def all : List Field :=
  [executablePath, onlyIfAppropriate, showUncovered, hyperclickPriority]

theorem mem_all (f : Field) :
  f ∈ all
  := by
  cases f <;> simp [all]

theorem nodup_all :
  all.Nodup
  := by decide

/-- The name of a field. -/
def name : Field → String
  | executablePath => "executable_path"
  | onlyIfAppropriate => "only_if_appropriate"
  | showUncovered => "show_uncovered"
  | hyperclickPriority => "hyperclick_priority"

/-- The second spelling of a field. -/
def camelName : Field → String
  | executablePath => "executablePath"
  | onlyIfAppropriate => "onlyIfAppropriate"
  | showUncovered => "showUncovered"
  | hyperclickPriority => "hyperclickPriority"

/-- The field with a name. -/
def ofName? (s : String) : Option Field := all.find? (·.name == s)

theorem ofName?_name (f : Field) :
  ofName? f.name = some f
  := by
  cases f <;> decide

/-- The type of the values of a field. -/
abbrev Carrier : Field → Type
  | executablePath => String
  | onlyIfAppropriate => Bool
  | showUncovered => Bool
  | hyperclickPriority => Int

instance (f : Field) : DecidableEq f.Carrier :=
  match f with
  | executablePath => inferInstanceAs (DecidableEq String)
  | onlyIfAppropriate => inferInstanceAs (DecidableEq Bool)
  | showUncovered => inferInstanceAs (DecidableEq Bool)
  | hyperclickPriority => inferInstanceAs (DecidableEq Int)

/-- A value of a field as a datum. -/
def datum : (f : Field) → f.Carrier → Datum
  | executablePath, s => .text s
  | onlyIfAppropriate, b => .boolean b
  | showUncovered, b => .boolean b
  | hyperclickPriority, n => .integer n

end Field

namespace Settings

/-- The value of a setting. -/
def get (s : Settings) : (f : Field) → f.Carrier
  | .executablePath => s.executablePath
  | .onlyIfAppropriate => s.onlyIfAppropriate
  | .showUncovered => s.showUncovered
  | .hyperclickPriority => s.hyperclickPriority

/-- The settings with one value replaced. -/
def set (s : Settings) : (f : Field) → f.Carrier → Settings
  | .executablePath, v => { s with executablePath := v }
  | .onlyIfAppropriate, v => { s with onlyIfAppropriate := v }
  | .showUncovered, v => { s with showUncovered := v }
  | .hyperclickPriority, v => { s with hyperclickPriority := v }

@[simp]
theorem get_set_self (s : Settings) (f : Field) (v : f.Carrier) :
  (s.set f v).get f = v
  := by
  cases f <;> rfl

theorem get_set_of_ne (s : Settings) {f g : Field} (v : f.Carrier) (h : g ≠ f) :
  (s.set f v).get g = s.get g
  := by
  cases f <;> cases g <;> first | rfl | exact absurd rfl h

/-- Settings are equal if they agree on every field. -/
theorem eq_of_get_eq {s t : Settings} (h : ∀ f, s.get f = t.get f) :
  s = t
  := by
  have h₁ := h .executablePath
  have h₂ := h .onlyIfAppropriate
  have h₃ := h .showUncovered
  have h₄ := h .hyperclickPriority
  cases s
  cases t
  simp_all [get]

@[simp]
theorem set_get (s : Settings) (f : Field) :
  s.set f (s.get f) = s
  := by
  cases f <;> rfl

/-- The settings as a table, under the names that `spelling` gives the fields. -/
def table (s : Settings) (spelling : Field → String) : Members :=
  Field.all.map fun f => (spelling f, f.datum (s.get f))

end Settings

end TypeCoverage
