/-!
# Findings of a validation

A `Finding` says at which place of a document which `Issue` was found.  A check that
fails answers all its findings in order, and `both` joins two checks so that the
findings of the first stand before those of the second.
-/

namespace TypeCoverage

/-- One step from a container to a part of it. -/
inductive Step where
  | key (name : String)
  | index (position : Nat)
  deriving DecidableEq, Repr

/-- What can be wrong with a part of a document. -/
inductive Issue where
  | malformed
  | missing
  | unknownKey
  | noSuchField (name : String)
  | notObject
  | notArray
  | notText
  | notInteger
  | fractional
  | notNumeral
  | tooLarge
  | notFinite
  | negative
  | notBoolean
  | notTruthWord
  deriving DecidableEq, Repr

/-- The name of an issue. -/
def Issue.code : Issue → String
  | .malformed => "json_invalid"
  | .missing => "missing"
  | .unknownKey => "extra_forbidden"
  | .noSuchField _ => "no_such_attribute"
  | .notObject => "model_type"
  | .notArray => "tuple_type"
  | .notText => "string_type"
  | .notInteger => "int_type"
  | .fractional => "int_from_float"
  | .notNumeral => "int_parsing"
  | .tooLarge => "int_parsing_size"
  | .notFinite => "finite_number"
  | .negative => "greater_than_equal"
  | .notBoolean => "bool_type"
  | .notTruthWord => "bool_parsing"

/-- The sentence for an issue; a malformed document has none. -/
def Issue.sentence? : Issue → Option String
  | .malformed => none
  | .missing => some "Field required"
  | .unknownKey => some "Extra inputs are not permitted"
  | .noSuchField name => some ("Object has no attribute '" ++ name ++ "'")
  | .notObject => some "Input should be an object"
  | .notArray => some "Input should be a valid array"
  | .notText => some "Input should be a valid string"
  | .notInteger => some "Input should be a valid integer"
  | .fractional => some "Input should be a valid integer, got a number with a fractional part"
  | .notNumeral => some "Input should be a valid integer, unable to parse string as an integer"
  | .tooLarge => some "Unable to parse input string as an integer, exceeded maximum size"
  | .notFinite => some "Input should be a finite number"
  | .negative => some "Input should be greater than or equal to 0"
  | .notBoolean => some "Input should be a valid boolean"
  | .notTruthWord => some "Input should be a valid boolean, unable to interpret input"

/-- An issue and the steps from the whole document to the place where it was found. -/
structure Finding where
  path : List Step
  issue : Issue
  deriving DecidableEq, Repr

/-- The answer of a check: a value, or everything that was found wrong. -/
abbrev Checked (α : Type) : Type := Except (List Finding) α

namespace Checked

variable {α β γ : Type}

/-- A check that fails at the place itself. -/
def fail (issue : Issue) : Checked α :=
  .error [⟨[], issue⟩]

/-- Places the findings of a check below one more step. -/
def below (step : Step) : Checked α → Checked α
  | .ok a => .ok a
  | .error findings => .error (findings.map fun f => { f with path := step :: f.path })

/-- Two checks, with the findings of both. -/
def both : Checked α → Checked β → Checked (α × β)
  | .ok a, .ok b => .ok (a, b)
  | .ok _, .error findings => .error findings
  | .error findings, .ok _ => .error findings
  | .error first, .error second => .error (first ++ second)

/-- A list of checks, with the findings of all. -/
def all (checks : List (Checked α)) : Checked (List α) :=
  checks.foldr (fun check rest => (both check rest).map fun (a, as) => a :: as) (.ok [])

theorem both_eq_ok {x : Checked α} {y : Checked β} {a : α} {b : β} :
  both x y = .ok (a, b) ↔ x = .ok a ∧ y = .ok b
  := by
  cases x <;> cases y <;> simp [both]

theorem map_eq_ok_iff {x : Checked α} {g : α → β} {b : β} :
  x.map g = .ok b ↔ ∃ a, x = .ok a ∧ g a = b
  := by
  cases x <;> simp [Except.map]

theorem below_eq_ok_iff {x : Checked α} {step : Step} {a : α} :
  below step x = .ok a ↔ x = .ok a
  := by
  cases x <;> simp [below]

/-- All of a list of checks succeed exactly if each of them does. -/
theorem all_eq_ok_iff {checks : List (Checked α)} {as : List α} :
  all checks = .ok as ↔ checks = as.map .ok
  := by
  induction checks generalizing as with
  | nil => cases as <;> simp [all]
  | cons check checks ih =>
    change (both check (all checks)).map _ = _ ↔ _
    rw [map_eq_ok_iff]
    constructor
    · rintro ⟨⟨a, rest⟩, ok, rfl⟩
      obtain ⟨first, others⟩ := both_eq_ok.mp ok
      rw [first, ih.mp others]
      rfl
    · intro same
      cases as with
      | nil => contradiction
      | cons a rest =>
        obtain ⟨first, others⟩ := List.cons.inj same
        exact ⟨(a, rest), both_eq_ok.mpr ⟨first, ih.mpr others⟩, rfl⟩

end Checked

/-- The opening words of a message about findings on a model. -/
def findingCount (findings : List Finding) (model : String) : String :=
  toString findings.length ++ " validation error" ++ (if findings.length = 1 then "" else "s")
    ++ " for " ++ model

end TypeCoverage
