import TypeCoverage.Failure
import TypeCoverage.Settings.Check

/-!
# A store of settings with observers

A `Store` holds settings and, for each of them, the observers that want to hear of its
changes, in the order of their registration.  Changing a setting answers the new store and
the observers to be called, if the value is a new one; the calls themselves are the
caller's.  A registration is known by its place among all registrations ever made.
-/

namespace TypeCoverage.Settings

/-- Settings and the observers of each of them, of some kind `κ`, in the order in which
they were registered. -/
structure Store (κ : Type) where
  settings : Settings
  observers : List (Field × κ)

namespace Store

variable {κ : Type}

/-- The store of some settings, with no observers. -/
def ofSettings (settings : Settings) : Store κ := ⟨settings, []⟩

/-- The observers of a field, in the order of registration. -/
def observersOf (s : Store κ) (f : Field) : List κ :=
  (s.observers.filter (·.1 == f)).map (·.2)

/-- Changes a setting.  The answer is the new store and the observers to be called with
the new value: all those of the field, or none if the value is the old one. -/
def change (s : Store κ) (f : Field) (v : f.Carrier) : Store κ × List κ :=
  ({ s with settings := s.settings.set f v },
    if v = s.settings.get f then [] else s.observersOf f)

/-- Registers an observer of a field. -/
def observe (s : Store κ) (f : Field) (k : κ) : Store κ :=
  { s with observers := s.observers ++ [(f, k)] }

/-- Removes the first registration of an observer of a field. -/
def forget [DecidableEq κ] (s : Store κ) (f : Field) (k : κ) : Store κ :=
  { s with observers := s.observers.erase (f, k) }

@[simp]
theorem settings_change (s : Store κ) (f : Field) (v : f.Carrier) :
  (s.change f v).1.settings = s.settings.set f v
  := rfl

@[simp]
theorem observers_change (s : Store κ) (f : Field) (v : f.Carrier) :
  (s.change f v).1.observers = s.observers
  := rfl

theorem observersOf_observe (s : Store κ) (f g : Field) (k : κ) :
  (s.observe f k).observersOf g = s.observersOf g ++ (if f = g then [k] else [])
  := by
  by_cases h : f = g <;> simp [observersOf, observe, h]

/-- The value that a datum gives the field with a name, or why there is none.  A datum
that cannot be shown makes the refusal itself fail. -/
def checkValue (name : String) (d : Datum) : Except Failure ((f : Field) × f.Carrier) :=
  match Field.ofName? name with
  | none => .error (.noAttribute "Settings" name)
  | some f =>
    match Checked.below (.key name) (f.check d) with
    | .ok v => .ok ⟨f, v⟩
    | .error findings =>
      match d.shown? with
      | some shown => .error (.fault (.config (.invalidValue name shown findings)))
      | none => .error (.badValue none)

end Store

end TypeCoverage.Settings
