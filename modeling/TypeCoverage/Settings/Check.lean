import TypeCoverage.Finding
import TypeCoverage.Settings.Basic
import TypeCoverage.Text.Blank

/-!
# Checking settings

A field checks the datum given for it.  Truth values also have words and the numbers zero
and one; integers also have numerals and whole floating-point numbers.  `Settings.ofTable`
checks a whole table: each field under its camel-case spelling, or else its name, or else
its default, and then refuses the keys that no field has used.
-/

namespace TypeCoverage

open Decimal

namespace Field

/-- Whether an integer has 64 bits. -/
def isWord (n : Int) : Bool := -(twoTo 63 : Int) ≤ n && n < twoTo 63

/-- Whether a whole floating-point number lies within the 64-bit integers; both ends are
excluded. -/
def isInnerWord (n : Int) : Bool := -(twoTo 63 : Int) < n && n < twoTo 63

/-- The words for true. -/
def trueWords : List String := ["1", "on", "t", "true", "y", "yes"]

/-- The words for false. -/
def falseWords : List String := ["0", "off", "f", "false", "n", "no"]

/-- A truth value written as a word in any letter case. -/
def checkTruthWord (s : String) : Checked Bool :=
  let word := String.ofList (s.toList.map Char.toLower)
  if trueWords.contains word then .ok true
  else if falseWords.contains word then .ok false
  else .fail .notTruthWord

/-- A truth value written as the number zero or one. -/
def checkTruthNumber (n : Int) : Checked Bool :=
  if n = 0 then .ok false else if n = 1 then .ok true else .fail .notTruthWord

/-- A truth value. -/
def checkFlag : Datum → Checked Bool
  | .boolean b => .ok b
  | .integer n => if isWord n then checkTruthNumber n else .fail .notBoolean
  | .float x =>
    match x.toInt? with
    | some n => if isInnerWord n then checkTruthNumber n else .fail .notBoolean
    | none => .fail .notBoolean
  | .text s => checkTruthWord s
  | _ => .fail .notBoolean

/-- The most digits of a numeral. -/
def numeralLimit : Nat := 4300

/-- What follows the zeros in front of a numeral, with the underscores among them.  A zero
in front of the point, or at the end, is kept, and a minus sign may follow the zeros. -/
def dropLeadingZeros : List Char → Option (List Char)
  | '0' :: cs =>
    let rest := cs.dropWhile fun c => c = '0' || c = '_'
    let last := (('0' :: cs).take (cs.length + 1 - rest.length)).getLast?.getD '0'
    match rest with
    | [] => some [last]
    | '.' :: fraction => some (last :: '.' :: fraction)
    | c :: tail => if isDigit c || c = '-' then some (c :: tail) else none
  | c :: cs => if isDigit c || c = '-' then some (c :: cs) else none
  | [] => none

/-- A numeral without a point that only zeros follow. -/
def dropZeroFraction (cs : List Char) : List Char :=
  match cs.dropWhile (· ≠ '.') with
  | _ :: zero :: zeros => if (zero :: zeros).all (· = '0') then cs.takeWhile (· ≠ '.') else cs
  | _ => cs

/-- Whether two underscores stand side by side. -/
def hasDoubleUnderscore : List Char → Bool
  | '_' :: '_' :: _ => true
  | _ :: cs => hasDoubleUnderscore cs
  | [] => false

/-- A numeral without its underscores, if they stand singly and not at an end. -/
def dropUnderscores (cs : List Char) : List Char :=
  if cs.head? = some '_' || cs.getLast? = some '_' || hasDoubleUnderscore cs then cs
  else cs.filter (· ≠ '_')

/-- The integer that a minus sign, if any, and digits write, where no zero leads other
digits. -/
def plainInteger? (cs : List Char) : Option Int :=
  let (negative, digits) := match cs with
    | '-' :: digits => (true, digits)
    | digits => (false, digits)
  let canonical := digits = ['0'] || digits.head? ≠ some '0'
  if digits.isEmpty || digits.any (!isDigit ·) || !canonical || numeralLimit < digits.length then
    none
  else some (if negative then -(readDigits digits : Int) else readDigits digits)

/-- A numeral brought to its plain form: without white space around it, a plus sign in
front, zeros and underscores that lead it, a fraction of zeros, and single underscores. -/
def plainNumeral? (cs : List Char) : Option (List Char) :=
  let clean (cs : List Char) : Option (List Char) :=
    (dropLeadingZeros cs).map fun cs => dropUnderscores (dropZeroFraction cs)
  match Text.trimBy Text.isWhite cs with
  | '+' :: '-' :: _ => none
  | '+' :: cs => clean cs
  | '-' :: cs => (clean cs).map ('-' :: ·)
  | cs => clean cs

/-- Whether a text begins with more digits than an integer may have, the first of which is
not zero; a minus sign may stand in front. -/
def isTooLong (cs : List Char) : Bool :=
  let digits := (match cs with
    | '-' :: cs => cs
    | cs => cs).takeWhile isDigit
  digits.head? ≠ some '0' && numeralLimit < digits.length

/-- An integer written as a numeral.  A text that begins with too many digits is too large
whatever follows them. -/
def checkNumeral (s : String) : Checked Int :=
  if isTooLong s.toList then .fail .tooLarge
  else match (plainNumeral? s.toList).bind plainInteger? with
    | some n => .ok n
    | none => .fail .notNumeral

/-- An integer. -/
def checkNumber : Datum → Checked Int
  | .integer n => .ok n
  | .boolean b => .ok (if b then 1 else 0)
  | .float x =>
    if !x.isFinite then .fail .notFinite
    else match x.toInt? with
      | some n => if isInnerWord n then .ok n else .fail .tooLarge
      | none => .fail .fractional
  | .text s => checkNumeral s
  | _ => .fail .notInteger

/-- A text. -/
def checkText : Datum → Checked String
  | .text s => .ok s
  | _ => .fail .notText

/-- The value that a datum gives a field. -/
def check : (f : Field) → Datum → Checked f.Carrier
  | executablePath, d => checkText d
  | onlyIfAppropriate, d => checkFlag d
  | showUncovered, d => checkFlag d
  | hyperclickPriority, d => checkNumber d

/-- What a field makes of its own values. -/
theorem check_datum (f : Field) (v : f.Carrier) :
  f.check (f.datum v) = .ok v
  := by
  cases f <;> rfl

/-- The key under which a table has a field, with its value. -/
def find? (f : Field) (members : Members) : Option (String × Datum) :=
  match members.lookup f.camelName with
  | some d => some (f.camelName, d)
  | none => (members.lookup f.name).map (f.name, ·)

/-- The value that a table gives a field, or else the given one. -/
def checkIn (f : Field) (otherwise : f.Carrier) (members : Members) : Checked f.Carrier :=
  match f.find? members with
  | some (key, d) => .below (.key key) (f.check d)
  | none => .ok otherwise

end Field

namespace Settings

/-- The keys of a table that no field has used. -/
def unusedKeys (members : Members) : List String :=
  let used := Field.all.filterMap fun f => (f.find? members).map (·.1)
  (members.map (·.1)).filter (!used.contains ·)

/-- Refuses the keys that no field has used. -/
def checkKeys (members : Members) : Checked Unit :=
  match unusedKeys members with
  | [] => .ok ()
  | keys => .error (keys.map fun key => ⟨[.key key], .unknownKey⟩)

/-- The settings that a table gives. -/
def ofTable (members : Members) : Checked Settings :=
  let initial : Settings := {}
  let field (f : Field) : Checked f.Carrier := f.checkIn (initial.get f) members
  (Checked.both (field .executablePath) (Checked.both (field .onlyIfAppropriate)
    (Checked.both (field .showUncovered) (Checked.both (field .hyperclickPriority)
      (checkKeys members))))).map fun (path, only, shown, priority, _) =>
        ⟨path, only, shown, priority⟩

/-- Checks a value for the field with a name and puts it in. -/
def assign (s : Settings) (name : String) (d : Datum) : Checked Settings :=
  match Field.ofName? name with
  | none => .error [⟨[.key name], .noSuchField name⟩]
  | some f => (Checked.below (.key name) (f.check d)).map (s.set f)

end Settings

end TypeCoverage
