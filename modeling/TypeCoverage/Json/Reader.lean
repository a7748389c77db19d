import TypeCoverage.Json.Token

/-!
# Reading JSON

The reader takes one token at a time and keeps the containers that are still open, so
that the depth of a document costs no recursion.  Its state says what may come next.
A value inside more than `depthLimit` containers is refused.  `parse?` reads a whole
text, with blanks between the tokens.
-/

namespace TypeCoverage.Json

/-- The most containers that a value may lie in. -/
def depthLimit : Nat := 200

/-- A container that is open around the value being read; what it holds so far stands
last first. -/
inductive Frame where
  | array (items : List Value)
  | object (members : List (String × Value)) (key : String)
  deriving Repr

/-- What the reader expects, inside the open containers, the innermost first. -/
inductive Reading where
  /-- A value. -/
  | value (stack : List Frame)
  /-- A value or the end of an array that has just begun. -/
  | firstItem (stack : List Frame)
  /-- A key or the end of an object that has just begun. -/
  | firstKey (stack : List Frame)
  /-- A key of an object with these members. -/
  | key (members : List (String × Value)) (stack : List Frame)
  /-- The colon after a key. -/
  | colon (members : List (String × Value)) (key : String) (stack : List Frame)
  /-- A comma or an end, after a value. -/
  | after (value : Value) (stack : List Frame)
  deriving Repr

namespace Reading

/-- The reader where a value has to begin. -/
def beginValue (stack : List Frame) (t : Token) : Option Reading :=
  if depthLimit < stack.length then none
  else match t with
    | .atom a => some (.after (.atom a) stack)
    | .openArray => some (.firstItem stack)
    | .openObject => some (.firstKey stack)
    | _ => none

/-- The reader after one more token, unless the token cannot stand there. -/
def step : Reading → Token → Option Reading
  | .value stack, t => beginValue stack t
  | .firstItem stack, .closeArray => some (.after (.array []) stack)
  | .firstItem stack, t => beginValue (.array [] :: stack) t
  | .firstKey stack, .closeObject => some (.after (.object []) stack)
  | .firstKey stack, .atom (.text k) => some (.colon [] k stack)
  | .key members stack, .atom (.text k) => some (.colon members k stack)
  | .colon members k stack, .colon => some (.value (.object members k :: stack))
  | .after v (.array items :: stack), .comma => some (.value (.array (v :: items) :: stack))
  | .after v (.array items :: stack), .closeArray =>
    some (.after (.array (v :: items).reverse) stack)
  | .after v (.object members k :: stack), .comma => some (.key ((k, v) :: members) stack)
  | .after v (.object members k :: stack), .closeObject =>
    some (.after (.object ((k, v) :: members).reverse) stack)
  | _, _ => none

/-- The value that has been read, if the text may end here. -/
def finish : Reading → Option Value
  | .after v [] => some v
  | _ => none

/-- Reads the rest of a text. -/
def run (r : Reading) (cs : List Char) : Option Value :=
  match h : cs.dropWhile isSpace with
  | [] => r.finish
  | c :: rest =>
    match h' : nextToken (c :: rest) with
    | none => none
    | some (t, rest) =>
      match r.step t with
      | none => none
      | some r => r.run rest
termination_by cs.length
decreasing_by
  have := nextToken_shortens h'
  have := length_dropWhile_le isSpace cs
  rw [h] at this
  omega

end Reading

/-- The value that a text writes, if it writes one. -/
def parse? (s : String) : Option Value :=
  (Reading.value []).run s.toList

end TypeCoverage.Json
