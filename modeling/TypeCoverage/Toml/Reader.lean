import TypeCoverage.Toml.Document
import TypeCoverage.Toml.Number

/-!
# Reading settings files

`Toml.parse` reads a document: statements, one on a line, that open a table, open an item
of a list of tables or give a key a value.

Values are read by readers that call one another, for which there is only so much `room`: the
reader of a value, of an array, of a table in braces and of a pair take one of it each, and
give it back when they are done.  Where none is left, the document is too deep.  What holds no
other values is read without any.

A container around a value costs at most four readers and at least one character, so the
length of the text bounds the steps of the reading.
-/

namespace TypeCoverage.Toml

/-- The characters after a given beginning. -/
def after? (word : String) (cs : List Char) : Option (List Char) :=
  Json.dropWord? word.toList cs

/-- A bound on the steps of the readers that read a text. -/
def depthBound (cs : List Char) : Nat := 4 * (cs.length + 1)

mutual

/-- A value. -/
def readValue : Nat → Nat → List Char → Scan Datum
  | _, 0, _ => malformed
  | 0, _ + 1, _ => .error .tooDeep
  | room + 1, fuel + 1, cs =>
    match cs with
    | '"' :: _ => (readString cs).map fun (s, rest) => (.text s, rest)
    | '\'' :: _ => (readString cs).map fun (s, rest) => (.text s, rest)
    | '[' :: rest => readArray room fuel rest
    | '\x7b' :: rest => readInline room fuel (skipSpace rest)
    | _ =>
      match after? "true" cs, after? "false" cs with
      | some rest, _ => .ok (.boolean true, rest)
      | none, some rest => .ok (.boolean false, rest)
      | none, none => readNumber cs

/-- An array, after its opening bracket. -/
def readArray : Nat → Nat → List Char → Scan Datum
  | _, 0, _ => malformed
  | 0, _ + 1, _ => .error .tooDeep
  | room + 1, fuel + 1, cs =>
    match skipBetween cs with
    | .error e => .error e
    | .ok (']' :: rest) => .ok (.list [], rest)
    | .ok rest => readItems room fuel [] rest

/-- The items of an array from one of them on; `done` holds those before it, the last one
first. -/
def readItems : Nat → Nat → List Datum → List Char → Scan Datum
  | _, 0, _, _ => malformed
  | room, fuel + 1, done, cs =>
    match readValue room fuel cs with
    | .error e => .error e
    | .ok (v, rest) =>
      match skipBetween rest with
      | .error e => .error e
      | .ok (']' :: rest) => .ok (.list (v :: done).reverse, rest)
      | .ok (',' :: rest) =>
        match skipBetween rest with
        | .error e => .error e
        | .ok (']' :: rest) => .ok (.list (v :: done).reverse, rest)
        | .ok rest => readItems room fuel (v :: done) rest
      | .ok _ => malformed

/-- A table in braces, after its opening brace and white space. -/
def readInline : Nat → Nat → List Char → Scan Datum
  | _, 0, _ => malformed
  | 0, _ + 1, _ => .error .tooDeep
  | room + 1, fuel + 1, cs =>
    match cs with
    | '\x7d' :: rest => .ok (.table [], rest)
    | _ => readPairs room fuel .empty cs

/-- The pairs of a table in braces from one of them on. -/
def readPairs : Nat → Nat → InlineTable → List Char → Scan Datum
  | _, 0, _, _ => malformed
  | room, fuel + 1, t, cs =>
    match readPair room fuel cs with
    | .error e => .error e
    | .ok ((key, v), rest) =>
      match t.insert key v with
      | none => malformed
      | some t =>
        match skipSpace rest with
        | '\x7d' :: rest => .ok (.table t.members, rest)
        | ',' :: rest => readPairs room fuel t (skipSpace rest)
        | _ => malformed

/-- A key, an equals sign and a value. -/
def readPair : Nat → Nat → List Char → Scan (Key × Datum)
  | _, 0, _ => malformed
  | 0, _ + 1, _ => .error .tooDeep
  | room + 1, fuel + 1, cs =>
    match readKey cs with
    | .error e => .error e
    | .ok (key, '=' :: rest) =>
      (readValue room fuel (skipSpace rest)).map fun (v, rest) => ((key, v), rest)
    | .ok _ => malformed

end

/-- A document after a change, if the change was possible. -/
def changed (d? : Option Document) (rest : List Char) : Except Refusal (Document × List Char) :=
  match d? with
  | some d => .ok (d, rest)
  | none => malformed

/-- The opening of a table, after its bracket. -/
def readTable (d : Document) (cs : List Char) : Except Refusal (Document × List Char) :=
  match readKey (skipSpace cs) with
  | .error e => .error e
  | .ok (key, ']' :: rest) => changed (d.openTable key) rest
  | .ok _ => malformed

/-- The opening of an item of a list of tables, after its two brackets. -/
def readListItem (d : Document) (cs : List Char) : Except Refusal (Document × List Char) :=
  match readKey (skipSpace cs) with
  | .error e => .error e
  | .ok (key, ']' :: ']' :: rest) => changed (d.openItem key) rest
  | .ok _ => malformed

/-- One statement, if one begins here, and a comment after it. -/
def readStatement (room : Nat) (d : Document) (cs : List Char) :
    Except Refusal (Document × List Char) :=
  let statement := match cs with
    | '[' :: '[' :: rest => readListItem d rest
    | '[' :: rest => readTable d rest
    | '#' :: _ => .ok (d, cs)
    | c :: _ =>
      if isBare c || c = '"' || c = '\'' then
        match readPair room (depthBound cs) cs with
        | .error e => .error e
        | .ok ((key, v), rest) => changed (d.insert key v) rest
      else malformed
    | [] => .ok (d, cs)
  match statement with
  | .error e => .error e
  | .ok (d, rest) => (skipComment (skipSpace rest)).map (d, ·)

/-- The statements that are left, `fuel` lines at most. -/
def readLines (room : Nat) : Nat → Document → List Char → Except Refusal Members
  | 0, d, _ => .ok d.members
  | fuel + 1, d, cs =>
    match skipSpace cs with
    | [] => .ok d.members
    | '\n' :: rest => readLines room fuel d rest
    | cs =>
      match readStatement room d cs with
      | .error e => .error e
      | .ok (d, []) => .ok d.members
      | .ok (d, '\n' :: rest) => readLines room fuel d rest
      | .ok _ => malformed

/-- A carriage return before a line feed is left out. -/
def plainBreaks : List Char → List Char
  | '\r' :: '\n' :: cs => '\n' :: plainBreaks cs
  | c :: cs => c :: plainBreaks cs
  | [] => []

/-- The table that a text writes. -/
def parse (room : Nat) (s : String) : Except Refusal Members :=
  let cs := plainBreaks s.toList
  readLines room (cs.length + 1) .empty cs

end TypeCoverage.Toml
