/-!
# Reading UTF-8

`decodeNext` reads one character off the front of a list of bytes and says how the bytes
begin: with a well-formed character, with a malformed part of a given length, or not at
all.  The malformed part is the longest beginning of a well-formed sequence, or a single
byte.  `decodeDropping` leaves the malformed parts out; `decodeStrict` refuses them.
-/

namespace TypeCoverage.Text

/-- A byte that continues a sequence and lies between the given bounds. -/
def continues (low high : Nat) (b : UInt8) : Bool :=
  low ≤ b.toNat && b.toNat ≤ high

/-- The six low bits of a continuation byte. -/
def lowBits (b : UInt8) : Nat := b.toNat % 64

/-- The number of continuation bytes after a lead byte, the bits that the lead byte
contributes, and the bounds of the first continuation byte.  These bounds exclude
overlong forms, surrogates and code points above U+10FFFF. -/
def leadShape (lead : Nat) : Option (Nat × Nat × Nat × Nat) :=
  if 0xC2 ≤ lead && lead ≤ 0xDF then some (1, lead % 32, 0x80, 0xBF)
  else if lead = 0xE0 then some (2, lead % 16, 0xA0, 0xBF)
  else if lead = 0xED then some (2, lead % 16, 0x80, 0x9F)
  else if 0xE1 ≤ lead && lead ≤ 0xEF then some (2, lead % 16, 0x80, 0xBF)
  else if lead = 0xF0 then some (3, lead % 8, 0x90, 0xBF)
  else if 0xF1 ≤ lead && lead ≤ 0xF3 then some (3, lead % 8, 0x80, 0xBF)
  else if lead = 0xF4 then some (3, lead % 8, 0x80, 0x8F)
  else none

/-- Reads up to `count` continuation bytes, the first within the given bounds.  The
answer is the code point, if all are there, and the bytes that are left. -/
def readContinuation : Nat → Nat → Nat → Nat → List UInt8 → Option Nat × List UInt8
  | 0, code, _, _, rest => (some code, rest)
  | _ + 1, _, _, _, [] => (none, [])
  | count + 1, code, low, high, b :: rest =>
    if continues low high b then
      readContinuation count (code * 64 + lowBits b) 0x80 0xBF rest
    else (none, b :: rest)

theorem length_readContinuation_le (count code low high : Nat) (bytes : List UInt8) :
  (readContinuation count code low high bytes).2.length ≤ bytes.length
  := by
  induction count generalizing code low high bytes with
  | zero => simp [readContinuation]
  | succ count ih =>
    cases bytes with
    | nil => simp [readContinuation]
    | cons b rest =>
      unfold readContinuation
      split
      · exact Nat.le_succ_of_le (ih ..)
      · simp

/-- The character at the front of a non-empty list of bytes, if it is well-formed, and
the bytes after it or after the malformed part. -/
def decodeNext (lead : UInt8) (rest : List UInt8) : Option Char × List UInt8 :=
  if lead.toNat < 0x80 then (some (Char.ofNat lead.toNat), rest)
  else match leadShape lead.toNat with
    | none => (none, rest)
    | some (count, bits, low, high) =>
      let (code, left) := readContinuation count bits low high rest
      (code.map Char.ofNat, left)

theorem length_decodeNext_le (lead : UInt8) (rest : List UInt8) :
  (decodeNext lead rest).2.length ≤ rest.length
  := by
  unfold decodeNext
  split
  · simp
  · split
    · simp
    · exact length_readContinuation_le ..

/-- The well-formed characters of a list of bytes, in order, with the malformed parts
as `none`. -/
def decodeParts : List UInt8 → List (Option Char)
  | [] => []
  | lead :: rest =>
    (decodeNext lead rest).1 :: decodeParts (decodeNext lead rest).2
termination_by bytes => bytes.length
decreasing_by exact Nat.lt_succ_of_le (length_decodeNext_le lead rest)

/-- Decodes a list of bytes and leaves out what is malformed. -/
def decodeDropping (bytes : List UInt8) : String :=
  String.ofList ((decodeParts bytes).filterMap id)

/-- Decodes a list of bytes in which nothing is malformed. -/
def decodeStrict (bytes : List UInt8) : Option String :=
  let parts := decodeParts bytes
  if parts.all Option.isSome then some (String.ofList (parts.filterMap id)) else none

/-- The bytes of a text in UTF-8. -/
def encodeUtf8 (s : String) : List UInt8 :=
  s.toUTF8.toList

end TypeCoverage.Text
