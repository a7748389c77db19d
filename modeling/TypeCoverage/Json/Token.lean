import TypeCoverage.Decimal.Digits
import TypeCoverage.Json.Value

/-!
# JSON tokens

`nextToken` reads one token off the front of a list of characters.  Texts hold no
characters below U+0020 and no half of a surrogate pair; the integer part of a number has
no leading zero and at most `integerLimit` digits.  The names `NaN`, `Infinity` and
`-Infinity` are read as numbers.  `nextToken_shortens` is the measure by
which a reader of tokens ends.
-/

namespace TypeCoverage.Json

open Decimal

/-- A token; `atom` holds every value without parts. -/
inductive Token where
  | openArray
  | closeArray
  | openObject
  | closeObject
  | comma
  | colon
  | atom (value : Atom)
  deriving DecidableEq, Repr

/-- Space, tab, line feed and carriage return. -/
def isSpace (c : Char) : Bool :=
  c = ' ' || c = '\t' || c = '\n' || c = '\r'

/-- The value of a hexadecimal digit in either letter case. -/
def hexValue? (c : Char) : Option Nat :=
  let n := c.toNat
  if '0'.toNat ≤ n && n ≤ '9'.toNat then some (n - '0'.toNat)
  else if 'a'.toNat ≤ n && n ≤ 'f'.toNat then some (n - 'a'.toNat + 10)
  else if 'A'.toNat ≤ n && n ≤ 'F'.toNat then some (n - 'A'.toNat + 10)
  else none

/-- The number written by four hexadecimal digits, and what follows them. -/
def readHex4 : List Char → Option (Nat × List Char)
  | a :: b :: c :: d :: rest => do
    let a ← hexValue? a
    let b ← hexValue? b
    let c ← hexValue? c
    let d ← hexValue? d
    return (((a * 16 + b) * 16 + c) * 16 + d, rest)
  | _ => none

/-- The character of a code unit that stands after `\u`; a high surrogate takes the low
one that has to follow it. -/
def readUnit (cs : List Char) : Option (Char × List Char) :=
  match readHex4 cs with
  | none => none
  | some (unit, rest) =>
    if unit < 0xD800 || 0xDFFF < unit then some (Char.ofNat unit, rest)
    else if 0xDC00 ≤ unit then none
    else match rest with
      | '\\' :: 'u' :: rest =>
        match readHex4 rest with
        | none => none
        | some (low, rest) =>
          if 0xDC00 ≤ low && low ≤ 0xDFFF then
            some (Char.ofNat (0x10000 + (unit - 0xD800) * 0x400 + (low - 0xDC00)), rest)
          else none
      | _ => none

/-- The character of an escape, after its backslash. -/
def readEscape : List Char → Option (Char × List Char)
  | '"' :: cs => some ('"', cs)
  | '\\' :: cs => some ('\\', cs)
  | '/' :: cs => some ('/', cs)
  | 'b' :: cs => some ('\x08', cs)
  | 'f' :: cs => some ('\x0c', cs)
  | 'n' :: cs => some ('\n', cs)
  | 'r' :: cs => some ('\r', cs)
  | 't' :: cs => some ('\t', cs)
  | 'u' :: cs => readUnit cs
  | _ => none

theorem readHex4_shortens {cs rest : List Char} {n : Nat} (h : readHex4 cs = some (n, rest)) :
  rest.length < cs.length
  := by
  unfold readHex4 at h
  split at h
  · simp only [Option.bind_eq_bind, Option.bind_eq_some_iff, Option.pure_def,
      Option.some.injEq, Prod.mk.injEq] at h
    obtain ⟨_, _, _, _, _, _, _, _, _, rfl⟩ := h
    simp only [List.length_cons]
    omega
  · simp at h

theorem readUnit_shortens {cs rest : List Char} {c : Char} (h : readUnit cs = some (c, rest)) :
  rest.length < cs.length
  := by
  unfold readUnit at h
  split at h
  · simp at h
  · next unit left h₁ =>
    have := readHex4_shortens h₁
    split at h
    · simp_all
    · split at h
      · simp at h
      · split at h
        · split at h
          · simp at h
          · next low last h₂ =>
            have := readHex4_shortens h₂
            split at h
            · simp_all only [Option.some.injEq, Prod.mk.injEq, List.length_cons]
              omega
            · simp at h
        · simp at h

theorem readEscape_shortens {cs rest : List Char} {c : Char}
  (h : readEscape cs = some (c, rest)) :
  rest.length < cs.length
  := by
  unfold readEscape at h
  split at h <;> try (simp only [Option.some.injEq, Prod.mk.injEq] at h; simp [← h.2])
  · have := readUnit_shortens h
    simp only [List.length_cons]
    omega
  · simp at h

/-- The text up to the closing quote, and what follows it.  `done` holds the characters
read so far, the last one first. -/
def readText (done : List Char) : List Char → Option (String × List Char)
  | [] => none
  | '"' :: cs => some (String.ofList done.reverse, cs)
  | '\\' :: cs =>
    match h : readEscape cs with
    | none => none
    | some (c, rest) =>
      have := readEscape_shortens h
      readText (c :: done) rest
  | c :: cs => if c.toNat < 0x20 then none else readText (c :: done) cs
termination_by cs => cs.length
decreasing_by all_goals simp only [List.length_cons]; omega

theorem readText_shortens {done cs rest : List Char} {s : String}
  (h : readText done cs = some (s, rest)) :
  rest.length < cs.length
  := by
  fun_induction readText done cs with
  | case1 => simp at h
  | case2 => simp_all
  | case3 => simp at h
  | case4 done cs c left h₁ short ih =>
    have := ih h
    simp only [List.length_cons]
    omega
  | case5 => simp at h
  | case6 done c cs _ _ _ ih =>
    have := ih h
    simp only [List.length_cons]
    omega

/-- The most digits that an integer may have. -/
def integerLimit : Nat := 4300

/-- The integer part of a number: a zero, or digits that begin with another one. -/
def readWhole : List Char → Option (List Char × List Char)
  | '0' :: cs => some (['0'], cs)
  | c :: cs =>
    if isDigit c then some (c :: cs.takeWhile isDigit, cs.dropWhile isDigit) else none
  | [] => none

/-- Digits, at least one, are passed over. -/
def skipDigits : List Char → Option (List Char)
  | c :: cs => if isDigit c then some (cs.dropWhile isDigit) else none
  | [] => none

/-- An exponent is passed over, if one begins here. -/
def skipExponent (cs : List Char) : Option (Bool × List Char) :=
  match cs with
  | [] => some (false, cs)
  | e :: rest =>
    if e = 'e' || e = 'E' then
      let digits := match rest with
        | '+' :: rest => rest
        | '-' :: rest => rest
        | rest => rest
      (skipDigits digits).map (true, ·)
    else some (false, cs)

/-- A fraction is passed over, if one begins here. -/
def skipFraction : List Char → Option (Bool × List Char)
  | '.' :: cs => (skipDigits cs).map (true, ·)
  | cs => some (false, cs)

/-- A number without its sign. -/
def readNumber (negative : Bool) (cs : List Char) : Option (Atom × List Char) :=
  match readWhole cs with
  | none => none
  | some (digits, rest) =>
    if integerLimit < digits.length then none
    else match skipFraction rest with
      | none => none
      | some (fraction, rest) =>
        match skipExponent rest with
        | none => none
        | some (exponent, rest) =>
          if fraction || exponent then some (.fractional, rest)
          else
            let n : Int := readDigits digits
            some (.integer (if negative then -n else n), rest)

/-- Removes a given beginning. -/
def dropWord? (word : List Char) (cs : List Char) : Option (List Char) :=
  if word.isPrefixOf cs then some (cs.drop word.length) else none

/-- A named value is passed over. -/
def readName (cs : List Char) : Option (Atom × List Char) :=
  match cs with
  | 'n' :: _ => (dropWord? "null".toList cs).map (.null, ·)
  | 't' :: _ => (dropWord? "true".toList cs).map (.boolean true, ·)
  | 'f' :: _ => (dropWord? "false".toList cs).map (.boolean false, ·)
  | 'N' :: _ => (dropWord? "NaN".toList cs).map (.fractional, ·)
  | 'I' :: _ => (dropWord? "Infinity".toList cs).map (.fractional, ·)
  | '-' :: 'I' :: _ => (dropWord? "-Infinity".toList cs).map (.fractional, ·)
  | '-' :: rest => readNumber true rest
  | _ => readNumber false cs

/-- The token at the front of a list of characters, and what follows it. -/
def nextToken : List Char → Option (Token × List Char)
  | '[' :: cs => some (.openArray, cs)
  | ']' :: cs => some (.closeArray, cs)
  | '\x7b' :: cs => some (.openObject, cs)
  | '\x7d' :: cs => some (.closeObject, cs)
  | ',' :: cs => some (.comma, cs)
  | ':' :: cs => some (.colon, cs)
  | '"' :: cs => (readText [] cs).map fun (s, rest) => (.atom (.text s), rest)
  | cs => (readName cs).map fun (a, rest) => (.atom a, rest)

theorem length_dropWhile_le (p : Char → Bool) (cs : List Char) :
  (cs.dropWhile p).length ≤ cs.length
  := (List.dropWhile_suffix p).sublist.length_le

theorem readWhole_shortens {cs digits rest : List Char} (h : readWhole cs = some (digits, rest)) :
  rest.length < cs.length
  := by
  unfold readWhole at h
  split at h
  · simp_all
  · next c cs _ =>
    have := length_dropWhile_le isDigit cs
    split at h
    · simp only [Option.some.injEq, Prod.mk.injEq] at h
      simp only [← h.2, List.length_cons]
      omega
    · simp at h
  · simp at h

theorem skipDigits_shortens {cs rest : List Char} (h : skipDigits cs = some rest) :
  rest.length < cs.length
  := by
  unfold skipDigits at h
  split at h
  · next c cs =>
    have := length_dropWhile_le isDigit cs
    split at h
    · simp only [Option.some.injEq] at h
      simp only [← h, List.length_cons]
      omega
    · simp at h
  · simp at h

theorem skipFraction_length_le {cs rest : List Char} {b : Bool}
  (h : skipFraction cs = some (b, rest)) :
  rest.length ≤ cs.length
  := by
  unfold skipFraction at h
  split at h
  · obtain ⟨left, h₁, h₂⟩ := Option.map_eq_some_iff.1 h
    have := skipDigits_shortens h₁
    simp only [Prod.mk.injEq] at h₂
    simp only [← h₂.2, List.length_cons]
    omega
  · simp_all

theorem skipExponent_length_le {cs rest : List Char} {b : Bool}
  (h : skipExponent cs = some (b, rest)) :
  rest.length ≤ cs.length
  := by
  unfold skipExponent at h
  split at h
  · simp_all
  · next e tail =>
    split at h
    · obtain ⟨left, h₁, h₂⟩ := Option.map_eq_some_iff.1 h
      have short := skipDigits_shortens h₁
      simp only [Prod.mk.injEq] at h₂
      simp only [← h₂.2, List.length_cons]
      split at short <;> simp_all only [List.length_cons] <;> omega
    · simp_all

theorem readNumber_shortens {negative : Bool} {cs rest : List Char} {a : Atom}
  (h : readNumber negative cs = some (a, rest)) :
  rest.length < cs.length
  := by
  unfold readNumber at h
  split at h
  · simp at h
  · next digits left h₁ =>
    have := readWhole_shortens h₁
    split at h
    · simp at h
    · split at h
      · simp at h
      · next h₂ =>
        have := skipFraction_length_le h₂
        split at h
        · simp at h
        · next h₃ =>
          have := skipExponent_length_le h₃
          split at h <;>
          · simp only [Option.some.injEq, Prod.mk.injEq] at h
            rw [← h.2]
            omega

theorem dropWord?_shortens {word cs rest : List Char} (nonempty : word ≠ [])
  (h : dropWord? word cs = some rest) :
  rest.length < cs.length
  := by
  unfold dropWord? at h
  split at h
  · next isPrefix =>
    have := (List.isPrefixOf_iff_prefix.1 isPrefix).length_le
    have := List.length_pos_iff.2 nonempty
    simp only [Option.some.injEq] at h
    rw [← h, List.length_drop]
    omega
  · simp at h

theorem readName_shortens {cs rest : List Char} {a : Atom} (h : readName cs = some (a, rest)) :
  rest.length < cs.length
  := by
  unfold readName at h
  split at h <;>
  first
  | obtain ⟨left, h₁, h₂⟩ := Option.map_eq_some_iff.1 h
    simp only [Prod.mk.injEq] at h₂
    rw [← h₂.2]
    exact dropWord?_shortens (by simp) h₁
  | have := readNumber_shortens h
    simp only [List.length_cons]
    omega
  | exact readNumber_shortens h

/-- Reading a token uses up at least one character. -/
theorem nextToken_shortens {cs rest : List Char} {t : Token} (h : nextToken cs = some (t, rest)) :
  rest.length < cs.length
  := by
  unfold nextToken at h
  split at h <;> try (simp only [Option.some.injEq, Prod.mk.injEq] at h; simp [← h.2])
  · obtain ⟨⟨s, left⟩, h₁, h₂⟩ := Option.map_eq_some_iff.1 h
    have := readText_shortens h₁
    simp only [Prod.mk.injEq] at h₂
    simp only [← h₂.2, List.length_cons]
    omega
  · obtain ⟨⟨a, left⟩, h₁, h₂⟩ := Option.map_eq_some_iff.1 h
    simp only [Prod.mk.injEq] at h₂
    rw [← h₂.2]
    exact readName_shortens h₁

end TypeCoverage.Json
