import TypeCoverage.Json.Printer
import TypeCoverage.Proofs.Decimal.Numeral
import TypeCoverage.Proofs.Json.Grammar

/-!
# What is printed is read back

`Fits` says which values can stand inside some containers: their integers are short, and no
part of them lies too deep.  These are the values that the grammar can write, whoever wrote
them (`Phrase.fits`).  The printer writes all of them in every layout
(`Fits.writes_render`), by induction on the value: what it writes for a character, an atom
and a container is an escape, a lexeme and a phrase of the grammar.
-/

namespace TypeCoverage.Json

open Decimal Text

/-! ### Texts -/

theorem hexValue?_hexDigit {n : Nat} (small : n < 16) :
  hexValue? (hexDigit n) = some n
  := by
  have all : ∀ n < 16, hexValue? (hexDigit n) = some n := by decide
  exact all n small

/-- Four hexadecimal digits write a code unit. -/
theorem hex4_hexDigits {n : Nat} (small : n < 0x10000) :
  Hex4 n (hexDigits 4 n)
  := by
  have digit (m : Nat) : hexValue? (hexDigit (m % 16)) = some (m % 16) :=
    hexValue?_hexDigit (Nat.mod_lt m (by decide))
  have written := Hex4.digits (digit (n / 16 / 16 / 16)) (digit (n / 16 / 16)) (digit (n / 16))
    (digit n)
  have value : ((n / 16 / 16 / 16 % 16 * 16 + n / 16 / 16 % 16) * 16 + n / 16 % 16) * 16 +
      n % 16 = n := by omega
  rw [value] at written
  exact written

/-- A character is no surrogate. -/
theorem toNat_cases (c : Char) :
  c.toNat < 0xD800 ∨ 0xDFFF < c.toNat ∧ c.toNat < 0x110000
  := c.valid

/-- A character with one code unit is written as an escape of the unit. -/
theorem written_unitEscape {c : Char} (small : c.toNat < 0x10000) :
  Written c (unitEscape c.toNat)
  := by
  have units := CodeUnits.single (hex4_hexDigits small) ((toNat_cases c).imp_right And.left)
  rw [Char.ofNat_toNat] at units
  exact .escaped (.units units)

/-- Any other character is written as a high and a low surrogate. -/
theorem written_surrogates {c : Char} (large : 0x10000 ≤ c.toNat) :
  Written c (unitEscape (0xD800 + (c.toNat - 0x10000) / 0x400) ++
    unitEscape (0xDC00 + (c.toNat - 0x10000) % 0x400))
  := by
  have scalar := toNat_cases c
  have high : 0xD800 + (c.toNat - 0x10000) / 0x400 < 0xDC00 := by omega
  have low : 0xDC00 + (c.toNat - 0x10000) % 0x400 ≤ 0xDFFF := by omega
  have units := CodeUnits.pair (hex4_hexDigits (Nat.lt_trans high (by decide)))
    (hex4_hexDigits (Nat.lt_of_le_of_lt low (by decide)))
    ⟨Nat.le_add_right .., high⟩ ⟨Nat.le_add_right .., low⟩
  have value : 0x10000 + (0xD800 + (c.toNat - 0x10000) / 0x400 - 0xD800) * 0x400 +
      (0xDC00 + (c.toNat - 0x10000) % 0x400 - 0xDC00) = c.toNat := by omega
  rw [value, Char.ofNat_toNat] at units
  exact .escaped (.units units)

/-- Every character can stand inside quotes. -/
theorem written_escaped (c : Char) :
  Written c (escaped c)
  := by
  have short {letter c : Char} (known : (letter, c) ∈ shortEscapes) : Written c ['\\', letter] :=
    .escaped (.short known)
  unfold escaped
  iterate 7
    split
    · next same =>
      rw [same]
      exact short (by decide)
  split
  · next no_quote no_escape _ _ _ _ _ range =>
    simp only [Bool.and_eq_true, decide_eq_true_eq] at range
    exact .plain range.1 no_quote no_escape
  split
  · next small => exact written_unitEscape small
  · next large => exact written_surrogates (Nat.le_of_not_lt large)

theorem body_flatMap_escaped (s : List Char) :
  Body s (s.flatMap escaped)
  := by
  induction s with
  | nil => exact .nil
  | cons c s ih => exact .cons (written_escaped c) ih

theorem quoted_textLiteral (s : String) :
  Quoted s (textLiteral s)
  := ⟨_, body_flatMap_escaped s.toList, rfl⟩

/-! ### Atoms -/

/-- An atom whose number, if it is one, is short enough to be read. -/
def Atom.IsShort : Atom → Prop
  | .integer n => digitCount n.natAbs ≤ integerLimit
  | _ => True

instance : DecidablePred Atom.IsShort
  | .integer n => inferInstanceAs (Decidable (digitCount n.natAbs ≤ integerLimit))
  | .null | .boolean _ | .fractional | .text _ => inferInstanceAs (Decidable True)

theorem whole_numeral (n : Nat) :
  Whole (numeral n).toList
  := by
  refine ⟨⟨numeral_ne_nil n, fun c mem => isDigit_of_mem_numeral mem⟩, ?_⟩
  intro zero
  rw [eq_zero_of_head?_numeral zero]
  rfl

theorem number_numeral (negative : Bool) {n : Nat} (short : digitCount n ≤ integerLimit) :
  Number negative (.integer (if negative then -n else n)) (numeral n).toList
  := by
  rw [← length_numeral] at short
  have number : Number negative _ _ := .integer (whole_numeral n) short
  rw [readDigits_numeral] at number
  exact number

/-- A short atom is printed as a lexeme. -/
theorem Atom.IsShort.lexeme_print {a : Atom} (short : a.IsShort) :
  Lexeme a a.print
  := by
  cases a with
  | null => exact .null
  | boolean b => cases b with
    | true => exact .yes
    | false => exact .no
  | integer n =>
    rw [print, signedNumeral]
    split
    · next negative =>
      have number := number_numeral true short
      have value : (if true = true then -(n.natAbs : Int) else n.natAbs) = n := by
        rw [if_pos rfl]
        omega
      rw [value] at number
      rw [String.toList_append]
      exact .negative number
    · next positive =>
      have number := number_numeral false short
      have value : (if false = true then -(n.natAbs : Int) else n.natAbs) = n := by
        rw [if_neg (by decide)]
        omega
      rw [value] at number
      exact .number number
  | fractional => exact .undefined
  | text s => exact .text (quoted_textLiteral s)

theorem Number.isShort {negative : Bool} {a : Atom} {cs : List Char}
    (number : Number negative a cs) :
  a.IsShort
  := by
  cases number with
  | integer whole short =>
    have bound := Nat.le_trans (digitCount_readDigits_le whole.digits.1) short
    cases negative with
    | true => simpa [Atom.IsShort] using bound
    | false => simpa [Atom.IsShort] using bound
  | fractional => trivial

/-- Only short atoms can be written. -/
theorem Lexeme.isShort {a : Atom} {cs : List Char} (lexeme : Lexeme a cs) :
  a.IsShort
  := by
  cases lexeme with
  | number number => exact number.isShort
  | negative number => exact number.isShort
  | _ => trivial

/-! ### What can be written -/

/-- A value that can stand inside `d` containers. -/
inductive Fits : Nat → Value → Prop
  | atom {d : Nat} {a : Atom} (depth : d ≤ depthLimit) (short : a.IsShort) : Fits d (.atom a)
  | array {d : Nat} {vs : List Value} (depth : d ≤ depthLimit)
      (items : ∀ v ∈ vs, Fits (d + 1) v) : Fits d (.array vs)
  | object {d : Nat} {ms : List (String × Value)} (depth : d ≤ depthLimit)
      (values : ∀ m ∈ ms, Fits (d + 1) m.2) : Fits d (.object ms)

theorem fits_atom_iff {d : Nat} {a : Atom} :
  Fits d (.atom a) ↔ d ≤ depthLimit ∧ a.IsShort
  := by
  constructor
  · rintro ⟨depth, short⟩
    exact ⟨depth, short⟩
  · rintro ⟨depth, short⟩
    exact .atom depth short

theorem fits_array_iff {d : Nat} {vs : List Value} :
  Fits d (.array vs) ↔ d ≤ depthLimit ∧ ∀ v ∈ vs, Fits (d + 1) v
  := by
  constructor
  · rintro ⟨⟩
    constructor <;> assumption
  · rintro ⟨depth, items⟩
    exact .array depth items

theorem fits_object_iff {d : Nat} {ms : List (String × Value)} :
  Fits d (.object ms) ↔ d ≤ depthLimit ∧ ∀ m ∈ ms, Fits (d + 1) m.2
  := by
  constructor
  · rintro ⟨⟩
    constructor <;> assumption
  · rintro ⟨depth, values⟩
    exact .object depth values

/-- What a part of a document needs to stand inside `d` containers. -/
def Part.Fits (d : Nat) : Part → Prop
  | .value v => d ≤ depthLimit → Json.Fits d v
  | .element v => Json.Fits d v
  | .elements vs => ∀ v ∈ vs, Json.Fits d v
  | .member m => Json.Fits d m.2
  | .members ms => ∀ m ∈ ms, Json.Fits d m.2

/-- Whatever can be written fits. -/
theorem Phrase.fits {d : Nat} {part : Part} {cs : List Char} (phrase : Phrase d part cs) :
  part.Fits d
  := by
  induction phrase with
  | atom lexeme =>
    intro depth
    exact .atom depth lexeme.isShort
  | emptyArray =>
    intro depth
    exact .array depth (by simp)
  | array elements ih =>
    intro depth
    exact .array depth ih
  | emptyObject =>
    intro depth
    exact .object depth (by simp)
  | object members ih =>
    intro depth
    exact .object depth ih
  | element depth before value after ih => exact ih depth
  | lastElement last ih => exact List.forall_mem_singleton.mpr ih
  | moreElements first others ih ih' => exact List.forall_mem_cons.mpr ⟨ih, ih'⟩
  | member label value ih => exact ih
  | lastMember last ih => exact List.forall_mem_singleton.mpr ih
  | moreMembers first others ih ih' => exact List.forall_mem_cons.mpr ⟨ih, ih'⟩

/-! ### Containers -/

theorem blank_lineBreak (layout : Layout) (level : Nat) :
  Blank (layout.lineBreak level)
  := by
  cases layout with
  | oneLine => exact .nil
  | indented =>
    intro c mem
    obtain rfl | mem := List.mem_cons.mp mem
    · decide
    · rw [List.eq_of_mem_replicate mem]
      decide

/-- A separator is a comma and blanks. -/
theorem separator_eq (layout : Layout) (level : Nat) :
  ∃ gap, layout.separator level = ',' :: gap ∧ Blank gap
  := by
  cases layout with
  | oneLine => exact ⟨[' '], rfl, by simp [Blank, isSpace]⟩
  | indented => exact ⟨_, rfl, blank_lineBreak .indented level⟩

theorem Phrase.element_of_value {d : Nat} {v : Value} {cs : List Char} (depth : d ≤ depthLimit)
    (value : Phrase d (.value v) cs) :
  Phrase d (.element v) cs
  := by
  have element := Phrase.element depth .nil value .nil
  rwa [List.nil_append, List.append_nil] at element

/-- Blanks may stand before a value among blanks. -/
theorem Phrase.prepend_blank {d : Nat} {v : Value} {cs ws : List Char}
    (element : Phrase d (.element v) cs) (blank : Blank ws) :
  Phrase d (.element v) (ws ++ cs)
  := by
  cases element with
  | element depth before value after =>
    rw [← List.append_assoc, ← List.append_assoc]
    exact .element depth (blank.append before) value after

/-- A member as it is printed, among blanks. -/
theorem Phrase.member_textLiteral {d : Nat} {k : String} {v : Value} {cs ws ws' : List Char}
    (value : Phrase d (.element v) cs) (before : Blank ws) (after : Blank ws') :
  Phrase d (.member (k, v)) (ws ++ (textLiteral k ++ ':' :: ' ' :: cs) ++ ws')
  := by
  have gap : Blank [' '] := by simp [Blank, isSpace]
  have member := Phrase.member (.mk before (quoted_textLiteral k) .nil)
    ((value.prepend_blank gap).append_blank after)
  simpa using member

theorem printItems_eq (layout : Layout) (level : Nat) (vs : List Value) :
  printItems layout level vs = vs.flatMap fun v => layout.separator level ++ v.print layout level
  := by
  induction vs with
  | nil => rfl
  | cons v vs ih => rw [printItems, ih, List.flatMap_cons]

theorem printMembers_eq (layout : Layout) (level : Nat) (ms : List (String × Value)) :
  printMembers layout level ms = ms.flatMap fun m =>
    layout.separator level ++ (textLiteral m.1 ++ ':' :: ' ' :: m.2.print layout level)
  := by
  induction ms with
  | nil => rfl
  | cons m ms ih =>
    rw [printMembers, ih, List.flatMap_cons]
    simp

/-- Parts that may stand among blanks make up what stands inside a container, with a
separator before each but the first. -/
theorem inside_of_parts {α : Type} {P : α → List Char → Prop} {Q : List α → List Char → Prop}
    (one : ∀ a cs, P a cs → Q [a] cs)
    (more : ∀ a as cs rest, P a cs → Q as rest → Q (a :: as) (cs ++ ',' :: rest))
    {write : α → List Char} {a : α} {as : List α} {ws ws' : List Char}
    (parts : ∀ b ∈ a :: as, ∀ ws ws', Blank ws → Blank ws' → P b (ws ++ write b ++ ws'))
    (layout : Layout) (level : Nat) (before : Blank ws) (after : Blank ws') :
  Q (a :: as) (ws ++ write a ++ as.flatMap (fun b => layout.separator level ++ write b) ++ ws')
  := by
  induction as generalizing a ws with
  | nil =>
    rw [List.flatMap_nil, List.append_nil]
    exact one a _ (parts a List.mem_cons_self ws ws' before after)
  | cons b as ih =>
    obtain ⟨gap, same, blank⟩ := separator_eq layout level
    obtain ⟨first, others⟩ := List.forall_mem_cons.mp parts
    have longer := more a _ _ _ (first ws [] before .nil) (ih others blank)
    rw [List.flatMap_cons, same]
    rw [List.append_nil] at longer
    simpa [same] using longer

/-! ### Values -/

/-- The printer writes every value that fits. -/
theorem Fits.phrase_print {d : Nat} {v : Value} (fits : Fits d v) (layout : Layout)
    (level : Nat) :
  Phrase d (.element v) (v.print layout level)
  := by
  induction fits generalizing level with
  | atom depth short =>
    rw [Value.print]
    exact .element_of_value depth (.atom short.lexeme_print)
  | @array d vs depth items ih =>
    apply Phrase.element_of_value depth
    cases vs with
    | nil => exact .emptyArray .nil
    | cons v vs =>
      have part (w : Value) (mem : w ∈ v :: vs) (ws ws' : List Char) (before : Blank ws)
          (after : Blank ws') :
          Phrase (d + 1) (.element w) (ws ++ w.print layout (level + 1) ++ ws') :=
        ((ih w mem (level + 1)).prepend_blank before).append_blank after
      have elements := inside_of_parts (Q := fun vs => Phrase (d + 1) (.elements vs))
        (fun _ _ => .lastElement) (fun _ _ _ _ => .moreElements) part layout (level + 1)
        (blank_lineBreak layout (level + 1)) (blank_lineBreak layout level)
      rw [Value.print, printItems_eq]
      simpa using Phrase.array elements
  | @object d ms depth values ih =>
    apply Phrase.element_of_value depth
    cases ms with
    | nil => exact .emptyObject .nil
    | cons m ms =>
      have part (n : String × Value) (mem : n ∈ m :: ms) (ws ws' : List Char)
          (before : Blank ws) (after : Blank ws') :
          Phrase (d + 1) (.member n)
            (ws ++ (textLiteral n.1 ++ ':' :: ' ' :: n.2.print layout (level + 1)) ++ ws') :=
        (ih n mem (level + 1)).member_textLiteral before after
      have members := inside_of_parts (Q := fun ms => Phrase (d + 1) (.members ms))
        (fun _ _ => .lastMember) (fun _ _ _ _ => .moreMembers) part layout (level + 1)
        (blank_lineBreak layout (level + 1)) (blank_lineBreak layout level)
      rw [Value.print, printMembers_eq]
      simpa using Phrase.object members

theorem Fits.writes_render {v : Value} (fits : Fits 0 v) (layout : Layout) :
  Writes (v.render layout) v
  := by
  rw [Writes, Value.render, String.toList_ofList]
  exact fits.phrase_print layout 0

/-- The printer writes exactly the values that some text writes. -/
theorem writes_render_iff (v : Value) (layout : Layout) :
  Writes (v.render layout) v ↔ ∃ s, Writes s v
  := by
  constructor
  · intro writes
    exact ⟨_, writes⟩
  · rintro ⟨s, writes⟩
    have fits : Fits 0 v := writes.fits
    exact fits.writes_render layout

end TypeCoverage.Json
