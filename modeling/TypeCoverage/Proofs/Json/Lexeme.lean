import TypeCoverage.Json.Reader

/-!
# How atoms and marks are written

`Lexeme` says which characters write an atom: a name, a number or a text in quotes, and
`Spells` adds the marks of containers.  Both are grammars; how they are read plays no part
in them.

The reader of tokens agrees with them.  It takes off the front of a text what spells its
token (`spells_of_nextToken`), and it reads what spells a token, provided that no character
follows that would go on with a number (`nextToken_of_lexeme`).
-/

namespace TypeCoverage.Json

open Decimal

/-! ### Numbers -/

/-- Digits, at least one. -/
def Digits (cs : List Char) : Prop := cs ≠ [] ∧ ∀ c ∈ cs, isDigit c = true

/-- The integer part of a number: it begins with a zero only if it is zero. -/
structure Whole (cs : List Char) : Prop where
  digits : Digits cs
  canonical : cs.head? = some '0' → cs = ['0']

/-- A fraction, and whether there is one. -/
inductive Fraction : Bool → List Char → Prop
  | absent : Fraction false []
  | present {ds : List Char} (digits : Digits ds) : Fraction true ('.' :: ds)

/-- An exponent, and whether there is one. -/
inductive Exponent : Bool → List Char → Prop
  | absent : Exponent false []
  | present {mark : Char} {sign ds : List Char} (letter : mark = 'e' ∨ mark = 'E')
      (signed : sign ∈ [[], ['+'], ['-']]) (digits : Digits ds) :
    Exponent true (mark :: (sign ++ ds))

/-- A number without its sign. -/
inductive Number (negative : Bool) : Atom → List Char → Prop
  | integer {ds : List Char} (whole : Whole ds) (short : ds.length ≤ integerLimit) :
    Number negative (.integer (if negative then -(readDigits ds : Int) else readDigits ds)) ds
  | fractional {ds fs es : List Char} {fraction exponent : Bool} (whole : Whole ds)
      (short : ds.length ≤ integerLimit) (first : Fraction fraction fs)
      (second : Exponent exponent es) (either : (fraction || exponent) = true) :
    Number negative .fractional (ds ++ fs ++ es)

/-! ### Texts -/

/-- Four hexadecimal digits and the number that they write. -/
inductive Hex4 : Nat → List Char → Prop
  | digits {a b c d : Char} {w x y z : Nat} (first : hexValue? a = some w)
      (second : hexValue? b = some x) (third : hexValue? c = some y)
      (fourth : hexValue? d = some z) :
    Hex4 (((w * 16 + x) * 16 + y) * 16 + z) [a, b, c, d]

/-- The code units of a character: one that is no surrogate, or a high and a low one. -/
inductive CodeUnits : Char → List Char → Prop
  | single {n : Nat} {ds : List Char} (unit : Hex4 n ds) (plain : n < 0xD800 ∨ 0xDFFF < n) :
    CodeUnits (Char.ofNat n) ds
  | pair {high low : Nat} {hs ls : List Char} (first : Hex4 high hs) (second : Hex4 low ls)
      (is_high : 0xD800 ≤ high ∧ high < 0xDC00) (is_low : 0xDC00 ≤ low ∧ low ≤ 0xDFFF) :
    CodeUnits (Char.ofNat (0x10000 + (high - 0xD800) * 0x400 + (low - 0xDC00)))
      (hs ++ '\\' :: 'u' :: ls)

/-- The letters of the short escapes, with what they stand for. -/
def shortEscapes : List (Char × Char) :=
  [('"', '"'), ('\\', '\\'), ('/', '/'), ('b', '\x08'), ('f', '\x0c'), ('n', '\n'), ('r', '\r'),
    ('t', '\t')]

/-- What follows the backslash of an escape. -/
inductive Escape : Char → List Char → Prop
  | short {letter c : Char} (known : (letter, c) ∈ shortEscapes) : Escape c [letter]
  | units {c : Char} {cs : List Char} (units : CodeUnits c cs) : Escape c ('u' :: cs)

/-- A character inside quotes. -/
inductive Written : Char → List Char → Prop
  | plain {c : Char} (printable : 0x20 ≤ c.toNat) (no_quote : c ≠ '"') (no_escape : c ≠ '\\') :
    Written c [c]
  | escaped {c : Char} {cs : List Char} (escape : Escape c cs) : Written c ('\\' :: cs)

/-- The characters inside quotes. -/
inductive Body : List Char → List Char → Prop
  | nil : Body [] []
  | cons {c : Char} {s cs rest : List Char} (first : Written c cs) (others : Body s rest) :
    Body (c :: s) (cs ++ rest)

/-- A text in quotes. -/
def Quoted (s : String) (cs : List Char) : Prop :=
  ∃ body, Body s.toList body ∧ cs = '"' :: (body ++ ['"'])

/-! ### Atoms and tokens -/

/-- What writes an atom. -/
inductive Lexeme : Atom → List Char → Prop
  | null : Lexeme .null "null".toList
  | yes : Lexeme (.boolean true) "true".toList
  | no : Lexeme (.boolean false) "false".toList
  | undefined : Lexeme .fractional "NaN".toList
  | infinite : Lexeme .fractional "Infinity".toList
  | negativeInfinite : Lexeme .fractional "-Infinity".toList
  | number {a : Atom} {cs : List Char} (number : Number false a cs) : Lexeme a cs
  | negative {a : Atom} {cs : List Char} (number : Number true a cs) : Lexeme a ('-' :: cs)
  | text {s : String} {cs : List Char} (quoted : Quoted s cs) : Lexeme (.text s) cs

/-- What writes a token. -/
inductive Spells : Token → List Char → Prop
  | openArray : Spells .openArray ['[']
  | closeArray : Spells .closeArray [']']
  | openObject : Spells .openObject ['\x7b']
  | closeObject : Spells .closeObject ['\x7d']
  | comma : Spells .comma [',']
  | colon : Spells .colon [':']
  | atom {a : Atom} {cs : List Char} (lexeme : Lexeme a cs) : Spells (.atom a) cs

/-- A text that does not go on with a number before it. -/
def Ends (rest : List Char) : Prop :=
  ∀ c ∈ rest.head?, isDigit c = false ∧ c ≠ '.' ∧ c ≠ 'e' ∧ c ≠ 'E'

/-! ### Reading numbers -/

/-- Digits off the front of a text, as many as there are. -/
theorem takeWhile_digits {ds rest : List Char} (digits : ∀ c ∈ ds, isDigit c = true)
    (ends : ∀ c ∈ rest.head?, isDigit c = false) :
  (ds ++ rest).takeWhile isDigit = ds ∧ (ds ++ rest).dropWhile isDigit = rest
  := by
  rw [List.takeWhile_append_of_pos digits, List.dropWhile_append_of_pos digits]
  cases rest with
  | nil => simp
  | cons c rest =>
    have other : isDigit c = false := ends c rfl
    simp [other]

/-- A text that begins with a digit does not begin with another character. -/
theorem cons_ne_of_isDigit {c d : Char} {cs after : List Char} (digit : isDigit c = true)
    (other : isDigit d = false) :
  c :: cs ≠ d :: after
  := by
  rintro ⟨⟩
  rw [digit] at other
  contradiction

theorem Digits.append_ne {ds rest after : List Char} {c : Char} (digits : Digits ds)
    (other : isDigit c = false) :
  ds ++ rest ≠ c :: after
  := by
  obtain ⟨nonempty, digits⟩ := digits
  cases ds with
  | nil => contradiction
  | cons d ds => exact cons_ne_of_isDigit (digits d List.mem_cons_self) other

/-- A digit and the digits that follow it. -/
theorem digits_cons_takeWhile {c : Char} (digit : isDigit c = true) (cs : List Char) :
  Digits (c :: cs.takeWhile isDigit)
  := by
  refine ⟨by simp, ?_⟩
  intro d mem
  obtain rfl | mem := List.mem_cons.mp mem
  · exact digit
  · exact List.all_eq_true.mp List.all_takeWhile d mem

theorem digits_of_skipDigits {cs rest : List Char} (skips : skipDigits cs = some rest) :
  ∃ ds, cs = ds ++ rest ∧ Digits ds
  := by
  unfold skipDigits at skips
  split at skips
  · next c cs =>
    split at skips
    · next digit =>
      refine ⟨c :: cs.takeWhile isDigit, ?_, digits_cons_takeWhile digit cs⟩
      rw [← Option.some.inj skips, List.cons_append, List.takeWhile_append_dropWhile]
    · contradiction
  · contradiction

theorem skipDigits_of_digits {ds rest : List Char} (digits : Digits ds)
    (ends : ∀ c ∈ rest.head?, isDigit c = false) :
  skipDigits (ds ++ rest) = some rest
  := by
  obtain ⟨nonempty, digits⟩ := digits
  cases ds with
  | nil => contradiction
  | cons c ds =>
    rw [List.forall_mem_cons] at digits
    obtain ⟨first, others⟩ := digits
    simp only [List.cons_append, skipDigits, first, if_true,
      (takeWhile_digits others ends).2]

theorem whole_of_readWhole {cs ds rest : List Char} (reads : readWhole cs = some (ds, rest)) :
  cs = ds ++ rest ∧ Whole ds
  := by
  unfold readWhole at reads
  split at reads
  · cases reads
    refine ⟨rfl, ⟨by simp, ?_⟩, by simp⟩
    intro c mem
    rw [List.mem_singleton.mp mem]
    decide
  · next c cs other =>
    split at reads
    · next digit =>
      cases reads
      refine ⟨?_, digits_cons_takeWhile digit cs, ?_⟩
      · rw [List.cons_append, List.takeWhile_append_dropWhile]
      · intro zero
        obtain rfl : c = '0' := by simpa using zero
        exact (other rfl).elim
    · contradiction
  · contradiction

theorem readWhole_of_whole {ds rest : List Char} (whole : Whole ds)
    (ends : ∀ c ∈ rest.head?, isDigit c = false) :
  readWhole (ds ++ rest) = some (ds, rest)
  := by
  obtain ⟨⟨nonempty, digits⟩, canonical⟩ := whole
  cases ds with
  | nil => contradiction
  | cons c ds =>
    by_cases zero : c = '0'
    · obtain rfl : ds = [] := by simpa [zero] using canonical
      rw [zero]
      rfl
    · rw [List.forall_mem_cons] at digits
      obtain ⟨first, others⟩ := digits
      obtain ⟨take, drop⟩ := takeWhile_digits others ends
      rw [List.cons_append, readWhole]
      · rw [if_pos first, take, drop]
      · exact zero

theorem fraction_of_skipFraction {cs rest : List Char} {b : Bool}
    (skips : skipFraction cs = some (b, rest)) :
  ∃ fs, cs = fs ++ rest ∧ Fraction b fs
  := by
  unfold skipFraction at skips
  split at skips
  · obtain ⟨rest', skips, same⟩ := Option.map_eq_some_iff.mp skips
    cases same
    obtain ⟨ds, rfl, digits⟩ := digits_of_skipDigits skips
    exact ⟨'.' :: ds, rfl, .present digits⟩
  · cases skips
    exact ⟨[], rfl, .absent⟩

theorem skipFraction_of_fraction {fs rest : List Char} {b : Bool} (fraction : Fraction b fs)
    (ends : ∀ c ∈ rest.head?, isDigit c = false ∧ c ≠ '.') :
  skipFraction (fs ++ rest) = some (b, rest)
  := by
  cases fraction with
  | absent =>
    rw [List.nil_append]
    unfold skipFraction
    split
    · exact absurd rfl (ends '.' rfl).2
    · rfl
  | present digits =>
    simp only [List.cons_append, skipFraction,
      skipDigits_of_digits digits fun c mem => (ends c mem).1]
    rfl

theorem exponent_of_skipExponent {cs rest : List Char} {b : Bool}
    (skips : skipExponent cs = some (b, rest)) :
  ∃ es, cs = es ++ rest ∧ Exponent b es
  := by
  unfold skipExponent at skips
  split at skips
  · cases skips
    exact ⟨[], rfl, .absent⟩
  · next mark after =>
    split at skips
    · next letter =>
      obtain ⟨rest', skips, same⟩ := Option.map_eq_some_iff.mp skips
      cases same
      obtain ⟨ds, split_digits, digits⟩ := digits_of_skipDigits skips
      have signed : ∃ sign ∈ [[], ['+'], ['-']], after = sign ++ (ds ++ rest) := by
        rw [← split_digits]
        split
        · exact ⟨['+'], by simp, rfl⟩
        · exact ⟨['-'], by simp, rfl⟩
        · exact ⟨[], by simp, rfl⟩
      obtain ⟨sign, known, rfl⟩ := signed
      refine ⟨mark :: (sign ++ ds), by simp, .present ?_ known digits⟩
      simpa using letter
    · cases skips
      exact ⟨[], rfl, .absent⟩

theorem skipExponent_of_exponent {es rest : List Char} {b : Bool} (exponent : Exponent b es)
    (ends : Ends rest) :
  skipExponent (es ++ rest) = some (b, rest)
  := by
  cases exponent with
  | absent =>
    rw [List.nil_append]
    unfold skipExponent
    split
    · rfl
    · next mark after =>
      obtain ⟨-, -, small, large⟩ := ends mark rfl
      simp [small, large]
  | @present mark sign ds letter signed digits =>
    have skips := skipDigits_of_digits digits fun c mem => (ends c mem).1
    have begins : mark = 'e' || mark = 'E' := by simpa using letter
    obtain rfl | rfl | rfl : sign = [] ∨ sign = ['+'] ∨ sign = ['-'] := by simpa using signed
    · simp only [List.cons_append, List.nil_append, skipExponent, begins, if_true]
      split
      · next same => exact absurd same (digits.append_ne (by decide))
      · next same => exact absurd same (digits.append_ne (by decide))
      · rw [skips]
        rfl
    · simp only [List.cons_append, List.nil_append, skipExponent, begins, if_true, skips]
      rfl
    · simp only [List.cons_append, List.nil_append, skipExponent, begins, if_true, skips]
      rfl

theorem Exponent.ends {es rest : List Char} {b : Bool} (exponent : Exponent b es)
    (ends : Ends rest) :
  ∀ c ∈ (es ++ rest).head?, isDigit c = false ∧ c ≠ '.'
  := by
  cases exponent with
  | absent =>
    intro c mem
    exact ⟨(ends c mem).1, (ends c mem).2.1⟩
  | present letter =>
    rintro c ⟨⟩
    obtain rfl | rfl := letter <;> decide

theorem Fraction.ends {fs rest : List Char} {b : Bool} (fraction : Fraction b fs)
    (ends : ∀ c ∈ rest.head?, isDigit c = false ∧ c ≠ '.') :
  ∀ c ∈ (fs ++ rest).head?, isDigit c = false
  := by
  cases fraction with
  | absent =>
    intro c mem
    exact (ends c mem).1
  | present =>
    rintro c ⟨⟩
    decide

theorem number_of_readNumber {negative : Bool} {cs rest : List Char} {a : Atom}
    (reads : readNumber negative cs = some (a, rest)) :
  ∃ l, cs = l ++ rest ∧ Number negative a l
  := by
  unfold readNumber at reads
  split at reads
  · contradiction
  · next ds after reads_whole =>
    obtain ⟨rfl, whole⟩ := whole_of_readWhole reads_whole
    split at reads
    · contradiction
    · next short =>
      rw [Nat.not_lt] at short
      split at reads
      · contradiction
      · next fraction after skips_fraction =>
        obtain ⟨fs, rfl, first⟩ := fraction_of_skipFraction skips_fraction
        split at reads
        · contradiction
        · next exponent after skips_exponent =>
          obtain ⟨es, rfl, second⟩ := exponent_of_skipExponent skips_exponent
          split at reads
          · next either =>
            cases reads
            exact ⟨ds ++ fs ++ es, by simp, .fractional whole short first second either⟩
          · next neither =>
            cases reads
            rw [Bool.or_eq_true, not_or, Bool.not_eq_true, Bool.not_eq_true] at neither
            obtain ⟨rfl, rfl⟩ := neither
            clear skips_fraction skips_exponent reads_whole
            cases first
            cases second
            exact ⟨ds, rfl, .integer whole short⟩

theorem readNumber_parts (negative : Bool) {fraction exponent : Bool} {ds fs es rest : List Char}
    (whole : Whole ds) (short : ds.length ≤ integerLimit) (first : Fraction fraction fs)
    (second : Exponent exponent es) (ends : Ends rest) :
  readNumber negative (ds ++ fs ++ es ++ rest) =
    if fraction || exponent then some (.fractional, rest)
    else some (.integer (if negative then -(readDigits ds : Int) else readDigits ds), rest)
  := by
  have ends_second := second.ends ends
  have ends_first := first.ends ends_second
  rw [List.append_assoc, List.append_assoc, readNumber, readWhole_of_whole whole ends_first]
  simp only [if_neg (Nat.not_lt_of_le short), skipFraction_of_fraction first ends_second,
    skipExponent_of_exponent second ends]

theorem readNumber_of_number {negative : Bool} {a : Atom} {l rest : List Char}
    (number : Number negative a l) (ends : Ends rest) :
  readNumber negative (l ++ rest) = some (a, rest)
  := by
  cases number with
  | @integer ds whole short =>
    have reads := readNumber_parts negative whole short .absent .absent ends
    simpa using reads
  | fractional whole short first second either =>
    rw [readNumber_parts negative whole short first second ends, if_pos either]

/-! ### Reading texts -/

theorem readHex4_eq_some_iff {cs rest : List Char} {n : Nat} :
  readHex4 cs = some (n, rest) ↔ ∃ ds, cs = ds ++ rest ∧ Hex4 n ds
  := by
  constructor
  · intro reads
    unfold readHex4 at reads
    split at reads
    · simp only [Option.bind_eq_bind, Option.bind_eq_some_iff, Option.pure_def,
        Option.some.injEq, Prod.mk.injEq] at reads
      obtain ⟨w, first, x, second, y, third, z, fourth, rfl, rfl⟩ := reads
      exact ⟨_, rfl, .digits first second third fourth⟩
    · contradiction
  · rintro ⟨_, rfl, ⟨first, second, third, fourth⟩⟩
    simp [readHex4, first, second, third, fourth]

theorem readUnit_eq_some_iff {cs rest : List Char} {c : Char} :
  readUnit cs = some (c, rest) ↔ ∃ l, cs = l ++ rest ∧ CodeUnits c l
  := by
  constructor
  · intro reads
    unfold readUnit at reads
    split at reads
    · contradiction
    · next unit after hex =>
      obtain ⟨hs, rfl, first⟩ := readHex4_eq_some_iff.mp hex
      split at reads
      · next plain =>
        cases reads
        exact ⟨hs, rfl, .single first (by simpa using plain)⟩
      · next surrogate =>
        have range : 0xD800 ≤ unit ∧ unit ≤ 0xDFFF := by simpa using surrogate
        split at reads
        · contradiction
        · next is_high =>
          split at reads
          · split at reads
            · contradiction
            · next low after hex =>
              obtain ⟨ls, rfl, second⟩ := readHex4_eq_some_iff.mp hex
              split at reads
              · next is_low =>
                have units := CodeUnits.pair first second ⟨range.1, Nat.lt_of_not_le is_high⟩
                  (by simpa using is_low)
                obtain ⟨rfl, rfl⟩ := Prod.mk.inj (Option.some.inj reads)
                exact ⟨hs ++ '\\' :: 'u' :: ls, by simp, units⟩
              · contradiction
          · contradiction
  · rintro ⟨l, rfl, units⟩
    cases units with
    | @single n _ unit plain =>
      have plain : (decide (n < 0xD800) || decide (0xDFFF < n)) = true := by simpa using plain
      rw [readUnit, readHex4_eq_some_iff.mpr ⟨_, rfl, unit⟩]
      exact if_pos plain
    | @pair high low hs ls first second is_high is_low =>
      rw [List.append_assoc, readUnit, readHex4_eq_some_iff.mpr ⟨_, rfl, first⟩]
      simp only [List.cons_append, readHex4_eq_some_iff.mpr ⟨_, rfl, second⟩]
      have surrogate : ¬ (decide (high < 0xD800) || decide (0xDFFF < high)) = true := by
        simp only [Bool.or_eq_true, decide_eq_true_eq]
        omega
      rw [if_neg surrogate, if_neg (Nat.not_le_of_lt is_high.2), if_pos (by simpa using is_low)]

theorem readEscape_eq_some_iff {cs rest : List Char} {c : Char} :
  readEscape cs = some (c, rest) ↔ ∃ l, cs = l ++ rest ∧ Escape c l
  := by
  constructor
  · intro reads
    unfold readEscape at reads
    split at reads
    case h_9 units =>
      obtain ⟨l, rfl, units⟩ := readUnit_eq_some_iff.mp reads
      exact ⟨'u' :: l, rfl, .units units⟩
    case h_10 => contradiction
    all_goals
      cases reads
      exact ⟨[_], rfl, .short (by decide)⟩
  · rintro ⟨l, rfl, escape⟩
    cases escape with
    | @short letter c known =>
      simp only [shortEscapes, List.mem_cons, List.not_mem_nil, or_false, Prod.mk.injEq] at known
      obtain ⟨rfl, rfl⟩ | ⟨rfl, rfl⟩ | ⟨rfl, rfl⟩ | ⟨rfl, rfl⟩ | ⟨rfl, rfl⟩ | ⟨rfl, rfl⟩ |
        ⟨rfl, rfl⟩ | ⟨rfl, rfl⟩ := known
      all_goals rfl
    | units units => exact readUnit_eq_some_iff.mpr ⟨_, rfl, units⟩

theorem body_of_readText {done cs rest : List Char} {s : String}
    (reads : readText done cs = some (s, rest)) :
  ∃ chars body, cs = body ++ '"' :: rest ∧ Body chars body ∧
    s = String.ofList (done.reverse ++ chars)
  := by
  fun_induction readText done cs with
  | case1 => contradiction
  | case2 done cs =>
    cases reads
    exact ⟨[], [], rfl, .nil, by simp⟩
  | case3 => contradiction
  | case4 done cs c left escape short ih =>
    obtain ⟨chars, body, rfl, written, rfl⟩ := ih reads
    obtain ⟨l, rfl, escaped⟩ := readEscape_eq_some_iff.mp escape
    exact ⟨c :: chars, '\\' :: l ++ body, by simp, .cons (.escaped escaped) written, by simp⟩
  | case5 => contradiction
  | case6 done c cs no_quote no_escape printable ih =>
    obtain ⟨chars, body, rfl, written, rfl⟩ := ih reads
    rw [Nat.not_lt] at printable
    exact ⟨c :: chars, [c] ++ body, rfl, .cons (.plain printable no_quote no_escape) written,
      by simp⟩

theorem readText_of_body {chars body : List Char} (written : Body chars body)
    (done rest : List Char) :
  readText done (body ++ '"' :: rest) = some (String.ofList (done.reverse ++ chars), rest)
  := by
  induction written generalizing done with
  | nil => simp [readText]
  | @cons c s cs body first others ih =>
    rw [List.append_assoc]
    cases first with
    | plain printable no_quote no_escape =>
      rw [List.singleton_append, readText, if_neg (Nat.not_lt_of_le printable), ih]
      · simp
      · exact no_quote
      · exact no_escape
    | @escaped cs escape =>
      have reads : readEscape (cs ++ (body ++ '"' :: rest)) = some (c, body ++ '"' :: rest) :=
        readEscape_eq_some_iff.mpr ⟨cs, rfl, escape⟩
      rw [List.cons_append, readText]
      split
      · next fails =>
        rw [reads] at fails
        contradiction
      · next c' after ok =>
        rw [reads] at ok
        cases ok
        rw [ih]
        simp

/-! ### Reading atoms and tokens -/

theorem dropWord?_eq_some_iff {word cs rest : List Char} :
  dropWord? word cs = some rest ↔ cs = word ++ rest
  := by
  rw [dropWord?]
  constructor
  · intro drops
    split at drops
    · next begins =>
      obtain ⟨after, rfl⟩ := List.isPrefixOf_iff_prefix.mp begins
      rw [← Option.some.inj drops, List.drop_left]
    · contradiction
  · rintro rfl
    rw [if_pos (List.isPrefixOf_iff_prefix.mpr (List.prefix_append word rest)), List.drop_left]

theorem lexeme_of_readName {cs rest : List Char} {a : Atom}
    (reads : readName cs = some (a, rest)) :
  ∃ l, cs = l ++ rest ∧ Lexeme a l
  := by
  have named {word : List Char} {b : Atom} (lexeme : Lexeme b word)
      (reads : (dropWord? word cs).map (b, ·) = some (a, rest)) :
      ∃ l, cs = l ++ rest ∧ Lexeme a l := by
    obtain ⟨after, drops, same⟩ := Option.map_eq_some_iff.mp reads
    cases same
    exact ⟨word, dropWord?_eq_some_iff.mp drops, lexeme⟩
  unfold readName at reads
  split at reads
  · exact named .null reads
  · exact named .yes reads
  · exact named .no reads
  · exact named .undefined reads
  · exact named .infinite reads
  · exact named .negativeInfinite reads
  · obtain ⟨l, rfl, number⟩ := number_of_readNumber reads
    exact ⟨'-' :: l, rfl, .negative number⟩
  · obtain ⟨l, rfl, number⟩ := number_of_readNumber reads
    exact ⟨l, rfl, .number number⟩

/-- What the reader takes off the front of a text spells the token that it answers. -/
theorem spells_of_nextToken {cs rest : List Char} {t : Token}
    (reads : nextToken cs = some (t, rest)) :
  ∃ l, cs = l ++ rest ∧ Spells t l
  := by
  unfold nextToken at reads
  split at reads
  case h_7 cs =>
    obtain ⟨⟨s, after⟩, reads, same⟩ := Option.map_eq_some_iff.mp reads
    cases same
    obtain ⟨chars, body, rfl, written, rfl⟩ := body_of_readText reads
    refine ⟨'"' :: (body ++ ['"']), by simp, .atom (.text ⟨body, ?_, rfl⟩)⟩
    simpa using written
  case h_8 cs _ _ _ _ _ _ _ =>
    obtain ⟨⟨a, after⟩, reads, same⟩ := Option.map_eq_some_iff.mp reads
    cases same
    obtain ⟨l, rfl, lexeme⟩ := lexeme_of_readName reads
    exact ⟨l, rfl, .atom lexeme⟩
  all_goals cases reads
  · exact ⟨_, rfl, .openArray⟩
  · exact ⟨_, rfl, .closeArray⟩
  · exact ⟨_, rfl, .openObject⟩
  · exact ⟨_, rfl, .closeObject⟩
  · exact ⟨_, rfl, .comma⟩
  · exact ⟨_, rfl, .colon⟩

/-- A number begins with a digit. -/
theorem Number.head {negative : Bool} {a : Atom} {l : List Char} (number : Number negative a l) :
  ∃ c rest, l = c :: rest ∧ isDigit c = true
  := by
  have begins {ds rest : List Char} (whole : Whole ds) :
      ∃ c after, ds ++ rest = c :: after ∧ isDigit c = true := by
    obtain ⟨⟨nonempty, digits⟩, -⟩ := whole
    cases ds with
    | nil => contradiction
    | cons c ds => exact ⟨c, ds ++ rest, rfl, digits c List.mem_cons_self⟩
  cases number with
  | integer whole =>
    rw [← List.append_nil l]
    exact begins whole
  | fractional whole =>
    rw [List.append_assoc]
    exact begins whole

theorem nextToken_of_digit {c : Char} (digit : isDigit c = true) (cs : List Char) :
  nextToken (c :: cs) = (readNumber false (c :: cs)).map fun (a, rest) => (.atom a, rest)
  := by
  rw [nextToken, readName]
  all_goals
    intro after
    exact cons_ne_of_isDigit digit (by decide)

theorem nextToken_of_minus_digit {c : Char} (digit : isDigit c = true) (cs : List Char) :
  nextToken ('-' :: c :: cs) = (readNumber true (c :: cs)).map fun (a, rest) => (.atom a, rest)
  := by
  rw [nextToken, readName]
  · intro after
    exact cons_ne_of_isDigit digit (by decide)
  all_goals
    intro after same
    cases same

/-- The reader takes what writes an atom off the front of a text. -/
theorem nextToken_of_lexeme {a : Atom} {l rest : List Char} (lexeme : Lexeme a l)
    (ends : Ends rest) :
  nextToken (l ++ rest) = some (.atom a, rest)
  := by
  cases lexeme with
  | null => rfl
  | yes => rfl
  | no => rfl
  | undefined => rfl
  | infinite => rfl
  | negativeInfinite => rfl
  | number number =>
    obtain ⟨c, after, rfl, digit⟩ := number.head
    rw [List.cons_append, nextToken_of_digit digit, ← List.cons_append,
      readNumber_of_number number ends]
    rfl
  | negative number =>
    obtain ⟨c, after, rfl, digit⟩ := number.head
    rw [List.cons_append, List.cons_append, nextToken_of_minus_digit digit, ← List.cons_append,
      readNumber_of_number number ends]
    rfl
  | @text s _ quoted =>
    obtain ⟨body, written, rfl⟩ := quoted
    rw [List.cons_append, List.append_assoc, List.singleton_append, nextToken,
      readText_of_body written]
    simp

end TypeCoverage.Json
