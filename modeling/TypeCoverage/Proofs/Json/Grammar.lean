import TypeCoverage.Proofs.Json.Lexeme

/-!
# The grammar of JSON

`Phrase` is the grammar of values, of values with blanks around them, and of what stands
inside containers.  `Json.Writes` says that a text writes a value.  A value may lie in at
most `depthLimit` containers.

The reader accepts exactly this grammar (`parse?_eq_some_iff`).  `Consumed` says of every
state of the reader what has been read before it; each token keeps it
(`Consumed.step`), and so does a whole reading.  Conversely the reader comes through every
phrase (`passes_of_phrase`), by induction on the phrase.
-/

namespace TypeCoverage.Json

open Decimal (isDigit)

/-! ### Phrases -/

/-- White space between the tokens. -/
def Blank (cs : List Char) : Prop := ∀ c ∈ cs, isSpace c = true

/-- What a phrase may write: a value, a value among blanks, or parts of a container. -/
inductive Part where
  | value (v : Value)
  | element (v : Value)
  | elements (vs : List Value)
  | member (m : String × Value)
  | members (ms : List (String × Value))

/-- A key among blanks, with its colon. -/
inductive Label : String → List Char → Prop
  | mk {k : String} {ws q ws' : List Char} (before : Blank ws) (key : Quoted k q)
      (after : Blank ws') : Label k (ws ++ q ++ ws' ++ [':'])

/-- What writes a part of a document inside `d` containers. -/
inductive Phrase : Nat → Part → List Char → Prop
  | atom {d : Nat} {a : Atom} {cs : List Char} (lexeme : Lexeme a cs) :
    Phrase d (.value (.atom a)) cs
  | emptyArray {d : Nat} {ws : List Char} (blank : Blank ws) :
    Phrase d (.value (.array [])) ('[' :: (ws ++ [']']))
  | array {d : Nat} {vs : List Value} {cs : List Char}
      (elements : Phrase (d + 1) (.elements vs) cs) :
    Phrase d (.value (.array vs)) ('[' :: (cs ++ [']']))
  | emptyObject {d : Nat} {ws : List Char} (blank : Blank ws) :
    Phrase d (.value (.object [])) ('\x7b' :: (ws ++ ['\x7d']))
  | object {d : Nat} {ms : List (String × Value)} {cs : List Char}
      (members : Phrase (d + 1) (.members ms) cs) :
    Phrase d (.value (.object ms)) ('\x7b' :: (cs ++ ['\x7d']))
  | element {d : Nat} {v : Value} {ws cs ws' : List Char} (depth : d ≤ depthLimit)
      (before : Blank ws) (value : Phrase d (.value v) cs) (after : Blank ws') :
    Phrase d (.element v) (ws ++ cs ++ ws')
  | lastElement {d : Nat} {v : Value} {cs : List Char} (last : Phrase d (.element v) cs) :
    Phrase d (.elements [v]) cs
  | moreElements {d : Nat} {v : Value} {vs : List Value} {cs rest : List Char}
      (first : Phrase d (.element v) cs) (others : Phrase d (.elements vs) rest) :
    Phrase d (.elements (v :: vs)) (cs ++ ',' :: rest)
  | member {d : Nat} {k : String} {v : Value} {ks cs : List Char} (label : Label k ks)
      (value : Phrase d (.element v) cs) : Phrase d (.member (k, v)) (ks ++ cs)
  | lastMember {d : Nat} {m : String × Value} {cs : List Char} (last : Phrase d (.member m) cs) :
    Phrase d (.members [m]) cs
  | moreMembers {d : Nat} {m : String × Value} {ms : List (String × Value)}
      {cs rest : List Char} (first : Phrase d (.member m) cs)
      (others : Phrase d (.members ms) rest) : Phrase d (.members (m :: ms)) (cs ++ ',' :: rest)

/-- A text writes a value. -/
def Writes (s : String) (v : Value) : Prop := Phrase 0 (.element v) s.toList

/-! ### What the reader has consumed -/

theorem Blank.nil :
  Blank []
  := by simp [Blank]

theorem Blank.append {ws ws' : List Char} (first : Blank ws) (second : Blank ws') :
  Blank (ws ++ ws')
  := by
  intro c mem
  obtain mem | mem := List.mem_append.mp mem
  · exact first c mem
  · exact second c mem

/-- Blanks may follow a value among blanks. -/
theorem Phrase.append_blank {d : Nat} {v : Value} {cs ws : List Char}
    (element : Phrase d (.element v) cs) (blank : Blank ws) :
  Phrase d (.element v) (cs ++ ws)
  := by
  cases element with
  | element depth before value after =>
    rw [List.append_assoc]
    exact .element depth before value (after.append blank)

/-- Parts of a container, the last one first, each with a comma behind it. -/
inductive Commaed {α : Type} (P : α → List Char → Prop) : List α → List Char → Prop
  | nil : Commaed P [] []
  | snoc {a : α} {done : List α} {before cs : List Char} (others : Commaed P done before)
      (last : P a cs) : Commaed P (a :: done) (before ++ cs ++ [','])

/-- The last parts of a container complete those with commas behind them. -/
theorem Commaed.close {α : Type} {P : α → List Char → Prop} (Q : List α → List Char → Prop)
    (more : ∀ a as cs rest, P a cs → Q as rest → Q (a :: as) (cs ++ ',' :: rest))
    {done as : List α} {before cs : List Char} (commaed : Commaed P done before)
    (last : Q as cs) :
  Q (done.reverse ++ as) (before ++ cs)
  := by
  induction commaed generalizing as cs with
  | nil => exact last
  | @snoc a done before cs' _ part ih =>
    have longer := ih (more a as cs' cs part last)
    simpa using longer

/-- Only quotes write a text. -/
theorem Lexeme.quoted {s : String} {cs : List Char} (lexeme : Lexeme (.text s) cs) :
  Quoted s cs
  := by
  cases lexeme with
  | number number => cases number
  | negative number => cases number
  | text quoted => exact quoted

/-- What a reader has consumed on its way to a state. -/
inductive Consumed : Reading → List Char → Prop
  | start : Consumed (.value []) []
  | openArray {stack : List Frame} {cs ws : List Char} (before : Consumed (.value stack) cs)
      (depth : stack.length ≤ depthLimit) (blank : Blank ws) :
    Consumed (.firstItem stack) (cs ++ ws ++ ['['])
  | items {stack : List Frame} {cs es : List Char} {items : List Value}
      (opened : Consumed (.firstItem stack) cs)
      (done : Commaed (fun v => Phrase (stack.length + 1) (.element v)) items es) :
    Consumed (.value (.array items :: stack)) (cs ++ es)
  | openObject {stack : List Frame} {cs ws : List Char} (before : Consumed (.value stack) cs)
      (depth : stack.length ≤ depthLimit) (blank : Blank ws) :
    Consumed (.firstKey stack) (cs ++ ws ++ ['\x7b'])
  | members {stack : List Frame} {cs es : List Char} {ms : List (String × Value)}
      (opened : Consumed (.firstKey stack) cs)
      (done : Commaed (fun m => Phrase (stack.length + 1) (.member m)) ms es) :
    Consumed (.key ms stack) (cs ++ es)
  | key {stack : List Frame} {cs ws q : List Char} {ms : List (String × Value)} {k : String}
      (before : Consumed (.key ms stack) cs) (blank : Blank ws) (quoted : Quoted k q) :
    Consumed (.colon ms k stack) (cs ++ ws ++ q)
  | colon {stack : List Frame} {cs ws : List Char} {ms : List (String × Value)} {k : String}
      (before : Consumed (.colon ms k stack) cs) (blank : Blank ws) :
    Consumed (.value (.object ms k :: stack)) (cs ++ ws ++ [':'])
  | after {stack : List Frame} {cs es : List Char} {v : Value}
      (before : Consumed (.value stack) cs)
      (element : Phrase stack.length (.element v) es) : Consumed (.after v stack) (cs ++ es)

namespace Consumed

variable {stack : List Frame} {r r' : Reading} {t : Token} {cs ws l : List Char}

theorem beginValue (before : Consumed (.value stack) cs)
    (begins : Reading.beginValue stack t = some r') (blank : Blank ws) (spells : Spells t l) :
  Consumed r' (cs ++ ws ++ l)
  := by
  unfold Reading.beginValue at begins
  split at begins
  · contradiction
  · next depth =>
    rw [Nat.not_lt] at depth
    split at begins
    · cases begins
      cases spells with
      | atom lexeme =>
        have element := Phrase.element depth blank (.atom lexeme) .nil
        rw [List.append_nil] at element
        rw [List.append_assoc]
        exact .after before element
    · cases begins
      cases spells
      exact .openArray before depth blank
    · cases begins
      cases spells
      exact .openObject before depth blank
    · contradiction

/-- The bracket after the last of its items closes an array. -/
theorem closeArray {v : Value} {items : List Value}
    (before : Consumed (.after v (.array items :: stack)) cs) (blank : Blank ws) :
  Consumed (.after (.array (v :: items).reverse) stack) (cs ++ ws ++ [']'])
  := by
  cases before with
  | after before element => cases before with
    | items opened done => cases opened with
      | openArray before depth blank' =>
        have elements := done.close (fun vs => Phrase (stack.length + 1) (.elements vs))
          (fun _ _ _ _ => .moreElements) (.lastElement (element.append_blank blank))
        have closed := Phrase.element depth blank' (.array elements) .nil
        rw [List.reverse_cons]
        simpa using before.after closed

/-- The brace after the last of its members closes an object. -/
theorem closeObject {v : Value} {k : String} {members : List (String × Value)}
    (before : Consumed (.after v (.object members k :: stack)) cs) (blank : Blank ws) :
  Consumed (.after (.object ((k, v) :: members).reverse) stack) (cs ++ ws ++ ['\x7d'])
  := by
  cases before with
  | after before element => cases before with
    | colon before blank₂ => cases before with
      | key before blank₁ quoted => cases before with
        | members opened done => cases opened with
          | openObject before depth blank' =>
            have member := Phrase.member (.mk blank₁ quoted blank₂) (element.append_blank blank)
            have members := done.close (fun ms => Phrase (stack.length + 1) (.members ms))
              (fun _ _ _ _ => .moreMembers) (.lastMember member)
            have closed := Phrase.element depth blank' (.object members) .nil
            rw [List.reverse_cons]
            simpa using before.after closed

/-- A comma after an item keeps the array open. -/
theorem commaArray {v : Value} {items : List Value}
    (before : Consumed (.after v (.array items :: stack)) cs) (blank : Blank ws) :
  Consumed (.value (.array (v :: items) :: stack)) (cs ++ ws ++ [','])
  := by
  cases before with
  | after before element => cases before with
    | items opened done =>
      have longer := opened.items (done.snoc (element.append_blank blank))
      simpa using longer

/-- A comma after a member keeps the object open. -/
theorem commaObject {v : Value} {k : String} {members : List (String × Value)}
    (before : Consumed (.after v (.object members k :: stack)) cs) (blank : Blank ws) :
  Consumed (.key ((k, v) :: members) stack) (cs ++ ws ++ [','])
  := by
  cases before with
  | after before element => cases before with
    | colon before blank₂ => cases before with
      | key before blank₁ quoted => cases before with
        | members opened done =>
          have member := Phrase.member (.mk blank₁ quoted blank₂) (element.append_blank blank)
          have longer := opened.members (done.snoc member)
          simpa using longer

/-- Every token keeps what has been consumed. -/
theorem step (before : Consumed r cs) (steps : r.step t = some r') (blank : Blank ws)
    (spells : Spells t l) :
  Consumed r' (cs ++ ws ++ l)
  := by
  unfold Reading.step at steps
  split at steps
  · exact before.beginValue steps blank spells
  · cases steps
    cases spells
    cases before with
    | openArray before depth blank' =>
      have closed := Phrase.element depth blank' (.emptyArray blank) .nil
      simpa using before.after closed
  · have first := before.items .nil
    rw [List.append_nil] at first
    exact first.beginValue steps blank spells
  · cases steps
    cases spells
    cases before with
    | openObject before depth blank' =>
      have closed := Phrase.element depth blank' (.emptyObject blank) .nil
      simpa using before.after closed
  · cases steps
    cases spells with
    | atom lexeme =>
      have first := before.members .nil
      rw [List.append_nil] at first
      exact first.key blank lexeme.quoted
  · cases steps
    cases spells with
    | atom lexeme => exact before.key blank lexeme.quoted
  · cases steps
    cases spells
    exact before.colon blank
  · cases steps
    cases spells
    exact before.commaArray blank
  · cases steps
    cases spells
    exact before.closeArray blank
  · cases steps
    cases spells
    exact before.commaObject blank
  · cases steps
    cases spells
    exact before.closeObject blank
  · contradiction

end Consumed

/-- The blanks in front of a text. -/
theorem blank_takeWhile (cs : List Char) :
  Blank (cs.takeWhile isSpace)
  := by
  intro c mem
  exact List.all_eq_true.mp List.all_takeWhile c mem

/-- What was read before and what is left make up a value. -/
theorem phrase_of_run {r : Reading} {cs rest : List Char} {v : Value}
    (before : Consumed r cs) (reads : r.run rest = some v) :
  Phrase 0 (.element v) (cs ++ rest)
  := by
  fun_induction Reading.run r rest generalizing cs with
  | case1 r rest none_left =>
    have blank := blank_takeWhile rest
    rw [← List.takeWhile_append_dropWhile (p := isSpace) (l := rest), none_left, List.append_nil]
    unfold Reading.finish at reads
    split at reads
    · cases reads
      cases before with
      | after before element =>
        cases before
        exact element.append_blank blank
    · contradiction
  | case2 => contradiction
  | case3 => contradiction
  | case4 r rest c after some_left t left token r' steps ih =>
    obtain ⟨l, same, spells⟩ := spells_of_nextToken token
    have longer := ih (before.step steps (blank_takeWhile rest) spells) reads
    rw [← List.takeWhile_append_dropWhile (p := isSpace) (l := rest), some_left, same]
    simpa using longer

/-! ### Reading a phrase -/

/-- Blanks in front of a text make no difference. -/
theorem Reading.run_append_blank (r : Reading) {ws : List Char} (blank : Blank ws)
    (cs : List Char) :
  r.run (ws ++ cs) = r.run cs
  := by
  have same : (ws ++ cs).dropWhile isSpace = cs.dropWhile isSpace :=
    List.dropWhile_append_of_pos blank
  rw [Reading.run, Reading.run, same]

theorem eq_of_isSpace {c : Char} (space : isSpace c = true) :
  c = ' ' ∨ c = '\t' ∨ c = '\n' ∨ c = '\r'
  := by simpa [isSpace, or_assoc] using space

theorem nextToken_of_isSpace {c : Char} (space : isSpace c = true) (cs : List Char) :
  nextToken (c :: cs) = none
  := by
  obtain rfl | rfl | rfl | rfl := eq_of_isSpace space
  all_goals rfl

/-- A token takes the reader one step further. -/
theorem Reading.run_of_nextToken {r r' : Reading} {t : Token} {cs rest : List Char}
    (token : nextToken cs = some (t, rest)) (steps : r.step t = some r') :
  r.run cs = r'.run rest
  := by
  cases cs with
  | nil => contradiction
  | cons c cs =>
    have no_space : ¬ isSpace c = true := by
      intro space
      rw [nextToken_of_isSpace space] at token
      contradiction
    have kept : (c :: cs).dropWhile isSpace = c :: cs := by
      rw [List.dropWhile_cons, if_neg no_space]
    rw [Reading.run]
    split
    · next none_left =>
      rw [kept] at none_left
      contradiction
    · next c' after some_left =>
      rw [kept] at some_left
      cases some_left
      split
      · next fails =>
        rw [token] at fails
        contradiction
      · next t' rest' token' =>
        rw [token] at token'
        cases token'
        rw [steps]

namespace Reading

variable {stack : List Frame} {items : List Value} {ms : List (String × Value)} {k : String}
  {v : Value} {rest : List Char}

theorem run_value_atom {a : Atom} {l : List Char} (depth : stack.length ≤ depthLimit)
    (lexeme : Lexeme a l) (ends : Ends rest) :
  (value stack).run (l ++ rest) = (after (.atom a) stack).run rest
  := by
  apply run_of_nextToken (nextToken_of_lexeme lexeme ends)
  exact if_neg (Nat.not_lt_of_le depth)

theorem run_value_openArray (depth : stack.length ≤ depthLimit) :
  (value stack).run ('[' :: rest) = (firstItem stack).run rest
  := by
  apply run_of_nextToken rfl
  exact if_neg (Nat.not_lt_of_le depth)

theorem run_value_openObject (depth : stack.length ≤ depthLimit) :
  (value stack).run ('\x7b' :: rest) = (firstKey stack).run rest
  := by
  apply run_of_nextToken rfl
  exact if_neg (Nat.not_lt_of_le depth)

theorem run_firstItem_close :
  (firstItem stack).run (']' :: rest) = (after (.array []) stack).run rest
  := run_of_nextToken rfl rfl

theorem run_firstKey_close :
  (firstKey stack).run ('\x7d' :: rest) = (after (.object []) stack).run rest
  := run_of_nextToken rfl rfl

theorem run_key {q : List Char} (quoted : Quoted k q) (ends : Ends rest) :
  (key ms stack).run (q ++ rest) = (colon ms k stack).run rest
  := run_of_nextToken (nextToken_of_lexeme (.text quoted) ends) rfl

theorem run_colon :
  (colon ms k stack).run (':' :: rest) = (value (.object ms k :: stack)).run rest
  := run_of_nextToken rfl rfl

theorem run_after_item_comma :
  (after v (.array items :: stack)).run (',' :: rest) =
    (value (.array (v :: items) :: stack)).run rest
  := run_of_nextToken rfl rfl

theorem run_after_item_close :
  (after v (.array items :: stack)).run (']' :: rest) =
    (after (.array (v :: items).reverse) stack).run rest
  := run_of_nextToken rfl rfl

theorem run_after_member_comma :
  (after v (.object ms k :: stack)).run (',' :: rest) = (key ((k, v) :: ms) stack).run rest
  := run_of_nextToken rfl rfl

theorem run_after_member_close :
  (after v (.object ms k :: stack)).run ('\x7d' :: rest) =
    (after (.object ((k, v) :: ms).reverse) stack).run rest
  := run_of_nextToken rfl rfl

end Reading

/-- A reader that takes every step of another one reads what the other one reads. -/
theorem Reading.run_mono {r r' : Reading} (unfinished : r.finish = none)
    (steps : ∀ t next, r.step t = some next → r'.step t = some next) {cs : List Char} {w : Value}
    (reads : r.run cs = some w) :
  r'.run cs = some w
  := by
  rw [← List.takeWhile_append_dropWhile (p := isSpace) (l := cs),
    r'.run_append_blank (blank_takeWhile cs)]
  revert reads
  fun_cases Reading.run r cs with
  | case1 none_left =>
    rw [unfinished]
    intro reads
    contradiction
  | case2 | case3 =>
    intro reads
    contradiction
  | case4 c after some_left t rest token next step =>
    rw [some_left, Reading.run_of_nextToken token (steps t next step)]
    exact id

/-- A reader that may begin a value among the items of an array may begin it as the first. -/
theorem Reading.run_firstItem {stack : List Frame} {cs : List Char} {w : Value}
    (reads : (Reading.value (.array [] :: stack)).run cs = some w) :
  (Reading.firstItem stack).run cs = some w
  := by
  apply Reading.run_mono rfl _ reads
  intro t next step
  cases t with
  | closeArray =>
    simp [Reading.step, Reading.beginValue] at step
  | _ => exact step

/-- A reader that expects a key expects it also at the beginning of an object. -/
theorem Reading.run_firstKey {stack : List Frame} {cs : List Char} {w : Value}
    (reads : (Reading.key [] stack).run cs = some w) :
  (Reading.firstKey stack).run cs = some w
  := by
  apply Reading.run_mono rfl _ reads
  intro t next step
  obtain ⟨k, rfl⟩ : ∃ k, t = .atom (.text k) := by
    unfold Reading.step at step
    split at step
    all_goals simp_all
  exact step

/-- The reader comes through a part of a document: what it makes of a text from behind the
part on, it makes of the text from the part on. -/
def Passes (d : Nat) : Part → List Char → Prop
  | .value v, cs => ∀ (stack : List Frame) (rest : List Char) (w : Value),
    stack.length = d → d ≤ depthLimit → Ends rest →
      (Reading.after v stack).run rest = some w → (Reading.value stack).run (cs ++ rest) = some w
  | .element v, cs => ∀ (stack : List Frame) (rest : List Char) (w : Value),
    stack.length = d → Ends rest →
      (Reading.after v stack).run rest = some w → (Reading.value stack).run (cs ++ rest) = some w
  | .elements vs, cs => ∀ (stack : List Frame) (items : List Value) (rest : List Char) (w : Value),
    stack.length + 1 = d → (Reading.after (.array (items.reverse ++ vs)) stack).run rest = some w →
      (Reading.value (.array items :: stack)).run (cs ++ ']' :: rest) = some w
  | .member (k, v), cs => ∀ (stack : List Frame) (ms : List (String × Value)) (rest : List Char)
    (w : Value), stack.length + 1 = d → Ends rest →
      (Reading.after v (.object ms k :: stack)).run rest = some w →
        (Reading.key ms stack).run (cs ++ rest) = some w
  | .members new, cs => ∀ (stack : List Frame) (ms : List (String × Value)) (rest : List Char)
    (w : Value), stack.length + 1 = d →
      (Reading.after (.object (ms.reverse ++ new)) stack).run rest = some w →
        (Reading.key ms stack).run (cs ++ '\x7d' :: rest) = some w

/-- A character that is no part of a number ends one. -/
theorem Ends.cons {c : Char} (other : isDigit c = false ∧ c ≠ '.' ∧ c ≠ 'e' ∧ c ≠ 'E')
    (rest : List Char) :
  Ends (c :: rest)
  := by
  rintro _ ⟨⟩
  exact other

theorem Ends.append_blank {ws rest : List Char} (blank : Blank ws) (ends : Ends rest) :
  Ends (ws ++ rest)
  := by
  cases ws with
  | nil => exact ends
  | cons c ws =>
    apply Ends.cons
    obtain rfl | rfl | rfl | rfl := eq_of_isSpace (blank c List.mem_cons_self)
    all_goals decide

/-- The reader comes through every phrase. -/
theorem passes_of_phrase {d : Nat} {part : Part} {cs : List Char} (phrase : Phrase d part cs) :
  Passes d part cs
  := by
  induction phrase with
  | atom lexeme =>
    rintro stack rest w rfl depth ends reads
    rw [Reading.run_value_atom depth lexeme ends]
    exact reads
  | emptyArray blank =>
    rintro stack rest w rfl depth ends reads
    rw [List.cons_append, List.append_assoc, Reading.run_value_openArray depth,
      Reading.run_append_blank _ blank, List.singleton_append, Reading.run_firstItem_close]
    exact reads
  | array elements ih =>
    rintro stack rest w rfl depth ends reads
    rw [List.cons_append, List.append_assoc, Reading.run_value_openArray depth]
    exact Reading.run_firstItem (ih stack [] rest w rfl reads)
  | emptyObject blank =>
    rintro stack rest w rfl depth ends reads
    rw [List.cons_append, List.append_assoc, Reading.run_value_openObject depth,
      Reading.run_append_blank _ blank, List.singleton_append, Reading.run_firstKey_close]
    exact reads
  | object members ih =>
    rintro stack rest w rfl depth ends reads
    rw [List.cons_append, List.append_assoc, Reading.run_value_openObject depth]
    exact Reading.run_firstKey (ih stack [] rest w rfl reads)
  | element depth before value after ih =>
    rintro stack rest w rfl ends reads
    rw [List.append_assoc, List.append_assoc, Reading.run_append_blank _ before]
    apply ih stack _ w rfl depth (ends.append_blank after)
    rw [Reading.run_append_blank _ after]
    exact reads
  | @lastElement _ v _ last ih =>
    rintro stack items rest w rfl reads
    apply ih (.array items :: stack) _ w rfl (.cons (by decide) rest)
    rw [Reading.run_after_item_close, List.reverse_cons]
    exact reads
  | @moreElements _ v _ _ _ first others ih ih' =>
    rintro stack items rest w rfl reads
    rw [List.append_assoc, List.cons_append]
    apply ih (.array items :: stack) _ w rfl (.cons (by decide) _)
    rw [Reading.run_after_item_comma]
    apply ih' stack (v :: items) rest w rfl
    simpa using reads
  | @member _ k v _ cs label value ih =>
    rintro stack ms rest w rfl ends reads
    cases label with
    | mk before key after =>
      have colon : Ends (':' :: (cs ++ rest)) := .cons (by decide) _
      simp only [List.append_assoc, List.cons_append, List.nil_append]
      rw [Reading.run_append_blank _ before, Reading.run_key key (colon.append_blank after),
        Reading.run_append_blank _ after, Reading.run_colon]
      exact ih _ rest w rfl ends reads
  | @lastMember _ m _ last ih =>
    rintro stack ms rest w rfl reads
    apply ih stack ms _ w rfl (.cons (by decide) rest)
    rw [Reading.run_after_member_close, List.reverse_cons]
    exact reads
  | @moreMembers _ m _ _ _ first others ih ih' =>
    rintro stack ms rest w rfl reads
    rw [List.append_assoc, List.cons_append]
    apply ih stack ms _ w rfl (.cons (by decide) _)
    rw [Reading.run_after_member_comma]
    apply ih' stack (m :: ms) rest w rfl
    simpa using reads

/-- The reader accepts exactly the texts that write a value, and answers this value. -/
theorem parse?_eq_some_iff {s : String} {v : Value} :
  parse? s = some v ↔ Writes s v
  := by
  constructor
  · intro reads
    exact phrase_of_run .start reads
  · intro writes
    have reads := passes_of_phrase writes [] [] v rfl (by simp [Ends])
      (by rw [Reading.run]; rfl)
    rwa [List.append_nil] at reads

end TypeCoverage.Json
