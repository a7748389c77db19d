import TypeCoverage.Toml.Reader

/-!
# The room to read values inside one another

More room changes nothing but that more documents can be read (`parse_of_more`).  No room is
enough for all documents, since arrays can be nested deeper (`parse_nestedText`).
-/

namespace TypeCoverage.Toml

/-! ### More room -/

/-- An answer is also the one with more room, unless there was not enough of it. -/
def Lasts {α : Type} (less more : Except Refusal α) : Prop :=
  less = .error .tooDeep ∨ more = less

theorem Lasts.same {α : Type} (answer : Except Refusal α) :
  Lasts answer answer
  := .inr rfl

/-- The answers of all readers last. -/
structure ReadersLast (more fuel : Nat) : Prop where
  value : ∀ room cs, Lasts (readValue room fuel cs) (readValue (room + more) fuel cs)
  array : ∀ room cs, Lasts (readArray room fuel cs) (readArray (room + more) fuel cs)
  items : ∀ room done cs,
    Lasts (readItems room fuel done cs) (readItems (room + more) fuel done cs)
  inline : ∀ room cs, Lasts (readInline room fuel cs) (readInline (room + more) fuel cs)
  pairs : ∀ room t cs, Lasts (readPairs room fuel t cs) (readPairs (room + more) fuel t cs)
  pair : ∀ room cs, Lasts (readPair room fuel cs) (readPair (room + more) fuel cs)

theorem readersLast (more fuel : Nat) :
  ReadersLast more fuel
  := by
  -- Each reader calls the others with less fuel, so that what they answer is known to last.
  induction fuel with
  | zero =>
    constructor <;> intros <;> apply Or.inr <;>
      simp only [readValue, readArray, readItems, readInline, readPairs, readPair]
  | succ fuel ih =>
    constructor
    case value =>
      rintro (_ | room) cs
      · exact .inl (by rw [readValue])
      · rw [Nat.add_right_comm]
        unfold readValue
        simp only
        split
        · exact .same _
        · exact .same _
        · exact ih.array room _
        · exact ih.inline room _
        · split <;> exact .same _
    case array =>
      rintro (_ | room) cs
      · exact .inl (by rw [readArray])
      · rw [Nat.add_right_comm, readArray, readArray]
        split
        · exact .same _
        · exact .same _
        · exact ih.items room _ _
    case items =>
      intro room done cs
      rw [readItems, readItems]
      obtain deep | same := ih.value room cs
      · exact .inl (by rw [deep])
      · rw [same]
        split
        · exact .same _
        · split
          · exact .same _
          · exact .same _
          · split
            · exact .same _
            · exact .same _
            · exact ih.items room _ _
          · exact .same _
    case inline =>
      rintro (_ | room) cs
      · exact .inl (by rw [readInline])
      · rw [Nat.add_right_comm]
        unfold readInline
        split
        · exact .same _
        · exact ih.pairs room _ _
    case pairs =>
      intro room t cs
      rw [readPairs, readPairs]
      obtain deep | same := ih.pair room cs
      · exact .inl (by rw [deep])
      · rw [same]
        split
        · exact .same _
        · split
          · exact .same _
          · split
            · exact .same _
            · exact ih.pairs room _ _
            · exact .same _
    case pair =>
      rintro (_ | room) cs
      · exact .inl (by rw [readPair])
      · rw [Nat.add_right_comm, readPair, readPair]
        split
        · exact .same _
        · next rest _ =>
          obtain deep | same := ih.value room (skipSpace rest)
          · exact .inl (by rw [deep]; rfl)
          · rw [same]
            exact .same _
        · exact .same _

theorem lasts_readStatement (room more : Nat) (d : Document) (cs : List Char) :
  Lasts (readStatement room d cs) (readStatement (room + more) d cs)
  := by
  unfold readStatement
  split
  · exact .same _
  · exact .same _
  · exact .same _
  · split
    · obtain deep | same := (readersLast more _).pair room _
      · exact .inl (by rw [deep])
      · rw [same]
        exact .same _
    · exact .same _
  · exact .same _

theorem lasts_readLines (room more fuel : Nat) (d : Document) (cs : List Char) :
  Lasts (readLines room fuel d cs) (readLines (room + more) fuel d cs)
  := by
  induction fuel generalizing d cs with
  | zero => exact .same _
  | succ fuel ih =>
    unfold readLines
    split
    · exact .same _
    · exact ih ..
    · obtain deep | same := lasts_readStatement room more d (skipSpace cs)
      · exact .inl (by rw [deep])
      · rw [same]
        split
        · exact .same _
        · exact .same _
        · exact ih ..
        · exact .same _

/-- A document that is not too deep is read the same with more room. -/
theorem parse_of_more {room : Nat} {s : String} (enough : parse room s ≠ .error .tooDeep)
    (more : Nat) :
  parse (room + more) s = parse room s
  := (lasts_readLines ..).resolve_left enough

/-! ### Nested arrays -/

theorem skipBetween_bracket (cs : List Char) :
  skipBetween ('[' :: cs) = .ok ('[' :: cs)
  := by
  simp [skipBetween, skipLines, isSpaceOrBreak, isSpace]

/-- Brackets are read one inside another until no room is left. -/
theorem readValue_nested {n room fuel : Nat} (deep : room < 2 * n) (enough : 3 * n ≤ fuel)
    (cs : List Char) :
  readValue room fuel (List.replicate n '[' ++ cs) = .error .tooDeep
  := by
  induction n generalizing room fuel with
  | zero => contradiction
  | succ n ih =>
    obtain ⟨fuel, rfl⟩ : ∃ fuel', fuel = fuel' + 3 := ⟨fuel - 3, by omega⟩
    match room with
    | 0 => rw [readValue]
    | 1 => rw [List.replicate_succ, List.cons_append, readValue, readArray]
    | room + 2 =>
      -- More brackets follow, as there is more room than one of them takes.
      obtain ⟨n, rfl⟩ := Nat.exists_eq_succ_of_ne_zero (show n ≠ 0 by omega)
      have inner : readValue room fuel (List.replicate (n + 1) '[' ++ cs) = .error .tooDeep :=
        ih (by omega) (by omega)
      rw [List.replicate_succ, List.cons_append] at inner ⊢
      rw [readValue, readArray, List.replicate_succ, List.cons_append, skipBetween_bracket]
      change readItems room (fuel + 1) [] ('[' :: (List.replicate n '[' ++ cs)) = _
      rw [readItems, inner]

theorem plainBreaks_of_not_mem {cs : List Char} (plain : '\r' ∉ cs) :
  plainBreaks cs = cs
  := by
  fun_induction plainBreaks cs with
  | case1 cs ih => exact absurd (List.mem_cons_self ..) plain
  | case2 c cs _ ih => rw [ih (List.not_mem_of_not_mem_cons plain)]
  | case3 => rfl

/-- A key, an equals sign and some opening brackets. -/
def nestedText (n : Nat) : List Char := 'a' :: '=' :: List.replicate n '['

theorem readPair_nestedText {n room : Nat} (deep : room ≤ 2 * n) :
  readPair room (depthBound (nestedText n)) (nestedText n) = .error .tooDeep
  := by
  have long : depthBound (nestedText n) = 4 * n + 11 + 1 := by
    simp [depthBound, nestedText]
    omega
  have key : readKey (nestedText n) = .ok (["a"], '=' :: List.replicate n '[') := by
    simp [nestedText, readKey, keyParts, keyPart, isBare, skipSpace, isSpace]
  have spaces : skipSpace (List.replicate n '[') = List.replicate n '[' := by
    cases n <;> simp [skipSpace, List.replicate_succ, isSpace]
  rw [long]
  cases room with
  | zero => rw [readPair]
  | succ room =>
    have value : readValue room (4 * n + 11) (List.replicate n '[' ++ []) = .error .tooDeep :=
      readValue_nested (by omega) (by omega) []
    rw [List.append_nil] at value
    rw [readPair, key]
    simp only [spaces, value, Except.map]

/-- Arrays that are nested deeper than half of the room are too deep. -/
theorem parse_nestedText {room n : Nat} (deep : room ≤ 2 * n) :
  parse room (String.ofList (nestedText n)) = .error .tooDeep
  := by
  have plain : plainBreaks (nestedText n) = nestedText n := by
    apply plainBreaks_of_not_mem
    simp [nestedText, List.mem_replicate]
  have begins : skipSpace (nestedText n) = nestedText n := by
    simp [nestedText, skipSpace, isSpace]
  have statement : readStatement room .empty (nestedText n) = .error .tooDeep := by
    have pair := readPair_nestedText deep
    simp only [nestedText] at pair
    simp [readStatement, nestedText, isBare, pair]
  simp only [parse, String.toList_ofList, plain]
  unfold readLines
  rw [begins]
  simp only [nestedText] at statement ⊢
  simp [statement]

end TypeCoverage.Toml
