import TypeCoverage.Proofs.Settings.Overlay

/-!
# The layer of the environment

Each field has a variable in the environment.  `VariableGives` says what the text of such a
variable gives its field: the text itself, or for a flag the truth value that its word
stands for.  The layer has exactly the fields whose variables are set, with these values
(`EnvironmentLayer`, `environmentLayer_cases`), and there is none if the variable of a flag
holds another word (`HasBadFlag`).
-/

namespace TypeCoverage

/-- The fields whose values are truth values. -/
def Field.IsFlag : Field → Prop
  | .onlyIfAppropriate | .showUncovered => True
  | _ => False

namespace Settings

/-- A text without the blanks around it and in small letters. -/
def truthWord (raw : String) : String := String.ofList ((Text.strip raw).toList.map Char.toLower)

/-- The truth value that a text of the environment stands for. -/
inductive StandsFor (raw : String) : Bool → Prop
  | yes (word : truthWord raw ∈ ["1", "true", "yes", "on"]) : StandsFor raw true
  | no (word : truthWord raw ∈ ["0", "false", "no", "off", ""]) : StandsFor raw false

/-- What the text of a variable gives the field of the variable. -/
inductive VariableGives : Field → String → Datum → Prop
  | path (raw : String) : VariableGives .executablePath raw (.text raw)
  | flag {f : Field} {raw : String} {b : Bool} (flag : f.IsFlag) (word : StandsFor raw b) :
    VariableGives f raw (.boolean b)
  | priority (raw : String) : VariableGives .hyperclickPriority raw (.text raw)

/-- Some variable of a flag, among those of some fields, holds a text that is no word for a
truth value. -/
def HasBadFlag (env : Environment) (fs : List Field) : Prop :=
  ∃ f ∈ fs, f.IsFlag ∧ ∃ raw, env.lookup (variableName f) = some raw ∧ ∀ b, ¬ StandsFor raw b

theorem readTruthWord_of_standsFor {raw : String} {b : Bool} (word : StandsFor raw b)
    (name : String) :
  readTruthWord name raw = .ok b
  := by
  rw [readTruthWord]
  cases word with
  | yes word => exact if_pos (List.contains_iff_mem.mpr word)
  | no word =>
    have other : trueWords.contains (truthWord raw) = false := by
      revert word
      generalize truthWord raw = w
      simp only [List.mem_cons, List.not_mem_nil, or_false]
      rintro (rfl | rfl | rfl | rfl | rfl) <;> decide
    rw [← Bool.not_eq_true] at other
    exact (if_neg other).trans (if_pos (List.contains_iff_mem.mpr word))

theorem readTruthWord_cases (name raw : String) :
  (∃ b, StandsFor raw b ∧ readTruthWord name raw = .ok b) ∨
    (∀ b, ¬ StandsFor raw b) ∧ readTruthWord name raw = refuse (.notTruthWord name raw)
  := by
  by_cases h : ∃ b, StandsFor raw b
  · obtain ⟨b, word⟩ := h
    exact .inl ⟨b, word, readTruthWord_of_standsFor word name⟩
  · rw [not_exists] at h
    refine .inr ⟨h, ?_⟩
    rw [readTruthWord]
    have yes : ¬ trueWords.contains (truthWord raw) = true := fun word =>
      h true (.yes (List.contains_iff_mem.mp word))
    have no : ¬ falseWords.contains (truthWord raw) = true := fun word =>
      h false (.no (List.contains_iff_mem.mp word))
    exact (if_neg yes).trans (if_neg no)

/-- A variable gives its field a value, or else it is that of a flag and holds no word for a
truth value. -/
theorem readVariable_cases (f : Field) (raw : String) :
  (∃ d, VariableGives f raw d ∧ readVariable f raw = .ok d) ∨
    f.IsFlag ∧ (∀ b, ¬ StandsFor raw b) ∧ ∃ why, readVariable f raw = refuse why
  := by
  have flags (flag : f.IsFlag) (reads : readVariable f raw =
      (readTruthWord (variableName f) raw).map .boolean) :
      (∃ d, VariableGives f raw d ∧ readVariable f raw = .ok d) ∨
        f.IsFlag ∧ (∀ b, ¬ StandsFor raw b) ∧ ∃ why, readVariable f raw = refuse why := by
    obtain ⟨b, word, ok⟩ | ⟨none, refused⟩ := readTruthWord_cases (variableName f) raw
    · exact .inl ⟨.boolean b, .flag flag word, by rw [reads, ok]; rfl⟩
    · exact .inr ⟨flag, none, _, by rw [reads, refused]; rfl⟩
  cases f with
  | executablePath => exact .inl ⟨_, .path raw, rfl⟩
  | onlyIfAppropriate => exact flags trivial rfl
  | showUncovered => exact flags trivial rfl
  | hyperclickPriority => exact .inl ⟨_, .priority raw, rfl⟩

theorem VariableGives.standsFor {f : Field} {raw : String} {d : Datum}
    (given : VariableGives f raw d) (flag : f.IsFlag) :
  ∃ b, StandsFor raw b
  := by
  cases given with
  | path => exact flag.elim
  | flag _ word => exact ⟨_, word⟩
  | priority => exact flag.elim

/-- A variable gives its field one value only. -/
theorem VariableGives.unique {f : Field} {raw : String} {d d' : Datum}
    (first : VariableGives f raw d) (second : VariableGives f raw d') :
  d = d'
  := by
  cases first with
  | path => cases second with
    | path => rfl
    | flag flag => exact flag.elim
  | priority => cases second with
    | priority => rfl
    | flag flag => exact flag.elim
  | flag flag word => cases second with
    | path => exact flag.elim
    | priority => exact flag.elim
    | flag _ word' =>
      have same := readTruthWord_of_standsFor word ""
      rw [readTruthWord_of_standsFor word' ""] at same
      rw [Except.ok.inj same]

/-- A table that has, of some fields, those whose variables are set, with the values that
they give. -/
structure EnvironmentLayer (env : Environment) (fs : List Field) (layer : Members) : Prop where
  names : ∀ m ∈ layer, ∃ f ∈ fs, m.1 = f.name
  gives : ∀ f ∈ fs, ∀ raw, env.lookup (variableName f) = some raw →
    ∃ d, VariableGives f raw d ∧ Gives layer f d
  misses : ∀ f ∈ fs, env.lookup (variableName f) = none → Misses layer f

namespace EnvironmentLayer

variable {env : Environment} {f : Field} {fs : List Field} {layer : Members}

theorem misses_of_not_mem (h : EnvironmentLayer env fs layer) (new : f ∉ fs) :
  Misses layer f
  := by
  intro m mem
  obtain ⟨g, old, same⟩ := h.names m mem
  rw [same, Field.spelledBy_name_iff]
  rintro rfl
  apply new old

theorem nil (env : Environment) :
  EnvironmentLayer env [] []
  := ⟨by simp, by simp, by simp⟩

theorem skip (rest : EnvironmentLayer env fs layer) (new : f ∉ fs)
    (unset : env.lookup (variableName f) = none) :
  EnvironmentLayer env (f :: fs) layer
  where
  names m mem := by
    obtain ⟨g, old, same⟩ := rest.names m mem
    exact ⟨g, List.mem_cons_of_mem f old, same⟩
  gives g mem raw set := by
    obtain rfl | old := List.mem_cons.mp mem
    · rw [unset] at set
      contradiction
    · exact rest.gives g old raw set
  misses g mem none := by
    obtain rfl | old := List.mem_cons.mp mem
    · exact rest.misses_of_not_mem new
    · exact rest.misses g old none

theorem cons (rest : EnvironmentLayer env fs layer) (new : f ∉ fs) {raw : String} {d : Datum}
    (set : env.lookup (variableName f) = some raw) (given : VariableGives f raw d) :
  EnvironmentLayer env (f :: fs) ((f.name, d) :: layer)
  where
  names m mem := by
    obtain rfl | mem := List.mem_cons.mp mem
    · exact ⟨f, List.mem_cons_self, rfl⟩
    · obtain ⟨g, old, same⟩ := rest.names m mem
      exact ⟨g, List.mem_cons_of_mem f old, same⟩
  gives g mem raw' set' := by
    obtain rfl | old := List.mem_cons.mp mem
    · obtain rfl : raw = raw' := by simpa [set] using set'
      exact ⟨d, given, [], g.name, layer, rfl, .inl rfl, rest.misses_of_not_mem new⟩
    · obtain ⟨d', given', gives⟩ := rest.gives g old raw' set'
      exact ⟨d', given', gives.cons _⟩
  misses g mem unset := by
    obtain rfl | old := List.mem_cons.mp mem
    · rw [set] at unset
      contradiction
    · apply (rest.misses g old unset).cons
      rintro rfl
      apply new old

end EnvironmentLayer

theorem hasBadFlag_cons {env : Environment} {f : Field} {fs : List Field} :
  HasBadFlag env (f :: fs) ↔
    (f.IsFlag ∧ ∃ raw, env.lookup (variableName f) = some raw ∧ ∀ b, ¬ StandsFor raw b) ∨
      HasBadFlag env fs
  := by
  simp only [HasBadFlag, List.mem_cons, exists_eq_or_imp]

/-- The environment has a layer, or a flag with a bad word. -/
theorem environmentLayer_cases (env : Environment) {fs : List Field} (nodup : fs.Nodup) :
  (∃ layer, environmentLayer env fs = .ok layer ∧ ¬ HasBadFlag env fs ∧
      EnvironmentLayer env fs layer) ∨
    (∃ why, environmentLayer env fs = refuse why) ∧ HasBadFlag env fs
  := by
  induction fs with
  | nil => exact .inl ⟨[], rfl, by simp [HasBadFlag], .nil env⟩
  | cons f fs ih =>
    obtain ⟨new, nodup⟩ := List.nodup_cons.mp nodup
    rw [hasBadFlag_cons, environmentLayer]
    cases set : env.lookup (variableName f) with
    | none =>
      obtain ⟨layer, rest, good, is_layer⟩ | ⟨refused, bad⟩ := ih nodup
      · exact .inl ⟨layer, rest, by simp [good], is_layer.skip new set⟩
      · exact .inr ⟨refused, .inr bad⟩
    | some raw =>
      obtain ⟨d, given, reads⟩ | ⟨flag, none, why, reads⟩ := readVariable_cases f raw
      · obtain ⟨layer, rest, good, is_layer⟩ | ⟨⟨why, refused⟩, bad⟩ := ih nodup
        · refine .inl ⟨(f.name, d) :: layer, ?_, ?_, is_layer.cons new set given⟩
          · simp only [reads, rest]
            rfl
          · rintro (⟨flag, raw', same, none⟩ | bad)
            · obtain rfl : raw = raw' := by simpa using same
              obtain ⟨b, word⟩ := given.standsFor flag
              apply none b word
            · apply good bad
        · refine .inr ⟨⟨why, ?_⟩, .inr bad⟩
          simp only [reads, refused]
          rfl
      · refine .inr ⟨⟨why, ?_⟩, .inl ⟨flag, raw, rfl, none⟩⟩
        simp only [reads]
        rfl

end Settings

end TypeCoverage
