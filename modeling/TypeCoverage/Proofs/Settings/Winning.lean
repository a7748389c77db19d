import TypeCoverage.Proofs.Settings.Environment

/-!
# The winning layer of a field

`Wins` says what the highest layer that defines a field gives it, and `Valued` what the
field is then: the checked value, or the default where no layer defines it.  The layers are
merged into one table, which holds every field under its name (`isPlain_merged`).  There
the check of a field gives its value (`checkIn_merged`), and no key is left over exactly if
those of the files all spell fields (`unusedKeys_merged`).
-/

namespace TypeCoverage

namespace Settings

/-! ### Checking the layers together -/

theorem ofTable_eq_ok_iff {members : Members} {s : Settings} :
  ofTable members = .ok s ↔
    (∀ f : Field, f.checkIn (({} : Settings).get f) members = .ok (s.get f)) ∧
      unusedKeys members = []
  := by
  have keys : checkKeys members = .ok () ↔ unusedKeys members = [] := by
    rw [checkKeys]
    cases unusedKeys members <;> simp
  rw [ofTable, Checked.map_eq_ok_iff]
  constructor
  · rintro ⟨⟨path, only, shown, priority, _⟩, ok, rfl⟩
    simp only [Checked.both_eq_ok] at ok
    obtain ⟨path, only, shown, priority, used⟩ := ok
    refine ⟨?_, keys.mp used⟩
    rintro (_ | _ | _ | _) <;> assumption
  · rintro ⟨fields, used⟩
    refine ⟨⟨s.executablePath, s.onlyIfAppropriate, s.showUncovered, s.hyperclickPriority, ()⟩,
      ?_, rfl⟩
    simp only [Checked.both_eq_ok]
    exact ⟨fields .executablePath, fields .onlyIfAppropriate, fields .showUncovered,
      fields .hyperclickPriority, keys.mpr used⟩

/-- A table in which every key that spells a field is its name. -/
def IsPlain (members : Members) : Prop := ∀ f : Field, members.lookup f.camelName = none

theorem find?_of_plain {members : Members} (plain : IsPlain members) (f : Field) :
  f.find? members = (members.lookup f.name).map (f.name, ·)
  := by
  rw [Field.find?, plain f]

theorem checkIn_of_some {members : Members} (plain : IsPlain members) {f : Field} {d : Datum}
    (given : members.lookup f.name = some d) (otherwise v : f.Carrier) :
  f.checkIn otherwise members = .ok v ↔ f.check d = .ok v
  := by
  rw [Field.checkIn, find?_of_plain plain, given]
  apply Checked.below_eq_ok_iff

theorem checkIn_of_none {members : Members} (plain : IsPlain members) {f : Field}
    (given : members.lookup f.name = none) (otherwise : f.Carrier) :
  f.checkIn otherwise members = .ok otherwise
  := by
  rw [Field.checkIn, find?_of_plain plain, given]
  rfl

/-! ### What the layers give a field -/

/-- What the highest layer that defines a field gives it: the variable of the environment,
or else the settings file, or else the section of the project file. -/
inductive Wins (env : Environment) (file project : Members) (f : Field) : Datum → Prop
  | environment {raw : String} {d : Datum} (set : env.lookup (variableName f) = some raw)
    (given : VariableGives f raw d) : Wins env file project f d
  | file {d : Datum} (unset : env.lookup (variableName f) = none) (given : Gives file f d) :
    Wins env file project f d
  | project {d : Datum} (unset : env.lookup (variableName f) = none) (missing : Misses file f)
    (given : Gives project f d) : Wins env file project f d

/-- No layer defines a field. -/
structure Undefined (env : Environment) (file project : Members) (f : Field) : Prop where
  unset : env.lookup (variableName f) = none
  file : Misses file f
  project : Misses project f

/-- The value of a field: what the highest layer gives it, checked, or its default. -/
inductive Valued (env : Environment) (file project : Members) (f : Field) : f.Carrier → Prop
  | won {d : Datum} {v : f.Carrier} (wins : Wins env file project f d) (valid : f.check d = .ok v) :
    Valued env file project f v
  | otherwise (undefined : Undefined env file project f) :
    Valued env file project f (({} : Settings).get f)

/-- A table whose keys all spell fields. -/
def Known (members : Members) : Prop := ∀ m ∈ members, ∃ f : Field, f.SpelledBy m.1

/-! ### The merged table -/

/-- The layers together. -/
def merged (project file environment : Members) : Members :=
  overlay (overlay (overlay [] project) file) environment

variable {env : Environment} {project file environment : Members}

theorem lookup_merged_of_wins (layer : EnvironmentLayer env Field.all environment) {f : Field}
    {d : Datum} (wins : Wins env file project f d) :
  (merged project file environment).lookup f.name = some d
  := by
  cases wins with
  | environment set given =>
    obtain ⟨d', given', gives⟩ := layer.gives f f.mem_all _ set
    rw [given.unique given', merged, lookup_overlay_of_gives gives]
  | file unset given =>
    rw [merged, lookup_overlay_of_misses (layer.misses f f.mem_all unset),
      lookup_overlay_of_gives given]
  | project unset missing given =>
    rw [merged, lookup_overlay_of_misses (layer.misses f f.mem_all unset),
      lookup_overlay_of_misses missing, lookup_overlay_of_gives given]

theorem lookup_merged_of_undefined (layer : EnvironmentLayer env Field.all environment)
    {f : Field} (undefined : Undefined env file project f) :
  (merged project file environment).lookup f.name = none
  := by
  rw [merged, lookup_overlay_of_misses (layer.misses f f.mem_all undefined.unset),
    lookup_overlay_of_misses undefined.file, lookup_overlay_of_misses undefined.project]
  rfl

theorem wins_or_undefined (layer : EnvironmentLayer env Field.all environment)
    (file project : Members) (f : Field) :
  (∃ d, Wins env file project f d) ∨ Undefined env file project f
  := by
  cases set : env.lookup (variableName f) with
  | some raw =>
    obtain ⟨d, given, -⟩ := layer.gives f f.mem_all raw set
    exact .inl ⟨d, .environment set given⟩
  | none =>
    obtain missing | ⟨d, given⟩ := misses_or_gives file f
    · obtain missing' | ⟨d, given⟩ := misses_or_gives project f
      · exact .inr ⟨set, missing, missing'⟩
      · exact .inl ⟨d, .project set missing given⟩
    · exact .inl ⟨d, .file set given⟩

theorem mem_keys_merged {key : String} :
  key ∈ (merged project file environment).map (·.1) ↔
    ∃ m ∈ project ++ file ++ environment, fieldKey m.1 = key
  := by
  simp only [merged, mem_keys_overlay, List.mem_append, List.map_nil, List.not_mem_nil, false_or]
  constructor
  · rintro ((⟨m, mem, same⟩ | ⟨m, mem, same⟩) | ⟨m, mem, same⟩)
    · exact ⟨m, .inl (.inl mem), same⟩
    · exact ⟨m, .inl (.inr mem), same⟩
    · exact ⟨m, .inr mem, same⟩
  · rintro ⟨m, (mem | mem) | mem, same⟩
    · exact .inl (.inl ⟨m, mem, same⟩)
    · exact .inl (.inr ⟨m, mem, same⟩)
    · exact .inr ⟨m, mem, same⟩

/-- In the merged table every field stands under its name. -/
theorem isPlain_merged (project file environment : Members) :
  IsPlain (merged project file environment)
  := by
  intro f
  rw [List.lookup_eq_none_iff]
  rintro m mem
  rw [bne_iff_ne]
  intro same
  obtain ⟨m', -, spelling⟩ := mem_keys_merged.mp (List.mem_map_of_mem mem)
  rw [← same] at spelling
  by_cases known : ∃ g : Field, g.SpelledBy m'.1
  · obtain ⟨g, spelled⟩ := known
    rw [Field.fieldKey_eq_name_iff.mpr spelled] at spelling
    revert spelling
    cases f <;> cases g <;> decide
  · rw [Field.fieldKey_of_unknown (not_exists.mp known)] at spelling
    exact known ⟨f, .inr spelling⟩

theorem unusedKeys_of_plain {members : Members} (plain : IsPlain members) :
  unusedKeys members = [] ↔ ∀ key ∈ members.map (·.1), ∃ f : Field, key = f.name
  := by
  simp only [unusedKeys, List.filter_eq_nil_iff, Bool.not_eq_true', Bool.not_eq_false,
    List.contains_iff_mem, List.mem_filterMap, find?_of_plain plain]
  apply forall₂_congr
  intro key mem
  constructor
  · rintro ⟨f, -, used⟩
    obtain ⟨d, -, rfl⟩ : ∃ d, members.lookup f.name = some d ∧ f.name = key := by
      simpa using used
    exact ⟨f, rfl⟩
  · rintro ⟨f, rfl⟩
    refine ⟨f, f.mem_all, ?_⟩
    cases found : members.lookup f.name with
    | some d => rfl
    | none =>
      obtain ⟨m, mem, same⟩ := List.mem_map.mp mem
      rw [List.lookup_eq_none_iff] at found
      have other := found m mem
      rw [bne_iff_ne] at other
      exact absurd same.symm other

/-- No key of the merged table is left over exactly if all keys of the files spell fields. -/
theorem unusedKeys_merged (layer : EnvironmentLayer env Field.all environment) :
  unusedKeys (merged project file environment) = [] ↔ Known project ∧ Known file
  := by
  have spells {m : String × Datum} {f : Field} : fieldKey m.1 = f.name ↔ f.SpelledBy m.1 :=
    Field.fieldKey_eq_name_iff
  have known : unusedKeys (merged project file environment) = [] ↔
      ∀ m ∈ project ++ file ++ environment, ∃ f : Field, f.SpelledBy m.1 := by
    have plain := isPlain_merged project file environment
    rw [unusedKeys_of_plain plain]
    simp only [mem_keys_merged, forall_exists_index, and_imp, forall_apply_eq_imp_iff₂, spells]
  rw [known]
  constructor
  · intro all
    constructor
    · intro m mem
      apply all m (by simp [mem])
    · intro m mem
      apply all m (by simp [mem])
  · rintro ⟨first, second⟩ m mem
    rw [List.mem_append, List.mem_append] at mem
    obtain (mem | mem) | mem := mem
    · exact first m mem
    · exact second m mem
    · obtain ⟨f, -, same⟩ := layer.names m mem
      exact ⟨f, .inl same⟩

/-! ### The value of a field -/

/-- A field has one winning value only. -/
theorem Wins.unique (layer : EnvironmentLayer env Field.all environment) {f : Field}
    {d d' : Datum} (first : Wins env file project f d) (second : Wins env file project f d') :
  d = d'
  := by
  have found := lookup_merged_of_wins layer first
  rw [lookup_merged_of_wins layer second] at found
  exact (Option.some.inj found).symm

theorem Undefined.not_wins (layer : EnvironmentLayer env Field.all environment) {f : Field}
    (undefined : Undefined env file project f) {d : Datum} :
  ¬ Wins env file project f d
  := by
  intro wins
  have found := lookup_merged_of_wins layer wins
  rw [lookup_merged_of_undefined layer undefined] at found
  contradiction

/-- The check of a field in the merged table gives its value. -/
theorem checkIn_merged (layer : EnvironmentLayer env Field.all environment) (f : Field)
    (v : f.Carrier) :
  f.checkIn (({} : Settings).get f) (merged project file environment) = .ok v ↔
    Valued env file project f v
  := by
  have plain := isPlain_merged project file environment
  obtain ⟨d, wins⟩ | undefined := wins_or_undefined layer file project f
  · rw [checkIn_of_some plain (lookup_merged_of_wins layer wins)]
    constructor
    · intro valid
      exact .won wins valid
    · intro valued
      cases valued with
      | won wins' valid =>
        rw [wins.unique layer wins']
        exact valid
      | otherwise undefined => exact absurd wins (undefined.not_wins layer)
  · rw [checkIn_of_none plain (lookup_merged_of_undefined layer undefined)]
    constructor
    · intro same
      rw [← Except.ok.inj same]
      exact .otherwise undefined
    · intro valued
      cases valued with
      | won wins => exact absurd wins (undefined.not_wins layer)
      | otherwise => rfl

/-- A field has a value unless what wins for it fails its check. -/
theorem exists_valued_iff (layer : EnvironmentLayer env Field.all environment) (f : Field) :
  (∃ v, Valued env file project f v) ↔
    ¬ ∃ d findings, Wins env file project f d ∧ f.check d = .error findings
  := by
  constructor
  · rintro ⟨v, valued⟩ ⟨d, findings, wins, fails⟩
    cases valued with
    | won wins' valid =>
      rw [wins.unique layer wins', valid] at fails
      contradiction
    | otherwise undefined => exact undefined.not_wins layer wins
  · intro passes
    obtain ⟨d, wins⟩ | undefined := wins_or_undefined layer file project f
    · cases checked : f.check d with
      | ok v => exact ⟨v, .won wins checked⟩
      | error findings => exact absurd ⟨d, findings, wins, checked⟩ passes
    · exact ⟨_, .otherwise undefined⟩

theorem exists_get_eq (value : (f : Field) → f.Carrier) :
  ∃ s : Settings, ∀ f, s.get f = value f
  := by
  refine ⟨⟨value .executablePath, value .onlyIfAppropriate, value .showUncovered,
    value .hyperclickPriority⟩, ?_⟩
  rintro (_ | _ | _ | _) <;> rfl

end Settings

end TypeCoverage
