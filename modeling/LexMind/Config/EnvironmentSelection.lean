import LexMind.Config.Manager
import LexMind.Config.OverrideOrder

set_option autoImplicit false

/- Naming the environment by `LEXMIND_ENV` against naming it by argument. -/
namespace LexMind.Config

open Lib Lib.Nested

section Sections

def firstUnknown (sections : List Key) : Option Key := sections.find? (fun key => !known key)

theorem firstUnknown_append (front back : List Key) :
    firstUnknown (front ++ back) = (firstUnknown front).or (firstUnknown back) :=
  List.find?_append

theorem checkUnknownSections_eq (data : Dict Key Scalar) :
    checkUnknownSections data =
      match firstUnknown data.entries.keys with
      | none => .ok ()
      | some key =>
          .error (.unknownConfigKey ("Unknown configuration section: '" ++ key.str ++ "'.")) := by
  unfold checkUnknownSections firstUnknown
  induction data.entries.keys with
  | nil => rfl
  | cons key rest ih =>
      rw [List.find?_cons]
      change ((if known key then Except.ok () else _) >>= fun _ => rest.forM _) = _
      cases known key with
      | true => exact ih
      | false => rfl

/-- The sections of the merged sources come in the order of the sources. -/
theorem firstUnknown_foldl (sources : List (ConfigSource Key)) (base : Dict Key Scalar) :
    firstUnknown (sources.foldl (fun merged source => deepMerge merged source.data)
        base).entries.keys =
      (firstUnknown base.entries.keys).or
        (firstUnknown (sources.flatMap (fun source => source.data.entries.keys))) := by
  induction sources generalizing base with
  | nil => exact Option.or_none.symm
  | cons source rest ih =>
      have merged : firstUnknown (deepMerge base source.data).entries.keys =
          (firstUnknown base.entries.keys).or (firstUnknown source.data.entries.keys) :=
        find?_keys_mergeEntries _ source.data.entries base.entries
      rw [List.foldl_cons, ih, merged, Option.or_assoc, List.flatMap_cons, firstUnknown_append]

variable {γ : Type} (libraries : Libraries γ)

/-- The section a variable is collected into, where it is taken. -/
def sectionOf (entry : String × String) : Option Key :=
  (partsOf libraries entry.1).bind (fun parts => parts.head?.map Key.text)

theorem firstUnknown_collect {overrides result : Entries Key Scalar} {entry : String × String}
    (collected : collect libraries overrides entry = .ok result) :
    firstUnknown result.keys =
      (firstUnknown overrides.keys).or (firstUnknown (sectionOf libraries entry).toList) := by
  unfold collect at collected
  unfold sectionOf
  split at collected
  · rename_i part rest named
    obtain ⟨inner, rfl, _⟩ := assign_put collected
    rw [named]
    exact Entries.find?_keys_put _ overrides (.text part) inner
  · rename_i none
    cases collected
    cases named : partsOf libraries entry.1 with
    | none => exact Option.or_none.symm
    | some parts =>
        cases parts with
        | nil => exact Option.or_none.symm
        | cons part rest => exact absurd named (none part rest)

/-- The sections the variables are collected into, in their order. -/
def variableSections (environ : List (String × String)) : List Key :=
  environ.flatMap (fun entry => (sectionOf libraries entry).toList)

theorem firstUnknown_collected {environ : List (String × String)}
    {overrides result : Entries Key Scalar}
    (collected : environ.foldlM (collect libraries) overrides = .ok result) :
    firstUnknown result.keys =
      (firstUnknown overrides.keys).or (firstUnknown (variableSections libraries environ)) := by
  induction environ generalizing overrides with
  | nil =>
      cases collected
      exact Option.or_none.symm
  | cons entry rest ih =>
      rw [List.foldlM_cons] at collected
      cases turn : collect libraries overrides entry with
      | error exc =>
          rw [turn] at collected
          cases collected
      | ok next =>
          rw [turn] at collected
          rw [ih collected, firstUnknown_collect libraries turn, Option.or_assoc,
            ← firstUnknown_append]
          rfl

end Sections

section Raises

variable {γ : Type} (libraries : Libraries γ)

/-- What collecting the variables can raise: none of it is an error of the configuration. -/
def Uncaught (exc : PyExc) : Prop :=
  (∃ message, exc = .valueError message) ∨ (∃ message, exc = .typeError message) ∨
    ∃ className attrName, exc = .attributeError className attrName

theorem coerce_raises {value : String} {exc : PyExc}
    (raised : coerce libraries value = .error exc) : Uncaught exc := by
  unfold coerce at raised
  split at raised
  · cases raised
  · split at raised
    · split at raised
      · cases raised
      · cases raised
        exact .inl ⟨_, rfl⟩
    · cases raised

theorem assign_raises {target : Entries Key Scalar} {part : String} {rest : List String}
    {value : Except PyExc Scalar} {exc : PyExc} (own : ∀ exc, value = .error exc → Uncaught exc)
    (raised : assign target part rest value = .error exc) : Uncaught exc := by
  induction rest generalizing target part with
  | nil =>
      cases value with
      | error own' =>
          cases raised
          exact own _ rfl
      | ok content => cases raised
  | cons next rest ih =>
      rw [assign] at raised
      split at raised
      · cases walked : assign .nil next rest value with
        | error exc' =>
            rw [walked] at raised
            cases raised
            exact ih walked
        | ok entries =>
            rw [walked] at raised
            cases raised
      · rename_i known found
        cases walked : assign known next rest value with
        | error exc' =>
            rw [walked] at raised
            cases raised
            exact ih walked
        | ok entries =>
            rw [walked] at raised
            cases raised
      · split at raised
        · cases value with
          | error own' =>
              cases raised
              exact own _ rfl
          | ok content =>
              cases raised
              exact .inr (.inl ⟨_, rfl⟩)
        · cases raised
          exact .inr (.inr ⟨_, _, rfl⟩)

theorem collected_raises {environ : List (String × String)} {overrides : Entries Key Scalar}
    {exc : PyExc} (raised : environ.foldlM (collect libraries) overrides = .error exc) :
    Uncaught exc := by
  induction environ generalizing overrides with
  | nil => cases raised
  | cons entry rest ih =>
      rw [List.foldlM_cons] at raised
      cases turn : collect libraries overrides entry with
      | error exc' =>
          rw [turn] at raised
          cases raised
          unfold collect at turn
          split at turn
          · exact assign_raises (fun _ => coerce_raises libraries) turn
          · cases turn
      | ok next =>
          rw [turn] at raised
          exact ih raised

theorem loadEnvOverrides_raises {environ : List (String × String)} {exc : PyExc}
    (raised : loadEnvOverrides libraries environ = .error exc) : Uncaught exc := by
  unfold loadEnvOverrides at raised
  split at raised
  · cases raised
  · rename_i collected
    cases raised
    exact collected_raises libraries collected

end Raises

section Load

variable {γ : Type} (libraries : Libraries γ) {configDir : ConfigDir} {environment : Environment}
  {environ : List (String × String)}

open ConfigManager

theorem fileSource_type {fileName name : String} {sourceType : SourceType}
    {sources : List (ConfigSource Key)}
    (loaded : fileSource libraries configDir fileName sourceType name = .ok sources) :
    ∀ source ∈ sources, source.sourceType = sourceType := by
  unfold fileSource at loaded
  split at loaded
  · cases loaded
    intro source none
    cases none
  · obtain ⟨source, parsed, last⟩ := returned_of_bind loaded
    cases last
    unfold loadYamlSource at parsed
    obtain ⟨text, _, parsed⟩ := returned_of_bind parsed
    obtain ⟨value, _, parsed⟩ := returned_of_bind parsed
    obtain ⟨data, _, parsed⟩ := returned_of_bind parsed
    obtain ⟨_, _, last⟩ := returned_of_bind parsed
    cases last
    intro other inside
    rw [List.mem_singleton.mp inside]

theorem pairwise_of_type {sources : List (ConfigSource Key)} {sourceType : SourceType}
    (typed : ∀ source ∈ sources, source.sourceType = sourceType) :
    sources.Pairwise (fun first second => first.priority ≤ second.priority) := by
  apply List.pairwise_of_forall_mem_list
  intro first inside second inside'
  unfold ConfigSource.priority
  rw [typed first inside, typed second inside']

/-- The sources of the files come by ascending priority, below the variables. -/
theorem fileSources_sorted {files : List (ConfigSource Key)}
    (loaded : fileSources libraries configDir environment = .ok files) :
    files.Pairwise (fun first second => first.priority ≤ second.priority) ∧
      ∀ source ∈ files, source.priority ≤ sourcePriority .workspace := by
  unfold fileSources at loaded
  obtain ⟨defaults, first, loaded⟩ := returned_of_bind loaded
  obtain ⟨selected, second, loaded⟩ := returned_of_bind loaded
  obtain ⟨workspace, third, last⟩ := returned_of_bind loaded
  cases last
  have typed := fileSource_type libraries first
  have typed' := fileSource_type libraries second
  have typed'' := fileSource_type libraries third
  have lowest : ∀ source ∈ defaults, source.priority = 0 := fun source inside => by
    rw [ConfigSource.priority, typed source inside]
    rfl
  have middle : ∀ source ∈ selected, source.priority = 1 := fun source inside => by
    rw [ConfigSource.priority, typed' source inside]
    rfl
  have highest : ∀ source ∈ workspace, source.priority = 3 := fun source inside => by
    rw [ConfigSource.priority, typed'' source inside]
    rfl
  constructor
  · rw [List.pairwise_append, List.pairwise_append]
    refine ⟨⟨pairwise_of_type typed, pairwise_of_type typed', ?_⟩, pairwise_of_type typed'', ?_⟩
    · intro source inside other inside'
      rw [lowest source inside]
      exact Nat.zero_le _
    · intro source inside other inside'
      rw [highest other inside']
      rcases List.mem_append.mp inside with inside | inside
      · rw [lowest source inside]
        omega
      · rw [middle source inside]
        omega
  · intro source inside
    show source.priority ≤ 3
    rcases List.mem_append.mp inside with inside | inside
    · rcases List.mem_append.mp inside with inside | inside
      · rw [lowest source inside]
        omega
      · rw [middle source inside]
        omega
    · exact Nat.le_of_eq (highest source inside)

/-- The sections of the files, in their order. -/
def fileSections (files : List (ConfigSource Key)) : List Key :=
  files.flatMap (fun source => source.data.entries.keys)

theorem loadEnvOverrides_cases {source : ConfigSource Key}
    (loaded : loadEnvOverrides libraries environ = .ok source) :
    source.priority = 4 ∧
      firstUnknown source.data.entries.keys = firstUnknown (variableSections libraries environ) := by
  unfold loadEnvOverrides at loaded
  split at loaded
  · rename_i overrides collected
    cases loaded
    exact ⟨rfl, firstUnknown_collected libraries collected⟩
  · cases loaded

theorem firstUnknown_merged {files : List (ConfigSource Key)} {overrides : ConfigSource Key}
    (loaded : fileSources libraries configDir environment = .ok files)
    (collected : loadEnvOverrides libraries environ = .ok overrides) :
    firstUnknown (mergeSources (files ++ [overrides])).entries.keys =
      (firstUnknown (fileSections files)).or (firstUnknown (variableSections libraries environ)) := by
  obtain ⟨sorted, below⟩ := fileSources_sorted libraries loaded
  obtain ⟨last, sections⟩ := loadEnvOverrides_cases libraries collected
  have ordered : (files ++ [overrides]).Pairwise
      (fun first second => first.priority ≤ second.priority) := by
    rw [List.pairwise_append]
    refine ⟨sorted, List.pairwise_singleton _ _, fun source inside other inside' => ?_⟩
    rw [List.mem_singleton.mp inside', last]
    have bound : source.priority ≤ 3 := below source inside
    omega
  rw [mergeSources, ordered.insertionSort_eq, firstUnknown_foldl, List.flatMap_append,
    firstUnknown_append, ← sections]
  show (none.or _ : Option Key) = _
  rw [Option.none_or]
  congr 2
  exact List.append_nil _

/-- What is left of a load once its sections are checked. -/
def validated (merged : Dict Key Scalar) : Except PyExc γ := do
  checkDeprecated libraries.deprecatedKeys merged
  match libraries.modelValidate merged with
  | .error message => .error (.configValidation message)
  | .ok config => .ok config

theorem checkDeprecated_raises {keys : List String} {data : Dict Key Scalar} {exc : PyExc}
    (raised : checkDeprecated keys data = .error exc) :
    ∃ message, exc = .deprecatedConfigKey message := by
  unfold checkDeprecated at raised
  induction keys with
  | nil => cases raised
  | cons key rest ih =>
      change ((if _ then _ else _) >>= fun _ => rest.forM _) = _ at raised
      split at raised
      · cases raised
        exact ⟨_, rfl⟩
      · exact ih raised

theorem validated_raises {merged : Dict Key Scalar} {exc : PyExc}
    (raised : validated libraries merged = .error exc) :
    (∃ message, exc = .deprecatedConfigKey message) ∨ ∃ message, exc = .configValidation message := by
  unfold validated at raised
  cases checked : checkDeprecated libraries.deprecatedKeys merged with
  | error exc' =>
      rw [checked] at raised
      cases raised
      exact .inl (checkDeprecated_raises checked)
  | ok _ =>
      rw [checked] at raised
      change (match libraries.modelValidate merged with | .error message => _ | .ok config => _) =
        (Except.error exc : Except PyExc γ) at raised
      split at raised
      · cases raised
        exact .inr ⟨_, rfl⟩
      · cases raised

/-- The answer of a load without runtime overrides. -/
def loadAnswer (files : Except PyExc (List (ConfigSource Key)))
    (environ : List (String × String)) : Except PyExc γ := do
  let files ← files
  let overrides ← loadEnvOverrides libraries environ
  match firstUnknown (fileSections files ++ variableSections libraries environ) with
  | some key => .error (.unknownConfigKey ("Unknown configuration section: '" ++ key.str ++ "'."))
  | none => validated libraries (mergeSources (files ++ [overrides]))

theorem load_answer (named : Option Environment)
    (files : Except PyExc (List (ConfigSource Key)))
    (loaded : fileSources libraries configDir
      (named.getD (detectEnvironment libraries environ)) = files) :
    (call (load libraries environ) (init libraries environ configDir named)).1 =
      loadAnswer libraries files environ := by
  unfold load loadAnswer init collectSources
  simp only [call_bind, call_get, andThen_ok, call_check, loaded]
  cases files with
  | error exc => rfl
  | ok files =>
      cases collected : loadEnvOverrides libraries environ with
      | error exc => rfl
      | ok overrides =>
          change (andThen (Except.ok (files ++ [overrides]), _) _).1 =
            match firstUnknown (fileSections files ++ variableSections libraries environ) with
            | some key => _
            | none => _
          have sections := firstUnknown_merged libraries loaded collected
          simp only [andThen_ok, call_bind, call_check, checkUnknownSections_eq,
            firstUnknown_append, sections]
          cases (firstUnknown (fileSections files)).or
            (firstUnknown (variableSections libraries environ)) with
          | some key => rfl
          | none =>
              unfold validated
              simp only [andThen_ok]
              cases checkDeprecated libraries.deprecatedKeys
                (mergeSources (files ++ [overrides])) with
              | error exc => rfl
              | ok _ =>
                  show (call (match libraries.modelValidate (mergeSources (files ++ [overrides]))
                    with | .error message => _ | .ok config => _) _).1 =
                      match libraries.modelValidate (mergeSources (files ++ [overrides])) with
                      | .error message => _
                      | .ok config => _
                  cases libraries.modelValidate (mergeSources (files ++ [overrides])) with
                  | error message => rfl
                  | ok config => rfl

/-- A failure of the variables is none of what comes after it. -/
theorem loadAnswer_of_overrides {files : List (ConfigSource Key)} {overrides : ConfigSource Key}
    (collected : loadEnvOverrides libraries environ = .ok overrides) {exc : PyExc}
    (raised : loadAnswer libraries (.ok files) environ = .error exc) : ¬ Uncaught exc := by
  unfold loadAnswer at raised
  rw [collected] at raised
  change (match firstUnknown (fileSections files ++ variableSections libraries environ) with
    | some key => _
    | none => _) = _ at raised
  split at raised
  · cases raised
    rintro (⟨_, same⟩ | ⟨_, same⟩ | ⟨_, _, same⟩) <;> cases same
  · rcases validated_raises libraries raised with ⟨_, rfl⟩ | ⟨_, rfl⟩
    · rintro (⟨_, same⟩ | ⟨_, same⟩ | ⟨_, _, same⟩) <;> cases same
    · rintro (⟨_, same⟩ | ⟨_, same⟩ | ⟨_, _, same⟩) <;> cases same

theorem loadAnswer_raises (files : List (ConfigSource Key)) {exc : PyExc}
    (raised : loadEnvOverrides libraries environ = .error exc) :
    loadAnswer libraries (.ok files) environ = .error exc := by
  unfold loadAnswer
  rw [raised]
  rfl

theorem loadAnswer_unknown {files : List (ConfigSource Key)} {overrides : ConfigSource Key}
    (collected : loadEnvOverrides libraries environ = .ok overrides) (key : Key) :
    loadAnswer libraries (.ok files) environ =
        .error (.unknownConfigKey ("Unknown configuration section: '" ++ key.str ++ "'.")) ↔
      ∃ first, firstUnknown (fileSections files ++ variableSections libraries environ) =
        some first ∧ first.str = key.str := by
  unfold loadAnswer
  rw [collected]
  change (match firstUnknown (fileSections files ++ variableSections libraries environ) with
    | some key => _
    | none => validated libraries _) = _ ↔ _
  cases firstUnknown (fileSections files ++ variableSections libraries environ) with
  | none =>
      constructor
      · intro raised
        rcases validated_raises libraries raised with ⟨_, same⟩ | ⟨_, same⟩
        · cases same
        · cases same
      · rintro ⟨_, impossible, _⟩
        cases impossible
  | some first =>
      simp only [Except.error.injEq, PyExc.unknownConfigKey.injEq, Option.some.injEq]
      constructor
      · intro same
        have text := congrArg String.toList same
        simp only [String.toList_append, List.append_cancel_left_eq,
          List.append_cancel_right_eq] at text
        exact ⟨first, rfl, String.ext text⟩
      · rintro ⟨_, rfl, same⟩
        rw [same]

end Load

section Selection

variable {γ : Type} (libraries : Libraries γ) (configDir : ConfigDir)
  (front back : List (String × String)) (raw : String) (environment : Environment)

/-- `ConfigManager(dir).load()` with `LEXMIND_ENV` at its place among the other variables. -/
def selectedByVariable : Except PyExc γ :=
  let environ := front ++ ("LEXMIND_ENV", raw) :: back
  (call (ConfigManager.load libraries environ)
    (ConfigManager.init libraries environ configDir none)).1

/-- `ConfigManager(dir, environment=e).load()`. -/
def selectedByArgument : Except PyExc γ :=
  let environ := front ++ back
  (call (ConfigManager.load libraries environ)
    (ConfigManager.init libraries environ configDir (some environment))).1

variable {libraries front back raw environment}

theorem detectEnvironment_named (unset : ∀ entry ∈ front ++ back, entry.1 ≠ "LEXMIND_ENV")
    (accepted : libraries.lower (String.ofList (strip raw.toList)) = environment.value) :
    detectEnvironment libraries (front ++ ("LEXMIND_ENV", raw) :: back) = environment := by
  have absent : front.find? (fun entry => entry.1 = "LEXMIND_ENV") = none := by
    rw [List.find?_eq_none]
    intro entry inside
    have other := unset entry (List.mem_append_left back inside)
    simpa using other
  have named : environGet (front ++ ("LEXMIND_ENV", raw) :: back) "LEXMIND_ENV" = some raw := by
    rw [environGet, List.find?_append, absent]
    rfl
  unfold detectEnvironment
  rw [named]
  show (Environment.all.find? (fun other =>
    other.value = libraries.lower (String.ofList (strip raw.toList)))).getD _ = environment
  rw [accepted]
  cases environment <;> rfl

theorem sectionOf_named : sectionOf libraries ("LEXMIND_ENV", raw) = some (.text "env") := by
  have lowered : libraries.lower (String.ofList ("LEXMIND_ENV".toList.drop prefixLexmind.length)) =
      "env" := by
    have ascii : ("LEXMIND_ENV".toList.drop prefixLexmind.length).all
        (fun char => char.toNat < 128) = true := by decide
    rw [libraries.lower_ascii _ (by simpa [String.toList_ofList] using ascii)]
    decide
  have taken : prefixLexmind.toList.isPrefixOf "LEXMIND_ENV".toList = true := by decide
  unfold sectionOf partsOf
  rw [if_pos taken, lowered]
  decide

theorem variableSections_named :
    variableSections libraries (front ++ ("LEXMIND_ENV", raw) :: back) =
      variableSections libraries front ++ .text "env" :: variableSections libraries back := by
  unfold variableSections
  rw [List.flatMap_append, List.flatMap_cons, sectionOf_named]
  rfl

theorem variableSections_text {environ : List (String × String)} {key : Key}
    (inside : key ∈ variableSections libraries environ) : ∃ content, key = .text content := by
  unfold variableSections at inside
  obtain ⟨entry, _, taken⟩ := List.mem_flatMap.mp inside
  obtain ⟨parts, _, first⟩ := Option.bind_eq_some_iff.mp (Option.mem_toList.mp taken)
  obtain ⟨part, _, same⟩ := Option.map_eq_some_iff.mp first
  exact ⟨part, same.symm⟩

/-- With all of the sources read, the answers differ unless an unknown section comes first. -/
theorem loadAnswer_named_iff {files : List (ConfigSource Key)} {withName without : ConfigSource Key}
    (collected : loadEnvOverrides libraries (front ++ ("LEXMIND_ENV", raw) :: back) = .ok withName)
    (collected' : loadEnvOverrides libraries (front ++ back) = .ok without) :
    loadAnswer libraries (.ok files) (front ++ ("LEXMIND_ENV", raw) :: back) =
        loadAnswer libraries (.ok files) (front ++ back) ↔
      firstUnknown (fileSections files ++ variableSections libraries front) ≠ none ∨
        firstUnknown (variableSections libraries back) = some (.text "env") := by
  have withSections : firstUnknown (fileSections files ++
      variableSections libraries (front ++ ("LEXMIND_ENV", raw) :: back)) =
        (firstUnknown (fileSections files ++ variableSections libraries front)).or
          (some (.text "env")) := by
    rw [variableSections_named, ← List.append_assoc, firstUnknown_append]
    rfl
  have sections : firstUnknown (fileSections files ++
      variableSections libraries (front ++ back)) =
        (firstUnknown (fileSections files ++ variableSections libraries front)).or
          (firstUnknown (variableSections libraries back)) := by
    rw [← firstUnknown_append, List.append_assoc, variableSections, List.flatMap_append]
    rfl
  cases earlier : firstUnknown (fileSections files ++ variableSections libraries front) with
  | some key =>
      rw [earlier, Option.some_or] at withSections sections
      have raised := (loadAnswer_unknown libraries collected key).mpr ⟨key, withSections, rfl⟩
      have raised' := (loadAnswer_unknown libraries collected' key).mpr ⟨key, sections, rfl⟩
      rw [raised, raised']
      simp
  | none =>
      rw [earlier, Option.none_or] at withSections sections
      rw [(loadAnswer_unknown libraries collected (.text "env")).mpr ⟨_, withSections, rfl⟩, eq_comm,
        loadAnswer_unknown libraries collected' (.text "env"), sections]
      constructor
      · rintro ⟨first, found, same⟩
        obtain ⟨content, rfl⟩ := variableSections_text (List.mem_of_find?_eq_some found)
        cases same
        exact .inr found
      · rintro (impossible | found)
        · exact absurd rfl impossible
        · exact ⟨_, found, rfl⟩

/-- Naming the environment by the variable gives what naming it by argument gives exactly where
a file fails first, where the variables fail alike with it and without it, or where all of them
can be read and an unknown section comes before `env`, or is the first without it and is `env`. -/
theorem load_transparent_iff (configDir : ConfigDir)
    (unset : ∀ entry ∈ front ++ back, entry.1 ≠ "LEXMIND_ENV")
    (accepted : libraries.lower (String.ofList (strip raw.toList)) = environment.value) :
    selectedByVariable libraries configDir front back raw =
        selectedByArgument libraries configDir front back environment ↔
      (∃ exc, ConfigManager.fileSources libraries configDir environment = .error exc) ∨
      (∃ exc, loadEnvOverrides libraries (front ++ ("LEXMIND_ENV", raw) :: back) = .error exc ∧
        loadEnvOverrides libraries (front ++ back) = .error exc) ∨
      ∃ files withName without,
        ConfigManager.fileSources libraries configDir environment = .ok files ∧
        loadEnvOverrides libraries (front ++ ("LEXMIND_ENV", raw) :: back) = .ok withName ∧
        loadEnvOverrides libraries (front ++ back) = .ok without ∧
        (firstUnknown (fileSections files ++ variableSections libraries front) ≠ none ∨
          firstUnknown (variableSections libraries back) = some (.text "env")) := by
  have detected := detectEnvironment_named unset accepted
  unfold selectedByVariable selectedByArgument
  rw [load_answer libraries none _ (by rw [Option.getD_none, detected]),
    load_answer libraries (some environment) _ rfl, Option.getD_some]
  cases ConfigManager.fileSources libraries configDir environment with
  | error exc => simp [loadAnswer, bind, Except.bind]
  | ok files =>
      simp only [reduceCtorEq, exists_false, false_or, Except.ok.injEq]
      cases collected : loadEnvOverrides libraries (front ++ ("LEXMIND_ENV", raw) :: back) with
      | error exc =>
          rw [loadAnswer_raises libraries files collected]
          cases collected' : loadEnvOverrides libraries (front ++ back) with
          | error exc' =>
              rw [loadAnswer_raises libraries files collected']
              simp [eq_comm]
          | ok without =>
              have apart : .error exc ≠ loadAnswer libraries (.ok files) (front ++ back) :=
                fun same => loadAnswer_of_overrides libraries collected' same.symm
                  (loadEnvOverrides_raises libraries collected)
              simp [apart]
      | ok withName =>
          cases collected' : loadEnvOverrides libraries (front ++ back) with
          | error exc' =>
              rw [loadAnswer_raises libraries files collected']
              have apart : loadAnswer libraries (.ok files)
                  (front ++ ("LEXMIND_ENV", raw) :: back) ≠ .error exc' :=
                fun same => loadAnswer_of_overrides libraries collected same
                  (loadEnvOverrides_raises libraries collected')
              simp [apart]
          | ok without =>
              rw [loadAnswer_named_iff collected collected']
              simp

/-- Over an empty directory, an unknown section before `env` fails both loads alike. -/
theorem load_transparent_unknown :
    selectedByVariable asciiLibraries ⟨id, fun _ => none⟩ [("LEXMIND_DEBUG", "on")] []
        "production" =
      selectedByArgument asciiLibraries ⟨id, fun _ => none⟩ [("LEXMIND_DEBUG", "on")] []
        .production :=
  (@load_transparent_iff _ asciiLibraries _ _ _ _ ⟨id, fun _ => none⟩ (by decide)
    (by decide)).mpr (.inr (.inr ⟨_, _, _, rfl, rfl, rfl, .inl (by decide)⟩))

/-- Over an empty directory, naming the production environment by the variable fails. -/
theorem load_untransparent :
    ¬ ∀ (configDir : ConfigDir) (front back : List (String × String)) (raw : String)
        (environment : Environment),
      (∀ entry ∈ front ++ back, entry.1 ≠ "LEXMIND_ENV") →
      asciiLibraries.lower (String.ofList (strip raw.toList)) = environment.value →
      selectedByVariable asciiLibraries configDir front back raw =
        selectedByArgument asciiLibraries configDir front back environment := by
  intro transparent
  have same := transparent ⟨id, fun _ => none⟩ [] [] "production" .production nofun (by decide)
  cases same

end Selection

end LexMind.Config
