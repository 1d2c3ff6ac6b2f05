import LexMind.Config.Loader
import LexMind.Lib.Delimited
import Mathlib.Data.List.Infix

set_option autoImplicit false

/- Which keys of a YAML document the scan for secrets sees. -/
namespace LexMind.Config

open Lib Lib.Nested

section Flatten

theorem mem_keys_update (key : Key) : ∀ (other out : Entries Key Scalar),
    key ∈ (update out other).keys ↔ key ∈ out.keys ∨ key ∈ other.keys
  | .nil, out => by simp [update, Entries.keys]
  | .cons first value rest, out => by
      rw [update, mem_keys_update key rest, Entries.mem_keys_put, Entries.keys, List.mem_cons]
      tauto

/-- The flattened view has a key for each path that ends in a value that is no map. -/
theorem mem_keys_flattenInto (key : Key) : ∀ (entries out : Entries Key Scalar) (front : Key),
    key ∈ (flattenInto out front entries).keys ↔
      key ∈ out.keys ∨ ∃ path ∈ entries.leafPaths, path.foldl flatKey front = key
  | .nil, out, front => by simp [flattenInto, Entries.leafPaths]
  | .cons first (.map inner) rest, out, front => by
      rw [flattenInto, mem_keys_flattenInto key rest, mem_keys_update,
        mem_keys_flattenInto key inner, Entries.leafPaths]
      simp only [Entries.keys, List.not_mem_nil, false_or, List.mem_append, List.mem_map,
        or_and_right, exists_or, or_assoc, exists_exists_and_eq_and, List.foldl_cons]
  | .cons first (.scalar content) rest, out, front => by
      rw [flattenInto, mem_keys_flattenInto key rest, Entries.mem_keys_put, Entries.leafPaths]
      · simp only [List.mem_cons, or_and_right, exists_or, exists_eq_left, List.foldl_cons,
          List.foldl_nil]
        tauto
      · intro inner same
        cases same
  | .cons first (.list items) rest, out, front => by
      rw [flattenInto, mem_keys_flattenInto key rest, Entries.mem_keys_put, Entries.leafPaths]
      · simp only [List.mem_cons, or_and_right, exists_or, exists_eq_left, List.foldl_cons,
          List.foldl_nil]
        tauto
      · intro inner same
        cases same

theorem mem_keys_flatten (key front : Key) (entries : Entries Key Scalar) :
    key ∈ (flatten front entries).keys ↔
      ∃ path ∈ entries.leafPaths, path.foldl flatKey front = key := by
  rw [flatten, mem_keys_flattenInto]
  simp [Entries.keys]

end Flatten

/-- The form of a lower-case sigma is left out. -/
def plainSigma (char : Char) : Char := if char = 'ς' then 'σ' else char

/-- `str.lower` changes each character by itself, but for the form of a sigma, which the characters
around it decide. -/
def Charwise (lower : String → String) : Prop :=
  ∃ mapping : Char → List Char, ∀ text,
    (lower text).toList.map plainSigma = text.toList.flatMap mapping

section Hints

/-- A text without sigmas is found whatever the form of the sigmas around it. -/
theorem infix_map_plainSigma {hint text : List Char}
    (free : ∀ char ∈ hint, char ≠ 'σ' ∧ char ≠ 'ς') :
    hint <:+: text.map plainSigma ↔ hint <:+: text := by
  have fixed : ∀ part : List Char, (∀ char ∈ part, char ≠ 'ς') → part.map plainSigma = part := by
    intro part plain
    have same : part.map plainSigma = part.map id :=
      List.map_congr_left (fun char inside => if_neg (plain char inside))
    rw [same, List.map_id]
  constructor
  · intro found
    obtain ⟨part, inside, rfl⟩ := List.infix_map_iff.mp found
    have plain : ∀ char ∈ part, char ≠ 'ς' := by
      rintro char within rfl
      exact (free _ (List.mem_map_of_mem within)).1 rfl
    rwa [fixed part plain]
  · intro found
    rw [← fixed hint (fun char inside => (free char inside).2)]
    exact found.map plainSigma

theorem contains_iff (text hint : List Char) : contains text hint = true ↔ hint <:+: text := by
  simp only [contains, List.any_eq_true, List.mem_tails, List.isPrefixOf_iff_prefix,
    List.infix_iff_prefix_suffix, and_comm]

theorem hint_chars : ∀ hint ∈ secretKeyHints,
    '.' ∉ hint.toList ∧ ∀ char ∈ hint.toList, char ≠ 'σ' ∧ char ≠ 'ς' := by
  simp [secretKeyHints]

end Hints

section Keys

variable {γ : Type} (libraries : Libraries γ)

/-- The key contains one of the hints, whatever its case. -/
def secretLike (key : String) : Bool :=
  secretKeyHints.any (fun hint => contains (libraries.lower key).toList hint.toList)

variable {libraries}

theorem secretLike_iff {mapping : Char → List Char}
    (lowers : ∀ text, (libraries.lower text).toList.map plainSigma = text.toList.flatMap mapping)
    (key : String) :
    secretLike libraries key = true ↔
      ∃ hint ∈ secretKeyHints, hint.toList <:+: key.toList.flatMap mapping := by
  rw [secretLike, List.any_eq_true]
  refine exists_congr (fun hint => and_congr_right (fun known => ?_))
  rw [contains_iff, ← infix_map_plainSigma (hint_chars hint known).2, lowers]

theorem mapping_dot {mapping : Char → List Char}
    (lowers : ∀ text, (libraries.lower text).toList.map plainSigma = text.toList.flatMap mapping) :
    mapping '.' = ['.'] := by
  have dot := lowers "."
  have same : lowerAscii "." = "." := rfl
  rw [libraries.lower_ascii "." (by simp), same] at dot
  simpa [plainSigma] using dot.symm

/-- A hint is found in a joined key exactly where it is found in one of its parts. -/
theorem secretLike_join (charwise : Charwise libraries.lower) (front key : String) :
    secretLike libraries (front ++ "." ++ key) = true ↔
      secretLike libraries front = true ∨ secretLike libraries key = true := by
  obtain ⟨mapping, lowers⟩ := charwise
  have joined : (front ++ "." ++ key).toList.flatMap mapping =
      front.toList.flatMap mapping ++ '.' :: key.toList.flatMap mapping := by
    simp [mapping_dot lowers]
  rw [secretLike_iff lowers, secretLike_iff lowers, secretLike_iff lowers, joined, ← exists_or]
  refine exists_congr (fun hint => ?_)
  rw [← and_or_left]
  exact and_congr_right (fun known => Delimited.infix_append_delimiter (hint_chars hint known).1)

theorem secretLike_empty : secretLike libraries "" = false := by
  rw [secretLike, libraries.lower_ascii "" (by simp)]
  decide

theorem secretLike_flatKey (charwise : Charwise libraries.lower) (front key : String) :
    ∃ content, flatKey (.text front) (.text key) = .text content ∧
      (secretLike libraries content = true ↔
        secretLike libraries front = true ∨ secretLike libraries key = true) := by
  by_cases empty : front = ""
  · subst empty
    exact ⟨key, rfl, by simp [secretLike_empty]⟩
  · exact ⟨front ++ "." ++ key, by simp [flatKey, Key.truthy, Key.str, empty],
      secretLike_join charwise front key⟩

/-- A flattened key is secret-like exactly where a key on its path is. -/
theorem secretLike_foldl_flatKey (charwise : Charwise libraries.lower) {path : List Key}
    (texts : ∀ key ∈ path, ∃ content, key = .text content) (front : String) :
    ∃ content, path.foldl flatKey (.text front) = .text content ∧
      (secretLike libraries content = true ↔
        secretLike libraries front = true ∨ ∃ key ∈ path, secretLike libraries key.str = true) := by
  induction path generalizing front with
  | nil => exact ⟨front, rfl, by simp⟩
  | cons key rest ih =>
      obtain ⟨own, rfl⟩ := texts key List.mem_cons_self
      obtain ⟨joined, flat, first⟩ := secretLike_flatKey charwise front own
      obtain ⟨content, whole, later⟩ :=
        ih (fun key inside => texts key (List.mem_cons_of_mem _ inside)) joined
      refine ⟨content, by rw [List.foldl_cons, flat, whole], ?_⟩
      rw [later, first, List.exists_mem_cons_iff, or_assoc]
      rfl

/-- The scan passes keys that are texts and not secret-like. -/
theorem scanSecrets_ok_iff (flat : Entries Key Scalar) (sourceName : String) :
    scanSecrets libraries flat sourceName = .ok () ↔
      ∀ key ∈ flat.keys, ∃ content, key = .text content ∧ secretLike libraries content = false := by
  rw [scanSecrets, forM_ok_iff]
  refine forall₂_congr (fun key _ => ?_)
  cases key with
  | other typeName content truthy =>
      refine iff_of_false nofun ?_
      rintro ⟨_, same, _⟩
      cases same
  | text content =>
      show (if secretLike libraries content = true then _ else _) = _ ↔ _
      cases like : secretLike libraries content with
      | true =>
          refine iff_of_false nofun ?_
          rintro ⟨_, same, plain⟩
          cases same
          rw [like] at plain
          cases plain
      | false => exact iff_of_true rfl ⟨content, rfl, like⟩

/-- Of a nested map, the scan passes one without a secret-like key on a path of maps to a value
that is no map. -/
theorem scan_flatten_ok_iff (charwise : Charwise libraries.lower) {entries : Entries Key Scalar}
    (texts : ∀ key ∈ entries.allKeys, ∃ content, key = .text content) (sourceName : String) :
    scanSecrets libraries (flatten (.text "") entries) sourceName = .ok () ↔
      ¬ ∃ path ∈ entries.leafPaths, ∃ key ∈ path, secretLike libraries key.str = true := by
  rw [scanSecrets_ok_iff]
  simp only [mem_keys_flatten, forall_exists_index, and_imp, forall_apply_eq_imp_iff₂, not_exists,
    not_and]
  refine forall₂_congr (fun path inside => ?_)
  obtain ⟨content, flat, like⟩ := secretLike_foldl_flatKey charwise
    (fun key within => texts key (Entries.mem_allKeys_of_mem_leafPath inside key within)) ""
  rw [secretLike_empty] at like
  simp only [flat, Key.text.injEq, exists_eq_left', ← Bool.not_eq_true, like, Bool.false_eq_true,
    false_or, not_exists, not_and]

theorem mappingOf_map (path : String) (data : Dict Key Scalar) :
    mappingOf path ⟨.map data.entries, data.formed⟩ = .ok data := by
  obtain ⟨entries, formed⟩ := data
  cases entries <;> rfl

theorem loadYamlSource_ok_iff {text : String} {data : Dict Key Scalar}
    (parses : libraries.safeLoad text = .ok ⟨.map data.entries, data.formed⟩) (path : String)
    (sourceType : SourceType) (name : String) :
    (∃ source, loadYamlSource libraries path (.ok text) sourceType name = .ok source) ↔
      scanSecrets libraries (flatten (.text "") data.entries) name = .ok () := by
  have steps : loadYamlSource libraries path (.ok text) sourceType name =
      (do
        scanSecrets libraries (flatten (.text "") data.entries) name
        return ⟨name, sourceType, data, some path⟩) := by
    show (wrapFailure _ (libraries.safeLoad text) >>= fun parsed => _) = _
    rw [parses]
    show (mappingOf path _ >>= fun data => _) = _
    rw [mappingOf_map]
    rfl
  rw [steps]
  cases scanSecrets libraries (flatten (.text "") data.entries) name with
  | error exc => exact ⟨nofun, nofun⟩
  | ok _ => exact ⟨fun _ => rfl, fun _ => ⟨_, rfl⟩⟩

end Keys

/-- A document whose values nest texts as keys is accepted exactly where it has no secret-like key,
at any depth, if and only if a secret-like key it has comes with one on a path of maps to a value
that is no map: the scan looks neither into lists nor at keys above empty maps. -/
theorem yaml_secrets_iff {γ : Type} (libraries : Libraries γ) (charwise : Charwise libraries.lower)
    (path text : String) (sourceType : SourceType) (name : String) (data : Dict Key Scalar)
    (parses : libraries.safeLoad text = .ok ⟨.map data.entries, data.formed⟩)
    (texts : ∀ key ∈ data.entries.allKeys, ∃ content, key = .text content) :
    ((∃ source, loadYamlSource libraries path (.ok text) sourceType name = .ok source) ↔
        ¬ ∃ key ∈ data.entries.allKeys, secretLike libraries key.str = true) ↔
      ((∃ key ∈ data.entries.allKeys, secretLike libraries key.str = true) →
        ∃ keys ∈ data.entries.leafPaths, ∃ key ∈ keys, secretLike libraries key.str = true) := by
  have within :
      (∃ keys ∈ data.entries.leafPaths, ∃ key ∈ keys, secretLike libraries key.str = true) →
        ∃ key ∈ data.entries.allKeys, secretLike libraries key.str = true := by
    rintro ⟨keys, inside, key, found, like⟩
    exact ⟨key, Entries.mem_allKeys_of_mem_leafPath inside key found, like⟩
  rw [loadYamlSource_ok_iff parses, scan_flatten_ok_iff charwise texts, not_iff_not]
  exact ⟨fun same => same.mpr, fun covers => ⟨within, covers⟩⟩

theorem charwise_lowerAscii : Charwise lowerAscii :=
  ⟨fun char => [plainSigma char.toLower], fun text => by
    rw [lowerAscii, String.toList_ofList, List.map_map, List.map_eq_flatMap]
    rfl⟩

/-- The libraries where the parser reads this document. -/
def reading (document : Dict Key Scalar) : Libraries (Dict Key Scalar) :=
  { asciiLibraries with safeLoad := fun _ => .ok ⟨.map document.entries, document.formed⟩ }

/-- A map of one key. -/
def single (key : String) (value : Value Key Scalar) (formed : value.WellFormed) :
    Dict Key Scalar := Dict.empty.put (.text key) value formed

theorem wellFormed_single (key : String) (content : Scalar) :
    (Value.map (.cons (.text key) (.scalar content) .nil) : Value Key Scalar).WellFormed :=
  ⟨List.not_mem_nil, trivial, trivial⟩

/-- A document with an API key in a section. -/
def leakingSection : Dict Key Scalar :=
  single "api" (.map (.cons (.text "api_key") (.scalar (.str "leaked")) .nil))
    (wellFormed_single "api_key" (.str "leaked"))

theorem leaking_section_rejected :
    (∃ source, loadYamlSource (reading leakingSection) "default.yaml"
        (.ok "api:\n  api_key: leaked\n") .default "default" = .ok source) ↔
      ¬ ∃ key ∈ leakingSection.entries.allKeys,
        secretLike (reading leakingSection) key.str = true := by
  refine (yaml_secrets_iff (reading leakingSection) charwise_lowerAscii "default.yaml"
    "api:\n  api_key: leaked\n" .default "default" leakingSection rfl ?_).mpr ?_
  · show ∀ key ∈ [Key.text "api", Key.text "api_key"], _
    simp
  · intro _
    exact ⟨[.text "api", .text "api_key"], by decide, .text "api_key", by decide, by decide⟩

/-- A document with a password in a list of maps. -/
def leakingList : Dict Key Scalar :=
  single "db" (.list (.cons (.map (.cons (.text "password") (.scalar (.str "leaked")) .nil)) .nil))
    ⟨wellFormed_single "password" (.str "leaked"), trivial⟩

theorem leaking_list_accepted :
    ¬ ((∃ source, loadYamlSource (reading leakingList) "default.yaml"
        (.ok "db:\n- password: leaked\n") .default "default" = .ok source) ↔
      ¬ ∃ key ∈ leakingList.entries.allKeys, secretLike (reading leakingList) key.str = true) := by
  intro same
  refine same.mp ⟨_, rfl⟩ ⟨.text "password", ?_, ?_⟩
  · decide
  · decide

end LexMind.Config
