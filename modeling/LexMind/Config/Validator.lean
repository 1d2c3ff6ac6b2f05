import LexMind.Config.Types

set_option autoImplicit false

namespace LexMind.Config

open Lib Lib.Nested

section Merge

variable {κ α : Type} [DecidableEq κ]

/-- `deep_merge` of the remaining entries into the result so far. -/
def mergeEntries (result : Entries κ α) : Entries κ α → Entries κ α
  | .nil => result
  | .cons key value rest =>
      match result.find? key, value with
      | some (.map old), .map inner =>
          mergeEntries (result.put key (.map (mergeEntries old inner))) rest
      | _, _ => mergeEntries (result.put key value) rest

/-- What an override makes of the value before it. -/
def combine : Option (Value κ α) → Value κ α → Value κ α
  | some (.map old), .map inner => .map (mergeEntries old inner)
  | _, value => value

theorem mergeEntries_cons (result : Entries κ α) (key : κ) (value : Value κ α)
    (rest : Entries κ α) :
    mergeEntries result (.cons key value rest) =
      mergeEntries (result.put key (combine (result.find? key) value)) rest := by
  cases found : result.find? key with
  | none => simp [mergeEntries, combine, found]
  | some old =>
      cases old with
      | scalar content => simp [mergeEntries, combine, found]
      | list items => simp [mergeEntries, combine, found]
      | map old => cases value <;> simp [mergeEntries, combine, found]

theorem find?_mergeEntries : ∀ (override : Entries κ α) (result : Entries κ α),
    override.WellFormed → ∀ key, (mergeEntries result override).find? key =
      match override.find? key with
      | some value => some (combine (result.find? key) value)
      | none => result.find? key
  | .nil, result, _, key => by
      rw [mergeEntries]
      rfl
  | .cons first value rest, result, ⟨fresh, _, formed⟩, key => by
      have absent : rest.find? first = none := (rest.find?_eq_none_iff first).mpr fresh
      rw [mergeEntries_cons, find?_mergeEntries rest _ formed key, Entries.find?]
      by_cases same : first = key
      · subst same
        simp only [absent, if_true, Entries.find?_put]
      · simp only [same, if_false, Entries.find?_put]

theorem find?_keys_mergeEntries (test : κ → Bool) : ∀ (override result : Entries κ α),
    (mergeEntries result override).keys.find? test =
      (result.keys.find? test).or (override.keys.find? test)
  | .nil, result => by
      rw [mergeEntries]
      exact Option.or_none.symm
  | .cons key value rest, result => by
      rw [mergeEntries_cons, find?_keys_mergeEntries test rest, Entries.find?_keys_put,
        Option.or_assoc, Entries.keys, ← List.find?_append]
      rfl

theorem wellFormed_mergeEntries : ∀ (override result : Entries κ α),
    override.WellFormed → result.WellFormed → (mergeEntries result override).WellFormed
  | .nil, result, _, formed => by
      rw [mergeEntries]
      exact formed
  | .cons key (.map inner) rest, result, ⟨_, formed, later⟩, before => by
      rw [mergeEntries_cons]
      apply wellFormed_mergeEntries rest _ later
      apply Entries.wellFormed_put before
      cases found : result.find? key with
      | none => exact formed
      | some old =>
          cases old with
          | scalar content => exact formed
          | list items => exact formed
          | map old =>
              have known := Entries.wellFormed_of_find? before found
              exact wellFormed_mergeEntries inner old formed known
  | .cons key (.scalar content) rest, result, ⟨_, formed, later⟩, before => by
      rw [mergeEntries_cons]
      apply wellFormed_mergeEntries rest _ later
      apply Entries.wellFormed_put before
      cases result.find? key with
      | none => exact formed
      | some old => cases old <;> exact formed
  | .cons key (.list items) rest, result, ⟨_, formed, later⟩, before => by
      rw [mergeEntries_cons]
      apply wellFormed_mergeEntries rest _ later
      apply Entries.wellFormed_put before
      cases result.find? key with
      | none => exact formed
      | some old => cases old <;> exact formed

/-- Recursively merge `override` into `base`. -/
def deepMerge (base override : Dict κ α) : Dict κ α :=
  ⟨mergeEntries base.entries override.entries,
    wellFormed_mergeEntries override.entries base.entries override.formed base.formed⟩

end Merge

section Checks

/-- `out.update(other)`. -/
def update (out : Entries Key Scalar) : Entries Key Scalar → Entries Key Scalar
  | .nil => out
  | .cons key value rest => update (out.put key value) rest

/-- `f"{prefix}.{key}" if prefix else key`. -/
def flatKey (front key : Key) : Key :=
  if front.truthy then .text (front.str ++ "." ++ key.str) else key

def flattenInto (out : Entries Key Scalar) (front : Key) : Entries Key Scalar → Entries Key Scalar
  | .nil => out
  | .cons key (.map inner) rest =>
      flattenInto (update out (flattenInto .nil (flatKey front key) inner)) front rest
  | .cons key value rest => flattenInto (out.put (flatKey front key) value) front rest

def flatten (front : Key) (data : Entries Key Scalar) : Entries Key Scalar :=
  flattenInto .nil front data

/-- The keys of `DEPRECATED_KEYS`, in the order the set has them. -/
def checkDeprecated (deprecatedKeys : List String) (data : Dict Key Scalar) : Except PyExc Unit :=
  deprecatedKeys.forM (fun key =>
    if .text key ∈ (flatten (.text "") data.entries).keys then
      .error (.deprecatedConfigKey ("Deprecated configuration key: '" ++ key ++ "'."))
    else .ok ())

def sectionModels : List String :=
  ["system", "logging", "kernel", "events", "plugins", "ocr", "parser", "chunking", "embeddings",
    "vector_store", "retrieval", "reranker", "knowledge_graph", "timeline", "mcp", "api", "ui",
    "cache", "security", "performance", "monitoring"]

def known (key : Key) : Bool := key ∈ (sectionModels ++ ["version"]).map Key.text

def checkUnknownSections (data : Dict Key Scalar) : Except PyExc Unit :=
  data.entries.keys.forM (fun key =>
    if known key then .ok ()
    else .error (.unknownConfigKey ("Unknown configuration section: '" ++ key.str ++ "'.")))

end Checks

end LexMind.Config
