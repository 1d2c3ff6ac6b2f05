import LexMind.Config.Loader
import LexMind.Lib.StableSort

set_option autoImplicit false

/- Which source a merged value comes from. -/
namespace LexMind.Config

open Lib Lib.Nested

section Merge

variable {κ α : Type} [DecidableEq κ]

theorem combine_of_leaf {new : Value κ α} (kind : new.isMap = false) (old : Option (Value κ α)) :
    combine old new = new := by
  cases new with
  | map entries => cases kind
  | scalar content =>
      cases old with
      | none => rfl
      | some old => cases old <;> rfl
  | list items =>
      cases old with
      | none => rfl
      | some old => cases old <;> rfl

/-- Two combined values make a leaf only where the override is that leaf. -/
theorem combine_eq_leaf {leaf : Value κ α} (kind : leaf.isMap = false) (old : Option (Value κ α))
    (new : Value κ α) : combine old new = leaf ↔ new = leaf := by
  by_cases map : new.isMap = true
  · have other : new ≠ leaf := by
      rintro rfl
      rw [kind] at map
      cases map
    have merged : combine old new ≠ leaf := by
      cases new with
      | map inner =>
          cases old with
          | none => exact other
          | some old =>
              cases old with
              | scalar content => exact other
              | list items => exact other
              | map old =>
                  rintro rfl
                  cases kind
      | scalar content => cases map
      | list items => cases map
    exact iff_of_false merged other
  · rw [combine_of_leaf (Bool.not_eq_true _ ▸ map)]

/-- At one key, a leaf is the override's, or the older one where the override does not cover it. -/
theorem at?_combine (path : List κ) {leaf : Value κ α} (kind : leaf.isMap = false)
    (old : Option (Value κ α)) (new : Value κ α) (formed : new.WellFormed) :
    (combine old new).at? path = some leaf ↔
      new.at? path = some leaf ∨ old.bind (Value.at? path) = some leaf ∧ ¬ new.Covers path := by
  induction path generalizing old new with
  | nil =>
      have covered : ¬ ¬ new.Covers [] := fun clear => clear new.covers_nil
      simp only [covered, and_false, or_false, Value.at?_nil, Option.some.injEq]
      exact combine_eq_leaf kind old new
  | cons key path ih =>
      cases new with
      | scalar content =>
          have covered := @Value.covers_of_leaf _ α _ (.scalar content) rfl (key :: path)
          rw [combine_of_leaf rfl]
          simp [covered]
      | list items =>
          have covered := @Value.covers_of_leaf _ α _ (.list items) rfl (key :: path)
          rw [combine_of_leaf rfl]
          simp [covered]
      | map inner =>
          have replaced (nothing : old.bind (Value.at? (key :: path)) = none)
              (same : combine old (.map inner) = .map inner) :
              (combine old (.map inner)).at? (key :: path) = some leaf ↔
                (Value.map inner).at? (key :: path) = some leaf ∨
                  old.bind (Value.at? (key :: path)) = some leaf ∧
                    ¬ (Value.map inner).Covers (key :: path) := by
            rw [same, nothing]
            simp
          cases old with
          | none => exact replaced rfl rfl
          | some old =>
              cases old with
              | scalar content => exact replaced rfl rfl
              | list items => exact replaced rfl rfl
              | map old =>
                  have found := find?_mergeEntries inner old formed key
                  show (Value.map (mergeEntries old inner)).at? (key :: path) = some leaf ↔ _
                  rw [Value.at?_map, found, Value.covers_map, Value.at?_map, Option.bind_some,
                    Value.at?_map]
                  cases stands : inner.find? key with
                  | none => simp
                  | some value =>
                      have known := Entries.wellFormed_of_find? formed stands
                      simpa using ih (old.find? key) value known

/-- The map as a value. -/
def asValue (dict : Dict κ α) : Value κ α := .map dict.entries

/-- The map holds a value that is no map at the path. -/
def HoldsLeaf (dict : Dict κ α) (path : List κ) (leaf : Value κ α) : Prop :=
  (asValue dict).at? path = some leaf ∧ leaf.isMap = false

/-- The map has a value at the path, or a value that is no map above it. -/
def Covers (dict : Dict κ α) (path : List κ) : Prop := (asValue dict).Covers path

theorem holdsLeaf_empty (path : List κ) (leaf : Value κ α) : ¬ HoldsLeaf .empty path leaf := by
  rintro ⟨found, kind⟩
  cases path with
  | nil =>
      cases found
      cases kind
  | cons key path => cases found

theorem holdsLeaf_deepMerge (base override : Dict κ α) (path : List κ) (leaf : Value κ α) :
    HoldsLeaf (deepMerge base override) path leaf ↔
      HoldsLeaf override path leaf ∨ HoldsLeaf base path leaf ∧ ¬ Covers override path := by
  unfold HoldsLeaf
  by_cases kind : leaf.isMap = false
  · have merged := at?_combine path kind (some (asValue base)) (asValue override) override.formed
    simp only [kind, and_true]
    exact merged
  · simp [kind]

/-- Merging one map after another: a leaf comes from a map that no later one covers. -/
theorem holdsLeaf_foldl (dicts : List (Dict κ α)) (base : Dict κ α) (path : List κ)
    (leaf : Value κ α) :
    HoldsLeaf (dicts.foldl deepMerge base) path leaf ↔
      (∃ front chosen back, dicts = front ++ chosen :: back ∧ HoldsLeaf chosen path leaf ∧
          ∀ other ∈ back, ¬ Covers other path) ∨
        HoldsLeaf base path leaf ∧ ∀ other ∈ dicts, ¬ Covers other path := by
  induction dicts generalizing base with
  | nil => simp
  | cons dict rest ih =>
      rw [List.foldl_cons, ih, holdsLeaf_deepMerge, List.forall_mem_cons]
      constructor
      · rintro (⟨front, chosen, back, rfl, held, clear⟩ | ⟨held | ⟨held, first⟩, clear⟩)
        · exact .inl ⟨dict :: front, chosen, back, rfl, held, clear⟩
        · exact .inl ⟨[], dict, rest, rfl, held, clear⟩
        · exact .inr ⟨held, first, clear⟩
      · rintro (⟨front, chosen, back, split, held, clear⟩ | ⟨held, first, clear⟩)
        · cases front with
          | nil =>
              cases split
              exact .inr ⟨.inl held, clear⟩
          | cons head front =>
              cases split
              exact .inl ⟨front, chosen, back, rfl, held, clear⟩
        · exact .inr ⟨.inr ⟨held, first⟩, clear⟩

end Merge

variable {κ : Type} [DecidableEq κ]

theorem holdsLeaf_mergeSources (sources : List (ConfigSource κ)) (path : List κ)
    (leaf : Value κ Scalar) :
    HoldsLeaf (mergeSources sources) path leaf ↔
      ∃ index source, sources[index]? = some source ∧ HoldsLeaf source.data path leaf ∧
        ∀ index' other, sources[index']? = some other →
          StableSort.Before ConfigSource.priority (source, index) (other, index') →
            ¬ Covers other.data path := by
  have folded : mergeSources sources =
      ((StableSort.sorted ConfigSource.priority sources).map ConfigSource.data).foldl
        deepMerge .empty := by
    rw [List.foldl_map]
    rfl
  rw [folded, holdsLeaf_foldl, ← StableSort.sorted_split_iff sources
    (fun source => HoldsLeaf source.data path leaf) (fun source => ¬ Covers source.data path)]
  simp only [holdsLeaf_empty, false_and, or_false]
  constructor
  · rintro ⟨front, chosen, back, split, held, clear⟩
    obtain ⟨front', rest, whole, -, tail⟩ := List.map_eq_append_iff.mp split
    obtain ⟨source, back', rfl, rfl, rfl⟩ := List.map_eq_cons_iff.mp tail
    exact ⟨front', source, back', whole, held, fun other inside =>
      clear _ (List.mem_map_of_mem inside)⟩
  · rintro ⟨front, source, back, whole, held, clear⟩
    refine ⟨front.map ConfigSource.data, source.data, back.map ConfigSource.data, ?_, held, ?_⟩
    · rw [whole, List.map_append, List.map_cons]
    · intro other inside
      obtain ⟨later, member, rfl⟩ := List.mem_map.mp inside
      exact clear later member

/-- Where the merged configuration has a value that is no map, it is the value of a source, or
of the overrides, that nothing merged later covers. -/
theorem merged_value_iff (sources : List (ConfigSource κ)) (overrides : Dict κ Scalar)
    (path : List κ) (leaf : Value κ Scalar) :
    HoldsLeaf (deepMerge (mergeSources sources) overrides) path leaf ↔
      HoldsLeaf overrides path leaf ∨
        (∃ (index : Nat) (source : ConfigSource κ), sources[index]? = some source ∧
          HoldsLeaf source.data path leaf ∧
          ∀ (index' : Nat) (other : ConfigSource κ), sources[index']? = some other →
            (source.priority < other.priority ∨
              source.priority = other.priority ∧ index < index') →
            ¬ Covers other.data path) ∧
        ¬ Covers overrides path := by
  rw [holdsLeaf_deepMerge, holdsLeaf_mergeSources]
  exact Iff.rfl

end LexMind.Config
