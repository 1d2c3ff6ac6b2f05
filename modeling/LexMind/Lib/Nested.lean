import Mathlib.Data.List.Nodup

set_option autoImplicit false

/- Values nested in ordered maps and lists, as scripting languages and data formats have them. -/
namespace Lib.Nested

mutual

inductive Value (κ α : Type) where
  | scalar (content : α)
  | list (items : Items κ α)
  | map (entries : Entries κ α)

inductive Items (κ α : Type) where
  | nil
  | cons (value : Value κ α) (rest : Items κ α)

/-- The entries of a map, in the order of their keys' first insertion. -/
inductive Entries (κ α : Type) where
  | nil
  | cons (key : κ) (value : Value κ α) (rest : Entries κ α)

end

deriving instance DecidableEq for Value, Items, Entries

variable {κ α : Type}

def Value.isMap : Value κ α → Bool
  | .map _ => true
  | _ => false

namespace Items

def ofList : List (Value κ α) → Items κ α
  | [] => .nil
  | value :: rest => .cons value (ofList rest)

def toList : Items κ α → List (Value κ α)
  | .nil => []
  | .cons value rest => value :: rest.toList

@[simp] theorem toList_ofList (values : List (Value κ α)) : (ofList values).toList = values := by
  induction values with
  | nil => rfl
  | cons value rest ih => rw [ofList, toList, ih]

end Items

namespace Entries

def ofList : List (κ × Value κ α) → Entries κ α
  | [] => .nil
  | (key, value) :: rest => .cons key value (ofList rest)

def toList : Entries κ α → List (κ × Value κ α)
  | .nil => []
  | .cons key value rest => (key, value) :: rest.toList

@[simp] theorem toList_ofList (entries : List (κ × Value κ α)) :
    (ofList entries).toList = entries := by
  induction entries with
  | nil => rfl
  | cons entry rest ih => rw [ofList, toList, ih]

def keys : Entries κ α → List κ
  | .nil => []
  | .cons key _ rest => key :: rest.keys

variable [DecidableEq κ]

def find? : Entries κ α → κ → Option (Value κ α)
  | .nil, _ => none
  | .cons key value rest, other => if key = other then some value else rest.find? other

/-- An entry keeps its place when its value changes; a new one comes last. -/
def put : Entries κ α → κ → Value κ α → Entries κ α
  | .nil, key, value => .cons key value .nil
  | .cons other old rest, key, value =>
      if other = key then .cons key value rest else .cons other old (rest.put key value)

end Entries

mutual

/-- No map has two entries of one key. -/
def Value.WellFormed : Value κ α → Prop
  | .scalar _ => True
  | .list items => items.WellFormed
  | .map entries => entries.WellFormed

def Items.WellFormed : Items κ α → Prop
  | .nil => True
  | .cons value rest => value.WellFormed ∧ rest.WellFormed

def Entries.WellFormed : Entries κ α → Prop
  | .nil => True
  | .cons key value rest => key ∉ rest.keys ∧ value.WellFormed ∧ rest.WellFormed

end

namespace Entries

theorem wellFormed_nil : (nil : Entries κ α).WellFormed := trivial

variable [DecidableEq κ]

theorem find?_eq_none_iff : ∀ (entries : Entries κ α) (key : κ),
    entries.find? key = none ↔ key ∉ entries.keys
  | .nil, key => by simp [find?, keys]
  | .cons other value rest, key => by
      have later := find?_eq_none_iff rest key
      by_cases same : other = key
      · simp [find?, keys, same]
      · have differs : key ≠ other := fun back => same back.symm
        simp [find?, keys, same, differs, later]

theorem find?_put : ∀ (entries : Entries κ α) (key other : κ) (value : Value κ α),
    (entries.put key value).find? other =
      if key = other then some value else entries.find? other
  | .nil, key, other, value => rfl
  | .cons first old rest, key, other, value => by
      have later := find?_put rest key other value
      by_cases same : first = key
      · subst same
        simp only [put, if_true, find?]
        split
        · rfl
        · rfl
      · simp only [put, same, if_false, find?, later]
        by_cases here : first = other
        · have differs : key ≠ other := fun back => same (here.trans back.symm)
          simp [here, differs]
        · simp [here]

theorem mem_keys_put : ∀ (entries : Entries κ α) (key other : κ) (value : Value κ α),
    other ∈ (entries.put key value).keys ↔ other = key ∨ other ∈ entries.keys := by
  intro entries key other value
  have absent := find?_eq_none_iff (entries.put key value) other
  have absent' := find?_eq_none_iff entries other
  rw [find?_put] at absent
  by_cases same : key = other
  · subst same
    simpa using absent
  · have differs : other ≠ key := fun back => same back.symm
    simp only [same, if_false] at absent
    simp only [differs, false_or]
    exact not_iff_not.mp (absent.symm.trans absent')

/-- A new key comes after the keys that are there. -/
theorem find?_keys_put (test : κ → Bool) : ∀ (entries : Entries κ α) (key : κ) (value : Value κ α),
    (entries.put key value).keys.find? test = (entries.keys.find? test).or ([key].find? test)
  | .nil, key, value => rfl
  | .cons first old rest, key, value => by
      have later := find?_keys_put test rest key value
      by_cases same : first = key
      · subst same
        simp only [put, if_true, keys, List.find?_cons]
        cases test first with
        | true => rfl
        | false => simp
      · simp only [put, same, if_false, keys, List.find?_cons]
        cases test first with
        | true => rfl
        | false =>
            rw [List.find?_cons] at later
            exact later

theorem wellFormed_put : ∀ {entries : Entries κ α} {key : κ} {value : Value κ α},
    entries.WellFormed → value.WellFormed → (entries.put key value).WellFormed
  | .nil, key, value, _, formed => ⟨List.not_mem_nil, formed, trivial⟩
  | .cons first old rest, key, value, ⟨fresh, formed, later⟩, new => by
      by_cases same : first = key
      · subst same
        simp only [put, if_true]
        exact ⟨fresh, new, later⟩
      · simp only [put, same, if_false]
        refine ⟨?_, formed, wellFormed_put later new⟩
        rw [mem_keys_put]
        rintro (back | inside)
        · exact same back
        · exact fresh inside

theorem wellFormed_of_find? : ∀ {entries : Entries κ α} {key : κ} {value : Value κ α},
    entries.WellFormed → entries.find? key = some value → value.WellFormed
  | .cons first old rest, key, value, ⟨_, formed, later⟩, found => by
      rw [find?] at found
      split at found
      · cases found
        exact formed
      · exact wellFormed_of_find? later found

/-- To put what is there changes nothing. -/
theorem put_of_find? : ∀ {entries : Entries κ α} {key : κ} {value : Value κ α},
    entries.find? key = some value → entries.put key value = entries
  | .cons first old rest, key, value, found => by
      rw [find?] at found
      by_cases same : first = key
      · rw [if_pos same] at found
        cases found
        rw [put, if_pos same, same]
      · rw [if_neg same] at found
        rw [put, if_neg same, put_of_find? found]

end Entries

/-- A map, with no key twice at any depth. -/
structure Dict (κ α : Type) where
  entries : Entries κ α
  formed : entries.WellFormed

namespace Dict

def empty : Dict κ α := ⟨.nil, Entries.wellFormed_nil⟩

variable [DecidableEq κ]

def put (dict : Dict κ α) (key : κ) (value : Value κ α) (formed : value.WellFormed) : Dict κ α :=
  ⟨dict.entries.put key value, Entries.wellFormed_put dict.formed formed⟩

end Dict

section Paths

variable [DecidableEq κ]

/-- The value that nested maps hold at a path of keys. -/
def Value.at? : List κ → Value κ α → Option (Value κ α)
  | [], value => some value
  | key :: path, .map entries => (entries.find? key).bind (Value.at? path)
  | _ :: _, _ => none

@[simp] theorem Value.at?_nil (value : Value κ α) : value.at? [] = some value := rfl

@[simp] theorem Value.at?_map (key : κ) (path : List κ) (entries : Entries κ α) :
    (Value.map entries).at? (key :: path) = (entries.find? key).bind (Value.at? path) := rfl

/-- The value has something at the path, or stops above it at something that is no map. -/
def Value.Covers (value : Value κ α) (path : List κ) : Prop :=
  value.at? path ≠ none ∨
    ∃ front leaf, front <+: path ∧ front ≠ path ∧ value.at? front = some leaf ∧
      leaf.isMap = false

theorem Value.covers_nil (value : Value κ α) : value.Covers [] := .inl nofun

theorem Value.covers_of_leaf {value : Value κ α} (leaf : value.isMap = false) (path : List κ) :
    value.Covers path := by
  cases path with
  | nil => exact value.covers_nil
  | cons key path => exact .inr ⟨[], value, List.nil_prefix, nofun, rfl, leaf⟩

theorem Value.covers_map (key : κ) (path : List κ) (entries : Entries κ α) :
    (Value.map entries).Covers (key :: path) ↔
      ∃ value, entries.find? key = some value ∧ value.Covers path := by
  unfold Covers
  constructor
  · rintro (present | ⟨front, leaf, above, strict, found, kind⟩)
    · cases stands : entries.find? key with
      | none => simp [stands] at present
      | some value =>
          rw [at?_map, stands] at present
          exact ⟨value, rfl, .inl present⟩
    · cases front with
      | nil =>
          cases found
          cases kind
      | cons first front =>
          obtain ⟨rfl, within⟩ := List.cons_prefix_cons.mp above
          rw [at?_map] at found
          obtain ⟨value, stands, inner⟩ := Option.bind_eq_some_iff.mp found
          have shorter : front ≠ path := fun same => strict (by rw [same])
          exact ⟨value, stands, .inr ⟨front, leaf, within, shorter, inner, kind⟩⟩
  · rintro ⟨value, stands, present | ⟨front, leaf, above, strict, found, kind⟩⟩
    · left
      rw [at?_map, stands]
      exact present
    · right
      refine ⟨key :: front, leaf, List.cons_prefix_cons.mpr ⟨rfl, above⟩, ?_, ?_, kind⟩
      · intro same
        exact strict (List.cons.inj same).2
      · rw [at?_map, stands]
        exact found

end Paths

mutual

/-- The keys of the maps in a value, at any depth and inside lists as well. -/
def Value.allKeys : Value κ α → List κ
  | .scalar _ => []
  | .list items => items.allKeys
  | .map entries => entries.allKeys

def Items.allKeys : Items κ α → List κ
  | .nil => []
  | .cons value rest => value.allKeys ++ rest.allKeys

def Entries.allKeys : Entries κ α → List κ
  | .nil => []
  | .cons key value rest => key :: (value.allKeys ++ rest.allKeys)

end

/-- The paths of keys, through maps, to the values that are no maps. -/
def Entries.leafPaths : Entries κ α → List (List κ)
  | .nil => []
  | .cons key (.map inner) rest => inner.leafPaths.map (key :: ·) ++ rest.leafPaths
  | .cons key (.scalar _) rest => [key] :: rest.leafPaths
  | .cons key (.list _) rest => [key] :: rest.leafPaths

theorem Entries.mem_allKeys_of_mem_leafPath : ∀ {entries : Entries κ α} {path : List κ},
    path ∈ entries.leafPaths → ∀ key ∈ path, key ∈ entries.allKeys
  | .cons first (.map inner) rest, path, found, key, inside => by
      rw [leafPaths, List.mem_append, List.mem_map] at found
      rw [allKeys, Value.allKeys, List.mem_cons, List.mem_append]
      rcases found with ⟨below, deeper, rfl⟩ | later
      · rcases List.mem_cons.mp inside with rfl | lower
        · exact .inl rfl
        · exact .inr (.inl (mem_allKeys_of_mem_leafPath deeper key lower))
      · exact .inr (.inr (mem_allKeys_of_mem_leafPath later key inside))
  | .cons first (.scalar _) rest, path, found, key, inside
  | .cons first (.list _) rest, path, found, key, inside => by
      rw [leafPaths, List.mem_cons] at found
      rw [allKeys, List.mem_cons, List.mem_append]
      rcases found with rfl | later
      · exact .inl (List.mem_singleton.mp inside)
      · exact .inr (.inr (mem_allKeys_of_mem_leafPath later key inside))

end Lib.Nested
