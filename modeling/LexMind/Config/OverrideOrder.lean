import LexMind.Config.Loader

set_option autoImplicit false

/- When the overrides an environment gives do not depend on the order of its variables. -/
namespace LexMind.Config

open Lib Lib.Nested

section Assign

variable {target result : Entries Key Scalar}

/-- The path of keys a variable is assigned at. -/
def keyPath (parts : List String) : List Key := parts.map Key.text

/-- What an assignment leaves at each path. -/
structure Assigned (target result : Entries Key Scalar) (assigned : List Key) (content : Scalar) :
    Prop where
  here : (Value.map result).at? assigned = some (.scalar content)
  above : ∀ path, path <+: assigned → path ≠ assigned →
    ∃ entries, (Value.map result).at? path = some (.map entries)
  below : ∀ path, ¬ path <+: assigned → assigned <+: path → (Value.map result).at? path = none
  apart : ∀ path, ¬ path <+: assigned → ¬ assigned <+: path →
    (Value.map result).at? path = (Value.map target).at? path

/-- An assignment one key up, given the map it puts there. -/
theorem Assigned.cons {inner target' : Entries Key Scalar} {assigned : List Key}
    {content : Scalar} {key : Key} (spec : Assigned target' inner assigned content)
    (old : ∀ path, (target.find? key).bind (Value.at? path) = (Value.map target').at? path ∨
      path = []) :
    Assigned target (target.put key (.map inner)) (key :: assigned) content := by
  have same (path : List Key) : (Value.map (target.put key (.map inner))).at? (key :: path) =
      (Value.map inner).at? path := by
    rw [Value.at?_map, Entries.find?_put, if_pos rfl]
    rfl
  have other (first : Key) (differs : key ≠ first) (path : List Key) :
      (Value.map (target.put key (.map inner))).at? (first :: path) =
        (Value.map target).at? (first :: path) := by
    rw [Value.at?_map, Value.at?_map, Entries.find?_put, if_neg differs]
  constructor
  · rw [same]
    exact spec.here
  · intro path above strict
    cases path with
    | nil => exact ⟨_, rfl⟩
    | cons first path =>
        obtain ⟨rfl, within⟩ := List.cons_prefix_cons.mp above
        rw [same]
        exact spec.above path within (fun equal => strict (by rw [equal]))
  · intro path outside below
    cases path with
    | nil => exact absurd List.nil_prefix outside
    | cons first path =>
        obtain ⟨rfl, within⟩ := List.cons_prefix_cons.mp below
        rw [same]
        apply spec.below path _ within
        intro above
        exact outside (List.cons_prefix_cons.mpr ⟨rfl, above⟩)
  · intro path outside unrelated
    cases path with
    | nil => exact absurd List.nil_prefix outside
    | cons first path =>
        by_cases equal : key = first
        · subst equal
          have not_above : ¬ path <+: assigned := fun above =>
            outside (List.cons_prefix_cons.mpr ⟨rfl, above⟩)
          have not_below : ¬ assigned <+: path := fun below =>
            unrelated (List.cons_prefix_cons.mpr ⟨rfl, below⟩)
          rw [same, spec.apart path not_above not_below, Value.at?_map]
          rcases old path with known | root
          · exact known.symm
          · subst root
            exact absurd List.nil_prefix not_above
        · exact other first equal path

/-- Where a path stands to the assigned one, and what it then leads to. -/
theorem Assigned.at?_cases {assigned : List Key} {content : Scalar}
    (spec : Assigned target result assigned content) (path : List Key) :
    path = assigned ∧ (Value.map result).at? path = some (.scalar content) ∨
    (path <+: assigned ∧ path ≠ assigned ∧
      ∃ entries, (Value.map result).at? path = some (.map entries)) ∨
    (assigned <+: path ∧ path ≠ assigned ∧ (Value.map result).at? path = none) ∨
    (¬ path <+: assigned ∧ ¬ assigned <+: path ∧
      (Value.map result).at? path = (Value.map target).at? path) := by
  by_cases here : path = assigned
  · exact .inl ⟨here, here ▸ spec.here⟩
  · by_cases above : path <+: assigned
    · exact .inr (.inl ⟨above, here, spec.above path above here⟩)
    · by_cases under : assigned <+: path
      · exact .inr (.inr (.inl ⟨under, here, spec.below path above under⟩))
      · exact .inr (.inr (.inr ⟨above, under, spec.apart path above under⟩))

/-- The last key of the path is put itself. -/
theorem Assigned.leaf (target : Entries Key Scalar) (part : String) (content : Scalar) :
    Assigned target (target.put (.text part) (.scalar content)) (keyPath [part]) content := by
  constructor
  · show (Value.map _).at? [Key.text part] = _
    rw [Value.at?_map, Entries.find?_put, if_pos rfl]
    rfl
  · intro path above strict
    cases path with
    | nil => exact ⟨_, rfl⟩
    | cons first path =>
        obtain ⟨rfl, within⟩ := List.cons_prefix_cons.mp above
        rw [List.prefix_nil.mp within] at strict
        exact absurd rfl strict
  · intro path outside below
    obtain ⟨rest, rfl⟩ := below
    cases rest with
    | nil =>
        rw [List.append_nil] at outside
        exact absurd (List.prefix_refl _) outside
    | cons key rest =>
        show (Value.map _).at? (Key.text part :: key :: rest) = none
        rw [Value.at?_map, Entries.find?_put, if_pos rfl]
        rfl
  · intro path outside unrelated
    cases path with
    | nil => exact absurd List.nil_prefix outside
    | cons first path =>
        have differs : Key.text part ≠ first := by
          rintro rfl
          exact unrelated (List.cons_prefix_cons.mpr ⟨rfl, List.nil_prefix⟩)
        rw [Value.at?_map, Value.at?_map, Entries.find?_put, if_neg differs]

theorem assign_spec {part : String} {rest : List String} {content : Scalar}
    (assigned : assign target part rest (.ok content) = .ok result) :
    Assigned target result (keyPath (part :: rest)) content := by
  induction rest generalizing target part result with
  | nil =>
      cases assigned
      exact .leaf target part content
  | cons next rest ih =>
      rw [assign] at assigned
      cases found : target.find? (.text part) with
      | none =>
          rw [found] at assigned
          cases walked : assign .nil next rest (.ok content) with
          | error exc =>
              rw [walked] at assigned
              cases assigned
          | ok inner =>
              rw [walked] at assigned
              cases assigned
              apply (ih walked).cons
              intro path
              rw [found]
              cases path with
              | nil => exact .inr rfl
              | cons first path => exact .inl rfl
      | some value =>
          rw [found] at assigned
          cases value with
          | map inner =>
              cases walked : assign inner next rest (.ok content) with
              | error exc =>
                  simp only [walked] at assigned
                  cases assigned
              | ok changed =>
                  simp only [walked] at assigned
                  cases assigned
                  apply (ih walked).cons
                  intro path
                  rw [found]
                  exact .inl rfl
          | scalar leaf =>
              dsimp only at assigned
              split at assigned <;> cases assigned
          | list items =>
              dsimp only at assigned
              split at assigned <;> cases assigned

/-- No value on the way to the end of the path stops the walk. -/
def Passable (target : Entries Key Scalar) (path : List Key) : Prop :=
  ∀ front leaf, front <+: path → front ≠ path → (Value.map target).at? front = some leaf →
    leaf.isMap = true

theorem passable_cons {key next : Key} {path : List Key} :
    Passable target (key :: next :: path) ↔
      ∀ value, target.find? key = some value →
        ∃ inner, value = .map inner ∧ Passable inner (next :: path) := by
  constructor
  · intro passable value found
    have map := passable [key] value (List.cons_prefix_cons.mpr ⟨rfl, List.nil_prefix⟩) nofun
      (by rw [Value.at?_map, found]; rfl)
    cases value with
    | scalar content => cases map
    | list items => cases map
    | map inner =>
        refine ⟨inner, rfl, fun front leaf above strict stands => ?_⟩
        apply passable (key :: front) leaf (List.cons_prefix_cons.mpr ⟨rfl, above⟩)
        · intro same
          exact strict (List.cons.inj same).2
        · rw [Value.at?_map, found]
          exact stands
  · intro open' front leaf above strict stands
    cases front with
    | nil =>
        cases stands
        rfl
    | cons first front =>
        obtain ⟨rfl, within⟩ := List.cons_prefix_cons.mp above
        rw [Value.at?_map] at stands
        obtain ⟨value, found, there⟩ := Option.bind_eq_some_iff.mp stands
        obtain ⟨inner, rfl, passable⟩ := open' value found
        apply passable front leaf within _ there
        intro same
        exact strict (by rw [same])

theorem passable_nil (path : List Key) : Passable .nil path := by
  intro front leaf _ _ stands
  cases front with
  | nil =>
      cases stands
      rfl
  | cons first front => cases stands

theorem assign_blocked {part next : String} {rest : List String} {value : Except PyExc Scalar}
    {leaf : Value Key Scalar} (found : target.find? (.text part) = some leaf)
    (kind : leaf.isMap = false) : assign target part (next :: rest) value ≠ .ok result := by
  intro assigned
  rw [assign, found] at assigned
  cases leaf with
  | map inner => cases kind
  | scalar content =>
      dsimp only at assigned
      split at assigned
      · cases value <;> cases assigned
      · cases assigned
  | list items =>
      dsimp only at assigned
      split at assigned
      · cases value <;> cases assigned
      · cases assigned

theorem passable_single (target : Entries Key Scalar) (key : Key) : Passable target [key] := by
  intro front leaf above strict stands
  cases front with
  | nil =>
      cases stands
      rfl
  | cons first front =>
      obtain ⟨rfl, within⟩ := List.cons_prefix_cons.mp above
      rw [List.prefix_nil.mp within] at strict
      exact absurd rfl strict

/-- Putting the assigned map in place does not fail. -/
theorem exists_ok_put_iff {part : String} (walked : Except PyExc (Entries Key Scalar)) :
    (∃ result, (do
      let inner ← walked
      return target.put (.text part) (.map inner)) = Except.ok result) ↔
      ∃ inner, walked = .ok inner := by
  cases walked with
  | ok inner => exact iff_of_true ⟨_, rfl⟩ ⟨_, rfl⟩
  | error exc =>
      apply iff_of_false
      · rintro ⟨result, assigned⟩
        cases assigned
      · rintro ⟨inner, walked⟩
        cases walked

/-- An assignment succeeds where its value is there and nothing stops the walk. -/
theorem assign_ok_iff {part : String} {rest : List String} {value : Except PyExc Scalar} :
    (∃ result, assign target part rest value = .ok result) ↔
      (∃ content, value = .ok content) ∧ Passable target (keyPath (part :: rest)) := by
  induction rest generalizing target part with
  | nil =>
      have passable : Passable target (keyPath [part]) := passable_single target _
      cases value with
      | ok content => exact iff_of_true ⟨_, rfl⟩ ⟨⟨content, rfl⟩, passable⟩
      | error exc =>
          apply iff_of_false
          · rintro ⟨result, assigned⟩
            cases assigned
          · rintro ⟨⟨content, evaluated⟩, _⟩
            cases evaluated
  | cons next rest ih =>
      have head : Passable target (keyPath (part :: next :: rest)) ↔ _ := passable_cons
      rw [head]
      cases found : target.find? (.text part) with
      | none =>
          have inner := @ih .nil next
          simp only [passable_nil, and_true] at inner
          simp only [reduceCtorEq, false_implies, implies_true, and_true]
          rw [← inner]
          simp only [assign, found]
          exact exists_ok_put_iff _
      | some leaf =>
          by_cases kind : leaf.isMap = true
          · cases leaf with
            | scalar content => cases kind
            | list items => cases kind
            | map entries =>
                have inner := @ih entries next
                simp only [Option.some.injEq, forall_eq', Value.map.injEq, exists_eq_left']
                show _ ↔ _ ∧ Passable entries (keyPath (next :: rest))
                rw [← inner]
                simp only [assign, found]
                exact exists_ok_put_iff _
          · have leafy := Bool.not_eq_true _ ▸ kind
            apply iff_of_false
            · rintro ⟨result, assigned⟩
              exact assign_blocked found leafy assigned
            · rintro ⟨_, open'⟩
              obtain ⟨inner, rfl, _⟩ := open' _ rfl
              cases leafy

end Assign

section Orders

variable {γ : Type} (libraries : Libraries γ)

/-- What a value is, apart from what a map holds. -/
def face {κ : Type} : Value κ Scalar → Option (Value κ Scalar)
  | .map _ => none
  | leaf => some leaf

/-- Two nested maps are equal as dictionaries: they have maps at the same paths, and the same
other values. -/
def SameMap {κ : Type} [DecidableEq κ] (first second : Dict κ Scalar) : Prop :=
  ∀ path, ((Value.map first.entries).at? path).map face =
    ((Value.map second.entries).at? path).map face

/-- In whatever order the variables come, the overrides are collected, and are the same. -/
def OrderFree (environ : List (String × String)) : Prop :=
  ∃ overrides : Dict Key Scalar, ∀ order : List (String × String), order.Perm environ →
    ∃ source, loadEnvOverrides libraries order = .ok source ∧ SameMap source.data overrides

/-- Every variable that is taken has a value, and no path of one leads through or to the path of
another, but for equal paths with equal values. -/
def Compatible (environ : List (String × String)) : Prop :=
  ∀ entry ∈ environ, ∀ parts, partsOf libraries entry.1 = some parts →
    (∃ content, coerce libraries entry.2 = .ok content) ∧
      ∀ other ∈ environ, ∀ parts', partsOf libraries other.1 = some parts' → parts <+: parts' →
        parts = parts' ∧ coerce libraries entry.2 = coerce libraries other.2

theorem splitParts_ne_nil (text : List Char) : splitParts text ≠ [] := by
  induction text using splitParts.induct with
  | case1 rest ih =>
      rw [splitParts]
      exact List.cons_ne_nil _ _
  | case2 char rest other ih =>
      rw [splitParts]
      · cases found : splitParts rest with
        | nil => exact absurd found ih
        | cons first rest => exact List.cons_ne_nil _ _
      · exact other
  | case3 => exact List.cons_ne_nil _ _

theorem partsOf_cases {rawKey : String} {parts : List String}
    (taken : partsOf libraries rawKey = some parts) : ∃ part rest, parts = part :: rest := by
  unfold partsOf at taken
  split at taken
  · dsimp only at taken
    split at taken
    · cases taken
    · cases taken
      cases found : splitParts (libraries.lower
          (String.ofList (rawKey.toList.drop prefixLexmind.length))).toList with
      | nil => exact absurd found (splitParts_ne_nil _)
      | cons part rest => exact ⟨_, _, rfl⟩
  · cases taken

theorem collect_taken {rawKey value : String} {part : String} {rest : List String}
    (taken : partsOf libraries rawKey = some (part :: rest)) (overrides : Entries Key Scalar) :
    collect libraries overrides (rawKey, value) =
      assign overrides part rest (coerce libraries value) := by
  rw [collect, taken]

theorem collect_left {rawKey value : String} (left : partsOf libraries rawKey = none)
    (overrides : Entries Key Scalar) :
    collect libraries overrides (rawKey, value) = .ok overrides := by
  rw [collect, left]

theorem keyPath_initial {parts parts' : List String} (inside : keyPath parts <+: keyPath parts') :
    parts <+: parts' := by
  have injective : Function.Injective Key.text := fun _ _ same => Key.text.inj same
  exact (List.prefix_map_iff_of_injective injective).mp inside

theorem keyPath_injective {parts parts' : List String} (same : keyPath parts = keyPath parts') :
    parts = parts' := List.map_injective_iff.mpr (fun _ _ same => Key.text.inj same) same

/-- The variable is taken, and is assigned at the path. -/
def AssignedAt (entry : String × String) (path : List Key) : Prop :=
  ∃ parts, partsOf libraries entry.1 = some parts ∧ keyPath parts = path

/-- The entries hold what the variables taken so far give, and nothing else. -/
structure Reflects (taken : List (String × String)) (entries : Entries Key Scalar) : Prop where
  leaf : ∀ path content, (Value.map entries).at? path = some (.scalar content) ↔
    ∃ entry ∈ taken, AssignedAt libraries entry path ∧ coerce libraries entry.2 = .ok content
  map : ∀ path, (∃ inner, (Value.map entries).at? path = some (.map inner)) ↔
    path = [] ∨ ∃ entry ∈ taken, ∃ whole, AssignedAt libraries entry whole ∧
      path <+: whole ∧ path ≠ whole
  list : ∀ path items, (Value.map entries).at? path ≠ some (.list items)

variable {libraries}

theorem Reflects.nil : Reflects libraries [] .nil := by
  constructor
  · intro path content
    cases path with
    | nil => simp
    | cons key path => simp [Entries.find?]
  · intro path
    cases path with
    | nil => simp
    | cons key path => simp [Entries.find?]
  · intro path items
    cases path with
    | nil => simp
    | cons key path => simp [Entries.find?]

/-- Two maps that reflect the same variables are the same. -/
theorem Reflects.same {taken taken' : List (String × String)} {first second : Dict Key Scalar}
    (members : ∀ entry, entry ∈ taken ↔ entry ∈ taken')
    (reflects : Reflects libraries taken first.entries)
    (reflects' : Reflects libraries taken' second.entries) : SameMap first second := by
  intro path
  have leaf := reflects.leaf path
  have leaf' := reflects'.leaf path
  have map := reflects.map path
  have map' := reflects'.map path
  simp only [members] at leaf map
  have leaves := fun content => (leaf content).trans (leaf' content).symm
  have maps := map.trans map'.symm
  cases found : (Value.map first.entries).at? path with
  | none =>
      cases found' : (Value.map second.entries).at? path with
      | none => rfl
      | some value =>
          rw [found, found'] at maps
          simp only [found, found'] at leaves
          cases value with
          | scalar content => cases (leaves content).mpr rfl
          | list items => exact absurd found' (reflects'.list path items)
          | map inner =>
              obtain ⟨_, none⟩ := maps.mpr ⟨inner, rfl⟩
              cases none
  | some value =>
      simp only [found] at leaves maps
      cases value with
      | scalar content =>
          rw [(leaves content).mp rfl]
      | list items => exact absurd found (reflects.list path items)
      | map inner =>
          obtain ⟨inner', found'⟩ := maps.mp ⟨inner, rfl⟩
          rw [found']
          rfl

variable {environ : List (String × String)}

/-- In a compatible environment, a path that leads to another is the same path, with the same
value. -/
theorem Compatible.unique (compatible : Compatible libraries environ)
    {entry other : String × String} (inside : entry ∈ environ) (inside' : other ∈ environ)
    {path path' : List Key} (assigned : AssignedAt libraries entry path)
    (assigned' : AssignedAt libraries other path') (leads : path <+: path') :
    path = path' ∧ coerce libraries entry.2 = coerce libraries other.2 := by
  obtain ⟨parts, taken, rfl⟩ := assigned
  obtain ⟨parts', taken', rfl⟩ := assigned'
  obtain ⟨_, apart⟩ := compatible entry inside parts taken
  obtain ⟨same, value⟩ := apart other inside' parts' taken' (keyPath_initial leads)
  exact ⟨by rw [same], value⟩

theorem AssignedAt.unique {entry : String × String} {path path' : List Key}
    (there : AssignedAt libraries entry path) (assigned : AssignedAt libraries entry path') :
    path = path' := by
  obtain ⟨parts, found, rfl⟩ := there
  obtain ⟨parts', found', rfl⟩ := assigned
  cases found.symm.trans found'
  rfl

section OneMore

variable {taken : List (String × String)} {entries result : Entries Key Scalar}
  {entry : String × String} {whole : List Key} {content : Scalar}
  (compatible : Compatible libraries environ) (members : ∀ entry ∈ taken, entry ∈ environ)
  (inside : entry ∈ environ) (reflects : Reflects libraries taken entries)
  (owned : AssignedAt libraries entry whole) (value : coerce libraries entry.2 = .ok content)
  (spec : Assigned entries result whole content)

include compatible members inside owned in
/-- Of the variables taken before, those with a path through the new one's have that path. -/
theorem Compatible.through {other : String × String} (member : other ∈ taken) {path : List Key}
    (there : AssignedAt libraries other path) (leads : path <+: whole) :
    path = whole ∧ coerce libraries other.2 = coerce libraries entry.2 :=
  compatible.unique (members other member) inside there owned leads

include compatible members inside owned in
theorem Compatible.beyond {other : String × String} (member : other ∈ taken) {path : List Key}
    (there : AssignedAt libraries other path) (leads : whole <+: path) : path = whole :=
  (compatible.unique inside (members other member) owned there leads).1.symm

include compatible members inside reflects owned value spec in
theorem Reflects.assigned_leaf (path : List Key) (content' : Scalar) :
    (Value.map result).at? path = some (.scalar content') ↔
      ∃ other ∈ entry :: taken, AssignedAt libraries other path ∧
        coerce libraries other.2 = .ok content' := by
  rw [List.exists_mem_cons_iff]
  rcases spec.at?_cases path with ⟨rfl, stands⟩ | elsewhere
  · rw [stands]
    constructor
    · intro same
      cases same
      exact .inl ⟨owned, value⟩
    · rintro (⟨_, value'⟩ | ⟨other, member, there, value'⟩)
      · cases value.symm.trans value'
        rfl
      · have same := (compatible.through members inside owned member there
          (List.prefix_refl _)).2
        cases value.symm.trans (same.symm.trans value')
        rfl
  · have differs : path ≠ whole := by
      rcases elsewhere with ⟨_, strict, _⟩ | ⟨_, strict, _⟩ | ⟨outside, _⟩
      · exact strict
      · exact strict
      · rintro rfl
        exact outside (List.prefix_refl _)
    have foreign : ¬ (AssignedAt libraries entry path ∧ coerce libraries entry.2 = .ok content') :=
      fun both => differs (both.1.unique owned)
    simp only [foreign, false_or]
    rcases elsewhere with ⟨above, _, inner, stands⟩ | ⟨under, _, stands⟩ | ⟨_, _, stands⟩
    · rw [stands]
      apply iff_of_false nofun
      rintro ⟨other, member, there, _⟩
      exact differs (compatible.through members inside owned member there above).1
    · rw [stands]
      apply iff_of_false nofun
      rintro ⟨other, member, there, _⟩
      exact differs (compatible.beyond members inside owned member there under)
    · rw [stands]
      exact reflects.leaf path content'

include compatible members inside reflects owned spec in
theorem Reflects.assigned_map (named : whole ≠ []) (path : List Key) :
    (∃ inner, (Value.map result).at? path = some (.map inner)) ↔
      path = [] ∨ ∃ other ∈ entry :: taken, ∃ longer, AssignedAt libraries other longer ∧
        path <+: longer ∧ path ≠ longer := by
  rw [List.exists_mem_cons_iff]
  rcases spec.at?_cases path with ⟨rfl, stands⟩ | ⟨above, strict, stands⟩ |
    ⟨under, strict, stands⟩ | ⟨outside, _, stands⟩
  · rw [stands]
    apply iff_of_false nofun
    rintro (none | ⟨other, there, _, strict⟩ | ⟨other, member, longer, there, leads, strict⟩)
    · exact named none
    · exact strict (there.unique owned).symm
    · exact strict (compatible.beyond members inside owned member there leads).symm
  · exact iff_of_true stands (.inr (.inl ⟨whole, owned, above, strict⟩))
  · rw [stands]
    apply iff_of_false nofun
    rintro (rfl | ⟨other, there, leads, differs⟩ | ⟨other, member, longer, there, leads, differs⟩)
    · exact named (List.prefix_nil.mp under)
    · rw [there.unique owned] at leads
      exact strict (leads.eq_of_length_le under.length_le)
    · have same :=
        compatible.beyond members inside owned member there (under.trans leads)
      rw [same] at leads
      exact strict (leads.eq_of_length_le under.length_le)
  · have foreign : ¬ ∃ longer, AssignedAt libraries entry longer ∧ path <+: longer ∧
        path ≠ longer := by
      rintro ⟨longer, there, leads, _⟩
      rw [there.unique owned] at leads
      exact outside leads
    simp only [foreign, false_or]
    rw [stands]
    exact reflects.map path

include reflects spec in
theorem Reflects.assigned_list (path : List Key) (items : Items Key Scalar) :
    (Value.map result).at? path ≠ some (.list items) := by
  rcases spec.at?_cases path with ⟨_, stands⟩ | ⟨_, _, inner, stands⟩ | ⟨_, _, stands⟩ |
    ⟨_, _, stands⟩
  · rw [stands]
    nofun
  · rw [stands]
    nofun
  · rw [stands]
    nofun
  · rw [stands]
    exact reflects.list path items

include compatible members inside reflects owned value spec in
/-- What a variable reflects where nothing was owned through or below its path. -/
theorem Reflects.assigned (named : whole ≠ []) : Reflects libraries (entry :: taken) result where
  leaf := reflects.assigned_leaf compatible members inside owned value spec
  map := reflects.assigned_map compatible members inside owned spec named
  list := reflects.assigned_list spec

end OneMore

/-- A variable of a compatible environment is collected, and the entries reflect it too. -/
theorem Reflects.collect {taken : List (String × String)} {entries : Entries Key Scalar}
    {entry : String × String} (compatible : Compatible libraries environ)
    (members : ∀ entry ∈ taken, entry ∈ environ) (inside : entry ∈ environ)
    (reflects : Reflects libraries taken entries) :
    ∃ result, collect libraries entries entry = .ok result ∧
      Reflects libraries (entry :: taken) result := by
  cases named : partsOf libraries entry.1 with
  | none =>
      have nowhere (path : List Key) : ¬ AssignedAt libraries entry path := by
        rintro ⟨parts, found, _⟩
        rw [named] at found
        cases found
      refine ⟨entries, collect_left libraries named entries, ?_, ?_, reflects.list⟩
      · intro path content
        simp only [List.exists_mem_cons_iff, nowhere, false_and, false_or]
        exact reflects.leaf path content
      · intro path
        simp only [List.exists_mem_cons_iff, nowhere, false_and, exists_false, false_or]
        exact reflects.map path
  | some parts =>
      obtain ⟨part, rest, rfl⟩ := partsOf_cases libraries named
      obtain ⟨⟨content, value⟩, _⟩ := compatible entry inside _ named
      have assigned : AssignedAt libraries entry (keyPath (part :: rest)) := ⟨_, named, rfl⟩
      have passable : Passable entries (keyPath (part :: rest)) := by
        intro front leaf above strict stands
        cases leaf with
        | map inner => rfl
        | list items => exact absurd stands (reflects.list front items)
        | scalar content =>
            obtain ⟨other, member, there, _⟩ := (reflects.leaf front content).mp stands
            have same :=
              (compatible.unique (members other member) inside there assigned above).1
            exact absurd same strict
      obtain ⟨result, done⟩ := assign_ok_iff.mpr ⟨⟨content, value⟩, passable⟩
      refine ⟨result, (collect_taken libraries named entries).trans done, ?_⟩
      rw [value] at done
      exact reflects.assigned compatible members inside assigned value (assign_spec done)
        (List.cons_ne_nil _ _)

/-- The variables of a compatible environment are collected in any order. -/
theorem Compatible.collected (compatible : Compatible libraries environ)
    (order : List (String × String)) {taken : List (String × String)}
    {entries : Entries Key Scalar} (members : ∀ entry ∈ taken, entry ∈ environ)
    (inside : ∀ entry ∈ order, entry ∈ environ) (reflects : Reflects libraries taken entries) :
    ∃ result, order.foldlM (collect libraries) entries = .ok result ∧
      Reflects libraries (order.reverse ++ taken) result := by
  induction order generalizing taken entries with
  | nil => exact ⟨entries, rfl, reflects⟩
  | cons entry order ih =>
      obtain ⟨next, done, reflects'⟩ :=
        reflects.collect compatible members (inside entry List.mem_cons_self)
      have members' : ∀ other ∈ entry :: taken, other ∈ environ := by
        intro other member
        rcases List.mem_cons.mp member with rfl | member
        · exact inside other List.mem_cons_self
        · exact members other member
      obtain ⟨result, later, last⟩ :=
        ih members' (fun other member => inside other (List.mem_cons_of_mem _ member)) reflects'
      refine ⟨result, ?_, ?_⟩
      · rw [List.foldlM_cons, done]
        exact later
      · rw [List.reverse_cons, List.append_assoc]
        exact last

theorem loadEnvOverrides_ok {order : List (String × String)} {overrides : Entries Key Scalar}
    (collected : order.foldlM (collect libraries) .nil = .ok overrides) :
    ∃ source, loadEnvOverrides libraries order = .ok source ∧ source.data.entries = overrides := by
  unfold loadEnvOverrides
  split
  · rename_i same
    cases collected.symm.trans same
    exact ⟨_, rfl, rfl⟩
  · rename_i raised
    cases collected.symm.trans raised

theorem collected_of_loadEnvOverrides {order : List (String × String)} {source : ConfigSource Key}
    (loaded : loadEnvOverrides libraries order = .ok source) :
    order.foldlM (collect libraries) .nil = .ok source.data.entries := by
  unfold loadEnvOverrides at loaded
  split at loaded
  · rename_i collected
    cases loaded
    exact collected
  · cases loaded

theorem Compatible.orderFree (compatible : Compatible libraries environ) :
    OrderFree libraries environ := by
  have reach (order : List (String × String)) (same : order.Perm environ) :
      ∃ source, loadEnvOverrides libraries order = .ok source ∧
        Reflects libraries order.reverse source.data.entries := by
    have start : Reflects libraries [] .nil := .nil
    obtain ⟨result, collected, reflects⟩ := compatible.collected order
      (fun _ none => absurd none List.not_mem_nil) (fun _ member => same.mem_iff.mp member) start
    obtain ⟨source, loaded, rfl⟩ := loadEnvOverrides_ok collected
    rw [List.append_nil] at reflects
    exact ⟨source, loaded, reflects⟩
  obtain ⟨own, _, reflects⟩ := reach environ (List.Perm.refl _)
  refine ⟨own.data, fun order same => ?_⟩
  obtain ⟨source, loaded, reflects'⟩ := reach order same
  refine ⟨source, loaded, reflects'.same (fun entry => ?_) reflects⟩
  rw [List.mem_reverse, List.mem_reverse]
  exact same.mem_iff

/-- Where a run of the loop succeeds, so does each of its turns. -/
theorem turn_of_collected {order : List (String × String)} {entries result : Entries Key Scalar}
    (collected : order.foldlM (collect libraries) entries = .ok result)
    {entry : String × String} (inside : entry ∈ order) :
    ∃ before after, collect libraries before entry = .ok after := by
  induction order generalizing entries with
  | nil => cases inside
  | cons first order ih =>
      rw [List.foldlM_cons] at collected
      cases turn : collect libraries entries first with
      | error exc =>
          rw [turn] at collected
          cases collected
      | ok next =>
          rw [turn] at collected
          rcases List.mem_cons.mp inside with rfl | later
          · exact ⟨entries, next, turn⟩
          · exact ih collected later

theorem OrderFree.value (free : OrderFree libraries environ) {entry : String × String}
    (inside : entry ∈ environ) {parts : List String}
    (named : partsOf libraries entry.1 = some parts) :
    ∃ content, coerce libraries entry.2 = .ok content := by
  obtain ⟨_, all⟩ := free
  obtain ⟨source, loaded, _⟩ := all environ (List.Perm.refl _)
  obtain ⟨before, after, turn⟩ := turn_of_collected (collected_of_loadEnvOverrides loaded) inside
  obtain ⟨part, rest, rfl⟩ := partsOf_cases libraries named
  rw [collect_taken libraries named] at turn
  exact (assign_ok_iff.mp ⟨after, turn⟩).1

/-- Two different variables of an environment, one after the other at its start. -/
theorem perm_pair {first second : String × String} (inside : first ∈ environ)
    (inside' : second ∈ environ) (differs : first ≠ second) :
    ∃ rest, (first :: second :: rest).Perm environ := by
  have member : second ∈ environ.erase first :=
    (List.mem_erase_of_ne differs.symm).mpr inside'
  refine ⟨(environ.erase first).erase second, ?_⟩
  exact ((List.perm_cons_erase member).symm.cons first).trans (List.perm_cons_erase inside).symm

/-- No path leads through another: the walk would stop at the value put there before. -/
theorem OrderFree.apart (free : OrderFree libraries environ) {first second : String × String}
    (inside : first ∈ environ) (inside' : second ∈ environ) {path path' : List Key}
    (assigned : AssignedAt libraries first path) (assigned' : AssignedAt libraries second path')
    (leads : path <+: path') : path = path' := by
  by_contra strict
  have differs : first ≠ second := by
    rintro rfl
    obtain ⟨parts, named, rfl⟩ := assigned
    obtain ⟨parts', named', rfl⟩ := assigned'
    cases named.symm.trans named'
    exact strict rfl
  obtain ⟨rest, order⟩ := perm_pair inside inside' differs
  obtain ⟨parts, named, rfl⟩ := assigned
  obtain ⟨parts', named', rfl⟩ := assigned'
  obtain ⟨content, value⟩ := free.value inside named
  obtain ⟨part, more, rfl⟩ := partsOf_cases libraries named
  obtain ⟨part', more', rfl⟩ := partsOf_cases libraries named'
  obtain ⟨_, all⟩ := free
  obtain ⟨source, loaded, _⟩ := all _ order
  have collected := collected_of_loadEnvOverrides loaded
  rw [List.foldlM_cons, collect_taken libraries named, value] at collected
  cases done : assign .nil part more (.ok content) with
  | error exc =>
      rw [done] at collected
      cases collected
  | ok entries =>
      rw [done] at collected
      change (second :: rest).foldlM (collect libraries) entries = _ at collected
      rw [List.foldlM_cons, collect_taken libraries named'] at collected
      cases next : assign entries part' more' (coerce libraries second.2) with
      | error exc =>
          rw [next] at collected
          cases collected
      | ok _ =>
          have passable := (assign_ok_iff.mp ⟨_, next⟩).2
          have stands := (assign_spec done).here
          cases passable _ _ leads strict stands

/-- The value assigned last stays. -/
theorem last_value {front : List (String × String)} {last : String × String}
    {path : List Key} {content : Scalar} {source : ConfigSource Key}
    (loaded : loadEnvOverrides libraries (front ++ [last]) = .ok source)
    (assigned : AssignedAt libraries last path)
    (value : coerce libraries last.2 = .ok content) :
    (Value.map source.data.entries).at? path = some (.scalar content) := by
  have collected := collected_of_loadEnvOverrides loaded
  rw [List.foldlM_append] at collected
  cases before : front.foldlM (collect libraries) .nil with
  | error exc =>
      rw [before] at collected
      cases collected
  | ok entries =>
      rw [before] at collected
      change [last].foldlM (collect libraries) entries = _ at collected
      obtain ⟨parts, named, rfl⟩ := assigned
      obtain ⟨part, rest, rfl⟩ := partsOf_cases libraries named
      rw [List.foldlM_cons, collect_taken libraries named, value] at collected
      cases done : assign entries part rest (.ok content) with
      | error exc =>
          rw [done] at collected
          cases collected
      | ok result =>
          rw [done] at collected
          cases collected
          exact (assign_spec done).here

/-- Equal paths have equal values: either could be assigned last. -/
theorem OrderFree.agree (free : OrderFree libraries environ) {first second : String × String}
    (inside : first ∈ environ) (inside' : second ∈ environ) {path : List Key}
    (assigned : AssignedAt libraries first path) (assigned' : AssignedAt libraries second path) :
    coerce libraries first.2 = coerce libraries second.2 := by
  by_cases same : first = second
  · rw [same]
  · obtain ⟨rest, order⟩ := perm_pair inside inside' same
    obtain ⟨_, named, _⟩ := id assigned
    obtain ⟨_, named', _⟩ := id assigned'
    obtain ⟨content, value⟩ := free.value inside named
    obtain ⟨content', value'⟩ := free.value inside' named'
    obtain ⟨overrides, all⟩ := free
    have swapped : (second :: first :: rest).Perm environ := (List.Perm.swap _ _ _).trans order
    have front : (first :: second :: rest).reverse.Perm environ :=
      (List.reverse_perm _).trans order
    have back : (second :: first :: rest).reverse.Perm environ :=
      (List.reverse_perm _).trans swapped
    obtain ⟨source, loaded, agrees⟩ := all _ front
    obtain ⟨source', loaded', agrees'⟩ := all _ back
    rw [List.reverse_cons] at loaded loaded'
    have here := agrees path
    have there := agrees' path
    rw [last_value loaded assigned value] at here
    rw [last_value loaded' assigned' value'] at there
    have equal := here.trans there.symm
    simp only [Option.map_some, face, Option.some.injEq, Value.scalar.injEq] at equal
    rw [value, value', equal]

/-- The overrides are the same in every order exactly where every variable that is taken has a
value and the paths are apart. -/
theorem overrides_orderFree_iff (libraries : Libraries γ) (environ : List (String × String)) :
    OrderFree libraries environ ↔ Compatible libraries environ := by
  constructor
  · intro free entry inside parts named
    refine ⟨free.value inside named, fun other inside' parts' named' leads => ?_⟩
    obtain ⟨more, whole⟩ := leads
    have assigned : AssignedAt libraries entry (keyPath parts) := ⟨parts, named, rfl⟩
    have assigned' : AssignedAt libraries other (keyPath parts') := ⟨parts', named', rfl⟩
    have within : keyPath parts <+: keyPath parts' := by
      rw [← whole, keyPath, keyPath, List.map_append]
      exact List.prefix_append _ _
    have same := free.apart inside inside' assigned assigned' within
    refine ⟨keyPath_injective same, ?_⟩
    rw [← same] at assigned'
    exact free.agree inside inside' assigned assigned'
  · exact Compatible.orderFree

/-- A section given a value before one of its keys is. -/
theorem overrides_raise :
    let environ := [("LEXMIND_OCR", "on"), ("LEXMIND_OCR__DPI", "300")]
    (loadEnvOverrides asciiLibraries environ).toOption.isNone = true ∧
      (loadEnvOverrides asciiLibraries environ.reverse).toOption.isSome = true ∧
      ¬ OrderFree asciiLibraries environ := by
  intro environ
  have raises : (loadEnvOverrides asciiLibraries environ).toOption.isNone = true := by
    decide +kernel
  refine ⟨raises, by decide +kernel, fun free => ?_⟩
  obtain ⟨_, all⟩ := free
  obtain ⟨source, loaded, _⟩ := all environ (List.Perm.refl _)
  rw [loaded] at raises
  cases raises

end Orders

end LexMind.Config
