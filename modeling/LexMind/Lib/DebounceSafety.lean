import LexMind.Lib.SharedDebounce

set_option autoImplicit false

/- What is released, against what was let in: the order, the last item of each
key, and the waiting times. -/
namespace Lib.Debounce

variable {κ π : Type} [DecidableEq κ] {policy : Policy κ π} {buffer : Buffer policy.key}

/-- The item that a call brings in. -/
def admitted? (policy : Policy κ π) : Op π → Option π
  | .item item _ => if policy.accepts item then some item else none
  | .flush _ => none

/-- The items that the calls bring in, in their order. -/
def admitted (policy : Policy κ π) (calls : List (Op π)) : List π :=
  calls.filterMap (admitted? policy)

/-- Of some items, those of one key. -/
def ofKey (policy : Policy κ π) (k : κ) (items : List π) : List π :=
  items.filter (fun item => policy.key item = k)

theorem ofKey_append (k : κ) (front back : List π) :
    ofKey policy k (front ++ back) = ofKey policy k front ++ ofKey policy k back :=
  List.filter_append ..

/-- What waits for a key: one item at most. -/
def waitingFor (buffer : Buffer policy.key) (k : κ) : List π :=
  ofKey policy k (buffer.rows.map Waiting.item)

theorem length_waitingFor_le (buffer : Buffer policy.key) (k : κ) :
    (waitingFor buffer k).length ≤ 1 := by
  have distinct : ((waitingFor buffer k).map policy.key).Nodup := by
    have whole : ((buffer.rows.map Waiting.item).map policy.key).Nodup := by
      rw [List.map_map]
      exact buffer.distinct
    exact (List.filter_sublist.map policy.key).nodup whole
  have same : (waitingFor buffer k).map policy.key =
      List.replicate (waitingFor buffer k).length k := by
    rw [List.eq_replicate_iff]
    refine ⟨List.length_map _, fun other inside => ?_⟩
    obtain ⟨item, member, rfl⟩ := List.mem_map.mp inside
    exact of_decide_eq_true (List.mem_filter.mp member).2
  rw [same] at distinct
  exact List.nodup_replicate.mp distinct

/-- An item that is let in is what waits for its key then. -/
theorem waitingFor_put (since : Int) (item : π) (k : κ) :
    waitingFor (buffer.put ⟨since, item⟩ : Buffer policy.key) k =
      if policy.key item = k then [item] else waitingFor buffer k := by
  have bound := length_waitingFor_le (buffer.put ⟨since, item⟩ : Buffer policy.key) k
  by_cases same : policy.key item = k
  · have inside : item ∈ waitingFor (buffer.put ⟨since, item⟩ : Buffer policy.key) k := by
      refine List.mem_filter.mpr ⟨List.mem_map.mpr ⟨⟨since, item⟩, ?_, rfl⟩, decide_eq_true same⟩
      exact (buffer.mem_put _ _).mpr (.inl rfl)
    rw [if_pos same]
    obtain ⟨only, one⟩ := List.length_eq_one_iff.mp
      (Nat.le_antisymm bound (List.length_pos_of_mem inside))
    rw [one] at inside ⊢
    rw [List.mem_singleton.mp inside]
  · rw [if_neg same]
    have kept := buffer.filter_put (fun waiting => policy.key waiting.item = k) ⟨since, item⟩
      (decide_eq_false same)
    have others : ∀ waiting ∈ buffer.rows.filter (fun waiting => policy.key waiting.item = k),
        policy.key waiting.item ≠ policy.key item := by
      intro waiting inside
      have named : policy.key waiting.item = k := of_decide_eq_true (List.mem_filter.mp inside).2
      exact fun equal => same (equal.symm.trans named)
    rw [List.filter_eq_self.mpr (fun waiting inside => decide_eq_true (others waiting inside))] at kept
    unfold waitingFor ofKey
    rw [List.filter_map, List.filter_map]
    exact congrArg (List.map Waiting.item) kept

theorem waitingFor_arrive (op : Op π) (k : κ) :
    waitingFor (arrive policy buffer op) k = waitingFor buffer k ∧
        ofKey policy k (admitted? policy op).toList = [] ∨
      ∃ item, waitingFor (arrive policy buffer op) k = [item] ∧
        ofKey policy k (admitted? policy op).toList = [item] := by
  cases op with
  | flush now => exact .inl ⟨rfl, rfl⟩
  | item item now =>
      by_cases accepted : policy.accepts item = true
      · rw [arrive, if_pos accepted, waitingFor_put, admitted?, if_pos accepted]
        by_cases same : policy.key item = k
        · exact .inr ⟨item, if_pos same, by simp [ofKey, same]⟩
        · exact .inl ⟨if_neg same, by simp [ofKey, same]⟩
      · rw [arrive, if_neg accepted, admitted?, if_neg accepted]
        exact .inl ⟨rfl, rfl⟩

/-- A step splits what waits for a key: it is released, or it stays. -/
theorem released_append_waitingFor (op : Op π) (k : κ) :
    ofKey policy k (step policy buffer op).1 ++ waitingFor (step policy buffer op).2 k =
      waitingFor (arrive policy buffer op) k := by
  have parts := ((arrive policy buffer op).rows.filter_append_perm
    (releases policy op)).map Waiting.item
  have split : (ofKey policy k (step policy buffer op).1 ++
      waitingFor (step policy buffer op).2 k).Perm (waitingFor (arrive policy buffer op) k) := by
    rw [waitingFor, waitingFor, ← ofKey_append]
    refine List.Perm.filter _ ?_
    rw [List.map_append] at parts
    exact parts
  rcases Nat.le_one_iff_eq_zero_or_eq_one.mp (length_waitingFor_le (arrive policy buffer op) k) with
    none | one
  · rw [List.length_eq_zero_iff.mp none] at split ⊢
    exact split.eq_nil
  · obtain ⟨only, same⟩ := List.length_eq_one_iff.mp one
    rw [same] at split ⊢
    exact List.perm_singleton.mp split

/-- What a run releases of a key and leaves waiting for it, against what waited and was let in. -/
structure Follows (found settled : List π) : Prop where
  ordered : settled.Sublist found
  last : settled.getLast? = found.getLast?

theorem Follows.append_left {found settled : List π} (follows : Follows found settled)
    (front : List π) : Follows (front ++ found) (front ++ settled) where
  ordered := follows.ordered.append_left front
  last := by rw [List.getLast?_append, List.getLast?_append, follows.last]

/-- The item that takes a place follows the one it takes it from. -/
theorem follows_arrive (op : Op π) (k : κ) (later : List π) :
    Follows (waitingFor buffer k ++ (ofKey policy k (admitted? policy op).toList ++ later))
      (waitingFor (arrive policy buffer op) k ++ later) := by
  rcases waitingFor_arrive op k with ⟨kept, nothing⟩ | ⟨item, taken, came⟩
  · rw [kept, nothing, List.nil_append]
    exact ⟨.refl _, rfl⟩
  · rw [taken, came]
    refine ⟨List.sublist_append_right _ _, ?_⟩
    exact (List.getLast?_append_of_ne_nil _ (List.cons_ne_nil item later)).symm

theorem Follows.trans {first second third : List π} (early : Follows first second)
    (late : Follows second third) : Follows first third :=
  ⟨late.ordered.trans early.ordered, late.last.trans early.last⟩

theorem run_follows (calls : List (Op π)) (k : κ) :
    Follows (waitingFor buffer k ++ ofKey policy k (admitted policy calls))
      (ofKey policy k (run (step policy) buffer calls).1.flatten ++
        waitingFor (run (step policy) buffer calls).2 k) := by
  induction calls generalizing buffer with
  | nil =>
      refine ⟨?_, ?_⟩ <;> simp [admitted, ofKey]
  | cons op rest ih =>
      have came : ofKey policy k (admitted policy (op :: rest)) =
          ofKey policy k (admitted? policy op).toList ++ ofKey policy k (admitted policy rest) := by
        rw [← ofKey_append]
        congr 1
        unfold admitted
        rw [List.filterMap_cons]
        cases admitted? policy op <;> rfl
      have released : ofKey policy k (run (step policy) buffer (op :: rest)).1.flatten =
          ofKey policy k (step policy buffer op).1 ++
            ofKey policy k (run (step policy) (step policy buffer op).2 rest).1.flatten :=
        ofKey_append k _ _
      have later := (@ih (step policy buffer op).2).append_left
        (ofKey policy k (step policy buffer op).1)
      rw [← List.append_assoc, ← List.append_assoc, released_append_waitingFor] at later
      rw [came, released, run_cons_state]
      exact (follows_arrive op k _).trans later

/-- What is released of a key was let in, in that order. -/
theorem releasedBy_sublist (calls : List (Op π)) (k : κ) :
    (ofKey policy k (releasedBy policy calls)).Sublist (ofKey policy k (admitted policy calls)) :=
  (List.sublist_append_left _ _).trans (@run_follows _ _ _ policy .empty calls k).ordered

/-- After a flush nothing waits, and the last item of each key that was let in has been released. -/
theorem run_flush (front : List (Op π)) (now : Int) :
    (run (step policy) .empty (front ++ [.flush now])).2 = .empty ∧
      ∀ k, (ofKey policy k (releasedBy policy (front ++ [.flush now]))).getLast? =
        (ofKey policy k (admitted policy (front ++ [.flush now]))).getLast? := by
  have emptied : (run (step policy) .empty (front ++ [.flush now])).2 = .empty := by
    rw [run_append_state]
    exact Keyed.ext_rows (List.filter_eq_nil_iff.mpr (by simp [releases]))
  refine ⟨emptied, fun k => ?_⟩
  have last := (@run_follows _ _ _ policy .empty (front ++ [.flush now]) k).last
  rw [emptied] at last
  have nothing : waitingFor (.empty : Buffer policy.key) k = [] := rfl
  rw [nothing, List.append_nil, List.nil_append] at last
  exact last

/-- What a call releases came before, was let in, and has waited its time unless it is a flush. -/
theorem released_after_window {calls : List (Op π)} {op : Op π} {item : π}
    (released : item ∈ (step policy (run (step policy) .empty calls).2 op).1) :
    ∃ came, .item item came ∈ calls ++ [op] ∧
      ((∃ now, op = .flush now) ∨ came + policy.window item ≤ op.time) := by
  obtain ⟨waiting, there, free, rfl⟩ := mem_released.mp released
  refine ⟨waiting.since, ?_, ?_⟩
  · rcases mem_arrive.mp there with ⟨same, _⟩ | ⟨old, _⟩
    · exact List.mem_append_right _ (List.mem_singleton.mpr same.symm)
    · rcases came_of_waiting old with empty | came
      · cases empty
      · exact List.mem_append_left _ came
  · cases op with
    | flush now => exact .inl ⟨now, rfl⟩
    | item arriving now =>
        have due : isDue policy now waiting = true := (Bool.and_eq_true _ _ ▸ free).2
        simp only [isDue, decide_eq_true_eq] at due
        exact .inr (by simp only [Op.time]; omega)

omit [DecidableEq κ] in
theorem mem_admitted {calls : List (Op π)} {item : π} : item ∈ admitted policy calls ↔
    policy.accepts item = true ∧ ∃ now, .item item now ∈ calls := by
  unfold admitted
  rw [List.mem_filterMap]
  constructor
  · rintro ⟨op, inside, brought⟩
    cases op with
    | flush now => cases brought
    | item arriving now =>
        simp only [admitted?, Option.ite_none_right_eq_some, Option.some_inj] at brought
        obtain ⟨accepted, rfl⟩ := brought
        exact ⟨accepted, now, inside⟩
  · rintro ⟨accepted, now, inside⟩
    exact ⟨_, inside, if_pos accepted⟩

theorem admitted_of_releasedBy {calls : List (Op π)} {item : π}
    (released : item ∈ releasedBy policy calls) : item ∈ admitted policy calls := by
  have kept : item ∈ ofKey policy (policy.key item) (releasedBy policy calls) :=
    List.mem_filter.mpr ⟨released, decide_eq_true rfl⟩
  exact (List.mem_filter.mp ((releasedBy_sublist calls _).subset kept)).1

/-- Between times at which nothing waits for a key, the last item of it that is let in is the last
one that is released. -/
theorem last_released {calls : List (Op π)} {k : κ} (before : waitingFor buffer k = [])
    (after : (run (step policy) buffer calls).2.rows = []) :
    (ofKey policy k (run (step policy) buffer calls).1.flatten).getLast? =
      (ofKey policy k (admitted policy calls)).getLast? := by
  have last := (@run_follows _ _ _ policy buffer calls k).last
  rw [before, waitingFor, after] at last
  simpa [ofKey] using last

end Lib.Debounce
