import LexMind.Lib.Run
import Mathlib.Data.List.Basic
import Mathlib.Data.List.Induction

set_option autoImplicit false

/- The calls of a run with their answers, and what was started last and not ended since. -/
namespace Lib

section Runs

variable {σ ω ρ : Type}

/-- Each call of a run with what it answered. -/
def transcript (step : σ → ω → ρ × σ) : σ → List ω → List (ω × ρ)
  | _, [] => []
  | state, call :: rest => (call, (step state call).1) :: transcript step (step state call).2 rest

theorem transcript_append_singleton (step : σ → ω → ρ × σ) (state : σ) (calls : List ω) (call : ω) :
    transcript step state (calls ++ [call]) =
      transcript step state calls ++ [(call, (step (run step state calls).2 call).1)] := by
  induction calls generalizing state with
  | nil => rfl
  | cons first rest ih => exact congrArg _ (ih (step state first).2)

end Runs

variable {ε : Type}

/-- The last start in a list of entries is at the index. -/
structure LatestAt (starts : ε → Prop) (entries : List ε) (index : Nat) : Prop where
  started : ∃ entry, entries[index]? = some entry ∧ starts entry
  last : ∀ later entry, index < later → entries[later]? = some entry → ¬ starts entry

/-- What was started last, at the index, was not ended since. -/
structure OpenAt (starts ends : ε → Prop) (entries : List ε) (index : Nat) : Prop where
  latest : LatestAt starts entries index
  kept : ∀ later entry, index < later → entries[later]? = some entry → ¬ ends entry

section More

variable {starts ends : ε → Prop} {entries : List ε} {index : Nat}

theorem LatestAt.lt_length (latest : LatestAt starts entries index) : index < entries.length := by
  obtain ⟨entry, found, _⟩ := latest.started
  exact (List.getElem?_eq_some_iff.mp found).1

theorem getElem?_append_singleton (entries : List ε) (last : ε) (index : Nat) :
    (entries ++ [last])[index]? =
      if index = entries.length then some last else entries[index]? := by
  split
  · rename_i same
    rw [same, List.getElem?_concat_length]
  · rename_i apart
    rcases Nat.lt_or_gt_of_ne apart with before | after
    · rw [List.getElem?_append_left before]
    · rw [List.getElem?_eq_none (by simp; omega), List.getElem?_eq_none (by omega)]

/-- After one more entry, what holds of the later entries holds of the later ones before and of
it. -/
theorem later_append_singleton {last : ε} {holds : ε → Prop} (inside : index < entries.length) :
    (∀ later entry, index < later → (entries ++ [last])[later]? = some entry → holds entry) ↔
      (∀ later entry, index < later → entries[later]? = some entry → holds entry) ∧ holds last := by
  constructor
  · intro all
    refine ⟨fun later entry after found => all later entry after ?_,
      all entries.length last inside List.getElem?_concat_length⟩
    rw [List.getElem?_append_left (List.getElem?_eq_some_iff.mp found).1, found]
  · rintro ⟨before, new⟩ later entry after found
    rw [getElem?_append_singleton] at found
    split at found
    · cases found
      exact new
    · exact before later entry after found

theorem latestAt_append_singleton (last : ε) :
    LatestAt starts (entries ++ [last]) index ↔
      (LatestAt starts entries index ∧ ¬ starts last) ∨ (index = entries.length ∧ starts last) := by
  constructor
  · intro latest
    obtain ⟨entry, found, started⟩ := latest.started
    rw [getElem?_append_singleton] at found
    split at found
    · rename_i same
      cases found
      exact .inr ⟨same, started⟩
    · have inside := (List.getElem?_eq_some_iff.mp found).1
      obtain ⟨before, new⟩ := (later_append_singleton inside).mp latest.last
      exact .inl ⟨⟨⟨entry, found, started⟩, before⟩, new⟩
  · rintro (⟨latest, other⟩ | ⟨rfl, started⟩)
    · obtain ⟨entry, found, started⟩ := latest.started
      refine ⟨⟨entry, ?_, started⟩,
        (later_append_singleton latest.lt_length).mpr ⟨latest.last, other⟩⟩
      rw [List.getElem?_append_left latest.lt_length, found]
    · refine ⟨⟨last, List.getElem?_concat_length, started⟩, fun later entry after found => ?_⟩
      rw [List.getElem?_eq_none (by simp; omega)] at found
      cases found

theorem openAt_append_singleton (last : ε) :
    OpenAt starts ends (entries ++ [last]) index ↔
      (OpenAt starts ends entries index ∧ ¬ starts last ∧ ¬ ends last) ∨
        (index = entries.length ∧ starts last) := by
  constructor
  · intro opened
    rcases (latestAt_append_singleton last).mp opened.latest with ⟨latest, other⟩ | started
    · obtain ⟨before, kept⟩ := (later_append_singleton latest.lt_length).mp opened.kept
      exact .inl ⟨⟨latest, before⟩, other, kept⟩
    · exact .inr started
  · rintro (⟨opened, other, kept⟩ | started)
    · exact ⟨(latestAt_append_singleton last).mpr (.inl ⟨opened.latest, other⟩),
        (later_append_singleton opened.latest.lt_length).mpr ⟨opened.kept, kept⟩⟩
    · refine ⟨(latestAt_append_singleton last).mpr (.inr started),
        fun later entry after found => ?_⟩
      rw [List.getElem?_eq_none (by simp; omega)] at found
      cases found

end More

section Switches

variable {σ ω ρ : Type} {step : σ → ω → ρ × σ} {holds : σ → Prop} {starts ends : ω × ρ → Prop}

/-- What each call switches on, off or leaves as it is, holds after a run where it was switched on
last and not off since, or held before and was never switched off. -/
theorem switched_iff
    (switches : ∀ state call, holds (step state call).2 ↔
      starts (call, (step state call).1) ∨ holds state ∧ ¬ ends (call, (step state call).1))
    (start : σ) (calls : List ω) :
    holds (run step start calls).2 ↔
      (∃ index, OpenAt starts ends (transcript step start calls) index) ∨
        holds start ∧ ∀ entry ∈ transcript step start calls, ¬ ends entry := by
  induction calls using List.reverseRecOn with
  | nil =>
      constructor
      · exact fun held => .inr ⟨held, List.forall_mem_nil _⟩
      · rintro (⟨index, opened⟩ | ⟨held, -⟩)
        · exact absurd opened.latest.lt_length (Nat.not_lt_zero index)
        · exact held
  | append_singleton calls call ih =>
      rw [run_append_state, transcript_append_singleton]
      show holds (step (run step start calls).2 call).2 ↔ _
      rw [switches, ih, List.forall_mem_append, List.forall_mem_singleton]
      simp only [openAt_append_singleton, exists_or, exists_and_right]
      by_cases on : starts (call, (step (run step start calls).2 call).1)
      · simp [on]
      · simp only [on, false_or, or_false, not_false_iff, true_and, and_false, or_and_right,
          and_assoc]

end Switches

end Lib
