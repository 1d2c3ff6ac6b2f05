import LexMind.Artifacts.Announcements
import LexMind.Ingestion.Announcements
import LexMind.Scheduler.Announcements
import LexMind.Tasks.Announcements

set_option autoImplicit false

/- The services that take an event bus, each run with one and without one. -/
namespace LexMind

open Lib Events Scheduler Tasks Ingestion Artifacts

/-- A service with a bus does what it does without one exactly where no call of the run comes to an
event: the events have no `name`, which is what a bus looks its handlers up by. -/
theorem services_transparent_iff {ρ β : Type} (registry : ArtifactRegistry ρ)
    (service : ImportService) (bus : EventBus) :
    (∀ (state : SchedulerState) (uses : List (Use SchedulerState SchedulerCall β)),
      Transparent SchedulerCall.program bus state uses ↔
        QuietRun SchedulerCall.program SchedulerCall.Quiet state uses) ∧
    (∀ (state : TaskState) (uses : List (Use TaskState TaskOperation β)),
      Transparent TaskOperation.program bus state uses ↔
        QuietRun TaskOperation.program TaskOperation.Quiet state uses) ∧
    (∀ (state : ImportState) (uses : List (Use ImportState ImportCall β)),
      Transparent (ImportCall.program service) bus state uses ↔
        QuietRun (ImportCall.program service) (fun _ made => made.Quiet) state uses) ∧
    ∀ (state : ManagerState ρ) (uses : List (Use (ManagerState ρ) ManagerCall β)),
      Transparent (ManagerCall.program registry) bus state uses ↔
        QuietRun (ManagerCall.program registry) (ManagerCall.Quiet registry) state uses :=
  ⟨SchedulerCall.transparent_iff bus, TaskOperation.transparent_iff bus,
    ImportCall.transparent_iff service bus, ManagerCall.transparent_iff registry bus⟩

/-- `EventBus()`. -/
def freshBus : EventBus where
  registry := []
  subscriptions := .empty
  dispatchStats := ⟨0, 0⟩
  stats := ⟨0, 0, 0, 0⟩
  history := []
  calls := []

/-- A submission: without a bus it returns the job, with one it raises. -/
theorem submission_not_transparent :
    let submission : SchedulerCall :=
      .operation (.submit "ws" "ocr" [] 0 3 "j1" (fun _ => 0))
    ¬ Transparent SchedulerCall.program freshBus ⟨⟨.empty, []⟩, []⟩
      ([.call submission] : List (Use SchedulerState SchedulerCall Unit)) := by
  intro submission transparent
  have quiet := (SchedulerCall.transparent_iff freshBus _ _).mp transparent
  have unowned : "ws" = "" := quiet.1 submission rfl
  revert unowned
  decide

end LexMind
