import LexMind.Lib.Run
import LexMind.Pipeline.DependencyValidation
import LexMind.Pipeline.Observations

set_option autoImplicit false

namespace LexMind.Pipelines

open Lib

/-- A run that has ended: the pipeline it was for, whether it went on from a stored
checkpoint, and its observations. -/
structure RunRecord where
  pipelineId : String
  restored : Bool
  events : List StageEvent
deriving DecidableEq

inductive HistoryEntry
  | run (record : RunRecord)
  | reset (pipelineId : String)
deriving DecidableEq

def StageEvent.isSuccess : StageEvent → Bool
  | succeeded _ => true
  | _ => false

/-- The run has stored a checkpoint. -/
def RunRecord.saved (record : RunRecord) : Bool := record.events.any StageEvent.isSuccess

/-- The runs a stored checkpoint comes from, in a history whose newest entry is its
head: the last run of that pipeline that stored one, and what that run went on from. -/
def sources (pipelineId : String) : List HistoryEntry → List RunRecord
  | [] => []
  | .reset other :: older => if other = pipelineId then [] else sources pipelineId older
  | .run record :: older =>
      if record.pipelineId = pipelineId ∧ record.saved then
        record :: (if record.restored then sources pipelineId older else [])
      else sources pipelineId older

theorem RunRecord.saved_iff (record : RunRecord) :
    record.saved = true ↔ ∃ stage, .succeeded stage ∈ record.events := by
  rw [saved, List.any_eq_true]
  constructor
  · rintro ⟨event, inside, success⟩
    cases event with
    | succeeded stage => exact ⟨stage, inside⟩
    | _ => cases success
  · rintro ⟨stage, inside⟩
    exact ⟨_, inside, rfl⟩

section System

variable {ω ν : Type}

/-- An `execute` call and its context. -/
structure Request (ω ν : Type) where
  emit : EmitFn ω ν
  pipeline : Pipeline ω ν
  context : PipelineContext ω ν
  resume : Bool

/-- What can be done to a store of checkpoints. -/
inductive StoreOperation (ω ν : Type)
  | execute (request : Request ω ν)
  | reset (pipelineId : String)

/-- The store with the history of what has been done to it, newest first. -/
structure StoreHistory (ν : Type) where
  store : CheckpointStore ν
  history : List HistoryEntry

def StoreHistory.empty : StoreHistory ν := ⟨.empty, []⟩

def Request.ended (request : Request ω ν) (store : CheckpointStore ν) :
    Except PyExc PipelineResult × Execution ω ν :=
  call (execute request.emit request.pipeline request.resume) (beginning request.context store)

def Request.record (request : Request ω ν) (store : CheckpointStore ν) : RunRecord where
  pipelineId := request.context.pipelineId
  restored := (existingCheckpoint store request.context.pipelineId request.resume).isSome
  events := (request.ended store).2.events

def storeStep (state : StoreHistory ν) :
    StoreOperation ω ν → Option (Except PyExc PipelineResult) × StoreHistory ν
  | .execute request =>
      (some (request.ended state.store).1,
        ⟨(request.ended state.store).2.store, .run (request.record state.store) :: state.history⟩)
  | .reset pipelineId =>
      (none, ⟨state.store.reset pipelineId, .reset pipelineId :: state.history⟩)

/-- Every stage a stored checkpoint lists succeeded in a run the checkpoint comes from. -/
def Accounted (state : StoreHistory ν) : Prop :=
  ∀ pipelineId checkpoint, state.store.find? pipelineId = some checkpoint →
    ∀ stage ∈ checkpoint.completedStages,
      ∃ record ∈ sources pipelineId state.history, .succeeded stage ∈ record.events

theorem Accounted.restored {state : StoreHistory ν} (accounted : Accounted state)
    (context : PipelineContext ω ν) (resume : Bool) {stage : StageId}
    (inside : stage ∈ (startCheckpoint context state.store resume).completedStages) :
    (existingCheckpoint state.store context.pipelineId resume).isSome = true ∧
      ∃ record ∈ sources context.pipelineId state.history, .succeeded stage ∈ record.events := by
  unfold startCheckpoint at inside
  cases found : existingCheckpoint state.store context.pipelineId resume with
  | none =>
      rw [found] at inside
      cases inside
  | some existing =>
      rw [found] at inside
      have stored : state.store.find? context.pipelineId = some existing := by
        unfold existingCheckpoint CheckpointStore.restore at found
        split at found
        · exact found
        · cases found
      exact ⟨rfl, accounted _ _ stored stage inside⟩

theorem Request.record_events (request : Request ω ν) (store : CheckpointStore ν) :
    Turns (startCheckpoint request.context store request.resume).completedStages
        (request.pipeline.stages.map PipelineStage.id) (request.record store).events ∧
      Saved (startCheckpoint request.context store request.resume) (request.record store).events
        store (request.ended store).2.store := by
  obtain ⟨events, appended, turns, saved⟩ :=
    execute_progress request.emit request.pipeline request.resume request.context store
  have recorded : (request.record store).events = events := appended
  rw [recorded]
  exact ⟨turns, saved⟩

/-- Nothing is observed of a pipeline that is not valid. -/
theorem Request.valid_of_mem {request : Request ω ν} {store : CheckpointStore ν}
    {event : StageEvent} (inside : event ∈ (request.record store).events) :
    request.pipeline.validate = .ok () := by
  cases checked : request.pipeline.validate with
  | ok _ => rfl
  | error exc =>
      rw [record, ended, execute, call_bind, call_check, checked] at inside
      cases inside

/-- A run keeps the account: what it stores lists what it was given and what has
succeeded in it. -/
theorem execute_accounted {state : StoreHistory ν} (accounted : Accounted state)
    (request : Request ω ν) : Accounted (storeStep state (.execute request)).2 := by
  obtain ⟨_, saved⟩ := request.record_events state.store
  have key := startCheckpoint_pipelineId state.store request.context request.resume
  intro pipelineId checkpoint found stage inside
  change ∃ record ∈ sources pipelineId (.run (request.record state.store) :: state.history), _
  change (request.ended state.store).2.store.find? pipelineId = some checkpoint at found
  by_cases own : request.context.pipelineId = pipelineId
  · subst own
    rw [← key] at found
    rcases saved.own with ⟨none, unchanged⟩ | ⟨success, latest, stored, listed⟩
    · have unsaved : ¬ (request.record state.store).saved = true := by
        rw [RunRecord.saved_iff]
        exact not_exists.mpr none
      rw [unchanged, key] at found
      rw [sources, if_neg (fun both => unsaved both.2)]
      exact accounted _ _ found stage inside
    · rw [sources, if_pos ⟨rfl, (RunRecord.saved_iff _).mpr success⟩]
      cases found.symm.trans stored
      rcases listed stage inside with given | succeeded
      · obtain ⟨restored, record, source, success⟩ :=
          accounted.restored request.context request.resume given
        refine ⟨record, List.mem_cons_of_mem _ ?_, success⟩
        rw [Request.record, if_pos restored]
        exact source
      · exact ⟨_, List.mem_cons_self, succeeded⟩
  · rw [saved.others pipelineId (fun same => own (key.symm.trans same.symm))] at found
    rw [sources, if_neg (fun both => own both.1)]
    exact accounted _ _ found stage inside

theorem reset_accounted {state : StoreHistory ν} (accounted : Accounted state)
    (other : String) : Accounted (⟨state.store.reset other, .reset other :: state.history⟩) := by
  intro pipelineId checkpoint found stage inside
  change (state.store.erase other).find? pipelineId = some checkpoint at found
  rw [Keyed.find?_erase] at found
  split at found
  · cases found
  · rename_i differs
    rw [sources, if_neg (Ne.symm differs)]
    exact accounted _ _ found stage inside

theorem storeStep_accounted (state : StoreHistory ν) (operation : StoreOperation ω ν)
    (accounted : Accounted state) : Accounted (storeStep state operation).2 := by
  cases operation with
  | execute request => exact execute_accounted accounted request
  | reset other => exact reset_accounted accounted other

theorem Accounted.empty : Accounted (StoreHistory.empty : StoreHistory ν) := by
  intro pipelineId checkpoint found
  cases found

theorem run_accounted (operations : List (StoreOperation ω ν)) :
    Accounted (run storeStep StoreHistory.empty operations).2 :=
  run_invariant storeStep_accounted .empty operations

/-- In every run over a store, fresh or resumed, a stage's `execute` is called at its
place in the order, and each of its dependencies is registered. A dependency that the
order lists before that place has by then succeeded in this run, or in a run the
checkpoint comes from, or its `validate` has answered False in this run. -/
theorem dependencies_before_call (operations : List (StoreOperation ω ν))
    (state : StoreHistory ν) (reached : state = (run storeStep StoreHistory.empty operations).2)
    (request : Request ω ν) (before after : List StageEvent) (stageId : StageId)
    (observed : (request.record state.store).events = before ++ .called stageId :: after) :
    ∃ stage later, request.pipeline.registry.find? stageId = some stage ∧
      request.pipeline.stages.map PipelineStage.id = settled before ++ stageId :: later ∧
      ∀ dependency ∈ stage.dependencies,
        request.pipeline.registry.contains dependency = true ∧
        (dependency ∈ settled before →
          .succeeded dependency ∈ before ∨ .invalid dependency ∈ before ∨
          request.resume = true ∧ ∃ record ∈ sources request.context.pipelineId state.history,
            .succeeded dependency ∈ record.events) := by
  have valid : request.pipeline.validate = .ok () := by
    have called : .called stageId ∈ (request.record state.store).events := by
      simp [observed]
    exact Request.valid_of_mem called
  obtain ⟨turns, _⟩ := request.record_events state.store
  rw [observed] at turns
  obtain ⟨later, order⟩ := turns.position
  obtain ⟨stage, listed, rfl⟩ : ∃ stage ∈ request.pipeline.stages, stage.id = stageId :=
    List.mem_map.mp (by simp [order])
  have found := Pipeline.find?_of_mem_stages listed
  refine ⟨stage, later, found, order, fun dependency needed => ⟨?_, fun done => ?_⟩⟩
  · exact Pipeline.registered_of_validate valid (Keyed.mem_of_find? found) needed
  · rcases turns.settled_cases done with given | invalid | succeeded
    · obtain ⟨restored, record, source, success⟩ :=
        (reached ▸ run_accounted operations : Accounted state).restored
          request.context request.resume given
      refine .inr (.inr ⟨?_, record, source, success⟩)
      unfold existingCheckpoint at restored
      split at restored
      · assumption
      · cases restored
    · exact .inr (.inl invalid)
    · exact .inl succeeded

/-- Each dependency of a stage has succeeded, in this run or in one of the earlier
ones, whenever the stage's `execute` is called. -/
def DependenciesCompleted (registry : PipelineRegistry ω ν) (earlier : List RunRecord)
    (events : List StageEvent) : Prop :=
  ∀ before after stage, events = before ++ .called stage.id :: after →
    registry.find? stage.id = some stage → ∀ dependency ∈ stage.dependencies,
      .succeeded dependency ∈ before ∨ ∃ record ∈ earlier, .succeeded dependency ∈ record.events

end System

section Orders

/-- A stage that notes in the shared state that it is done. -/
def recordingStage (id : StageId) (dependencies : List StageId) (enabled : Bool) :
    PipelineStage Unit String where
  id := id
  dependencies := dependencies
  retryPolicy := noRetry
  validate := pure enabled
  execute := do
    modify (fun context => { context with shared := context.shared.insert id.value "done" })
    return .ok id
  rollback := pure ()

/-- A parser that depends on the ocr stage. -/
def parserOnOcr (ocrEnabled : Bool) : PipelineRegistry Unit String where
  rows := [recordingStage .ocr [] ocrEnabled, recordingStage .parser [.ocr] true]
  distinct := by cases ocrEnabled <;> decide

def freshContext : PipelineContext Unit String :=
  ⟨"run", "doc-1", false, none, .empty, ∅, ()⟩

def request (ocrEnabled : Bool) (order : List StageId) (resume : Bool) : Request Unit String :=
  ⟨silent, ⟨parserOnOcr ocrEnabled, order⟩, freshContext, resume⟩

/-- The ocr stage has run alone, and the run with the parser is resumed from there. -/
def afterOcr : StoreHistory String :=
  (run storeStep StoreHistory.empty [.execute (request true [.ocr] false)]).2

theorem dependencies_before_call_resumed :
    ∃ stage later, (parserOnOcr true).find? .parser = some stage ∧
      (request true [.ocr, .parser] true).pipeline.stages.map PipelineStage.id =
        [.ocr] ++ .parser :: later ∧
      ∀ dependency ∈ stage.dependencies, (parserOnOcr true).contains dependency = true ∧
        (dependency ∈ [StageId.ocr] →
          .succeeded dependency ∈ [StageEvent.alreadyCompleted .ocr] ∨
          .invalid dependency ∈ [StageEvent.alreadyCompleted .ocr] ∨
          true = true ∧ ∃ record ∈ sources "run" afterOcr.history,
            .succeeded dependency ∈ record.events) :=
  dependencies_before_call [.execute (request true [.ocr] false)] afterOcr rfl
    (request true [.ocr, .parser] true) [.alreadyCompleted .ocr] [.succeeded .parser] .parser
    (by decide +kernel)

/-- The parser is called before the ocr stage where the order lists it first, without it
where the order leaves it out, and after it was skipped where it is not enabled. -/
theorem dependencies_not_completed :
    (∀ ocrEnabled order resume,
      (request ocrEnabled order resume).pipeline.validate = .ok ()) ∧
    ¬ DependenciesCompleted (parserOnOcr true) []
      ((request true [.parser, .ocr] false).record .empty).events ∧
    ¬ DependenciesCompleted (parserOnOcr true) []
      ((request true [.parser] false).record .empty).events ∧
    ¬ DependenciesCompleted (parserOnOcr false) []
      ((request false [.ocr, .parser] false).record .empty).events := by
  refine ⟨?_, ?_, ?_, ?_⟩
  · intro ocrEnabled order resume
    rfl
  · intro completed
    have ocr := completed [] [.succeeded .parser, .called .ocr, .succeeded .ocr]
      (recordingStage .parser [.ocr] true) (by decide +kernel) rfl .ocr List.mem_cons_self
    simp at ocr
  · intro completed
    have ocr := completed [] [.succeeded .parser] (recordingStage .parser [.ocr] true)
      (by decide +kernel) rfl .ocr List.mem_cons_self
    simp at ocr
  · intro completed
    have ocr := completed [.invalid .ocr] [.succeeded .parser]
      (recordingStage .parser [.ocr] true) (by decide +kernel) rfl .ocr List.mem_cons_self
    simp at ocr

end Orders

end LexMind.Pipelines
