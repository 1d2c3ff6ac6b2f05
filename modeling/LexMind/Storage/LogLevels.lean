import LexMind.Storage.Manager

set_option autoImplicit false

/- The manager with its log calls, over any provider: what the level of the logger decides. -/
namespace LexMind.Storage

open Lib

section Model

variable {σ : Type}

/-- What the manager calls of its provider. -/
structure StorageProvider (σ : Type) where
  writeBytes : List Char → Bytes → Py σ Unit
  readBytes : List Char → Py σ Bytes
  delete : List Char → Py σ Unit
  copy : List Char → List Char → Py σ Unit
  move : List Char → List Char → Py σ Unit

namespace Logger

/-- The keyword arguments `Logger._log` takes. -/
def known : List String := ["exc_info", "stack_info", "stacklevel", "extra"]

/-- A log call: nothing is looked at unless its level is enabled. -/
def log (effective level : Int) (keywords : List String) : Except PyExc Unit :=
  if level < effective then .ok ()
  else
    match keywords.find? (fun keyword => keyword ∉ known) with
    | none => .ok ()
    | some keyword =>
        .error (.typeError ("Logger._log() got an unexpected keyword argument " ++ pyRepr keyword))

def info (effective : Int) : List String → Except PyExc Unit := log effective 20

def debug (effective : Int) : List String → Except PyExc Unit := log effective 10

end Logger

/-- What a call answers. -/
inductive ManagerAnswer
  | manager
  | nothing
  | data (bytes : Bytes)
deriving DecidableEq, Repr

namespace LoggedManager

variable (provider : StorageProvider σ) (effective : Int)

def init : Py σ ManagerAnswer := do
  check (Logger.info effective ["backend"])
  return .manager

def save (uri : String) (data : Bytes) : Py σ ManagerAnswer := do
  let path ← check (extractPath uri)
  check (Logger.debug effective ["uri", "size"])
  provider.writeBytes path data
  return .nothing

def load (uri : String) : Py σ ManagerAnswer := do
  let path ← check (extractPath uri)
  check (Logger.debug effective ["uri"])
  return .data (← provider.readBytes path)

def delete (uri : String) : Py σ ManagerAnswer := do
  let path ← check (extractPath uri)
  check (Logger.debug effective ["uri"])
  provider.delete path
  return .nothing

def copy (srcUri dstUri : String) : Py σ ManagerAnswer := do
  let srcPath ← check (extractPath srcUri)
  let dstPath ← check (extractPath dstUri)
  check (Logger.debug effective ["src", "dst"])
  provider.copy srcPath dstPath
  return .nothing

def move (srcUri dstUri : String) : Py σ ManagerAnswer := do
  let srcPath ← check (extractPath srcUri)
  let dstPath ← check (extractPath dstUri)
  check (Logger.debug effective ["src", "dst"])
  provider.move srcPath dstPath
  return .nothing

end LoggedManager

/-- A client's variable for its manager, bound or still `None`, and what the provider stores. -/
structure Client (σ : Type) where
  manager : Bool
  stored : σ

inductive ManagerCall
  | init
  | save (uri : String) (data : Bytes)
  | load (uri : String)
  | delete (uri : String)
  | copy (srcUri dstUri : String)
  | move (srcUri dstUri : String)

def onStored (program : Py σ ManagerAnswer) : Py (Client σ) ManagerAnswer :=
  onPart Client.stored (fun client stored => { client with stored := stored }) program

/-- A method call on the client's variable. -/
def method (attrName : String) (program : Py σ ManagerAnswer) : Py (Client σ) ManagerAnswer := do
  if (← get).manager then
    onStored program
  else
    throw (.attributeError "NoneType" attrName)

def ManagerCall.program (provider : StorageProvider σ) (effective : Int) :
    ManagerCall → Py (Client σ) ManagerAnswer
  | .init => do
      let made ← onStored (LoggedManager.init effective)
      modify (fun client => { client with manager := true })
      return made
  | .save uri data => method "save" (LoggedManager.save provider effective uri data)
  | .load uri => method "load" (LoggedManager.load provider effective uri)
  | .delete uri => method "delete" (LoggedManager.delete provider effective uri)
  | .copy srcUri dstUri => method "copy" (LoggedManager.copy provider effective srcUri dstUri)
  | .move srcUri dstUri => method "move" (LoggedManager.move provider effective srcUri dstUri)

def clientStep (provider : StorageProvider σ) (effective : Int) (client : Client σ)
    (managerCall : ManagerCall) : Except PyExc ManagerAnswer × Client σ :=
  call (managerCall.program provider effective) client

end Model

section Levels

variable {σ : Type} {provider : StorageProvider σ} {effective : Int}

/-- What the call asks of the provider once its URIs have been read. -/
def ManagerCall.asked (provider : StorageProvider σ) : ManagerCall → Except PyExc (Py σ ManagerAnswer)
  | .init => .ok (pure .manager)
  | .save uri data => do
      let path ← extractPath uri
      return provider.writeBytes path data >>= fun _ => pure .nothing
  | .load uri => do
      let path ← extractPath uri
      return .data <$> provider.readBytes path
  | .delete uri => do
      let path ← extractPath uri
      return provider.delete path >>= fun _ => pure .nothing
  | .copy srcUri dstUri => do
      let srcPath ← extractPath srcUri
      let dstPath ← extractPath dstUri
      return provider.copy srcPath dstPath >>= fun _ => pure .nothing
  | .move srcUri dstUri => do
      let srcPath ← extractPath srcUri
      let dstPath ← extractPath dstUri
      return provider.move srcPath dstPath >>= fun _ => pure .nothing

/-- The level of the call's log message. -/
def ManagerCall.level : ManagerCall → Int
  | .init => 20
  | _ => 10

/-- What the logger raises for it. -/
def ManagerCall.logged : ManagerCall → PyExc
  | .init => .typeError "Logger._log() got an unexpected keyword argument 'backend'"
  | .save _ _ | .load _ | .delete _ =>
      .typeError "Logger._log() got an unexpected keyword argument 'uri'"
  | .copy _ _ | .move _ _ => .typeError "Logger._log() got an unexpected keyword argument 'src'"

/-- The call can be made: it constructs the manager, or there is one. -/
def ManagerCall.Bound (client : Client σ) (managerCall : ManagerCall) : Prop :=
  managerCall = .init ∨ client.manager = true

theorem call_onStored (program : Py σ ManagerAnswer) (client : Client σ) :
    call (onStored program) client =
      ((call program client.stored).1, { client with stored := (call program client.stored).2 }) :=
  call_onPart _ _ _ _

theorem call_method {client : Client σ} (bound : client.manager = true) (attrName : String)
    (program : Py σ ManagerAnswer) :
    call (method attrName program) client =
      ((call program client.stored).1, { client with stored := (call program client.stored).2 }) := by
  simp [method, bound, call_onStored]

/-- An enabled logger names the first keyword argument that it does not know. -/
theorem log_unknown (level : Int) (keyword : String) (keywords : List String)
    (unknown : keyword ∉ Logger.known) :
    Logger.log effective level (keyword :: keywords) =
      if level < effective then .ok ()
      else .error (.typeError ("Logger._log() got an unexpected keyword argument " ++
        pyRepr keyword)) := by
  unfold Logger.log
  rw [List.find?_cons, decide_eq_true unknown]

/-- A method that reads its URIs, logs and calls the provider. -/
theorem call_logged {client : Client σ} {managerCall : ManagerCall} {attrName keyword : String}
    {keywords : List String} {program : Py σ ManagerAnswer} (bound : client.manager = true)
    (made : managerCall.program provider effective = method attrName program)
    (reads : program = check (managerCall.asked provider) >>= fun next =>
      check (Logger.debug effective (keyword :: keywords)) >>= fun _ => next)
    (level : managerCall.level = 10) (unknown : keyword ∉ Logger.known)
    (logged : managerCall.logged = .typeError
      ("Logger._log() got an unexpected keyword argument " ++ pyRepr keyword)) :
    clientStep provider effective client managerCall =
      match managerCall.asked provider with
      | .error exc => (.error exc, client)
      | .ok next =>
          if managerCall.level < effective then
            ((call next client.stored).1, ⟨true, (call next client.stored).2⟩)
          else (.error managerCall.logged, client) := by
  have same : (⟨true, client.stored⟩ : Client σ) = client := by
    rw [← bound]
  rw [clientStep, made, call_method bound, reads, call_bind, call_check, level, logged, bound]
  cases managerCall.asked provider with
  | error exc => exact congrArg _ same
  | ok next =>
      rw [andThen_ok, call_bind, call_check, Logger.debug, log_unknown 10 keyword keywords unknown]
      split
      · rfl
      · exact congrArg _ same

/-- A message after one URI has been read. -/
theorem reads_one (uri : String) (log : Py σ Unit) (next : List Char → Py σ ManagerAnswer) :
    (do let path ← check (extractPath uri); log; next path) =
      check (do let path ← extractPath uri; return next path) >>= fun program =>
        log >>= fun _ => program := by
  cases extractPath uri with
  | error exc => rfl
  | ok path => rfl

/-- A message after both URIs have been read. -/
theorem reads_two (srcUri dstUri : String) (log : Py σ Unit)
    (next : List Char → List Char → Py σ ManagerAnswer) :
    (do
      let srcPath ← check (extractPath srcUri)
      let dstPath ← check (extractPath dstUri)
      log
      next srcPath dstPath) =
      check (do
        let srcPath ← extractPath srcUri
        let dstPath ← extractPath dstUri
        return next srcPath dstPath) >>= fun program => log >>= fun _ => program := by
  cases extractPath srcUri with
  | error exc => rfl
  | ok srcPath => exact reads_one dstUri log (next srcPath)

/-- The log call stands between the reading of the URIs and the provider. -/
theorem clientStep_bound {client : Client σ} {managerCall : ManagerCall}
    (bound : managerCall.Bound client) :
    clientStep provider effective client managerCall =
      match managerCall.asked provider with
      | .error exc => (.error exc, client)
      | .ok next =>
          if managerCall.level < effective then
            ((call next client.stored).1, ⟨true, (call next client.stored).2⟩)
          else (.error managerCall.logged, client) := by
  cases managerCall with
  | init =>
      have level : ManagerCall.init.level = 20 := rfl
      have unknown : "backend" ∉ Logger.known := by decide
      rw [level]
      simp only [clientStep, ManagerCall.program, call_bind, call_onStored, LoggedManager.init,
        call_check, ManagerCall.asked, Logger.info, log_unknown 20 "backend" [] unknown]
      by_cases quiet : 20 < effective
      · simp only [if_pos quiet, andThen_ok, call_pure, call_bind, call_modify]
      · simp only [if_neg quiet, andThen_error]
        rfl
  | save uri data =>
      exact call_logged (bound.resolve_left (by simp)) rfl (reads_one uri _ _) rfl (by decide) rfl
  | load uri =>
      exact call_logged (bound.resolve_left (by simp)) rfl (reads_one uri _ _) rfl (by decide) rfl
  | delete uri =>
      exact call_logged (bound.resolve_left (by simp)) rfl (reads_one uri _ _) rfl (by decide) rfl
  | copy srcUri dstUri =>
      exact call_logged (bound.resolve_left (by simp)) rfl (reads_two srcUri dstUri _ _) rfl
        (by decide) rfl
  | move srcUri dstUri =>
      exact call_logged (bound.resolve_left (by simp)) rfl (reads_two srcUri dstUri _ _) rfl
        (by decide) rfl

theorem clientStep_unbound {client : Client σ} {managerCall : ManagerCall}
    (unbound : ¬ managerCall.Bound client) (effective' : Int) :
    clientStep provider effective client managerCall =
      clientStep provider effective' client managerCall := by
  obtain ⟨other, none⟩ := not_or.mp unbound
  have raises (attrName : String) (program : Py σ ManagerAnswer) :
      call (method attrName program) client =
        (.error (.attributeError "NoneType" attrName), client) := by
    simp [method, eq_false_of_ne_true none]
  cases managerCall with
  | init => exact absurd rfl other
  | _ => exact (raises _ _).trans (raises _ _).symm

/-- A call does the same at both levels: both are past its log message, or neither; or it cannot be
made; or a URI is refused before the message; or the provider raises just what the logger does. -/
def Alike (provider : StorageProvider σ) (effective effective' : Int) (client : Client σ)
    (managerCall : ManagerCall) : Prop :=
  (managerCall.level < effective ↔ managerCall.level < effective') ∨
  ¬ managerCall.Bound client ∨
  (∃ exc, managerCall.asked provider = .error exc) ∨
  ∃ next, managerCall.asked provider = .ok next ∧
    call next client.stored = (.error managerCall.logged, client.stored)

/-- Where one level is past the message and the other is not, the provider has to raise it. -/
theorem raised_iff {client : Client σ} {managerCall : ManagerCall} {next : Py σ ManagerAnswer}
    (bound : managerCall.Bound client) (asked : managerCall.asked provider = .ok next) :
    ((call next client.stored).1, (⟨true, (call next client.stored).2⟩ : Client σ)) =
        (.error managerCall.logged, client) ↔
      call next client.stored = (.error managerCall.logged, client.stored) := by
  obtain ⟨manager, stored⟩ := client
  rcases bound with rfl | made
  · cases asked
    simp
  · have true : manager = true := made
    rw [true, Prod.mk.injEq, Prod.ext_iff, Client.mk.injEq]
    simp

theorem clientStep_alike_iff (effective' : Int) (client : Client σ) (managerCall : ManagerCall) :
    clientStep provider effective client managerCall =
        clientStep provider effective' client managerCall ↔
      Alike provider effective effective' client managerCall := by
  unfold Alike
  by_cases bound : managerCall.Bound client
  · rw [clientStep_bound bound, clientStep_bound bound]
    cases asked : managerCall.asked provider with
    | error exc => simp
    | ok next =>
        have raised := raised_iff bound asked
        by_cases quiet : managerCall.level < effective
        · by_cases quiet' : managerCall.level < effective'
          · simp [quiet, quiet']
          · simpa [quiet, quiet', bound] using raised
        · by_cases quiet' : managerCall.level < effective'
          · simpa [quiet, quiet', bound, eq_comm] using raised
          · simp [quiet, quiet']
  · exact iff_of_true (clientStep_unbound bound effective') (.inr (.inl bound))

/-- In any run, what the calls answer and what the provider stores is the same at two levels exactly
where each call does the same at both. -/
theorem log_levels_alike_iff (provider : StorageProvider σ) (effective effective' : Int)
    (client : Client σ) (calls : List ManagerCall) :
    (∀ front, front <+: calls →
        run (clientStep provider effective) client front =
          run (clientStep provider effective') client front) ↔
      Along (clientStep provider effective) (Alike provider effective effective') client calls := by
  rw [run_alike_iff]
  exact along_congr (clientStep_alike_iff effective') client calls

end Levels

section Filesystem

variable {effective : Int}

/-- The provider of the file system. -/
def FilesystemStorageProvider.provides (provider : FilesystemStorageProvider) (endless : Endless) :
    StorageProvider HostTree where
  writeBytes := provider.writeBytes
  readBytes := provider.readBytes
  delete := provider.delete
  copy src dst := provider.copy src dst endless
  move := provider.move

/-- The call of the manager without its log messages. -/
def ManagerCall.plain (endless : Endless) : ManagerCall → Option StorageCall
  | .init | .load _ => none
  | .save uri data => some (.save uri data)
  | .delete uri => some (.delete uri)
  | .copy srcUri dstUri => some (.copy srcUri dstUri endless)
  | .move srcUri dstUri => some (.move srcUri dstUri)

theorem clientStep_past {σ : Type} {provider : StorageProvider σ} {stored : σ}
    {managerCall : ManagerCall} (quiet : managerCall.level < effective) :
    clientStep provider effective ⟨true, stored⟩ managerCall =
      ((call (check (managerCall.asked provider) >>= id) stored).1,
        ⟨true, (call (check (managerCall.asked provider) >>= id) stored).2⟩) := by
  rw [clientStep_bound (.inr rfl), call_bind, call_check]
  cases managerCall.asked provider with
  | error exc => rfl
  | ok next =>
      rw [andThen_ok]
      exact if_pos quiet

/-- Where the messages are disabled, the manager does what it does without them. -/
theorem clientStep_quiet (manager : StorageManager) (endless : Endless) (quiet : 10 < effective)
    (tree : HostTree) {managerCall : ManagerCall} {storageCall : StorageCall}
    (plain : managerCall.plain endless = some storageCall) :
    clientStep (manager.provider.provides endless) effective ⟨true, tree⟩ managerCall =
      ((storageStep manager tree storageCall).1.map (fun _ => .nothing),
        ⟨true, (storageStep manager tree storageCall).2⟩) := by
  have answered (program : Py HostTree Unit) (tree : HostTree) :
      ((call (program >>= fun _ => pure ManagerAnswer.nothing) tree).1,
          (⟨true, (call (program >>= fun _ => pure ManagerAnswer.nothing) tree).2⟩ : Client HostTree)) =
        ((call program tree).1.map (fun _ => .nothing), ⟨true, (call program tree).2⟩) := by
    rw [call_bind, andThen_pure]
  cases managerCall with
  | init => cases plain
  | load uri => cases plain
  | save uri data =>
      cases plain
      rw [clientStep_past quiet, storageStep, StorageCall.program, StorageManager.save,
        ManagerCall.asked]
      cases extractPath uri with
      | error exc => rfl
      | ok path => exact answered _ tree
  | delete uri =>
      cases plain
      rw [clientStep_past quiet, storageStep, StorageCall.program, StorageManager.delete,
        ManagerCall.asked]
      cases extractPath uri with
      | error exc => rfl
      | ok path => exact answered _ tree
  | copy srcUri dstUri =>
      cases plain
      rw [clientStep_past quiet, storageStep, StorageCall.program, StorageManager.copy,
        ManagerCall.asked]
      cases extractPath srcUri with
      | error exc => rfl
      | ok srcPath =>
          cases extractPath dstUri with
          | error exc => rfl
          | ok dstPath => exact answered _ tree
  | move srcUri dstUri =>
      cases plain
      rw [clientStep_past quiet, storageStep, StorageCall.program, StorageManager.move,
        ManagerCall.asked]
      cases extractPath srcUri with
      | error exc => rfl
      | ok srcPath =>
          cases extractPath dstUri with
          | error exc => rfl
          | ok dstPath => exact answered _ tree

/-- With the messages enabled no manager is made, and one that was made before stores nothing. -/
theorem enabled_messages_raise :
    ¬ (∀ front, front <+: [ManagerCall.init] →
        run (clientStep (FilesystemStorageProvider.provides ⟨[]⟩ ⟨.empty, .osError .nameTooLong ""⟩) 20)
            ⟨false, .empty⟩ front =
          run (clientStep (FilesystemStorageProvider.provides ⟨[]⟩ ⟨.empty, .osError .nameTooLong ""⟩) 30)
            ⟨false, .empty⟩ front) ∧
      ¬ (∀ front, front <+: [ManagerCall.save "storage://w/a" [1]] →
        run (clientStep (FilesystemStorageProvider.provides ⟨[]⟩ ⟨.empty, .osError .nameTooLong ""⟩) 10)
            ⟨true, .empty⟩ front =
          run (clientStep (FilesystemStorageProvider.provides ⟨[]⟩ ⟨.empty, .osError .nameTooLong ""⟩) 30)
            ⟨true, .empty⟩ front) := by
  constructor
  · intro alike
    cases congrArg Prod.fst (alike _ (List.prefix_refl _))
  · intro alike
    cases congrArg Prod.fst (alike _ (List.prefix_refl _))

end Filesystem

end LexMind.Storage
