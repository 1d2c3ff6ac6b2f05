import LexMind.Storage.Filesystem

set_option autoImplicit false

/- What fails below a program that is itself carried out as written. -/
namespace LexMind

open Lib Storage

variable {σ α : Type}

/-- A write that the host breaks off: what it raises, and the files it leaves. -/
structure Breakdown where
  raised : PyExc
  left : HostTree

/-- The host carries the program out, or breaks it off. -/
def onHost (breakdown : Option Breakdown) (program : Py HostTree α) : Py HostTree α :=
  match breakdown with
  | none => program
  | some broken => do
      set broken.left
      throw broken.raised

/-- The database carries the session out, or fails, and the session is rolled back. -/
def inSession (failure : Option PyExc) (session : Py σ α) : Py σ α :=
  match failure with
  | none => session
  | some exc => throw exc

@[simp] theorem onHost_none (program : Py HostTree α) : onHost none program = program := rfl

@[simp] theorem call_onHost_some (broken : Breakdown) (program : Py HostTree α)
    (tree : HostTree) :
    call (onHost (some broken) program) tree = (.error broken.raised, broken.left) := rfl

@[simp] theorem inSession_none (session : Py σ α) : inSession none session = session := rfl

@[simp] theorem call_inSession_some (exc : PyExc) (session : Py σ α) (state : σ) :
    call (inSession (some exc) session) state = (.error exc, state) := rfl

/-- A session that leaves the state alone does so under a failing database too. -/
theorem call_inSession_reads {failure : Option PyExc} {session : Py σ α} {state : σ}
    (reads : (call session state).2 = state) :
    (call (inSession failure session) state).2 = state := by
  cases failure with
  | none => exact reads
  | some exc => rfl

end LexMind
