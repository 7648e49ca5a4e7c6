import RpcSession.Value.Basic

/-!
# Lifecycle of a session

A session is started at most once, under an identifier that its launcher chooses, and is
terminated for good.
-/

namespace RpcSession

structure Lifecycle where
  started : Bool := false
  stopped : Bool := false
  session : Value := .null
  deriving Inhabited

inductive Lifecycle.Stage where
  | uninitialized
  | initialized
  | terminated
  deriving DecidableEq, Repr

namespace Lifecycle

def stage (lifecycle : Lifecycle) : Stage :=
  if lifecycle.stopped then .terminated
  else if lifecycle.started then .initialized
  else .uninitialized

def begin (lifecycle : Lifecycle) (session : Value) : Lifecycle :=
  { lifecycle with started := true, session }

def terminate (lifecycle : Lifecycle) : Lifecycle :=
  { lifecycle with stopped := true }

theorem stage_eq_terminated (lifecycle : Lifecycle) :
    lifecycle.stage = .terminated ↔ lifecycle.stopped = true := by
  rcases lifecycle with ⟨started, stopped, session⟩
  cases started <;> cases stopped <;> simp [stage]

@[simp] theorem stage_terminate (lifecycle : Lifecycle) :
    lifecycle.terminate.stage = .terminated := rfl

@[simp] theorem terminate_terminate (lifecycle : Lifecycle) :
    lifecycle.terminate.terminate = lifecycle.terminate := rfl

namespace Stage

def name : Stage → String
  | uninitialized => "uninitialized"
  | initialized => "initialized"
  | terminated => "terminated"

end Stage

end Lifecycle

end RpcSession
