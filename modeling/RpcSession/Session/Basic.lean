import RpcSession.Action
import RpcSession.Configuration.Basic
import RpcSession.Identifiers
import RpcSession.Lifecycle
import RpcSession.Program
import RpcSession.Registry

/-!
# State of a session

A session is one peer, one counter of identifiers, one table of receivers and one loop that runs
work at its time. Its history says what happened so far, latest first.
-/

namespace RpcSession

namespace Session

/-! ## Parts of the state -/

/-- What has become of the answer to a call. -/
inductive Reception where
  | unwanted
  | awaited
  | settled (outcome : Except Failure Value)

/-- A request or notification under way or past. -/
structure Exchange where
  identifier : Int
  method : Value
  reception : Reception

inductive Receiver where
  | host (handler : Value → Responder → Program)
  | indexing (files : Option Int) (delay interval : Float) (draw : Program)
      (onFinish : Option Program)

inductive TimerCallback where
  | host (callback : Program)
  /-- One more file is indexed of a total, and the progress with the token says so. -/
  | indexing (token : Int) (files : Int) (onFinish : Option Program)

structure Timer where
  interval : Float
  delay : Float
  callback : TimerCallback
  /-- The scheduled tick that the timer knows of. -/
  pending : Option Nat := none
  stopped : Bool := false
  ticks : Nat := 0

namespace Timer

def isRunning (timer : Timer) : Bool := timer.pending.isSome

end Timer

/-- A tick of a timer that is due at a time. -/
structure ScheduledTick where
  order : Nat
  due : Float
  timer : Nat

/-- An acknowledgement that a request asked for. -/
structure Acknowledgement where
  identifier : Int
  callback : Int → Program

structure Loop where
  now : Float := 0
  ready : List Acknowledgement := []
  scheduled : List ScheduledTick := []
  nextOrder : Nat := 0

/-! ## History -/

structure LogEntry where
  level : Logging.Level
  logger : String
  message : String
  failure : Option Failure := none

/-- What an identifier was taken for. -/
inductive IdentifierUse where
  | request
  | notification
  | progress
  | session
  | host
  deriving DecidableEq, Repr

inductive Event where
  | numbered (use : IdentifierUse) (identifier : Int)
  /-- A request or notification came in, to a session that was live or not. -/
  | arrived (method : Value) (answerable live : Bool)
  /-- A progress was asked for, of a session that was live or not. -/
  | progressAsked (percentage : Value) (live : Bool)
  | begun (token : Int) (title : Value)
  /-- A launcher came back with an identifier for the session, or with null. -/
  | launcherReturned (session : Value)
  | started (session : Value)
  | terminated
  | sent (progress : Progress)
  | called (subscription : Int) (method : String) (params : Value) (responder : Responder)
  | returned (subscription : Int) (responder : Responder) (outcome : Except Failure Value)
  /-- Someone called the callback of a responder, or a receiver returned an answer. -/
  | answered (responder : Responder) (answer : Answer)
  | concluded (identifier : Int) (outcome : Except Failure Value)
  | registered (subscription : Int) (method : String) (receiver : Receiver)
  /-- A subscription that there was has been removed. -/
  | unregistered (subscription : Int)
  /-- A request came back that wants to be acknowledged. -/
  | acknowledgementDue (identifier : Int)
  | acknowledged (identifier : Int)
  | ticked (timer : Nat)
  /-- The callback of a tick came back, to a timer that was running again or not. -/
  | tickReturned (timer : Nat) (running : Bool) (outcome : Except Failure Unit)
  | timerStopped (timer : Nat)
  | indexed (token : Int)
  | logged (entry : LogEntry)
  | loopFailed (failure : Failure)
  | noted (note : Note)

end Session

structure Session where
  configuration : Configuration := {}
  /-- What the peer's side does with a message. -/
  outbound : Value → Program := fun _ => .done .null
  /-- Chooses the identifier of the session; without one it is drawn from the counter. -/
  launcher : Option Program := none
  identifiers : Identifiers := {}
  lifecycle : Lifecycle := {}
  registry : Registry Session.Receiver := {}
  progresses : List Progress := []
  exchanges : List Session.Exchange := []
  timers : List Session.Timer := []
  /-- What the host does with the answers to the dispatches that it began itself. -/
  responders : List (Answer → Program) := []
  loop : Session.Loop := {}
  names : List (String × Reference) := []
  cells : List (String × Value) := []
  queues : List (String × List Program) := []
  history : List Session.Event := []
  deriving Inhabited

/-- What runs a program as a callback. -/
abbrev Invoke := Program → Action Session Value

namespace Session

/-! ## Views -/

def isTerminated (session : Session) : Bool := session.lifecycle.stopped

def progress? (session : Session) (token : Int) : Option Progress :=
  session.progresses.find? (·.token == token)

def exchange? (session : Session) (identifier : Int) : Option Exchange :=
  session.exchanges.find? (·.identifier == identifier)

/-- The first reference under a name that is of the wanted kind. -/
def reference? {α : Type} (session : Session) (name : String) (wanted : Reference → Option α) :
    Option α :=
  session.names.findSome? fun (other, reference) =>
    if other = name then wanted reference else none

def sentProgress (session : Session) : List Progress :=
  session.history.reverse.filterMap fun
    | .sent progress => some progress
    | _ => none

/-! ## Changes -/

def record (event : Event) : Action Session Unit :=
  Action.modify fun session => { session with history := event :: session.history }

def log (level : Logging.Level) (logger message : String) (failure : Option Failure := none) :
    Action Session Unit :=
  record (.logged ⟨level, "notify_ls." ++ logger, message, failure⟩)

def takeIdentifier (use : IdentifierUse) : Action Session Int := do
  let (identifier, identifiers) := (← Action.get).identifiers.take
  Action.modify fun session => { session with identifiers }
  record (.numbered use identifier)
  return identifier

def setProgress (progress : Progress) : Action Session Unit :=
  Action.modify fun session =>
    { session with
      progresses := session.progresses.map fun other =>
        if other.token == progress.token then progress else other }

def bindName (name : String) (reference : Reference) : Action Session Unit :=
  Action.modify fun session => { session with names := (name, reference) :: session.names }

def terminate : Action Session Unit := do
  let session ← Action.get
  if session.lifecycle.stopped then pure ()
  else
    Action.modify fun session => { session with lifecycle := session.lifecycle.terminate }
    record .terminated
    log .info "lifecycle" ("Session " ++ session.lifecycle.session.display ++ " terminated")

end Session

end RpcSession
