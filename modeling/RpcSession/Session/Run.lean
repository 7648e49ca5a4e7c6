import RpcSession.Session.Bridge
import RpcSession.Session.Loop
import RpcSession.Session.Start

/-!
# Running host programs

A program runs on a session by performing its operations. Every callback is run in the same way,
with less fuel, so a program that calls itself without end is cut short.
-/

namespace RpcSession.Session

/-! ## Names -/

def find {α : Type} (name : String) (wanted : Reference → Option α) :
    Action Session α := do
  match (← Action.get).reference? name wanted with
  | some found => return found
  | none => Action.fail (.unknownName name)

def findProgress (name : String) : Action Session Progress := do
  let token ← find name fun
    | .progress token => some token
    | _ => none
  match (← Action.get).progress? token with
  | some progress => return progress
  | none => Action.fail (.unknownName name)

def findTimer (name : String) : Action Session Nat :=
  find name fun
    | .timer index => some index
    | _ => none

def findResponder (name : String) : Action Session Responder :=
  find name fun
    | .responder responder => some responder
    | _ => none

/-- The report of an earlier request, read again. -/
def findRequest (name : String) : Action Session RequestReport := do
  let (identifier, handled) ← find name fun
    | .request identifier handled => some (identifier, handled)
    | _ => none
  match (← Action.get).outcome? identifier with
  | some outcome => return { identifier, handled, outcome }
  | none => Action.fail (.unknownName name)

/-! ## Memory of the host -/

def readCell (cell : String) : Action Session Value := do
  return ((← Action.get).cells.lookup cell).getD .null

def writeCell (cell : String) (value : Value) : Action Session Unit :=
  Action.modify fun session =>
    { session with cells := (cell, value) :: session.cells.filter (·.1 != cell) }

def queue (session : Session) (name : String) : List Program :=
  (session.queues.lookup name).getD []

def setQueue (name : String) (programs : List Program) : Action Session Unit :=
  Action.modify fun session =>
    { session with queues := (name, programs) :: session.queues.filter (·.1 != name) }

def resume (invoke : Invoke) (name : String) (keepLast : Bool) : Action Session Value := do
  match (← Action.get).queue name with
  | [] => return .null
  | program :: rest =>
      if !(keepLast && rest.isEmpty) then setQueue name rest
      invoke program

/-! ## Operations -/

def description (session : Session) : Value :=
  let stage := Value.string session.lifecycle.stage.name
  .object [("name", session.configuration.name), ("state", stage), ("dispatcher", stage)]

def registerReceiver (method : String) (receiver : Receiver) : Action Session Int := do
  let (subscription, registry) := (← Action.get).registry.register method receiver
  Action.modify fun session => { session with registry }
  record (.registered subscription method receiver)
  log .debug "receivers" ("Registered receiver " ++ toString subscription ++ " for " ++ method)
  return subscription

def registerIndexing (options : IndexingOptions Program) : Action Session Int := do
  if options.files.any (· < 1) then Action.fail .noFiles
  else
    let session ← Action.get
    let configuration := session.configuration
    registerReceiver referencesMethod (.indexing options.files
      (options.delay.getD configuration.progressDelay)
      (options.interval.getD configuration.progressInterval)
      (options.draw session.registry.next) options.onFinish)

def unregister (subscription : Int) : Action Session Bool := do
  match (← Action.get).registry.unregister? subscription with
  | none => return false
  | some (method, registry) =>
      Action.modify fun session => { session with registry }
      record (.unregistered subscription)
      log .debug "receivers" ("Removed receiver " ++ toString subscription ++ " for " ++ method)
      return true

/-- Keeps what the host does with answers, and gives the responder that does it. -/
def addResponder (onAnswer : Answer → Program) : Action Session Responder := do
  let index := (← Action.get).responders.length
  Action.modify fun session => { session with responders := session.responders ++ [onAnswer] }
  return .host index

def operate (invoke : Invoke) (fuel : Nat) : Operation Program → Action Session Reply
  | .start => .value <$> start invoke
  | .terminate => do terminate; return .done
  | .isClosing => do return .flag (← Action.get).isTerminated
  | .describe => do return .value (← Action.get).description
  | .nextIdentifier => .number <$> takeIdentifier .host
  | .request method params onAcknowledge name => do
      let report ← request invoke method params onAcknowledge
      if let some name := name then bindName name (.request report.identifier report.handled)
      return .request report
  | .notify method params => do notify invoke method params; return .done
  | .handleMessage message => .value <$> handleMessage invoke message
  | .outcome name => .request <$> findRequest name
  | .register method receiver => .number <$> registerReceiver method (.host receiver)
  | .registerIndexing options => .number <$> registerIndexing options
  | .unregister subscription => .flag <$> unregister subscription
  | .hasReceivers method => do return .flag ((← Action.get).registry.hasReceivers method)
  | .dispatch method params onAnswer => do
      let responder ← addResponder onAnswer
      let count ← dispatch invoke method params responder
      return .number count
  | .respond responder answer => do respond invoke responder answer; return .done
  | .keepResponder name responder => do bindName name (.responder responder); return .done
  | .respondKept name answer => do respond invoke (← findResponder name) answer; return .done
  | .begin name title message percentage => do
      let token ← begin invoke title message percentage
      bindName name (.progress token)
      return .number token
  | .update name fields => do
      let progress ← findProgress name
      if fields.any (·.1 == "self") then Action.fail .ambiguousProgress
      else update invoke progress fields; return .done
  | .finish name message => do finish invoke (← findProgress name) message; return .done
  | .inspect name => .progress <$> findProgress name
  | .createTimer name interval delay callback => do
      let index ← createTimer interval delay (.host callback)
      bindName name (.timer index)
      return .done
  | .startTimer name => do startTimer (← findTimer name); return .flag true
  | .stopTimer name => do stopTimer (← findTimer name); return .done
  | .inspectTimer name => do
      let index ← findTimer name
      match (← Action.get).timer? index with
      | some timer => return .timer timer.isRunning timer.ticks
      | none => Action.fail (.unknownName name)
  | .drain => do drain invoke fuel; return .done
  | .advance seconds => do advance invoke fuel seconds; return .done
  | .note note => do record (.noted note); return .done
  | .log level logger message => do log level logger message; return .done
  | .readCell cell => .value <$> readCell cell
  | .writeCell cell value => do writeCell cell value; return .done
  | .putAside name program => do setQueue name [program]; return .done
  | .resume name keepLast => .value <$> resume invoke name keepLast

/-! ## Programs -/

def run : (fuel : Nat) → Program → Action Session Value
  | 0, _ => Action.exhausted
  | fuel + 1, program =>
      match program with
      | .done value => pure value
      | .fail failure => Action.fail failure
      | .call callee next => do
          let outcome ← Action.attempt (run fuel callee)
          run fuel (next outcome)
      | .perform operation next => do
          let reply ← Action.attempt (operate (run fuel) fuel operation)
          run fuel (next reply)

def perform (fuel : Nat) (operation : Operation Program) : Action Session Reply :=
  operate (run fuel) fuel operation

/-- A session after operations from outside, each with its fuel, whatever they reply. -/
def after (session : Session) : List (Nat × Operation Program) → Session
  | [] => session
  | (fuel, operation) :: operations => (perform fuel operation session).2.after operations

end RpcSession.Session
