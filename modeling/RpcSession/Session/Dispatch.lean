import RpcSession.Session.Indexing

/-!
# Dispatch

A request or notification takes an identifier and goes to the receivers of its method, all of
them, in the order of their registration. A request's first answer is its outcome; later answers
are ignored. The methods `initialize` and `exit` are answered by the session itself, and a method
that nobody answers is ignored or, in strict sessions, refused.
-/

namespace RpcSession.Session

/-! ## Answers -/

/-- The outcome that an answer gives a request. The end of a producer is no outcome. -/
def Answer.outcome (answer : Answer) : Except Failure (Except Failure Value) :=
  match answer.complaint with
  | none => .ok (.ok answer.result)
  | some (.failure (.host .stop _)) => .error .stopAsOutcome
  | some (.failure failure) => .ok (.error failure)
  | some (.value value) =>
      .ok (.error (.peer
        { code := PeerError.internalCode, message := .string value.display }))

def settle (identifier : Int) (outcome : Except Failure Value) : Action Session Unit :=
  Action.modify fun session =>
    { session with
      exchanges := session.exchanges.map fun exchange =>
        if exchange.identifier == identifier then { exchange with reception := .settled outcome }
        else exchange }

/-- Gives an answer to whoever waits for it, if anyone does. -/
def deliver (invoke : Invoke) (responder : Responder) (answer : Answer) :
    Action Session Unit := do
  match responder with
  | .host index =>
      match (← Action.get).responders[index]? with
      | none => pure ()
      | some callback => do let _ ← invoke (callback answer)
  | .exchange identifier =>
      match (← Action.get).exchange? identifier with
      | none => pure ()
      | some exchange =>
          match exchange.reception with
          | .unwanted =>
              log .debug "dispatcher"
                ("Dropping answer to notification " ++ exchange.method.display)
          | .settled _ =>
              log .debug "dispatcher" ("Ignoring extra answer to " ++ exchange.method.display)
          | .awaited => settle identifier (← Action.ofExcept (Answer.outcome answer))

def respond (invoke : Invoke) (responder : Responder) (answer : Answer) :
    Action Session Unit := do
  record (.answered responder answer)
  deliver invoke responder answer

/-! ## Fan-out -/

def runReceiver (invoke : Invoke) (receiver : Receiver) (params : Value)
    (responder : Responder) : Action Session Value :=
  match receiver with
  | .host handler => invoke (handler params responder)
  | .indexing files delay interval draw onFinish => do
      receiveIndexing invoke files delay interval draw onFinish
      return .null

/-- Runs a receiver that was called; what it returns is an answer unless it is null. -/
def finishReceiver (invoke : Invoke) (params : Value) (responder : Responder)
    (subscription : Int) (receiver : Receiver) : Action Session Unit := do
  let outcome ← Action.attempt (runReceiver invoke receiver params responder)
  record (.returned subscription responder outcome)
  let result ← Action.ofExcept outcome
  if !result.isNull then respond invoke responder { result }

def callReceiver (invoke : Invoke) (method : String) (params : Value) (responder : Responder)
    (subscription : Int) (receiver : Receiver) : Action Session Unit := do
  record (.called subscription method params responder)
  finishReceiver invoke params responder subscription receiver

/-- Calls the given receivers one after the other, whatever fails, and gives the first failure. -/
def fanOut (invoke : Invoke) (method : String) (params : Value) (responder : Responder) :
    List (Int × Receiver) → Action Session (Option Failure)
  | [] => pure none
  | (subscription, receiver) :: receivers => do
      let call := callReceiver invoke method params responder subscription receiver
      match ← Action.attempt call with
      | .ok () => fanOut invoke method params responder receivers
      | .error failure =>
          if failure.isOrdinary then
            log .error "receivers"
              ("Receiver " ++ toString subscription ++ " for " ++ method ++ " failed") failure
            let _ ← fanOut invoke method params responder receivers
            return some failure
          else Action.fail failure

/-- Calls every receiver that a method has at this moment and gives their number; the first
failure is raised when all have run. -/
def dispatch (invoke : Invoke) (method : String) (params : Value) (responder : Responder) :
    Action Session Nat := do
  match (← Action.get).registry.receivers method with
  | [] =>
      log .debug "receivers" ("No receivers registered for " ++ method)
      return 0
  | receivers =>
      match ← fanOut invoke method params responder receivers with
      | some failure => Action.fail failure
      | none => return receivers.length

/-! ## Requests and notifications -/

def openExchange (method : Value) (answerable : Bool) : Action Session Int := do
  let identifier ← takeIdentifier (if answerable then .request else .notification)
  let exchange : Exchange :=
    { identifier, method, reception := if answerable then .awaited else .unwanted }
  Action.modify fun session => { session with exchanges := exchange :: session.exchanges }
  return identifier

/-- What a method that nobody answers comes to. -/
def ignoreMethod (method : Value) : Action Session Unit := do
  if (← Action.get).configuration.strictMethods then
    Action.fail (.peer (.unknownMethod method))
  else
    log .debug "dispatcher" ("Ignoring unhandled method " ++ method.display)

/-- Hands a call to whoever answers its method, and says whether anyone does. The failure of a
receiver stands in for an answer to a call that wants one. -/
def route (invoke : Invoke) (method params : Value) (answerable : Bool) (identifier : Int) :
    Action Session Bool := do
  let responder := Responder.exchange identifier
  match method with
  | .array _ | .object _ => Action.fail (.compoundMethod method)
  | .string "initialize" =>
      let capabilities := (← Action.get).configuration.capabilities
      respond invoke responder { result := .object [("capabilities", capabilities)] }
      return true
  | .string "exit" =>
      terminate
      respond invoke responder {}
      return true
  | .string name =>
      if (← Action.get).registry.hasReceivers name then
        let params := if params.isNull then .object [] else params
        Action.recover (do let _ ← dispatch invoke name params responder) fun failure =>
          if answerable then deliver invoke responder { complaint := some (.failure failure) }
          else Action.fail failure
        return true
      else
        ignoreMethod method
        return false
  | _ =>
      ignoreMethod method
      return false

/-- Takes in a request or notification: its identifier, and whether anyone handled it. -/
def accept (invoke : Invoke) (method params : Value) (answerable : Bool) :
    Action Session (Int × Bool) := do
  let terminated := (← Action.get).isTerminated
  record (.arrived method answerable !terminated)
  if terminated then
    Action.fail (.peer (.sessionTerminated
      (.string ("Session terminated; " ++ method.display ++ " rejected"))))
  else
    let identifier ← openExchange method answerable
    log .debug "dispatcher" ("Dispatching " ++ method.display ++ " as " ++ toString identifier)
    let handled ← route invoke method params answerable identifier
    return (identifier, handled)

def outcome? (session : Session) (identifier : Int) : Option (Except Failure Value) :=
  match session.exchange? identifier with
  | some { reception := .settled outcome, .. } => some outcome
  | _ => none

def conclude (identifier : Int) : Action Session (Except Failure Value) := do
  match (← Action.get).outcome? identifier with
  | some outcome => return outcome
  | none =>
      settle identifier (.ok .null)
      return .ok .null

/-- What is left of a request when its way is over. -/
def finishRequest (identifier : Int) (onAcknowledge : Option (Int → Program)) (handled : Bool) :
    Action Session RequestReport := do
  let outcome ← conclude identifier
  record (.concluded identifier outcome)
  if let some callback := onAcknowledge then
    record (.acknowledgementDue identifier)
    Action.modify fun session =>
      { session with loop := { session.loop with
          ready := session.loop.ready ++ [⟨identifier, callback⟩] } }
  return { identifier, handled, outcome }

def request (invoke : Invoke) (method params : Value)
    (onAcknowledge : Option (Int → Program) := none) : Action Session RequestReport := do
  let (identifier, handled) ← accept invoke method params true
  finishRequest identifier onAcknowledge handled

def notify (invoke : Invoke) (method params : Value) : Action Session Unit := do
  let _ ← accept invoke method params false

end RpcSession.Session
