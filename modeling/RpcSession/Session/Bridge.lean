import RpcSession.Session.Dispatch

/-!
# Messages of the peer

A message of the peer that is a request is dispatched and answered by a response with its
identifier, whatever goes wrong inside. A notification is dispatched and gets no response; any
other message is ignored.
-/

namespace RpcSession.Session

private def logReceived (level : Logging.Level) (message : String) : Action Session Unit :=
  log level "server" message

/-- The parameters of a message; those that are no object count as none. -/
def paramsOf (message : Value) : Value :=
  match message.member? "params" with
  | some (.object members) => .object members
  | _ => .null

def resultOf (invoke : Invoke) (method params : Value) : Action Session Value := do
  let report ← request invoke method params
  Action.ofExcept report.outcome

def respondToRequest (invoke : Invoke) (identifier method params : Value) :
    Action Session Value :=
  Action.recover (Message.resultResponse identifier <$> resultOf invoke method params)
    fun failure => do
      match failure with
      | .peer _ => pure ()
      | _ =>
          logReceived .warning
            ("Request " ++ method.display ++ " failed: " ++ failure.message)
      return Message.ofFailure identifier failure

def takeNotification (invoke : Invoke) (method params : Value) : Action Session Unit :=
  Action.recover (notify invoke method params) fun failure => do
    let what := match failure with
      | .peer _ => "Dropped notification " ++ method.display ++ ": "
      | _ => "Notification " ++ method.display ++ " failed: "
    logReceived .warning (what ++ failure.message)

/-- Takes in a message of the peer and gives the response, null if there is none. -/
def handleMessage (invoke : Invoke) (message : Value) : Action Session Value := do
  logReceived .debug ("Received message: " ++ message.display)
  if message.members?.isNone then Action.fail (.shapelessMessage message)
  else
    let part (name : String) : Value := (message.member? name).getD .null
    let params := paramsOf message
    if ← Action.ofExcept (Message.isRequest message) then
      respondToRequest invoke (part "id") (part "method") params
    else if ← Action.ofExcept (Message.isNotification message) then
      takeNotification invoke (part "method") params
      return .null
    else
      logReceived .debug ("Ignoring unknown payload: " ++ message.display)
      return .null

end RpcSession.Session
