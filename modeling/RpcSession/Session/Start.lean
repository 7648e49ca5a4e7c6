import RpcSession.Session.Basic

/-!
# Starting a session

A session is started by its launcher, which gives its identifier. Later starts give the same
identifier and run no launcher, and a launcher that fails or gives none leaves the session as it
was.
-/

namespace RpcSession.Session

private def failureLog (reason : String) : Action Session Unit :=
  log .error "lifecycle" ("Failed to start session: " ++ reason)

def launch (invoke : Invoke) : Action Session Value := do
  match (← Action.get).launcher with
  | none => Value.int <$> takeIdentifier .session
  | some launcher =>
      Action.recover (invoke launcher) fun failure => do
        let reason ← Action.ofExcept failure.text
        failureLog reason
        Action.fail (.peer (.startFailed (.string ("Failed to start session: " ++ reason))
          .null failure.kind))

/-- A launcher came back: the session is started under the identifier that it gave, if any. -/
def finishStart (identifier : Value) : Action Session Value := do
  record (.launcherReturned identifier)
  if identifier.isNull then
    failureLog "launcher returned no id"
    Action.fail (.peer .startFailed)
  else
    Action.modify fun session =>
      { session with lifecycle := session.lifecycle.begin identifier }
    log .info "lifecycle" ("Session " ++ identifier.display ++ " started")
    record (.started identifier)
    return identifier

def start (invoke : Invoke) : Action Session Value := do
  let session ← Action.get
  if session.lifecycle.stopped then
    Action.fail (.peer (.sessionTerminated (.string "Cannot start a terminated session")))
  else if session.lifecycle.started then
    record (.started session.lifecycle.session)
    return session.lifecycle.session
  else
    finishStart (← launch invoke)

end RpcSession.Session
