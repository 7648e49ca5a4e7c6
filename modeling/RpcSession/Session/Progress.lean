import RpcSession.Session.Basic

/-!
# Progress in a session

Beginning, updating and finishing a progress tells the peer of it. On a terminated session no
progress begins, and changes of those begun before are kept to oneself.
-/

namespace RpcSession.Session

def emit (invoke : Invoke) (progress : Progress) : Action Session Unit := do
  let session ← Action.get
  let what := toString progress.token ++ " " ++ progress.stage.name
  if session.isTerminated then
    log .warning "progress" ("Dropping progress " ++ what ++ " after session end")
  else
    log .debug "progress" ("Progress " ++ what)
    record (.sent progress)
    let _ ← invoke (session.outbound progress.notification)

/-- Refuses a change of a progress that has ended, or only warns of it. -/
def reject (progress : Progress) (operation : String) : Action Session Unit := do
  if (← Action.get).configuration.strictProgress then
    Action.fail (.peer (.invalidMutation (.int progress.token) operation))
  else
    log .warning "progress"
      ("Ignoring " ++ operation ++ " on finished progress " ++ toString progress.token)

def begin (invoke : Invoke) (title message percentage : Value) : Action Session Int := do
  let terminated := (← Action.get).isTerminated
  record (.progressAsked percentage !terminated)
  let percentage ← Action.ofExcept (Percentage.ofValue? percentage)
  if terminated then
    Action.fail (.peer (.sessionTerminated
      (.string ("Session terminated; progress " ++ title.literal ++ " rejected"))))
  else
    let token ← takeIdentifier .progress
    let progress : Progress := { token, title, message, percentage }
    Action.modify fun session => { session with progresses := progress :: session.progresses }
    record (.begun token title)
    emit invoke progress
    return token

def update (invoke : Invoke) (progress : Progress) (fields : List (String × Value)) :
    Action Session Unit := do
  if progress.isEnded then reject progress "update"
  else
    let ignored := Progress.readOnlyFields fields
    if !ignored.isEmpty then
      log .debug "progress" ("Ignoring read-only progress fields " ++
        (Value.array (ignored.map .string)).literal ++ " for " ++ toString progress.token)
    if fields.any (Progress.isMutable ·.1) then
      let updated ← Action.ofExcept (progress.update fields)
      setProgress updated
      emit invoke updated

def finish (invoke : Invoke) (progress : Progress) (message : Value) : Action Session Unit := do
  if progress.isEnded then reject progress "finish"
  else
    let finished := progress.finish message
    setProgress finished
    emit invoke finished

end RpcSession.Session
