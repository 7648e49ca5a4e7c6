import RpcSession.Random.Draw
import RpcSession.Session.Run

/-!
# Demonstration

One session from start to end: it is started and initialized, is asked for references, which the
indexing receiver answers, and exits when all files are indexed.
-/

namespace RpcSession.Demonstration

open Session

private def acknowledged (identifier : Int) : Program :=
  .andThen (.log .debug "main" ("initialize " ++ toString identifier ++ " acknowledged"))
    (.done .null)

def introduce (invoke : Invoke) : Action Session Unit := do
  let session ← start invoke
  let name := (← Action.get).configuration.name
  log .info "main" (name.display ++ " session " ++ session.display ++ " started")
  let report ← request invoke (.string "initialize") (.object []) (some acknowledged)
  let result ← Action.ofExcept report.outcome
  record (.noted
    { label := ["result"]
      contents := [.ok (.value (Message.resultResponse (.int report.identifier) result))] })

def askForReferences (invoke : Invoke) (files : Option Int) (seed : Option Int) :
    Action Session Unit := do
  match seed with
  | none => Action.fail .unusableSeed
  | some seed =>
      let _ ← registerIndexing { files, draw := Draw.seeded seed }
      notify invoke (.string referencesMethod) (.object [])

/-- The session of a demonstration, of a fixed number of files or one drawn by the seed. The loop
turns once even if nothing can be indexed. -/
def play (fuel : Nat) (files : Option Int) (seed : Option Int) : Action Session Unit := do
  let invoke := run fuel
  introduce invoke
  let asked ← Action.attempt (askForReferences invoke files seed)
  drain invoke fuel
  Action.ofExcept asked
  fireAll invoke earliest? fuel
  let _ ← request invoke (.string "exit") .null

def messageOf? : Event → Option Value
  | .sent progress => some progress.notification
  | .noted { label := ["result"], contents := [.ok (.value response)] } => some response
  | _ => none

end RpcSession.Demonstration
