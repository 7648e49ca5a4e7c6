import RpcSession.Random.Draw
import RpcSession.Session.Run

/-!
# Scenarios

A scenario plays the host of a session step by step: every step performs an operation and is
answered, and the callbacks of the host are made of steps too. The steps of a callback leave a
note of how they ended in the history of the session.
-/

namespace RpcSession.Scenario

/-! ## Callbacks -/

def noting (label : List String) (contents : List Reply) (next : Program) : Program :=
  .andThen (.note { label, contents := contents.map .ok }) next

/-- A step of a callback. Its failure ends the callback unless the step catches it. -/
def step (name : String) (catches : Bool) (operation : Operation Program) (next : Program) :
    Program :=
  .perform operation fun reply =>
    .andThen (.note { label := ["nested", name], contents := [reply] })
      (match reply with
        | .ok _ => next
        | .error failure => if catches then next else .fail failure)

/-- A receiver that leaves a note of every call. -/
def receiver (label : String) (body : Value → Responder → Program) :
    Value → Responder → Program :=
  fun params responder => noting ["recv", label] [.value params] (body params responder)

/-! ## Reactions to messages -/

private def reactionQueue : String := "reactions"

/-- After the next message to the peer the program runs, once and in place of any that waits. -/
def react (program : Program) : Operation Program := .putAside reactionQueue program

/-- What the peer's side does with a message: it runs the reaction that waits for it, if any. -/
def outbound : Value → Program := fun _ => .andThen (.resume reactionQueue false) (.done .null)

/-! ## Launchers -/

private def launcherQueue : String := "launchers"

/-- A launcher that runs the programs of its queue one after the other, the last one over and
over. -/
def launcher : Program :=
  noting ["launch"] [] (.ask (.resume launcherQueue true) fun
    | .value identifier => .done identifier
    | _ => .done .null)

/-- A session before its first step, with a launcher if programs for it are given. -/
def prepare (configuration : Configuration) (identifiers : Identifiers)
    (launchers : Option (List Program)) : Session where
  configuration := configuration
  outbound := outbound
  launcher := launchers.map fun _ => launcher
  identifiers := identifiers
  queues := (launchers.map fun programs => (launcherQueue, programs)).toList

/-! ## Numbers of files -/

/-- Gives the listed numbers of files, the last one over and over, and leaves a note of every
draw. -/
def drawListed (numbers : List Int) : (subscription : Int) → Program :=
  Draw.counted fun drawn next =>
    noting ["randint"] [.number Draw.fewest, .number Draw.most]
      (next ((numbers[drawn]?).getD (numbers.getLastD 0)))

/-! ## Steps from outside -/

structure Answer where
  reply : Except Failure Reply
  events : List Session.Event

/-- Plays one step; nothing comes of a step that takes more fuel than given. -/
def play (fuel : Nat) (operation : Operation Program) (session : Session) :
    Option (Answer × Session) :=
  let before := session.history.length
  match Action.attempt (Session.perform fuel operation) session with
  | (.value reply, session) =>
      let count := session.history.length - before
      some (⟨reply, (session.history.take count).reverse⟩, session)
  | _ => none

end RpcSession.Scenario
