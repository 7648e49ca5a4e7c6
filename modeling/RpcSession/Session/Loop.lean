import RpcSession.Session.Indexing

/-!
# The loop

The loop runs acknowledgements in the order in which they were asked for, and ticks at the times
for which they were scheduled. Time passes only when the loop is advanced. A failure that leaves a
callback is noted and the loop goes on.
-/

namespace RpcSession.Session

def guarded (callback : Action Session Unit) : Action Session Unit := do
  match ← Action.attempt callback with
  | .ok () => pure ()
  | .error failure => record (.loopFailed failure)

def takeReady : Action Session (Option Acknowledgement) := fun session =>
  match session.loop.ready with
  | [] => (.value none, session)
  | next :: ready =>
      (.value (some next), { session with loop := { session.loop with ready } })

def acknowledge (invoke : Invoke) (acknowledgement : Acknowledgement) : Action Session Unit := do
  record (.acknowledged acknowledgement.identifier)
  guarded do let _ ← invoke (acknowledgement.callback acknowledgement.identifier)

def drain (invoke : Invoke) : (fuel : Nat) → Action Session Unit
  | 0 => Action.exhausted
  | fuel + 1 => fun session =>
      match takeReady session with
      | (.value (some next), session) =>
          match acknowledge invoke next session with
          | (.value (), session) => drain invoke fuel session
          | other => other
      | (_, session) => (.value (), session)

/-- The earlier of the best tick so far and another one. -/
def earlier (best : Option ScheduledTick) (tick : ScheduledTick) : Option ScheduledTick :=
  match best with
  | none => some tick
  | some chosen => if tick.due < chosen.due then some tick else some chosen

/-- The earliest tick; of several the one scheduled first. -/
def earliest? (scheduled : List ScheduledTick) : Option ScheduledTick :=
  scheduled.foldl earlier none

def earliestBy? (limit : Float) (scheduled : List ScheduledTick) : Option ScheduledTick :=
  earliest? (scheduled.filter (·.due ≤ limit))

def fire (invoke : Invoke) (scheduled : ScheduledTick) : Action Session Unit := do
  Action.modify fun session =>
    { session with loop := { session.loop with
        now := if session.loop.now < scheduled.due then scheduled.due else session.loop.now } }
  cancelTick scheduled.order
  guarded (tick (runTimerCallback invoke scheduled.timer) scheduled.timer)

/-- Fires the ticks that `choose` picks, one after the other, until it picks none; after each, the
acknowledgements are run. -/
def fireAll (invoke : Invoke) (choose : List ScheduledTick → Option ScheduledTick) :
    (fuel : Nat) → Action Session Unit
  | 0 => Action.exhausted
  | fuel + 1 => fun session =>
      match choose session.loop.scheduled with
      | none => (.value (), session)
      | some next =>
          match (do fire invoke next; drain invoke fuel : Action Session Unit) session with
          | (.value (), session) => fireAll invoke choose fuel session
          | other => other

def advance (invoke : Invoke) (fuel : Nat) (seconds : Float) : Action Session Unit := do
  let target := (← Action.get).loop.now + seconds
  drain invoke fuel
  fireAll invoke (earliestBy? target) fuel
  Action.modify fun session => { session with loop := { session.loop with now := target } }

end RpcSession.Session
