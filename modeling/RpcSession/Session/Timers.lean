import RpcSession.Session.Basic

/-!
# Timers

A timer runs its callback at regular intervals until it is stopped or the callback fails. A tick
clears the timer's schedule, runs the callback and, unless the timer has been stopped, schedules
the next tick.
-/

namespace RpcSession.Session

def timer? (session : Session) (index : Nat) : Option Timer := session.timers[index]?

def modifyTimer (index : Nat) (change : Timer → Timer) : Action Session Unit :=
  Action.modify fun session => { session with timers := session.timers.modify index change }

def createTimer (interval : Float) (delay : Option Float) (callback : TimerCallback) :
    Action Session Nat := do
  if interval ≤ 0 then Action.fail .nonPositiveInterval
  else
    let index := (← Action.get).timers.length
    let timer : Timer := { interval, delay := delay.getD interval, callback }
    Action.modify fun session => { session with timers := session.timers ++ [timer] }
    return index

def scheduleTick (index : Nat) (seconds : Float) : Action Session Unit := do
  let order := (← Action.get).loop.nextOrder
  Action.modify fun session =>
    let tick : ScheduledTick := ⟨order, session.loop.now + seconds, index⟩
    { session with loop := { session.loop with
        scheduled := session.loop.scheduled ++ [tick], nextOrder := order + 1 } }
  modifyTimer index fun timer => { timer with pending := some order }

def cancelTick (order : Nat) : Action Session Unit :=
  Action.modify fun session =>
    { session with loop := { session.loop with
        scheduled := session.loop.scheduled.filter (·.order != order) } }

def startTimer (index : Nat) : Action Session Unit := do
  match (← Action.get).timer? index with
  | none => pure ()
  | some timer =>
      if timer.isRunning || timer.stopped then pure ()
      else scheduleTick index timer.delay

def stopTimer (index : Nat) : Action Session Unit := do
  match (← Action.get).timer? index with
  | none => pure ()
  | some timer =>
      match timer.pending with
      | some order => cancelTick order
      | none => pure ()
      modifyTimer index fun timer => { timer with stopped := true, pending := none }
      record (.timerStopped index)

/-- The callback of a tick came back: the next tick is scheduled unless the timer has been
stopped, and a timer whose callback failed is stopped. -/
def finishTick (index : Nat) (outcome : Except Failure Unit) : Action Session Unit := do
  let current := (← Action.get).timer? index
  record (.tickReturned index (current.any (·.isRunning)) outcome)
  match outcome with
  | .ok () =>
      match current with
      | some timer => if timer.stopped then pure () else scheduleTick index timer.interval
      | none => pure ()
  | .error failure =>
      if failure.isOrdinary then
        log .error "timers" "Timer callback failed; stopping timer" failure
        stopTimer index
      else Action.fail failure

def runTick (runCallback : TimerCallback → Nat → Action Session Unit) (index : Nat)
    (timer : Timer) : Action Session Unit := do
  let outcome ← Action.attempt (runCallback timer.callback timer.ticks)
  finishTick index outcome

/-- A tick of a timer, given how its callback runs on its count of ticks. -/
def tick (runCallback : TimerCallback → Nat → Action Session Unit) (index : Nat) :
    Action Session Unit := do
  modifyTimer index fun timer => { timer with pending := none, ticks := timer.ticks + 1 }
  match (← Action.get).timer? index with
  | none => pure ()
  | some timer =>
      record (.ticked index)
      runTick runCallback index timer

end RpcSession.Session
