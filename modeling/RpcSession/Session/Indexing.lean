import RpcSession.Session.Progress
import RpcSession.Session.Timers

/-!
# Indexing

The indexing receiver pretends to index files, one with every tick of a timer, and tells of it by
a progress that goes from zero to a hundred percent.
-/

namespace RpcSession.Session

def referencesMethod : String := "textDocument/references"

/-! ## Percentage -/

/-- The whole part of a positive double `significand * 2 ^ exponent`, and whether it is exact. -/
def wholePart (significand : Nat) (exponent : Int) : Nat × Bool :=
  let scale := Nat.pow 2 (-exponent).toNat
  let scaled := significand * Nat.pow 2 exponent.toNat
  (scaled / scale, scaled % scale == 0)

/-- The percentage of `indexed` among `files`, at least one: the quotient and its hundredfold are
rounded to doubles one after the other, and the whole part of the latter counts. -/
def positivePercentage (indexed files : Nat) : Nat × Bool :=
  if indexed = 0 then (0, true)
  else
    let (quotient, place) := Decimal.nearest indexed files
    let (hundredfold, place) :=
      Decimal.nearest (quotient * 100 * Nat.pow 2 place.toNat) (Nat.pow 2 (-place).toNat)
    wholePart hundredfold place

/-- The percentage of `indexed` among `files`, rounded down. -/
def percentageOf (indexed : Nat) (files : Int) : Except Failure Int :=
  if files = 0 then .error .divisionByZero
  else
    let (whole, exact) := positivePercentage indexed files.natAbs
    if 0 < files then .ok whole
    else .ok (-(whole : Int) - if exact then 0 else 1)

/-! ## Ticks -/

/-- One more file is indexed. At a hundred percent the progress is finished and the timer
stopped; on a terminated session the timer is just stopped. -/
def indexFile (invoke : Invoke) (timer : Nat) (token : Int) (files : Int)
    (onFinish : Option Program) (indexed : Nat) : Action Session Unit := do
  let session ← Action.get
  if session.isTerminated then stopTimer timer
  else
    match session.progress? token with
    | none => pure ()
    | some progress =>
        let percentage ← Action.ofExcept (percentageOf indexed files)
        update invoke progress [
          ("message", .string (toString indexed ++ " / " ++ toString files)),
          ("percentage", .int percentage)]
        match (← Action.get).progress? token with
        | none => pure ()
        | some progress =>
            if progress.percentage = some 100 then
              finish invoke progress (.string "done")
              stopTimer timer
              log .info "demo" ("Indexed " ++ toString files ++ " files")
              record (.indexed token)
              if let some callback := onFinish then
                let _ ← invoke callback

def runTimerCallback (invoke : Invoke) (timer : Nat) (callback : TimerCallback) (ticks : Nat) :
    Action Session Unit :=
  match callback with
  | .host callback => do let _ ← invoke callback
  | .indexing token files onFinish => indexFile invoke timer token files onFinish ticks

/-! ## Receiver -/

def wholeNumber : Value → Int
  | .int number => number
  | _ => 0

/-- A call of the indexing receiver begins a progress and starts the timer that carries it on. -/
def receiveIndexing (invoke : Invoke) (files : Option Int) (delay interval : Float)
    (draw : Program) (onFinish : Option Program) : Action Session Unit := do
  let files ← match files with
    | some files => pure files
    | none => wholeNumber <$> invoke draw
  let token ← begin invoke (.string "indexing") (.string "") (.int 0)
  let timer ← createTimer interval delay (.indexing token files onFinish)
  startTimer timer

end RpcSession.Session
