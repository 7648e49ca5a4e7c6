import RpcSession.Logging.Level
import RpcSession.Progress

/-!
# Host programs

The code around a session, which calls it and is called back by it, is a program: it performs the
operations of the session one after the other, goes on by their replies, and ends with a value or
a failure. Every callback is a program again. Programs share no memory but what the session keeps
for them: the names they gave to things, cells of values and queues of programs put aside.
-/

namespace RpcSession

/-! ## What programs hold -/

/-- The callback by which a receiver answers: of one exchange, or of the host, which gives one to
every dispatch that it begins itself. -/
inductive Responder where
  | exchange (identifier : Int)
  | host (index : Nat)
  deriving DecidableEq, Repr, Inhabited

/-- What an answer says went wrong: a failure, or any other value. -/
inductive Complaint where
  | failure (failure : Failure)
  | value (value : Value)

/-- An answer to a call. A complaint counts more than a result. -/
structure Answer where
  result : Value := .null
  complaint : Option Complaint := none

inductive Reference where
  | progress (token : Int)
  | request (identifier : Int) (handled : Bool)
  | timer (index : Nat)
  | responder (responder : Responder)
  deriving DecidableEq, Repr

/-- What a caller gets from a request: its identifier, whether the method had a handler, and the
outcome. -/
structure RequestReport where
  identifier : Int
  handled : Bool
  outcome : Except Failure Value

inductive Reply where
  | done
  | flag (truth : Bool)
  | number (number : Int)
  | value (value : Value)
  | request (report : RequestReport)
  | progress (progress : Progress)
  | timer (running : Bool) (ticks : Nat)

structure Note where
  label : List String
  contents : List (Except Failure Reply) := []

/-! ## Operations and programs -/

/-- The choices of an indexing receiver; what is absent is taken from the configuration. `draw`
chooses the number of files of a call of the subscription when none is fixed. -/
structure IndexingOptions (κ : Type) where
  files : Option Int := none
  delay : Option Float := none
  interval : Option Float := none
  draw : (subscription : Int) → κ
  onFinish : Option κ := none

inductive Operation (κ : Type) where
  | start
  | terminate
  | isClosing
  | describe
  | nextIdentifier
  | request (method : Value) (params : Value) (onAcknowledge : Option (Int → κ))
      (name : Option String)
  | notify (method : Value) (params : Value)
  | handleMessage (message : Value)
  | outcome (name : String)
  | register (method : String) (receiver : Value → Responder → κ)
  | registerIndexing (options : IndexingOptions κ)
  | unregister (subscription : Int)
  | hasReceivers (method : String)
  | dispatch (method : String) (params : Value) (onAnswer : Answer → κ)
  | respond (responder : Responder) (answer : Answer)
  | keepResponder (name : String) (responder : Responder)
  | respondKept (name : String) (answer : Answer)
  | begin (name : String) (title message percentage : Value)
  | update (name : String) (fields : List (String × Value))
  | finish (name : String) (message : Value)
  | inspect (name : String)
  | createTimer (name : String) (interval : Float) (delay : Option Float) (callback : κ)
  | startTimer (name : String)
  | stopTimer (name : String)
  | inspectTimer (name : String)
  | drain
  | advance (seconds : Float)
  | note (note : Note)
  | log (level : Logging.Level) (logger message : String)
  | readCell (cell : String)
  | writeCell (cell : String) (value : Value)
  /-- Makes a program the only one of a queue. -/
  | putAside (queue : String) (program : κ)
  /-- Runs the first program of a queue and drops it; the last one is kept if so asked. -/
  | resume (queue : String) (keepLast : Bool)
  deriving Inhabited

inductive Program where
  | done (value : Value)
  | fail (failure : Failure)
  /-- Another program, and how to go on from its end. -/
  | call (callee : Program) (next : Except Failure Value → Program)
  | perform (operation : Operation Program) (next : Except Failure Reply → Program)

namespace Program

instance : Inhabited Program := ⟨.done .null⟩

/-- An operation whose failure is a failure of the program. -/
def ask (operation : Operation Program) (next : Reply → Program) : Program :=
  perform operation fun
    | .ok reply => next reply
    | .error failure => fail failure

/-- An operation that is followed by another program whatever it replies. -/
def andThen (operation : Operation Program) (next : Program) : Program :=
  ask operation fun _ => next

end Program

end RpcSession
