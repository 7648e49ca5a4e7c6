/-!
# Levels of log records

A level is a number; the usual ones have names.
-/

namespace RpcSession.Logging

inductive Level where
  | debug
  | info
  | warning
  | error
  | critical
  deriving DecidableEq, Repr, Inhabited

namespace Level

def number : Level → Int
  | debug => 10
  | info => 20
  | warning => 30
  | error => 40
  | critical => 50

def name : Level → String
  | debug => "DEBUG"
  | info => "INFO"
  | warning => "WARNING"
  | error => "ERROR"
  | critical => "CRITICAL"

def all : List Level := [debug, info, warning, error, critical]

end Level

def levelName (number : Int) : String :=
  if number = 0 then "NOTSET"
  else match Level.all.find? (·.number == number) with
    | some level => level.name
    | none => "Level " ++ toString number

example : levelName 20 = "INFO" ∧ levelName 15 = "Level 15" := by decide +kernel

end RpcSession.Logging
