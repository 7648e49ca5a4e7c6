import RpcSession.Failure
import RpcSession.Json.Reader
import RpcSession.Json.Writer
import RpcSession.Logging.Calendar
import RpcSession.Logging.Level
import RpcSession.Logging.Template

/-!
# Log records

A record says where and when something happened and how grave it is. It is written as one line for
people or as one JSON object. Whoever logs may set attributes of the record: those that the record
has anyway are overridden, and all others are extra.
-/

namespace RpcSession.Logging

/-! ## Failures of records -/

/-- What a record tells of a failure: nothing, a failure, or whatever was set in its place. -/
inductive Trace where
  | absent
  | raised (failure : Failure)
  | given (value : Value)
  deriving Inhabited

namespace Trace

def isPresent : Trace → Bool
  | absent => false
  | raised _ => true
  | given value => value.isTruthy

/-- The report of a value in the place of a failure: the second of at least three parts is the
failure, and the third, where it came from, has to be nothing. -/
def reportOf (value : Value) : Except Fault String :=
  match value with
  | .array items =>
      match items with
      | _ :: what :: .null :: _ =>
          match what with
          | .null => .ok "NoneType: None"
          | .foreign kind display _ => .ok (Failure.reportOf kind display)
          | _ => .error (.uselessPart what.typeName)
      | _ :: _ :: origin :: _ => .error (.uselessPart origin.typeName)
      | _ => .error (.fewParts value.typeName)
  | .string text =>
      if text.length < 3 then .error (.fewParts "string")
      else .error (.uselessPart value.typeName)
  | .object _ => .error (.fewParts value.typeName)
  | _ => .error (.partless value.typeName)

def report : Trace → Except Fault (Option String)
  | absent => .ok none
  | raised failure => .ok (some failure.report)
  | given value => if value.isTruthy then some <$> reportOf value else .ok none

end Trace

/-! ## Records -/

structure Record where
  logger : Value
  levelName : Value
  message : Value
  level : Value := .int 0
  arguments : Arguments := .absent
  /-- When it was made, in seconds since the start of 1970. -/
  created : Value := .int 0
  milliseconds : Value := .int 0
  failure : Trace := .absent
  /-- What is written of the failure in place of a report. -/
  failureText : Value := .null
  /-- What is written after everything else. -/
  stack : Value := .null
  /-- What stands for the making of the message, if anything was set there. -/
  maker : Option Value := none
  extra : List (String × Value) := []

namespace Record

def make (logger : Value) (level : Int) (message : Value) (arguments : List Value)
    (created : Value) (failure : Option Failure) : Record where
  logger := logger
  levelName := .string (Logging.levelName level)
  message := message
  level := .int level
  arguments := .ofList arguments
  created := created
  milliseconds := match Seconds.ofValue created with
    | .ok seconds => .int seconds.milliseconds
    | .error _ => .int 0
  failure := failure.elim .absent .raised

def reservedNames : List String := [
  "name", "msg", "args", "levelname", "levelno", "pathname", "filename", "module", "exc_info",
  "exc_text", "stack_info", "lineno", "funcName", "created", "msecs", "relativeCreated", "thread",
  "threadName", "processName", "process", "taskName", "message", "asctime"]

def set (record : Record) (name : String) (value : Value) : Except Fault Record :=
  match name with
  | "name" => .ok { record with logger := value }
  | "levelname" => .ok { record with levelName := value }
  | "levelno" => .ok { record with level := value }
  | "msg" => .ok { record with message := value }
  | "args" => .ok { record with arguments := .ofValue value }
  | "created" => .ok { record with created := value }
  | "msecs" => .ok { record with milliseconds := value }
  | "exc_info" => .ok { record with failure := .given value }
  | "exc_text" => .ok { record with failureText := value }
  | "stack_info" => .ok { record with stack := value }
  | "getMessage" => .ok { record with maker := some value }
  | "__class__" => .error (.notAClass value.typeName)
  | "__dict__" =>
      .error (match value with
        | .object _ => .missingAttribute "created"
        | _ => .notADictionary value.typeName)
  | "__weakref__" => .error (.fixedAttribute name)
  | name =>
      .ok (if reservedNames.contains name then record
        else { record with extra := Json.setMember name value record.extra })

def setAll (record : Record) (attributes : List (String × Value)) : Except Fault Record :=
  attributes.foldlM (fun record (name, value) => record.set name value) record

def text (record : Record) : Except Fault String :=
  match record.maker with
  | none => fillTemplate record.message.display record.arguments
  | some maker => .error (.cannotMakeMessage maker.typeName)

/-! ## Layouts -/

def payload (record : Record) : Except Fault Value := do
  let time ← fullTime record.created
  let text ← record.text
  let report ← record.failure.report
  let extra := if record.extra.isEmpty then [] else [("extra", Value.object record.extra)]
  return .object ([("timestamp", .string time), ("level", record.levelName),
    ("logger", record.logger), ("message", .string text)] ++ extra ++
    (report.map fun report => ("exc_info", Value.string report)).toList)

def structuredLine (record : Record) : Except Fault String :=
  Json.text Json.spaced <$> record.payload

/-- A line with one more text on a line of its own, unless there is nothing to add. -/
def addLine (line : String) (added : Value) : Except Fault String :=
  match added with
  | .string text =>
      if text = "" then .ok line
      else .ok ((if line.endsWith "\n" then line else line ++ "\n") ++ text)
  | _ => if added.isTruthy then .error (.notText added.typeName) else .ok line

def plainLine (record : Record) : Except Fault String := do
  let text ← record.text
  let time ← plainTime record.created record.milliseconds
  let failureText ←
    if record.failure.isPresent && !record.failureText.isTruthy then do
      let report ← record.failure.report
      pure (report.elim Value.null Value.string)
    else pure record.failureText
  let line := time ++ " " ++ record.levelName.display ++ " [" ++ record.logger.display ++ "] " ++
    text
  addLine (← addLine line failureText) record.stack

def line (structured : Bool) (record : Record) : Except Fault String :=
  if structured then record.structuredLine else record.plainLine

end Record

end RpcSession.Logging
