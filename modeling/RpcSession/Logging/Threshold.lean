import RpcSession.Logging.Record
import RpcSession.Text.Uppercase

/-!
# Thresholds

Records below a threshold are not written. The threshold is named, in letters of any case; names
that mean no level mean the informational one. Two texts are names of something else and are
refused.
-/

namespace RpcSession.Logging

/-- The names of levels, older ones among them. -/
def levelNames : List (String × Int) := [
  ("CRITICAL", 50), ("FATAL", 50), ("ERROR", 40), ("WARNING", 30), ("WARN", 30), ("INFO", 20),
  ("DEBUG", 10), ("NOTSET", 0)]

/-- A name of something that is no level. -/
inductive ThresholdFault where
  | lineLayout
  | layoutTable
  deriving DecidableEq, Repr

namespace ThresholdFault

def kind : ThresholdFault → String
  | lineLayout => "ValueError"
  | layoutTable => "TypeError"

def message : ThresholdFault → String
  | lineLayout => "Unknown level: '%(levelname)s:%(name)s:%(message)s'"
  | layoutTable =>
      "Level not an integer or a valid string: \x7b" ++
        "'%': (<class 'logging.PercentStyle'>, '%(levelname)s:%(name)s:%(message)s'), " ++
        "'\x7b': (<class 'logging.StrFormatStyle'>, " ++
        "'\x7blevelname\x7d:\x7bname\x7d:\x7bmessage\x7d'), " ++
        "'$': (<class 'logging.StringTemplateStyle'>, " ++
        "'$\x7blevelname\x7d:$\x7bname\x7d:$\x7bmessage\x7d')\x7d"

end ThresholdFault

def threshold (text : String) : Except ThresholdFault Int :=
  match Text.uppercase text with
  | "BASIC_FORMAT" => .error .lineLayout
  | "_STYLES" => .error .layoutTable
  | name => .ok ((levelNames.lookup name).getD 20)

/-- Where records are written: those of a level at or above the threshold, as lines. Records of no
level are never written. -/
structure Sink where
  threshold : Int
  structured : Bool
  deriving DecidableEq, Repr

namespace Sink

def configure (level : String) (structured : Bool) : Except ThresholdFault Sink :=
  (⟨·, structured⟩) <$> Logging.threshold level

def isLevel (value : Value) : Except Fault Bool :=
  match value with
  | .int number => .ok (0 ≤ number)
  | .bool _ => .ok true
  | .float number => .ok (0 ≤ number)
  | _ => .error (.levelNotANumber value.typeName)

/-- What is written of a record that was made for a level: it has to reach the threshold, and the
record itself must not have a negative level. A record that does not fit its template is not
written. -/
def write (sink : Sink) (level : Int) (record : Record) : Except Fault String := do
  if level < sink.threshold ∨ level ≤ 0 then return ""
  if !(← isLevel record.level) then return ""
  match record.line sink.structured with
  | .ok line => return line ++ "\n"
  | .error _ => return ""

end Sink

end RpcSession.Logging
