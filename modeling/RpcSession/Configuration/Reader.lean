import RpcSession.Configuration.Basic
import RpcSession.Json.Reader
import RpcSession.Text.Uppercase
import RpcSession.Text.Utf8
import RpcSession.Value.Text

/-!
# Reading configurations

A configuration is a JSON object, in UTF-8, whose members replace what holds otherwise. Most
members take any value: names are the texts of values, switches their truth. Capabilities must be
an object, and the two times must be numbers, or texts of numbers, in range.
-/

namespace RpcSession

inductive ConfigurationFault where
  | encoding (error : Text.Utf8Error)
  | document (error : Json.ReadError) (text : List Char)
  | rootNotObject
  | capabilitiesNotObject
  | notNumeric (name : String)
  | beyondDoubles
  | negativeDelay
  | nonPositiveInterval
  deriving DecidableEq, Repr

namespace ConfigurationFault

def kind : ConfigurationFault → String
  | encoding _ => "UnicodeDecodeError"
  | document { fault := .longInteger _, .. } _ => "ValueError"
  | document _ _ => "JSONDecodeError"
  | beyondDoubles => "OverflowError"
  | rootNotObject | capabilitiesNotObject | notNumeric _ | negativeDelay
  | nonPositiveInterval => "ValueError"

def message : ConfigurationFault → String
  | encoding error => error.message
  | document error text => error.message text
  | rootNotObject => "Config root must be a JSON object."
  | capabilitiesNotObject => "'capabilities' must be a JSON object."
  | notNumeric name => name ++ " must be numeric"
  | beyondDoubles => "int too large to convert to float"
  | negativeDelay => "progress_delay must not be negative"
  | nonPositiveInterval => "progress_interval must be positive"

/-- Whether the fault is one of the file, which a command line reports as wrong use. -/
def isOrdinary : ConfigurationFault → Bool
  | beyondDoubles => false
  | _ => true

end ConfigurationFault

namespace Configuration

def joinLineEnds : List Char → List Char
  | '\r' :: '\n' :: rest => '\n' :: joinLineEnds rest
  | '\r' :: rest => '\n' :: joinLineEnds rest
  | character :: rest => character :: joinLineEnds rest
  | [] => []

def timeOf (name : String) : Value → Except ConfigurationFault Float
  | .bool truth => .ok (Decimal.floatOfInt truth.toInt)
  | .int number =>
      let converted := Decimal.floatOfInt number
      if converted.isInf then .error .beyondDoubles else .ok converted
  | .float number => .ok number
  | .string text =>
      match Decimal.readFloat? text with
      | some number => .ok number
      | none => .error (.notNumeric name)
  | _ => .error (.notNumeric name)

def ofMembers (members : List (String × Value)) : Except ConfigurationFault Configuration := do
  let default : Configuration := {}
  let isSet (name : String) : Bool := (members.lookup name).any Value.isTruthy
  let time (name : String) (otherwise : Float) : Except ConfigurationFault Float :=
    (members.lookup name).elim (.ok otherwise) (timeOf name)
  let capabilities := (members.lookup "capabilities").getD default.capabilities
  if capabilities.members?.isNone then throw .capabilitiesNotObject
  let delay ← time "progress_delay" default.progressDelay
  let interval ← time "progress_interval" default.progressInterval
  if delay < 0 then throw .negativeDelay
  if interval ≤ 0 then throw .nonPositiveInterval
  return {
    name := (members.lookup "name").elim default.name fun name => .string name.display
    logLevel := (members.lookup "log_level").elim default.logLevel fun level =>
      Text.uppercase level.display
    structuredLogging := isSet "structured_logging"
    strictMethods := isSet "strict_methods"
    strictProgress := isSet "strict_progress"
    capabilities
    progressDelay := delay
    progressInterval := interval }

def ofDocument (document : List Char) : Except ConfigurationFault Configuration :=
  match Json.read document with
  | .error error => .error (.document error document)
  | .ok (.object members) => ofMembers members
  | .ok _ => .error .rootNotObject

def ofBytes (bytes : List UInt8) : Except ConfigurationFault Configuration :=
  match Text.Utf8.decode bytes with
  | .error error => .error (.encoding error)
  | .ok characters => ofDocument (joinLineEnds characters)

end Configuration

end RpcSession
