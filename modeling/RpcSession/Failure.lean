import RpcSession.Value.Text

/-!
# Failures

What can go wrong in a session, by cause. Host code raises failures of its own kinds; the failures
of the protocol carry a code and data for the peer; the rest are the session's own refusals. Each
cause has a kind and a message, which are all that a peer or a log shows of it.
-/

namespace RpcSession

/-- The kinds of failure that host code raises. `stop` says that a producer has no more values,
and `abort` asks for everything to be left, which ordinary handlers respect. -/
inductive HostKind where
  | general
  | runtime
  | value
  | key
  | type
  | lookup
  | system
  | stop
  | abort
  deriving DecidableEq, Repr

namespace HostKind

def name : HostKind → String
  | general => "Exception"
  | runtime => "RuntimeError"
  | value => "ValueError"
  | key => "KeyError"
  | type => "TypeError"
  | lookup => "LookupError"
  | system => "OSError"
  | stop => "StopIteration"
  | abort => "HostAbort"

end HostKind

/-! ## Failures of the system

A failure of the system may be given by a number and a text, after which it may name one file or
two. -/

namespace SystemFailure

def kinds : List (Int × String) := [
  (1, "PermissionError"), (2, "FileNotFoundError"), (3, "ProcessLookupError"),
  (4, "InterruptedError"), (10, "ChildProcessError"), (11, "BlockingIOError"),
  (13, "PermissionError"), (17, "FileExistsError"), (20, "NotADirectoryError"),
  (21, "IsADirectoryError"), (32, "BrokenPipeError"), (103, "ConnectionAbortedError"),
  (104, "ConnectionResetError"), (108, "BrokenPipeError"), (110, "TimeoutError"),
  (111, "ConnectionRefusedError"), (114, "BlockingIOError"), (115, "BlockingIOError")]

def isNumbered (arguments : List Value) : Bool :=
  2 ≤ arguments.length && arguments.length ≤ 5

def files (arguments : List Value) : List Value :=
  match arguments.drop 2 with
  | [] | .null :: _ => []
  | first :: rest => first :: (rest.drop 1).filter (!·.isNull)

def kind (arguments : List Value) : Option String :=
  if isNumbered arguments then
    match arguments with
    | .int number :: _ => kinds.lookup number
    | .bool truth :: _ => kinds.lookup truth.toInt
    | _ => none
  else none

/-- The arguments that a failure keeps: the files are no part of them. -/
def kept (arguments : List Value) : List Value :=
  if isNumbered arguments && !(files arguments).isEmpty then arguments.take 2 else arguments

def message? (arguments : List Value) : Option String :=
  if isNumbered arguments then
    match arguments with
    | number :: text :: _ =>
        let head := "[Errno " ++ number.display ++ "] " ++ text.display
        match files arguments with
        | [] => some head
        | named => some (head ++ ": " ++ " -> ".intercalate (named.map Value.literal))
    | _ => none
  else none

example : message? [.int 2, .string "gone"] = some "[Errno 2] gone" := by decide +kernel

end SystemFailure

/-! ## Failures of the protocol -/

inductive PeerKind where
  | general
  | sessionTerminated
  | unknownMethod
  | invalidMutation
  | startFailed
  deriving DecidableEq, Repr

namespace PeerKind

def name : PeerKind → String
  | general => "JsonRpcError"
  | sessionTerminated => "SessionTerminated"
  | unknownMethod => "UnknownMethod"
  | invalidMutation => "InvalidProgressMutation"
  | startFailed => "SessionStartError"

end PeerKind

/-- A failure with what the peer is told of it. Whoever raises one of the general kind chooses its
code and message freely; those of the other kinds have a code of their own. -/
structure PeerError where
  kind : PeerKind := .general
  code : Value
  message : Value
  data : Value := .null
  /-- The kind of the failure that led to this one. -/
  cause : Option String := none
  deriving Inhabited

namespace PeerError

/-- A failure inside a request that says nothing of itself to the peer. -/
def internalCode : Value := .int (-32603)

def sessionTerminated (message : Value := .string "Session has been terminated")
    (data : Value := .null) : PeerError where
  kind := .sessionTerminated
  code := .int (-32600)
  message := message
  data := data

def unknownMethod (method : Value) : PeerError where
  kind := .unknownMethod
  code := .int (-32601)
  message := .string ("Method " ++ method.display ++ " is not handled")
  data := .object [("method", method)]

def invalidMutation (token : Value) (operation : String) : PeerError where
  kind := .invalidMutation
  code := .int (-32602)
  message :=
    .string ("Progress " ++ token.display ++ " already ended; " ++ operation ++ " rejected")
  data := .object [("token", token)]

def startFailed (message : Value := .string "Failed to start session") (data : Value := .null)
    (cause : Option String := none) : PeerError where
  kind := .startFailed
  code := .int (-32002)
  message := message
  data := data
  cause := cause

def literal (error : PeerError) : String :=
  error.kind.name ++ "(code=" ++ error.code.literal ++ ", message=" ++ error.message.literal ++
    ", data=" ++ error.data.literal ++ ")"

def same (left right : PeerError) : Bool :=
  left.kind == right.kind && left.code.same right.code && left.message.same right.message &&
    left.data.same right.data

end PeerError

/-! ## All failures -/

inductive Failure where
  | host (kind : HostKind) (arguments : List Value)
  | peer (error : PeerError)
  | invalidPercentage (given : Value)
  /-- A progress names itself; an update cannot. -/
  | ambiguousProgress
  | nonPositiveInterval
  | noFiles
  | divisionByZero
  | compoundMethod (method : Value)
  | shapelessMessage (message : Value)
  /-- The end of a producer cannot be the outcome of a request. -/
  | stopAsOutcome
  | unusableSeed
  /-- Only objects, arrays and texts can be searched for a name. -/
  | unsearchable (value : Value)
  /-- The message of a failure has to be shown and is no text. -/
  | unshowableMessage (message : Value)
  /-- Host code used a name that it never gave. -/
  | unknownName (name : String)
  deriving Inhabited

namespace Failure

def kind : Failure → String
  | host .system arguments => (SystemFailure.kind arguments).getD HostKind.system.name
  | host kind _ => kind.name
  | peer error => error.kind.name
  | invalidPercentage _ | nonPositiveInterval | noFiles => "ValueError"
  | ambiguousProgress | compoundMethod _ | stopAsOutcome | unusableSeed | unsearchable _
  | unshowableMessage _ => "TypeError"
  | divisionByZero => "ZeroDivisionError"
  | shapelessMessage _ => "AttributeError"
  | unknownName _ => "NoSuchName"

/-- One argument is the message, a key as its literal; several are shown side by side. -/
private def hostMessage : HostKind → List Value → String
  | _, [] => ""
  | .key, [argument] => argument.literal
  | _, [argument] => argument.display
  | .system, arguments =>
      (SystemFailure.message? arguments).getD (Value.tupleLiteral arguments)
  | _, arguments => Value.tupleLiteral arguments

def message : Failure → String
  | host kind arguments => hostMessage kind arguments
  | peer error => error.message.display
  | invalidPercentage given =>
      "percentage must be an integer between 0 and 100, got " ++ given.literal
  | ambiguousProgress => "ProgressHandle.update() got multiple values for argument 'self'"
  | nonPositiveInterval => "interval must be positive"
  | noFiles => "total_files must be at least 1"
  | divisionByZero => "division by zero"
  | compoundMethod method => "unhashable type: '" ++ method.typeName ++ "'"
  | shapelessMessage message => "'" ++ message.typeName ++ "' object has no attribute 'get'"
  | stopAsOutcome =>
      "StopIteration interacts badly with generators and cannot be raised into a Future"
  | unusableSeed =>
      "The only supported seed types are: None,\nint, float, str, bytes, and bytearray."
  | unsearchable value => "argument of type '" ++ value.typeName ++ "' is not iterable"
  | unshowableMessage message => "__str__ returned non-string (type " ++ message.typeName ++ ")"
  | unknownName name => name

/-- Ordinary handlers take every failure but an abort. -/
def isOrdinary : Failure → Bool
  | host .abort _ => false
  | _ => true

def literal : Failure → String
  | peer error => error.literal
  | host kind [argument] => kind.name ++ "(" ++ argument.literal ++ ")"
  | host .system arguments =>
      (host .system arguments).kind ++ Value.tupleLiteral (SystemFailure.kept arguments)
  | host kind arguments => kind.name ++ Value.tupleLiteral arguments
  | failure => failure.kind ++ "(" ++ Text.quoted failure.message ++ ")"

def text (failure : Failure) : Except Failure String :=
  match failure with
  | peer { message := .string message, .. } => .ok message
  | peer error => .error (unshowableMessage error.message)
  | _ => .ok failure.message

/-- What a log shows of a failure of some kind: the kind, in full for the failures of the protocol,
and the message unless that is empty. -/
def reportOf (kind message : String) : String :=
  let kinds : List PeerKind :=
    [.general, .sessionTerminated, .unknownMethod, .invalidMutation, .startFailed]
  let kind := if kinds.any (·.name == kind) then "notify_ls.jsonrpc." ++ kind else kind
  if message = "" then kind else kind ++ ": " ++ message

def report (failure : Failure) : String :=
  reportOf failure.kind (failure.text.toOption.getD "<exception str() failed>")

def toValue (failure : Failure) : Value :=
  .foreign failure.kind failure.message failure.literal

example : (host .key [.string "k"]).message = "'k'" := by decide +kernel

example : (host .runtime [.string "r"]).report = "RuntimeError: r" := by decide +kernel

example : (peer (.unknownMethod (.int 5))).message = "Method 5 is not handled" := by
  decide +kernel

end Failure

end RpcSession
