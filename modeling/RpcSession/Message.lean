import RpcSession.Failure

/-!
# Messages

The messages that the session and its peer exchange are objects of the JSON-RPC protocol.
-/

namespace RpcSession.Message

def version : String × Value := ("jsonrpc", .string "2.0")

def progressMethod : String := "$/progress"

def errorResponse (identifier code message : Value) (data : Value := .null) : Value :=
  let details := [("code", code), ("message", message)]
  .object [version, ("id", identifier),
    ("error", .object (if data.isNull then details else details ++ [("data", data)]))]

def resultResponse (identifier result : Value) : Value :=
  .object [version, ("id", identifier), ("result", result)]

def notification (method : Value) (params : Value := .null) : Value :=
  let message := [version, ("method", method)]
  .object (if params.isNull then message else message ++ [("params", params)])

def ofPeerError (identifier : Value) (error : PeerError) : Value :=
  errorResponse identifier error.code error.message error.data

def ofFailure (identifier : Value) (failure : Failure) : Value :=
  match failure with
  | .peer error => ofPeerError identifier error
  | _ =>
      let message := if failure.message = "" then failure.kind else failure.message
      errorResponse identifier PeerError.internalCode (.string message)

/-! ## Kinds of messages -/

def isPart (part : List Char) : List Char → Bool
  | [] => part.isEmpty
  | character :: rest => part.isPrefixOf (character :: rest) || isPart part rest

/-- Whether a name is a member of an object, an item of an array or a part of a text; nothing else
can be searched. -/
def has (message : Value) (name : String) : Except Failure Bool :=
  match message with
  | .object members => .ok (members.any (·.1 == name))
  | .array items => .ok (items.any (·.same (.string name)))
  | .string text => .ok (isPart name.toList text.toList)
  | _ => .error (.unsearchable message)

def isRequest (message : Value) : Except Failure Bool := do
  return (← has message "method") && (← has message "id") && (← has message "jsonrpc")

def isNotification (message : Value) : Except Failure Bool := do
  return (← has message "method") && !(← has message "id")

theorem has_object (members : List (String × Value)) (name : String) :
    has (.object members) name = .ok (members.any (·.1 == name)) := rfl

example :
    isRequest (.object [("id", .null), ("jsonrpc", .null), ("method", .null)]) = .ok true := by
  rfl

end RpcSession.Message
