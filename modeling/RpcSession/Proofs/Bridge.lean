import RpcSession.Proofs.Blindness

/-!
# Messages and calls

A message of the peer that calls a method does to the session what the call itself does, but for
what is logged of it. The response to a request tells the peer what the caller of the request
would see; other messages have none.
-/

namespace RpcSession.Session

variable {session after : Session} {invoke : Invoke} {members : List (String × Value)}
variable {method params identifier : Value}

/-! ## Kinds of messages -/

structure IsRequest (message method identifier : Value) : Prop where
  method : message.member? "method" = some method
  identifier : message.member? "id" = some identifier
  versioned : ∃ version, message.member? "jsonrpc" = some version

structure IsNotification (message method : Value) : Prop where
  method : message.member? "method" = some method
  anonymous : message.member? "id" = none

private theorem isSome_lookup (members : List (String × Value)) (name : String) :
    (members.lookup name).isSome = members.any (·.1 == name) := by
  induction members with
  | nil => rfl
  | cons member members induction =>
      rw [List.lookup_cons, List.any_cons, ← induction, BEq.comm]
      cases member.1 == name <;> rfl

theorem has_eq (members : List (String × Value)) (name : String) :
    Message.has (.object members) name =
      .ok ((Value.object members).member? name).isSome := by
  rw [Message.has_object, ← isSome_lookup]
  rfl

theorem isRequest_eq (members : List (String × Value)) :
    let message := Value.object members
    Message.isRequest message = .ok ((message.member? "method").isSome &&
      (message.member? "id").isSome && (message.member? "jsonrpc").isSome) := by
  simp only [Message.isRequest, has_eq]
  rfl

theorem isNotification_eq (members : List (String × Value)) :
    let message := Value.object members
    Message.isNotification message = .ok ((message.member? "method").isSome &&
      !(message.member? "id").isSome) := by
  simp only [Message.isNotification, has_eq]
  rfl

def receipt (message : Value) : LogEntry :=
  ⟨.debug, "notify_ls.server", "Received message: " ++ message.display, none⟩

theorem handleMessage_of_request (invoke : Invoke) (session : Session)
    (request : IsRequest (.object members) method identifier) :
    handleMessage invoke (.object members) session =
      respondToRequest invoke identifier method (paramsOf (.object members))
        (session.noting (.logged (receipt (.object members)))) := by
  rcases request with ⟨named, numbered, version, versioned⟩
  have kind : Message.isRequest (.object members) = .ok true := by
    rw [isRequest_eq, named, numbered, versioned]
    rfl
  refine (Action.bind_of_value (record_apply _ _)).trans ?_
  rw [if_neg (by simp [Value.members?]), kind, Action.ofExcept_ok_bind, if_pos rfl]
  dsimp only
  rw [named, numbered]
  rfl

theorem handleMessage_of_notification (invoke : Invoke) (session : Session)
    (notification : IsNotification (.object members) method) :
    handleMessage invoke (.object members) session =
      (do
        takeNotification invoke method (paramsOf (.object members))
        return .null : Action Session Value)
        (session.noting (.logged (receipt (.object members)))) := by
  rcases notification with ⟨named, anonymous⟩
  have kind : Message.isRequest (.object members) = .ok false := by
    rw [isRequest_eq, anonymous]
    simp
  have other : Message.isNotification (.object members) = .ok true := by
    rw [isNotification_eq, named, anonymous]
    rfl
  refine (Action.bind_of_value (record_apply _ _)).trans ?_
  rw [if_neg (by simp [Value.members?]), kind, Action.ofExcept_ok_bind, if_neg (by simp), other,
    Action.ofExcept_ok_bind, if_pos rfl]
  dsimp only
  rw [named]
  rfl

theorem handleMessage_of_other (invoke : Invoke) (session : Session)
    (noRequest : ∀ method identifier, ¬IsRequest (.object members) method identifier)
    (noNotification : ∀ method, ¬IsNotification (.object members) method) :
    ∃ ignored, handleMessage invoke (.object members) session =
      (.value .null,
        (session.noting (.logged (receipt (.object members)))).noting (.logged ignored)) := by
  have kind : Message.isRequest (.object members) = .ok false := by
    rw [isRequest_eq]
    cases named : (Value.object members).member? "method" with
    | none => rfl
    | some method =>
        cases numbered : (Value.object members).member? "id" with
        | none => rfl
        | some identifier =>
            cases versioned : (Value.object members).member? "jsonrpc" with
            | none => rfl
            | some version =>
                exact absurd ⟨named, numbered, version, versioned⟩ (noRequest method identifier)
  have other : Message.isNotification (.object members) = .ok false := by
    rw [isNotification_eq]
    cases named : (Value.object members).member? "method" with
    | none => rfl
    | some method =>
        cases numbered : (Value.object members).member? "id" with
        | none => exact absurd ⟨named, numbered⟩ (noNotification method)
        | some identifier => rfl
  let ignored : LogEntry := ⟨.debug, "notify_ls.server",
    "Ignoring unknown payload: " ++ (Value.object members).display, none⟩
  refine ⟨ignored, (Action.bind_of_value (record_apply _ _)).trans ?_⟩
  rw [if_neg (by simp [Value.members?]), kind, Action.ofExcept_ok_bind, if_neg (by simp), other,
    Action.ofExcept_ok_bind, if_neg (by simp)]
  rfl

/-! ## Responses

A response tells what the caller of the request would see. An abort is no outcome that a peer
could be told. -/

/-- What a caller of a request sees: that it fails, or its outcome. -/
def seen : Outcome RequestReport → Outcome Value
  | .value report =>
      match report.outcome with
      | .ok value => .value value
      | .error failure => .failed failure
  | .failed failure => .failed failure
  | .exhausted => .exhausted

/-- What a caller of a notification sees, once its ordinary failures are ignored. -/
def hushed : Outcome Unit → Outcome Value
  | .failed failure => if failure.isOrdinary then .value .null else .failed failure
  | .value () => .value .null
  | .exhausted => .exhausted

def toldCode : Failure → Value
  | .peer error => error.code
  | _ => .int (-32603)

def toldMessage : Failure → Value
  | .peer error => error.message
  | failure => .string (if failure.message = "" then failure.kind else failure.message)

def toldData : Failure → Option Value
  | .peer error => if error.data.isNull then none else some error.data
  | _ => none

/-- A response with an identifier that tells the peer an outcome, and nothing else. -/
structure Tells (identifier : Value) (outcome : Except Failure Value) (response : Value) :
    Prop where
  parts : ∃ members, response = .object members ∧ members.length = 3
  version : response.member? "jsonrpc" = some (.string "2.0")
  identifier : response.member? "id" = some identifier
  outcome : match outcome with
    | .ok value => response.member? "result" = some value
    | .error failure => ∃ error, response.member? "error" = some error ∧
        error.member? "code" = some (toldCode failure) ∧
        error.member? "message" = some (toldMessage failure) ∧
        error.member? "data" = toldData failure

private theorem tells_result (identifier value : Value) :
    Tells identifier (.ok value) (Message.resultResponse identifier value) := by
  constructor
  · exact ⟨_, rfl, rfl⟩
  · rfl
  · rfl
  · rfl

private theorem tells_failure (identifier : Value) (failure : Failure) :
    Tells identifier (.error failure) (Message.ofFailure identifier failure) := by
  cases failure with
  | peer error =>
      constructor
      · exact ⟨_, rfl, rfl⟩
      · rfl
      · rfl
      · refine ⟨_, rfl, ?_⟩
        rw [toldData]
        cases error.data.isNull <;> exact ⟨rfl, rfl, rfl⟩
  | _ =>
      constructor
      · exact ⟨_, rfl, rfl⟩
      · rfl
      · rfl
      · exact ⟨_, rfl, rfl, rfl, rfl⟩

/-- How a message that is a request ends, by what the caller of the request sees. An abort is no
outcome that a peer could be told. -/
inductive Told (identifier : Value) : Outcome Value → Outcome Value → Prop
  | result {value response : Value} (tells : Tells identifier (.ok value) response) :
      Told identifier (.value value) (.value response)
  | failure {failure : Failure} {response : Value} (ordinary : failure.isOrdinary = true)
      (tells : Tells identifier (.error failure) response) :
      Told identifier (.failed failure) (.value response)
  | aborted {failure : Failure} (abort : failure.isOrdinary = false) :
      Told identifier (.failed failure) (.failed failure)
  | exhausted : Told identifier .exhausted .exhausted

def SameOrLogged (session after : Session) : Prop :=
  after = session ∨ ∃ logged, after = session.noting (.logged logged)

theorem resultOf_apply {outcome : Outcome RequestReport}
    (came : request invoke method params none session = (outcome, after)) :
    resultOf invoke method params session = (seen outcome, after) := by
  rw [resultOf, Action.bind_apply, came]
  cases outcome with
  | failed failure => rfl
  | exhausted => rfl
  | value report =>
      rcases report with ⟨number, handled, outcome⟩
      cases outcome <;> rfl

theorem respondToRequest_told (identifier : Value) {outcome : Outcome RequestReport}
    (came : request invoke method params none session = (outcome, after)) :
    let result := respondToRequest invoke identifier method params session
    Told identifier (seen outcome) result.1 ∧ SameOrLogged after result.2 := by
  intro result
  have asked := resultOf_apply came
  have steps : result = Action.recover (Message.resultResponse identifier <$>
    resultOf invoke method params) _ session := rfl
  rw [steps, Action.recover_apply, ← bind_pure_comp, Action.bind_apply, asked]
  cases seen outcome with
  | value value => exact ⟨.result (tells_result identifier value), .inl rfl⟩
  | exhausted => exact ⟨.exhausted, .inl rfl⟩
  | failed failure =>
      dsimp only
      cases ordinary : failure.isOrdinary with
      | false => exact ⟨.aborted ordinary, .inl rfl⟩
      | true =>
          rw [if_pos rfl]
          have told := Told.failure ordinary (tells_failure identifier failure)
          cases failure with
          | peer error => exact ⟨told, .inl rfl⟩
          | _ => exact ⟨told, .inr ⟨_, rfl⟩⟩

theorem takeNotification_hushed {outcome : Outcome Unit}
    (came : notify invoke method params session = (outcome, after)) :
    let result := (do
      takeNotification invoke method params
      return .null : Action Session Value) session
    result.1 = hushed outcome ∧ SameOrLogged after result.2 := by
  intro result
  have steps : result = (Action.recover (notify invoke method params) _ >>= fun _ =>
    (return .null : Action Session Value)) session := rfl
  rw [steps, Action.bind_apply, Action.recover_apply, came]
  cases outcome with
  | value => exact ⟨rfl, .inl rfl⟩
  | exhausted => exact ⟨rfl, .inl rfl⟩
  | failed failure =>
      dsimp only
      cases ordinary : failure.isOrdinary with
      | false => exact ⟨by simp [hushed, ordinary], .inl rfl⟩
      | true =>
          rw [if_pos rfl]
          exact ⟨by simp [hushed, ordinary]; rfl, .inr ⟨_, rfl⟩⟩

/-! ## Agreement with calls -/

def Event.isLogged : Event → Bool
  | .logged _ => true
  | _ => false

/-- Two ends of one session that differ in nothing but what was logged before and after. -/
def DifferByLogs (session direct bridged : Session) : Prop :=
  ∃ earlier recent later, direct.history = recent ++ session.history ∧
    (∀ event ∈ later ++ earlier, event.isLogged = true) ∧
    bridged = direct.withHistory (later ++ recent ++ earlier ++ session.history)

private theorem Blind.differByLogs {α : Type} {action : Action Session α} (blind : Blind action)
    (session : Session) (logged : LogEntry) :
    ∃ last, action (session.noting (.logged logged)) = ((action session).1, last) ∧
      ∀ bridged, SameOrLogged last bridged → DifferByLogs session (action session).2 bridged := by
  rcases blind session with ⟨recent, grown, same⟩
  refine ⟨_, same (.logged logged :: session.history), ?_⟩
  rintro bridged (rfl | ⟨ended, rfl⟩)
  · refine ⟨[.logged logged], recent, [], grown, by simp [Event.isLogged], ?_⟩
    simp
  · refine ⟨[.logged logged], recent, [.logged ended], grown, by simp [Event.isLogged], ?_⟩
    simp [noting, withHistory]

/-- A message of the peer does to a session what the call does that it asks for, but for logs, and
the response tells what the caller would see. The parameters of a message that are no object count
as none. A message that asks for no call changes nothing. -/
theorem handleMessage_agrees (fuel : Nat) (session : Session)
    (members : List (String × Value)) :
    let message := Value.object members
    let params := match message.member? "params" with
      | some (.object members) => Value.object members
      | _ => .null
    let bridged := handleMessage (run fuel) message session
    (∀ method identifier, IsRequest message method identifier →
      let direct := request (run fuel) method params none session
      Told identifier (seen direct.1) bridged.1 ∧ DifferByLogs session direct.2 bridged.2) ∧
    (∀ method, IsNotification message method →
      let direct := notify (run fuel) method params session
      bridged.1 = hushed direct.1 ∧ DifferByLogs session direct.2 bridged.2) ∧
    ((∀ method identifier, ¬IsRequest message method identifier) →
      (∀ method, ¬IsNotification message method) →
        bridged.1 = .value .null ∧ DifferByLogs session session bridged.2) := by
  intro message params bridged
  refine ⟨?_, ?_, ?_⟩
  · intro method identifier isRequest direct
    have applied := handleMessage_of_request (run fuel) session isRequest
    rcases (request_blind fuel method params none).differByLogs session
      (receipt message) with ⟨last, came, differ⟩
    have told := respondToRequest_told identifier came
    have same : bridged = _ := applied
    rw [same]
    exact ⟨told.1, differ _ told.2⟩
  · intro method isNotification direct
    have applied := handleMessage_of_notification (run fuel) session isNotification
    rcases (notify_blind fuel method params).differByLogs session
      (receipt message) with ⟨last, came, differ⟩
    have hushed := takeNotification_hushed came
    have same : bridged = _ := applied
    rw [same]
    exact ⟨hushed.1, differ _ hushed.2⟩
  · intro noRequest noNotification
    rcases handleMessage_of_other (run fuel) session noRequest noNotification with
      ⟨ignored, applied⟩
    have same : bridged = _ := applied
    rw [same]
    refine ⟨rfl, [.logged (receipt message)], [], [.logged ignored], rfl, ?_, rfl⟩
    simp [Event.isLogged]

/-- A strict session does not know the method that a request with a null identifier asks for. -/
theorem handleMessage_agrees_of_unknown :
    let session : Session := { configuration := { strictMethods := true } }
    let failure := Failure.peer (.unknownMethod (.string "m"))
    let message := Value.object
      [("jsonrpc", .string "2.0"), ("id", .null), ("method", .string "m")]
    ∃ response, (handleMessage (run 1) message session).1 = .value response ∧
      Tells .null (.error failure) response := by
  intro session failure message
  have agrees := handleMessage_agrees 1 session
    [("jsonrpc", .string "2.0"), ("id", .null), ("method", .string "m")]
  have told := (agrees.1 (.string "m") .null ⟨rfl, rfl, _, rfl⟩).1
  have direct : (request (run 1) (.string "m") .null none session).1 = .failed failure := by
    with_unfolding_all rfl
  change Told .null (seen (request (run 1) (.string "m") .null none session).1)
    (handleMessage (run 1) message session).1 at told
  rw [direct] at told
  generalize (handleMessage (run 1) message session).1 = bridged at told
  cases told with
  | failure ordinary tells => exact ⟨_, rfl, tells⟩
  | aborted abort => cases abort

end RpcSession.Session
