import RpcSession.Proofs.Movement.Timers

/-!
# Answers and fan-outs as series of changes

Host code answers an exchange in one change, together with what the answer settles. A fan-out
calls the receivers that a method has when it begins, whatever they do meanwhile.
-/

namespace RpcSession.Session

variable {since : Int} {session : Session} {invoke : Invoke}

/-! ## Answers -/

/-- An answer delivered to an exchange settles it, or else is logged, refused or dropped. -/
theorem deliver_cases (invoke : Invoke) (session : Session) (identifier : Int)
    (answer : Answer) :
    let responder := Responder.exchange identifier
    (∃ settled outcome, session.settlement? responder answer = some (settled, outcome) ∧
      deliver invoke responder answer session = (.value (), session.settling settled outcome)) ∨
    (session.settlement? responder answer = none ∧
      (deliver invoke responder answer session = (.value (), session) ∨
        (∃ entry, deliver invoke responder answer session =
          (.value (), session.noting (.logged entry))) ∨
        ∃ failure, Answer.outcome answer = .error failure ∧
          deliver invoke responder answer session = (.failed failure, session))) := by
  unfold deliver settlement?
  dsimp only
  rw [Action.get_bind_apply]
  cases found : session.exchange? identifier with
  | none => exact .inr ⟨rfl, .inl rfl⟩
  | some exchange =>
      rcases exchange with ⟨number, method, reception⟩
      cases reception with
      | unwanted => exact .inr ⟨rfl, .inr (.inl ⟨_, rfl⟩)⟩
      | settled outcome => exact .inr ⟨rfl, .inr (.inl ⟨_, rfl⟩)⟩
      | awaited =>
          cases accepted : Answer.outcome answer with
          | ok outcome => exact .inl ⟨identifier, outcome, rfl, rfl⟩
          | error failure => exact .inr ⟨rfl, .inr (.inr ⟨failure, rfl, rfl⟩)⟩

theorem deliver_history (invoke : Invoke) (session : Session) (identifier : Int)
    (answer : Answer) :
    ∃ recent, (deliver invoke (.exchange identifier) answer session).2.history =
        recent ++ session.history ∧ ∀ event ∈ recent, event.isRemark = true := by
  rcases deliver_cases invoke session identifier answer with
    ⟨_, _, _, delivered⟩ | ⟨_, delivered | ⟨entry, delivered⟩ | ⟨_, _, delivered⟩⟩ <;>
    rw [delivered]
  · exact ⟨[], rfl, by simp⟩
  · exact ⟨[], rfl, by simp⟩
  · exact ⟨[.logged entry], rfl, by simp [Event.isRemark]⟩
  · exact ⟨[], rfl, by simp⟩

theorem settlement?_waiting {responder : Responder} {answer : Answer} {identifier : Int}
    {outcome : Except Failure Value}
    (settles : session.settlement? responder answer = some (identifier, outcome)) :
    responder = .exchange identifier ∧ session.outcome? identifier = none := by
  unfold settlement? at settles
  split at settles
  · cases settles
  · split at settles
    · rename_i found accepted
      cases settles
      exact ⟨rfl, by simp [outcome?, found]⟩
    · cases settles

theorem deliver_moves (invoke : Invoke) {identifier : Int} (own : since ≤ identifier)
    (answer : Answer) :
    Moves since session (deliver invoke (.exchange identifier) answer) := by
  rcases deliver_cases invoke session identifier answer with
    ⟨settled, outcome, settles, result⟩ | ⟨_, result | ⟨entry, result⟩ | ⟨failure, _, result⟩⟩
  · rcases settlement?_waiting settles with ⟨same, waiting⟩
    cases same
    apply Moves.of_change
    rw [result]
    exact .settled identifier outcome own waiting
  · exact .of_eq (by rw [result])
  · apply Moves.of_change
    rw [result]
    exact .remarked _ rfl
  · exact .of_eq (by rw [result])

theorem respond_apply (invoke : Invoke) (responder : Responder) (answer : Answer)
    (session : Session) :
    respond invoke responder answer session =
      deliver invoke responder answer (session.noting (.answered responder answer)) := rfl

theorem respond_state (invoke : Invoke) (session : Session) (identifier : Int)
    (answer : Answer) :
    let responder := Responder.exchange identifier
    (respond invoke responder answer session).2 = session.answering responder answer ∨
      ∃ entry, (respond invoke responder answer session).2 =
        (session.answering responder answer).noting (.logged entry) := by
  intro responder
  have same : (session.noting (.answered responder answer)).settlement? responder answer =
      session.settlement? responder answer := rfl
  rw [respond_apply, answering, ← same]
  rcases deliver_cases invoke (session.noting (.answered responder answer)) identifier answer
    with ⟨identifier, outcome, settles, result⟩ |
      ⟨dropped, result | ⟨entry, result⟩ | ⟨failure, _, result⟩⟩
  · exact .inl (by rw [result, settles])
  · exact .inl (by rw [result, dropped])
  · exact .inr ⟨entry, by rw [result, dropped]⟩
  · exact .inl (by rw [result, dropped])

/-- Answering an exchange runs no code of the host. -/
theorem respond_exchange_moves (invoke : Invoke) (identifier : Int) (answer : Answer) :
    Moves since session (respond invoke (.exchange identifier) answer) := by
  intro _
  have answered : Changes since session (session.answering (.exchange identifier) answer) :=
    .single (.answered (.exchange identifier) answer)
  rcases respond_state invoke session identifier answer with state | ⟨entry, state⟩
  · rw [state]
    exact answered
  · rw [state]
    exact answered.tail (.remarked _ rfl)

theorem respond_moves (moving : Invoke.Moves invoke) (responder : Responder) (answer : Answer) :
    Moves since session (respond invoke responder answer) := by
  cases responder with
  | exchange identifier => exact respond_exchange_moves invoke identifier answer
  | host index =>
      apply Moves.step (.answered (.host index) answer) (respond_apply invoke _ _ session)
      apply Moves.get
      split
      · exact .pure ()
      · exact (moving _ _ _).seq fun _ _ => .pure ()

/-! ## Fan-outs -/

theorem runReceiver_moves (moving : Invoke.Moves invoke) (receiver : Receiver) (params : Value)
    (responder : Responder) :
    Moves since session (runReceiver invoke receiver params responder) := by
  cases receiver with
  | host handler => exact moving _ _ _
  | indexing files delay interval draw onFinish =>
      exact (receiveIndexing_moves moving _ _ _ _ _).seq fun _ _ => .pure _

theorem finishReceiver_moves (moving : Invoke.Moves invoke) (params : Value)
    {responder : Responder} (own : Responder.IsSince since responder) (subscription : Int)
    (receiver : Receiver) :
    Moves since session (finishReceiver invoke params responder subscription receiver) := by
  apply (runReceiver_moves moving _ _ _).attempt.seq
  intro outcome middle
  apply Moves.modify (.returned subscription responder outcome own)
  cases outcome with
  | error failure => exact .fail failure
  | ok result =>
      rw [Action.ofExcept_ok_bind]
      split
      · exact respond_moves moving _ _
      · exact .pure ()

theorem callReceiver_apply (invoke : Invoke) (method : String) (params : Value)
    (responder : Responder) (subscription : Int) (receiver : Receiver) (session : Session) :
    callReceiver invoke method params responder subscription receiver session =
      finishReceiver invoke params responder subscription receiver
        (session.noting (.called subscription method params responder)) := rfl

theorem callReceiver_moves (moving : Invoke.Moves invoke) (method : String) (params : Value)
    {responder : Responder} (own : Responder.IsSince since responder) (subscription : Int)
    (receiver : Receiver) :
    Moves since session (callReceiver invoke method params responder subscription receiver) :=
  .step (.called subscription method params responder own) (callReceiver_apply ..)
    (finishReceiver_moves moving params own subscription receiver)

theorem fanOut_moves (moving : Invoke.Moves invoke) (method : String) (params : Value)
    {responder : Responder} (own : Responder.IsSince since responder)
    (receivers : List (Int × Receiver)) :
    Moves since session (fanOut invoke method params responder receivers) := by
  induction receivers generalizing session with
  | nil => exact .pure _
  | cons entry receivers induction =>
      rcases entry with ⟨subscription, receiver⟩
      apply (callReceiver_moves moving method params own subscription receiver).attempt.seq
      intro result middle
      cases result with
      | ok => exact induction
      | error failure =>
          dsimp only
          split
          · exact (log_moves _ _ _ _).seq fun _ _ => induction.seq fun _ _ => .pure _
          · exact .fail failure

theorem dispatch_moves (moving : Invoke.Moves invoke) (method : String) (params : Value)
    {responder : Responder} (own : Responder.IsSince since responder) :
    Moves since session (dispatch invoke method params responder) := by
  apply Moves.get
  split
  · exact (log_moves _ _ _).seq fun _ _ => .pure _
  · apply (fanOut_moves moving method params own _).seq
    intro first after
    cases first with
    | none => exact .pure _
    | some failure => exact .fail failure

/-! ## Routes -/

theorem ignoreMethod_moves (method : Value) : Moves since session (ignoreMethod method) := by
  apply Moves.get
  split
  · exact .fail _
  · exact log_moves _ _ _

theorem isSince_exchange {identifier : Int} (own : since ≤ identifier) :
    Responder.IsSince since (.exchange identifier) := by
  intro other same
  cases same
  exact own

theorem exists_isSince (responder : Responder) (bound : Int) :
    ∃ since, since ≤ bound ∧ Responder.IsSince since responder := by
  cases responder with
  | host index =>
      refine ⟨bound, Int.le_refl _, ?_⟩
      intro identifier same
      cases same
  | exchange number =>
      refine ⟨min bound number, Int.min_le_left _ _, ?_⟩
      intro identifier same
      cases same
      exact Int.min_le_right _ _

theorem route_of_custom (invoke : Invoke) {name : String} (params : Value) (answerable : Bool)
    (identifier : Int) (custom : name ≠ "initialize" ∧ name ≠ "exit") :
    route invoke (.string name) params answerable identifier = (do
      if (← Action.get).registry.hasReceivers name then
        let params := if params.isNull then .object [] else params
        Action.recover (do let _ ← dispatch invoke name params (.exchange identifier))
          fun failure =>
            if answerable then
              deliver invoke (.exchange identifier) { complaint := some (.failure failure) }
            else Action.fail failure
        return true
      else
        ignoreMethod (.string name)
        return false) := by
  unfold route
  dsimp only
  split
  · contradiction
  · contradiction
  · exact absurd (Value.string.inj ‹_›) custom.1
  · exact absurd (Value.string.inj ‹_›) custom.2
  · rename_i same
    cases same
    rfl
  · rename_i other
    exact absurd rfl (other name)

def IsDispatched (session : Session) (method : Value) : Prop :=
  ∃ name, method = .string name ∧ (name ≠ "initialize" ∧ name ≠ "exit") ∧
    session.registry.hasReceivers name = true

/-- A call that goes to no receivers can settle its exchange only by answering it. -/
theorem route_aside_moves (invoke : Invoke) {method : Value} (params : Value) (answerable : Bool)
    (identifier : Int) (aside : ¬session.IsDispatched method) :
    Moves since session (route invoke method params answerable identifier) := by
  unfold route
  dsimp only
  split
  · exact .fail _
  · exact .fail _
  · apply Moves.get
    exact (respond_exchange_moves invoke _ _).seq fun _ _ => .pure _
  · apply terminate_moves.seq
    intro _ stopped
    exact (respond_exchange_moves invoke _ _).seq fun _ _ => .pure _
  · rename_i name first second
    apply Moves.get
    split
    · rename_i has
      refine absurd ⟨name, rfl, ⟨?_, ?_⟩, has⟩ aside
      · rintro rfl
        exact first rfl
      · rintro rfl
        exact second rfl
    · exact (ignoreMethod_moves _).seq fun _ _ => .pure _
  · exact (ignoreMethod_moves _).seq fun _ _ => .pure _

theorem route_moves (moving : Invoke.Moves invoke) (method params : Value) (answerable : Bool)
    {identifier : Int} (own : since ≤ identifier) :
    Moves since session (route invoke method params answerable identifier) := by
  by_cases dispatched : session.IsDispatched method
  · rcases dispatched with ⟨name, rfl, custom, has⟩
    rw [route_of_custom invoke params answerable identifier custom]
    apply Moves.get
    rw [if_pos has]
    refine .seq (.recover ?_ ?_) fun _ _ => .pure _
    · exact (dispatch_moves moving name _ (isSince_exchange own)).seq fun _ _ => .pure _
    · intro failure middle
      split
      · exact deliver_moves invoke own _
      · exact .fail failure
  · exact route_aside_moves invoke params answerable identifier dispatched

end RpcSession.Session
