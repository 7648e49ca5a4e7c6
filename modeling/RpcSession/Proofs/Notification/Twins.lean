import RpcSession.Proofs.Likeness.Kept

/-!
# One call asked and told

Two sessions are twins while one handles a call as a request and the other handles the same call as
a notification. They differ in what they hold of the answer to that call, and in what they log of
it. No code of the host sees the difference, as long as nobody tries to answer the call with the end
of a producer, which only the request refuses.
-/

namespace RpcSession.Session

open Likeness

variable {α : Type} {number : Int} {one other : List Event} {first second : Session}
variable {invoke : Invoke}

/-! ## Twins -/

/-- Whether an event is work for a call: neither a line of the log nor the call's conclusion. -/
def Event.isWork (number : Int) : Event → Bool
  | .logged _ => false
  | .concluded identifier _ => identifier != number
  | _ => true

/-- Sessions that handle one call, since their histories were `one` and `other`. The first was asked
and the second was told. -/
structure Twins (number : Int) (one other : List Event) (first second : Session) : Prop where
  taken : number < first.identifiers.next
  rest : ∃ exchanges history, second = { first with exchanges, history }
  others : ∀ identifier, identifier ≠ number →
    second.exchange? identifier = first.exchange? identifier
  asked : ∃ reception, first.reception? number = some reception ∧ reception ≠ .unwanted
  told : second.reception? number = some .unwanted
  unheld : ∀ name handled, (name, .request number handled) ∉ first.names
  worked : ∃ recent recent', first.history = recent ++ one ∧ second.history = recent' ++ other ∧
    recent.filter (·.isWork number) = recent'.filter (·.isWork number)

/-- Whether someone tried to answer a call with the end of a producer. -/
def Event.isRefusal (number : Int) : Event → Bool
  | .answered responder answer =>
      responder == .exchange number && !(Answer.outcome answer).isOk
  | _ => false

def IsSpoiled (number : Int) (other history : List Event) : Prop :=
  ∃ recent, history = recent ++ other ∧ recent.any (·.isRefusal number) = true

def twins (number : Int) (one other : List Event) : Likeness where
  related := Twins number one other
  own identifier := identifier ≠ number
  spoiled := IsSpoiled number other
  spoiled_append := by
    rintro recent _ ⟨older, rfl, refused⟩
    exact ⟨recent ++ older, (List.append_assoc _ _ _).symm, by simp [refused]⟩
  rest twins := twins.rest

namespace Twins

theorem next_eq (twins : Twins number one other first second) :
    second.identifiers.next = first.identifiers.next := by
  rcases twins.rest with ⟨exchanges, history, same⟩
  rw [same]

theorem names_eq (twins : Twins number one other first second) : second.names = first.names := by
  rcases twins.rest with ⟨exchanges, history, same⟩
  rw [same]

theorem stopped_eq (twins : Twins number one other first second) :
    second.lifecycle.stopped = first.lifecycle.stopped := by
  rcases twins.rest with ⟨exchanges, history, same⟩
  rw [same]

theorem changing {change : Session → Session} (twins : Twins number one other first second)
    (apart : IsApart change)
    (identifiers : ∀ session, (change session).identifiers = session.identifiers)
    (names : ∀ session, (change session).names = session.names) :
    Twins number one other (change first) (change second) := by
  have exchange (session : Session) (identifier : Int) :
      (change session).exchange? identifier = session.exchange? identifier := by
    rw [exchange?, exchange?, apart.exchanges]
  have reception (session : Session) (identifier : Int) :
      (change session).reception? identifier = session.reception? identifier := by
    rw [reception?, reception?, exchange]
  rcases twins.rest with ⟨exchanges, history, same⟩
  constructor
  · rw [identifiers]
    exact twins.taken
  · refine ⟨exchanges, history, ?_⟩
    rw [same, apart]
  · intro identifier different
    rw [exchange, exchange]
    exact twins.others identifier different
  · rw [reception]
    exact twins.asked
  · rw [reception]
    exact twins.told
  · rw [names]
    exact twins.unheld
  · rw [apart.history, apart.history]
    exact twins.worked

theorem noting (twins : Twins number one other first second) (event : Event) :
    Twins number one other (first.noting event) (second.noting event) := by
  rcases twins.rest with ⟨exchanges, history, same⟩
  rcases twins.worked with ⟨recent, recent', grown, grown', worked⟩
  refine ⟨twins.taken, ⟨exchanges, event :: history, ?_⟩, twins.others, twins.asked, twins.told,
    twins.unheld, event :: recent, event :: recent', congrArg (event :: ·) grown,
    congrArg (event :: ·) grown', ?_⟩
  · rw [same]
    rfl
  · rw [List.filter_cons, List.filter_cons, worked]

theorem noting_first (twins : Twins number one other first second) {event : Event}
    (aside : event.isWork number = false) :
    Twins number one other (first.noting event) second := by
  rcases twins.rest with ⟨exchanges, history, same⟩
  rcases twins.worked with ⟨recent, recent', grown, grown', worked⟩
  refine ⟨twins.taken, ⟨exchanges, history, same⟩, twins.others, twins.asked, twins.told,
    twins.unheld, event :: recent, recent', congrArg (event :: ·) grown, grown', ?_⟩
  rw [List.filter_cons, aside, if_neg (by simp), worked]

theorem noting_second (twins : Twins number one other first second) {event : Event}
    (aside : event.isWork number = false) :
    Twins number one other first (second.noting event) := by
  rcases twins.rest with ⟨exchanges, history, same⟩
  rcases twins.worked with ⟨recent, recent', grown, grown', worked⟩
  refine ⟨twins.taken, ⟨exchanges, event :: history, ?_⟩, twins.others, twins.asked, twins.told,
    twins.unheld, recent, event :: recent', grown, congrArg (event :: ·) grown', ?_⟩
  · rw [same]
    rfl
  · rw [List.filter_cons, aside, if_neg (by simp), worked]

theorem numbering (twins : Twins number one other first second) (use : IdentifierUse) :
    Twins number one other (first.numbering use) (second.numbering use) := by
  have noted := twins.noting (.numbered use first.identifiers.next)
  rcases twins.rest with ⟨exchanges, history, same⟩
  refine ⟨Int.lt_trans twins.taken (Int.lt_succ _),
    ⟨exchanges, .numbered use first.identifiers.next :: history, ?_⟩, noted.others, noted.asked,
    noted.told, noted.unheld, ?_⟩
  · rw [same]
    rfl
  · rw [Session.numbering, Session.numbering, twins.next_eq]
    exact noted.worked

theorem naming (twins : Twins number one other first second) (name : String)
    {reference : Reference} (free : ∀ handled, reference ≠ .request number handled) :
    Twins number one other { first with names := (name, reference) :: first.names }
      { second with names := (name, reference) :: second.names } := by
  rcases twins.rest with ⟨exchanges, history, same⟩
  refine ⟨twins.taken, ⟨exchanges, history, by rw [same]⟩, twins.others, twins.asked, twins.told,
    ?_, twins.worked⟩
  intro held handled member
  rcases List.mem_cons.mp member with new | old
  · exact free handled (Prod.mk.inj new).2.symm
  · exact twins.unheld held handled old

theorem settling (twins : Twins number one other first second) {identifier : Int}
    (own : identifier ≠ number) (outcome : Except Failure Value) :
    Twins number one other (first.settling identifier outcome)
      (second.settling identifier outcome) := by
  have untouched (session : Session) :
      (session.settling identifier outcome).reception? number = session.reception? number := by
    rw [reception?_settling]
    simp [own.symm]
  rcases twins.rest with ⟨exchanges, history, same⟩
  refine ⟨twins.taken, ⟨(second.settling identifier outcome).exchanges, history, ?_⟩, ?_, ?_, ?_,
    twins.unheld, twins.worked⟩
  · rw [same]
    rfl
  · intro another different
    rw [exchange?_settling, exchange?_settling, twins.others another different]
  · rw [untouched]
    exact twins.asked
  · rw [untouched]
    exact twins.told

theorem settling_first (twins : Twins number one other first second)
    (outcome : Except Failure Value) :
    Twins number one other (first.settling number outcome) second := by
  rcases twins.rest with ⟨exchanges, history, same⟩
  rcases twins.asked with ⟨reception, held, _⟩
  refine ⟨twins.taken, ⟨exchanges, history, ?_⟩, ?_, ⟨.settled outcome, ?_, ?_⟩, twins.told,
    twins.unheld, twins.worked⟩
  · rw [same]
    rfl
  · intro identifier different
    rw [exchange?_settling, twins.others identifier different]
    simp [different]
  · rw [reception?_settling, held]
    simp
  · exact Reception.noConfusion

theorem opening (twins : Twins number one other first second) {exchange : Exchange}
    (fresh : exchange.identifier ≠ number) :
    Twins number one other { first with exchanges := exchange :: first.exchanges }
      { second with exchanges := exchange :: second.exchanges } := by
  have untouched (session : Session) :
      Session.reception? { session with exchanges := exchange :: session.exchanges } number =
        session.reception? number := by
    simp [reception?, exchange?, fresh]
  rcases twins.rest with ⟨exchanges, history, same⟩
  refine ⟨twins.taken, ⟨exchange :: second.exchanges, history, ?_⟩, ?_, ?_, ?_, twins.unheld,
    twins.worked⟩
  · rw [same]
  · intro identifier different
    have others := twins.others identifier different
    unfold exchange? at others ⊢
    rw [List.find?_cons, List.find?_cons, others]
  · rw [untouched]
    exact twins.asked
  · rw [untouched]
    exact twins.told

theorem dispatching (twins : Twins number one other first second) (method : Value)
    (answerable : Bool) :
    Twins number one other (first.dispatching method answerable)
      (second.dispatching method answerable) := by
  have numbered := (twins.noting (.arrived method answerable true)).numbering
    (if answerable then .request else .notification)
  have fresh : first.identifiers.next ≠ number := (Int.ne_of_lt twins.taken).symm
  unfold Session.dispatching Session.opening
  rw [twins.next_eq]
  exact (numbered.opening fresh).noting _

/-! ## Answers to the call -/

theorem delivering_first (invoke : Invoke) (twins : Twins number one other first second)
    (answer : Answer) :
    Twins number one other (deliver invoke (.exchange number) answer first).2 second := by
  rcases deliver_cases invoke first number answer with
    ⟨settled, outcome, settles, same⟩ | ⟨_, same | ⟨entry, same⟩ | ⟨_, _, same⟩⟩ <;> rw [same]
  · cases (settlement?_waiting settles).1
    exact twins.settling_first outcome
  · exact twins
  · exact twins.noting_first rfl
  · exact twins

theorem delivers (invoke : Invoke) {answer : Answer} {outcome : Except Failure Value}
    (accepted : Answer.outcome answer = .ok outcome) (session : Session) (number : Int) :
    (deliver invoke (.exchange number) answer session).1 = .value () := by
  rcases deliver_cases invoke session number answer with
    ⟨settled, outcome, _, same⟩ | ⟨_, same | ⟨entry, same⟩ | ⟨failure, refused, _⟩⟩
  · rw [same]
  · rw [same]
  · rw [same]
  · rw [accepted] at refused
    cases refused

end Twins

/-! ## Steps of twins

Whatever the sessions do is the same to both, except that an answer to the call settles it for the
one that was asked. -/

namespace Twins

variable (number one other)

theorem record_respects (event : Event) : (twins number one other).Respects (record event) :=
  ⟨fun _ => List.suffix_cons _ _, fun related => .inr ⟨rfl, Twins.noting related event⟩⟩

theorem modify_respects {change : Session → Session} (apart : IsApart change)
    (identifiers : ∀ session, (change session).identifiers = session.identifiers)
    (names : ∀ session, (change session).names = session.names) :
    (twins number one other).Respects (Action.modify change) := by
  refine ⟨fun session => ⟨[], (apart.history session).symm⟩, fun related => .inr ⟨rfl, ?_⟩⟩
  exact Twins.changing related apart identifiers names

theorem takeIdentifier_respects (use : IdentifierUse) :
    (twins number one other).Respects (takeIdentifier use) := by
  refine ⟨fun _ => List.suffix_cons _ _, fun {first second} related => .inr ⟨?_, ?_⟩⟩
  · exact congrArg Outcome.value (Twins.next_eq related).symm
  · exact Twins.numbering related use

theorem settle_respects {identifier : Int} (own : identifier ≠ number)
    (outcome : Except Failure Value) :
    (twins number one other).Respects (settle identifier outcome) :=
  ⟨fun _ => List.suffix_refl _, fun related => .inr ⟨rfl, Twins.settling related own outcome⟩⟩

theorem deliver_respects {identifier : Int} (own : identifier ≠ number) (answer : Answer) :
    (twins number one other).Respects (deliver invoke (.exchange identifier) answer) := by
  unfold deliver
  dsimp only
  refine .read (fun session => ?_) fun related => by rw [Twins.others related identifier own]
  split
  · exact .of_pure ()
  · split
    · exact record_respects number one other _
    · exact record_respects number one other _
    · exact (Respects.ofExcept _).bind fun outcome => settle_respects number one other own outcome

theorem conclude_respects {identifier : Int} (own : identifier ≠ number) :
    (twins number one other).Respects (conclude identifier) := by
  unfold conclude
  refine .read (fun session => ?_) fun related => by
    rw [outcome?, outcome?, Twins.others related identifier own]
  split
  · exact .of_pure _
  · exact (settle_respects number one other own _).bind fun _ => .of_pure _

theorem respond_respects (identifier : Int) (answer : Answer) :
    (twins number one other).Respects (respond invoke (.exchange identifier) answer) := by
  by_cases own : identifier = number
  · subst own
    refine ⟨fun _ => (respond_exchange_moves invoke identifier answer).grows (Int.le_refl _),
      fun {first second} related => ?_⟩
    rw [respond_apply, respond_apply]
    have answered := Twins.noting related (.answered (.exchange identifier) answer)
    have told := Twins.delivering_first invoke answered answer
    rcases deliver_unwanted invoke answered.told answer with ⟨entry, dropped⟩
    rw [dropped]
    cases given : Answer.outcome answer with
    | error failure =>
        rcases related.worked with ⟨_, recent, _, grown, _⟩
        refine .inl ⟨.logged entry :: .answered (.exchange identifier) answer :: recent,
          congrArg (_ :: _ :: ·) grown, ?_⟩
        simp [Event.isRefusal, given, Except.isOk, Except.toBool]
    | ok outcome => exact .inr ⟨delivers invoke given _ _, told.noting_second rfl⟩
  · exact (record_respects number one other _).bind fun _ =>
      deliver_respects number one other own answer

end Twins

/-! ## Calls of twins -/

namespace Twins

variable (number one other)

/-- No name is that of the request that one of them handles, so what is known of it is not seen. -/
theorem findRequest_respects (name : String) :
    (twins number one other).Respects (findRequest name) := by
  refine ⟨fun session => ⟨[], congrArg Session.history (findRequest_state name session).symm⟩,
    fun {first second} related => .inr ⟨?_, ?_⟩⟩
  · have names : second.reference? name Reference.request? =
        first.reference? name Reference.request? := by
      rw [reference?, reference?, Twins.names_eq related]
    rw [findRequest_apply, findRequest_apply, reportUnder, reportUnder, names]
    cases found : first.reference? name Reference.request? with
    | none => rfl
    | some held =>
        rcases held with ⟨identifier, handled⟩
        have own : identifier ≠ number := by
          rintro rfl
          rcases List.exists_of_findSome?_eq_some found with ⟨⟨held, reference⟩, member, named⟩
          cases reference with
          | request number handled =>
              have equal : number = identifier := by simp_all [Reference.request?]
              rw [equal] at member
              exact Twins.unheld related held handled member
          | _ => simp [Reference.request?] at named
        have same : second.outcome? identifier = first.outcome? identifier := by
          rw [outcome?, outcome?, Twins.others related identifier own]
        dsimp only [Option.bind_eq_bind, Option.bind_some]
        rw [same]
  · rw [findRequest_state, findRequest_state]
    exact related

theorem finishRequest_respects {identifier : Int} (own : identifier ≠ number)
    (onAcknowledge : Option (Int → Program)) (name : Option String) (handled : Bool) :
    (twins number one other).Respects (do
      let report ← finishRequest identifier onAcknowledge handled
      if let some name := name then bindName name (.request report.identifier report.handled)
      return Reply.request report) := by
  have ending (outcome : Except Failure Value) : (twins number one other).Respects (do
      if let some name := name then bindName name (.request identifier handled)
      return Reply.request { identifier, handled, outcome }) := by
    cases name with
    | none => exact .of_pure _
    | some name =>
        refine Respects.bind ⟨fun _ => List.suffix_refl _, fun related => .inr ⟨rfl, ?_⟩⟩
          fun _ => .of_pure _
        refine Twins.naming related name ?_
        rintro other same
        exact own (Reference.request.inj same).1
  cases onAcknowledge with
  | none =>
      simp only [finishRequest, bind_assoc, pure_bind]
      exact (conclude_respects number one other own).bind fun outcome =>
        (record_respects number one other _).bind fun _ => ending outcome
  | some callback =>
      simp only [finishRequest, bind_assoc, pure_bind]
      refine (conclude_respects number one other own).bind fun outcome =>
        (record_respects number one other _).bind fun _ =>
          (record_respects number one other _).bind fun _ =>
            Respects.bind ?_ fun _ => ending outcome
      exact modify_respects number one other (fun _ _ _ => rfl) (fun _ => rfl) fun _ => rfl

variable {fuel : Nat} {answerable : Bool}

theorem accepting {next : Int × Bool → Action Session α} (method params : Value)
    (leads : (twins number one other).Leads (run fuel) answerable)
    (goesOn : ∀ identifier handled, identifier ≠ number →
      (twins number one other).Respects (next (identifier, handled)))
    (related : Twins number one other first second) :
    let taken := accept (run fuel) method params answerable >>= next
    IsSpoiled number other (taken second).2.history ∨
      (taken first).1 = (taken second).1 ∧
        Twins number one other (taken first).2 (taken second).2 := by
  intro taken
  have stopping := Twins.stopped_eq related
  simp only [taken, Action.bind_apply]
  cases stopped : first.lifecycle.stopped with
  | true =>
      rw [accept_of_stopped _ method params answerable stopped,
        accept_of_stopped _ method params answerable (stopping.trans stopped)]
      exact .inr ⟨rfl, Twins.noting related _⟩
  | false =>
      have own : first.identifiers.next ≠ number := (Int.ne_of_lt (Twins.taken related)).symm
      rw [accept_of_live _ method params answerable stopped,
        accept_of_live _ method params answerable (stopping.trans stopped),
        ← Action.bind_apply, ← Action.bind_apply, bind_assoc, bind_assoc, Twins.next_eq related]
      exact ((leads method params _ own).bind fun handled => goesOn _ handled own).keeps
        (Twins.dispatching related method answerable)

theorem upheld : (twins number one other).Upheld where
  noting event _ := record_respects number one other event
  changing change aside :=
    modify_respects number one other aside.apart aside.identifiers aside.names
  numbering use _ := takeIdentifier_respects number one other use
  naming name reference plain := by
    refine ⟨fun _ => List.suffix_refl _, fun related => .inr ⟨rfl, Twins.naming related name ?_⟩⟩
    rintro handled rfl
    exact plain trivial
  finding name := findRequest_respects number one other name
  terminating := terminate_respects (record_respects number one other)
    (modify_respects number one other (fun _ _ _ => rfl) (fun _ => rfl) fun _ => rfl)
  responding invoke identifier answer := respond_respects number one other identifier answer
  delivering invoke identifier own answer := deliver_respects number one other own answer
  starting fuel admitted := start_respects (record_respects number one other)
    (takeIdentifier_respects number one other .session)
    (fun _ => modify_respects number one other (fun _ _ _ => rfl) (fun _ => rfl) fun _ => rfl)
    admitted
  requesting fuel leads method params onAcknowledge name := by
    refine ⟨fun _ => (perform_moves fuel _).grows (Int.le_refl _), fun {first second} related => ?_⟩
    have steps : perform fuel (.request method params onAcknowledge name) = _ :=
      bind_assoc (accept (run fuel) method params true) _ _
    rw [steps]
    exact accepting number one other method params leads (fun identifier handled own =>
      finishRequest_respects number one other own onAcknowledge name handled) related
  notifying fuel leads method params :=
    ⟨fun _ => (notify_moves (run_moves fuel) method params).grows (Int.le_refl _),
      accepting number one other method params leads fun _ _ _ => .of_pure ()⟩

end Twins

end RpcSession.Session
