import RpcSession.Proofs.Movement.Dispatch

/-!
# Exchanges under way

As long as an exchange is under way, what the session holds of its answer is what the history
says: it awaits one as long as nobody gave one, and then it is settled by the first. Code that was
entered after the exchange was opened keeps that, and calls none of its receivers.
-/

namespace RpcSession.Session

variable {since identifier : Int} {session after : Session} {answerable : Bool}

def reception? (session : Session) (identifier : Int) : Option Reception :=
  (session.exchange? identifier).map (·.reception)

theorem exchange?_of_reception? {reception : Reception}
    (received : session.reception? identifier = some reception) :
    ∃ number method, session.exchange? identifier = some ⟨number, method, reception⟩ := by
  rcases Option.map_eq_some_iff.mp received with ⟨⟨number, method, _⟩, found, rfl⟩
  exact ⟨number, method, found⟩

theorem outcome?_eq (session : Session) (identifier : Int) :
    session.outcome? identifier = match session.reception? identifier with
      | some (.settled outcome) => some outcome
      | _ => none := by
  unfold outcome? reception?
  cases session.exchange? identifier with
  | none => rfl
  | some exchange =>
      rcases exchange with ⟨number, method, reception⟩
      cases reception <;> rfl

theorem exchange?_settling (session : Session) (settled : Int) (outcome : Except Failure Value)
    (identifier : Int) :
    (session.settling settled outcome).exchange? identifier =
      (session.exchange? identifier).map fun exchange =>
        if identifier = settled then { exchange with reception := .settled outcome }
        else exchange := by
  unfold exchange? settling
  dsimp only
  have same : (fun exchange : Exchange => exchange.identifier == identifier) ∘
      (fun exchange : Exchange => if exchange.identifier == settled then
        { exchange with reception := .settled outcome } else exchange) =
      fun exchange => exchange.identifier == identifier := by
    funext exchange
    simp only [Function.comp_apply]
    split <;> rfl
  rw [List.find?_map, same]
  cases found : session.exchanges.find? (·.identifier == identifier) with
  | none => rfl
  | some exchange =>
      have number : exchange.identifier = identifier := by simpa using List.find?_some found
      simp only [Option.map_some, number, beq_iff_eq]

theorem reception?_settling (session : Session) (settled : Int) (outcome : Except Failure Value)
    (identifier : Int) :
    (session.settling settled outcome).reception? identifier =
      (session.reception? identifier).map fun reception =>
        if identifier = settled then .settled outcome else reception := by
  unfold reception?
  rw [exchange?_settling]
  cases session.exchange? identifier with
  | none => rfl
  | some exchange =>
      simp only [Option.map_some]
      split <;> rfl

private theorem settlement?_exchange (session : Session) (identifier : Int) (answer : Answer) :
    session.settlement? (.exchange identifier) answer =
      match session.reception? identifier, Answer.outcome answer with
      | some .awaited, .ok outcome => some (identifier, outcome)
      | _, _ => none := by
  simp only [settlement?, reception?]
  cases found : session.exchange? identifier with
  | none => rfl
  | some exchange =>
      rcases exchange with ⟨number, method, reception⟩
      cases reception <;> cases Answer.outcome answer <;> rfl

/-- What the history says of the answer to an exchange. A notification wants none. -/
def dueReception (answerable : Bool) (identifier : Int) (history : List Event) : Reception :=
  match answerable, (settlements identifier history).head? with
  | false, _ => .unwanted
  | true, none => .awaited
  | true, some outcome => .settled outcome

theorem dueReception_answered {history : List Event} {outcome : Except Failure Value}
    (first : (settlements identifier history).head? = some outcome) :
    dueReception true identifier history = .settled outcome := by
  simp [dueReception, first]

theorem dueReception_unanswered {history : List Event}
    (none : (settlements identifier history).head? = none) :
    dueReception true identifier history = .awaited := by
  simp [dueReception, none]

theorem settlements_append {recent history : List Event}
    (others : ∀ event ∈ recent,
      event.numbers identifier = false ∧ event.settlement? identifier = none) :
    settlements identifier (recent ++ history) = settlements identifier history := by
  induction recent with
  | nil => rfl
  | cons event recent induction =>
      rcases others event List.mem_cons_self with ⟨other, silent⟩
      rw [List.cons_append, settlements_cons, other, silent,
        induction fun event member => others event (List.mem_cons_of_mem _ member)]
      simp

/-! ## One change -/

/-- What a change does to the exchanges of a session: it opens one, answers one or settles one, or
it leaves them alone and records nothing of those that there are. -/
inductive ExchangeChange (since : Int) (session : Session) : Session → Prop
  | opened (method : Value) (answerable : Bool) :
      ExchangeChange since session (session.opening method answerable)
  | answered (responder : Responder) (answer : Answer) :
      ExchangeChange since session (session.answering responder answer)
  | settled (identifier : Int) (outcome : Except Failure Value) (own : since ≤ identifier)
      (waiting : session.outcome? identifier = none) :
      ExchangeChange since session (session.settling identifier outcome)
  | aside {after : Session} (recent : List Event) (exchanges : after.exchanges = session.exchanges)
      (next : session.identifiers.next ≤ after.identifiers.next)
      (history : after.history = recent ++ session.history)
      (others : ∀ identifier < session.identifiers.next, ∀ event ∈ recent,
        event.numbers identifier = false ∧ event.settlement? identifier = none) :
      ExchangeChange since session after

private theorem exchange_returning (session : Session) (index : Nat) (timer : Timer)
    (outcome : Except Failure Unit) :
    ExchangeChange since session (session.returning index timer outcome) := by
  let returned := Event.tickReturned index timer.isRunning outcome
  rcases session.returning_cases index timer outcome with same | same | ⟨entry, same⟩ <;> rw [same]
  · exact .aside [returned] rfl (Int.le_refl _) rfl
      (by simp [returned, Event.numbers, Event.settlement?])
  · exact .aside [returned] rfl (Int.le_refl _) rfl
      (by simp [returned, Event.numbers, Event.settlement?])
  · exact .aside [.timerStopped index, .logged entry, returned] rfl (Int.le_refl _) rfl
      (by simp [returned, Event.numbers, Event.settlement?])

theorem Change.exchange (change : Change since session after) :
    ExchangeChange since session after := by
  have taken : ∀ identifier < session.identifiers.next, ¬session.identifiers.next = identifier := by
    intro identifier less
    omega
  have counting : session.identifiers.next ≤ session.identifiers.next + 1 := by omega
  cases change with
  | opened method answerable live => exact .opened method answerable
  | answered responder answer => exact .answered responder answer
  | settled identifier outcome own waiting => exact .settled identifier outcome own waiting
  | named | remembered | kept | timerCreated | tickScheduled | timePassed =>
      exact .aside [] rfl (Int.le_refl _) rfl (by simp)
  | remarked event remark =>
      refine .aside [event] rfl (Int.le_refl _) rfl ?_
      cases event <;> simp_all [Event.isRemark, Event.numbers, Event.settlement?]
  | unlaunched | started | refused | called | returned | concluded | declined | indexed |
    timerStopped | terminated | registered | unregistered | acknowledged | acknowledgementDue =>
      exact .aside [_] rfl (Int.le_refl _) rfl (by simp [Event.numbers, Event.settlement?])
  | numbered | launched =>
      exact .aside [_] rfl counting rfl (by simpa [Event.numbers, Event.settlement?] using taken)
  | initialized given entry =>
      exact .aside [.started given, .logged entry, .launcherReturned given] rfl (Int.le_refl _) rfl
        (by simp [Event.numbers, Event.settlement?])
  | begun percentage entry progress live =>
      exact .aside [.sent progress, .logged entry, .begun progress.token progress.title,
        .numbered .progress session.identifiers.next, .progressAsked percentage true] rfl counting
        rfl (by simpa [Event.numbers, Event.settlement?] using taken)
  | reported before after entry live =>
      exact .aside [.sent after, .logged entry] rfl (Int.le_refl _) rfl
        (by simp [Event.numbers, Event.settlement?])
  | tickReturned index timer outcome => exact exchange_returning session index timer outcome
  | fired tick =>
      unfold firing
      split
      · exact .aside [] rfl (Int.le_refl _) rfl (by simp)
      · exact .aside [_] rfl (Int.le_refl _) rfl (by simp [Event.numbers, Event.settlement?])

/-! ## Exchanges that are under way -/

/-- The session holds of the answer to an exchange what the history says. -/
structure Underway (answerable : Bool) (identifier : Int) (session : Session) : Prop where
  taken : identifier < session.identifiers.next
  agrees : session.reception? identifier =
    some (dueReception answerable identifier session.history)

namespace Underway

theorem opening (session : Session) (method : Value) (answerable : Bool) :
    Underway answerable session.identifiers.next (session.opening method answerable) := by
  constructor
  · exact Int.lt_succ session.identifiers.next
  · cases answerable <;> simp [Session.opening, reception?, exchange?, numbering, noting,
      dueReception, settlements_cons, Event.numbers]

/-- What changes no exchange and records nothing of this one leaves it as it is. -/
theorem aside (underway : Underway answerable identifier session)
    (exchanges : after.exchanges = session.exchanges)
    (next : session.identifiers.next ≤ after.identifiers.next)
    (history : ∃ recent, after.history = recent ++ session.history ∧ ∀ event ∈ recent,
      event.numbers identifier = false ∧ event.settlement? identifier = none) :
    Underway answerable identifier after := by
  rcases history with ⟨recent, history, others⟩
  constructor
  · exact Int.lt_of_lt_of_le underway.taken next
  · rw [reception?, exchange?, exchanges, ← exchange?, ← reception?, underway.agrees, history]
    unfold dueReception
    rw [settlements_append others]

theorem noting (underway : Underway answerable identifier session) (event : Event)
    (other : event.numbers identifier = false) (silent : event.settlement? identifier = none) :
    Underway answerable identifier (session.noting event) :=
  underway.aside rfl (Int.le_refl _) ⟨[event], rfl, by simp [other, silent]⟩

theorem settling (underway : Underway answerable identifier session) {settled : Int}
    (other : identifier ≠ settled) (outcome : Except Failure Value) :
    Underway answerable identifier (session.settling settled outcome) := by
  constructor
  · exact underway.taken
  · rw [reception?_settling, underway.agrees]
    simp [other, Session.settling]

/-- An answer settles its exchange if it is the first one and the exchange wants it. -/
private theorem answering_own (underway : Underway answerable identifier session)
    (answer : Answer) :
    Underway answerable identifier (session.answering (.exchange identifier) answer) := by
  have taken := underway.taken
  have agrees := underway.agrees
  have grown : settlements identifier
      (.answered (.exchange identifier) answer :: session.history) =
        settlements identifier session.history ++ (Answer.outcome answer).toOption.toList := by
    rw [settlements_cons, if_neg (by simp [Event.numbers]), Event.settlement?, if_pos rfl]
  unfold Session.answering
  rw [settlement?_exchange, agrees]
  cases answerable with
  | false => exact ⟨taken, agrees⟩
  | true =>
      cases first : (settlements identifier session.history).head? with
      | some outcome =>
          rw [dueReception_answered first] at agrees ⊢
          refine ⟨taken, agrees.trans (congrArg some (dueReception_answered ?_).symm)⟩
          rw [Session.noting, grown, List.head?_append, first]
          rfl
      | none =>
          rw [dueReception_unanswered first] at agrees ⊢
          rw [List.head?_eq_none_iff.mp first, List.nil_append] at grown
          cases accepted : Answer.outcome answer with
          -- The end of a producer settles nothing, and the next answer is the first one still.
          | error failure =>
              refine ⟨taken, agrees.trans (congrArg some (dueReception_unanswered ?_).symm)⟩
              rw [accepted] at grown
              exact congrArg List.head? grown
          | ok outcome =>
              let noted := session.noting (.answered (.exchange identifier) answer)
              have settled : (noted.settling identifier outcome).reception? identifier =
                  some (.settled outcome) := by
                rw [reception?_settling]
                exact (congrArg (Option.map _) agrees).trans (by simp)
              refine ⟨taken, settled.trans (congrArg some (dueReception_answered ?_).symm)⟩
              rw [accepted] at grown
              exact congrArg List.head? grown

private theorem answering (underway : Underway answerable identifier session)
    (responder : Responder)
    (answer : Answer) : Underway answerable identifier (session.answering responder answer) := by
  by_cases addressed : responder = .exchange identifier
  · rw [addressed]
    exact underway.answering_own answer
  · have noted := underway.noting (.answered responder answer) rfl
      (by simp [Event.settlement?, addressed])
    unfold Session.answering
    split
    · rename_i settled outcome settles
      rcases settlement?_waiting settles with ⟨same, _⟩
      apply noted.settling
      intro equal
      exact addressed (by rw [same, equal])
    · exact noted

private theorem opening_other (underway : Underway answerable identifier session) (method : Value)
    (wanted : Bool) : Underway answerable identifier (session.opening method wanted) := by
  have taken := underway.taken
  have other : ¬session.identifiers.next = identifier := by omega
  have noted : Underway answerable identifier
      { session.opening method wanted with exchanges := session.exchanges } :=
    underway.aside rfl (Int.le_of_lt (Int.lt_succ _))
      ⟨[.numbered _ session.identifiers.next, .arrived method wanted true], rfl, by
        simp [Event.numbers, Event.settlement?, other]⟩
  refine ⟨noted.taken, Eq.trans ?_ noted.agrees⟩
  change Option.map (·.reception) (List.find? (·.identifier == identifier)
    (_ :: session.exchanges)) = session.reception? identifier
  rw [List.find?_cons_of_neg (by simpa using other), reception?, exchange?]

/-- A change by code that was entered later. -/
theorem change (underway : Underway answerable identifier session) (earlier : identifier < since)
    (change : Change since session after) : Underway answerable identifier after := by
  cases change.exchange with
  | opened method wanted => exact underway.opening_other method wanted
  | answered responder answer => exact underway.answering responder answer
  | settled settled outcome own => exact underway.settling (by omega) outcome
  | aside recent exchanges next history others =>
      exact underway.aside exchanges next ⟨recent, history, others identifier underway.taken⟩

theorem changes (underway : Underway answerable identifier session) (earlier : identifier < since)
    (changes : Changes since session after) : Underway answerable identifier after :=
  changes.preserves underway fun _ _ underway change => underway.change earlier change

end Underway

/-! ## Receivers -/

theorem receiverEvents_append {recent history : List Event}
    (others : ∀ event ∈ recent, event.numbers identifier = false ∧
      event.isOfReceiver identifier = false) :
    receiverEvents identifier (recent ++ history) = receiverEvents identifier history := by
  induction recent with
  | nil => rfl
  | cons event recent induction =>
      rcases others event (List.mem_cons_self) with ⟨unnumbered, other⟩
      rw [List.cons_append, receiverEvents_cons, unnumbered, other,
        induction fun event member => others event (List.mem_cons_of_mem _ member)]
      simp

/-- Code that was entered after an exchange was opened calls none of its receivers. -/
theorem Changes.receiverEvents_eq (changes : Changes since session after)
    (earlier : identifier < since) (taken : identifier < session.identifiers.next) :
    receiverEvents identifier after.history = receiverEvents identifier session.history := by
  induction changes with
  | refl => rfl
  | @tail middle _ before change induction =>
      rcases change.records with ⟨recent, records⟩
      have reached := Changes.next_le before
      rw [records.history, receiverEvents_append, induction]
      intro event member
      have fits := records.fits event member
      cases event with
      | numbered use other =>
          have fresh := fits.1
          refine ⟨?_, rfl⟩
          simp only [Event.numbers, beq_eq_false_iff_ne, ne_eq]
          omega
      | called subscription method params responder | returned subscription responder outcome =>
          refine ⟨rfl, ?_⟩
          simp only [Event.isOfReceiver, beq_eq_false_iff_ne, ne_eq]
          intro own
          -- A responder of the code that runs is that of an exchange opened since.
          have later := fits identifier own
          omega
      | _ => exact ⟨rfl, rfl⟩

end RpcSession.Session
