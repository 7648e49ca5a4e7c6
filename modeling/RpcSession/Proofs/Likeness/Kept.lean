import RpcSession.Proofs.Likeness.Run

/-!
# Properties that runs keep

A property of sessions is the likeness of every session that has it to itself. It is kept by every
run if it is kept by the few kinds of steps that a property can depend on here: identifiers taken,
events noted, requests finished and starts.
-/

namespace RpcSession.Session

variable {holds : Session → Prop} {session : Session}

def Likeness.ofProperty (holds : Session → Prop) : Likeness where
  related first second := first = second ∧ holds first
  own _ := True
  spoiled _ := False
  spoiled_append := False.elim
  rest := by
    rintro first _ ⟨rfl, _⟩
    exact ⟨first.exchanges, first.history, rfl⟩

theorem Likeness.Respects.of_kept {α : Type} {action : Action Session α}
    (grows : ∀ session : Session, session.history <:+ (action session).2.history)
    (kept : ∀ session, holds session → holds (action session).2) :
    (ofProperty holds).Respects action := by
  refine ⟨grows, ?_⟩
  rintro first _ ⟨rfl, held⟩
  exact .inr ⟨rfl, rfl, kept first held⟩

theorem Likeness.Respects.kept {α : Type} {action : Action Session α}
    (respects : (ofProperty holds).Respects action) (held : holds session) :
    holds (action session).2 := by
  have related : (ofProperty holds).related session session := ⟨rfl, held⟩
  rcases respects.keeps related with spoiled | ⟨_, _, kept⟩
  · exact spoiled.elim
  · exact kept

structure Agrees (first second : Session) : Prop where
  identifiers : second.identifiers = first.identifiers
  started : second.lifecycle.started = first.lifecycle.started
  launcher : second.launcher = first.launcher
  names : second.names = first.names
  history : second.history = first.history

theorem Agrees.refl (session : Session) : Agrees session session := ⟨rfl, rfl, rfl, rfl, rfl⟩

theorem Agrees.next_le {first second : Session} (agrees : Agrees first second) :
    first.identifiers.next ≤ second.identifiers.next :=
  Int.le_of_eq (congrArg Identifiers.next agrees.identifiers.symm)

theorem finishRequest_kept {before : Session} {identifier : Int} {handled : Bool}
    (agreeing : ∀ {first second : Session}, holds first → Agrees first second → holds second)
    (concluding : ∀ {session : Session} (outcome : Except Failure Value), holds session →
      holds (session.noting (.concluded identifier outcome)))
    (owing : ∀ {session : Session}, holds session →
      holds (session.noting (.acknowledgementDue identifier)))
    (held : holds before) (onAcknowledge : Option (Int → Program)) :
    holds (finishRequest identifier onAcknowledge handled before).2 := by
  have concluded : ∃ outcome middle, conclude identifier before = (.value outcome, middle) ∧
      Agrees before middle := by
    unfold conclude
    rw [Action.get_bind_apply]
    cases before.outcome? identifier with
    | some outcome => exact ⟨outcome, before, rfl, .refl before⟩
    | none => exact ⟨_, before.settling identifier (.ok .null), rfl, ⟨rfl, rfl, rfl, rfl, rfl⟩⟩
  rcases concluded with ⟨outcome, middle, same, agrees⟩
  have noted := concluding outcome (agreeing held agrees)
  rw [finishRequest, Action.bind_of_value same, Action.bind_of_value (record_apply _ _)]
  cases onAcknowledge with
  | none => exact noted
  | some callback => exact agreeing (owing noted) ⟨rfl, rfl, rfl, rfl, rfl⟩

/-- Whether an event is noted in one go with a change that it goes with. -/
def Event.isBound : Event → Bool
  | .numbered _ _ | .acknowledgementDue _ | .started _ => true
  | _ => false

/-- A property that every kind of step keeps. -/
structure IsKept (holds : Session → Prop) : Prop where
  agreeing {session after : Session} (held : holds session) (agrees : Agrees session after) :
    holds after
  noting {session : Session} (held : holds session) (event : Event)
    (free : event.isBound = false) : holds (session.noting event)
  numbering {session : Session} (held : holds session) (use : IdentifierUse)
    (other : use ≠ .session) : holds (session.numbering use)
  naming {session : Session} (held : holds session) (name : String) (reference : Reference)
    (taken : ∀ identifier handled, reference = .request identifier handled →
      identifier < session.identifiers.next) :
    holds { session with names := (name, reference) :: session.names }
  restarting {session : Session} (held : holds session)
    (started : session.lifecycle.started = true) :
    holds (session.noting (.started session.lifecycle.session))
  starting {session : Session} (held : holds session) (byDefault : session.launcher = none)
    (fresh : session.lifecycle.started = false) (entry : LogEntry) :
    holds ((session.numbering .session).initializing (.int session.identifiers.next) entry)
  launching {session : Session} (held : holds session) (byHost : session.launcher ≠ none)
    (identifier : Value) (entry : LogEntry) : holds (session.initializing identifier entry)
  finishing {session before : Session} {method params : Value} {fuel : Nat} {handled : Bool}
    (held : holds session)
    (came : route (run fuel) method params true session.identifiers.next
      (session.dispatching method true) = (.value handled, before))
    (routed : holds before) (onAcknowledge : Option (Int → Program)) :
    holds (finishRequest session.identifiers.next onAcknowledge handled before).2

namespace IsKept

variable (kept : IsKept holds)

include kept

theorem log (held : holds session) (entry : LogEntry) : holds (session.noting (.logged entry)) :=
  kept.noting held _ rfl

theorem settling (held : holds session) (identifier : Int) (outcome : Except Failure Value) :
    holds (session.settling identifier outcome) :=
  kept.agreeing held ⟨rfl, rfl, rfl, rfl, rfl⟩

theorem deliver (held : holds session) (invoke : Invoke) (identifier : Int) (answer : Answer) :
    holds (deliver invoke (.exchange identifier) answer session).2 := by
  rcases deliver_cases invoke session identifier answer with
    ⟨settled, outcome, _, same⟩ | ⟨_, same | ⟨entry, same⟩ | ⟨_, _, same⟩⟩ <;> rw [same]
  · exact kept.settling held settled outcome
  · exact held
  · exact kept.log held entry
  · exact held

theorem dispatching (held : holds session) (method : Value) (answerable : Bool) :
    holds (session.dispatching method answerable) := by
  refine kept.log ?_ _
  have numbered := kept.numbering (kept.noting held (.arrived method answerable true) rfl)
    (if answerable then .request else .notification) (by cases answerable <;> decide)
  exact kept.agreeing numbered ⟨rfl, rfl, rfl, rfl, rfl⟩

theorem request {fuel : Nat} (leads : (Likeness.ofProperty holds).Leads (run fuel) true)
    (held : holds session) (method params : Value) (onAcknowledge : Option (Int → Program)) :
    holds (request (run fuel) method params onAcknowledge session).2 := by
  cases stopped : session.lifecycle.stopped with
  | true =>
      rw [request_of_stopped (run fuel) method params onAcknowledge stopped]
      exact kept.noting held (.arrived method true false) rfl
  | false =>
      rw [request_of_live (run fuel) method params onAcknowledge stopped]
      have routed := (leads method params session.identifiers.next trivial).kept
        (kept.dispatching held method true)
      rw [Action.bind_apply]
      cases came : route (run fuel) method params true session.identifiers.next
          (session.dispatching method true) with
      | mk outcome before =>
          rw [came] at routed
          cases outcome with
          | value handled => exact kept.finishing held came routed onAcknowledge
          | failed failure => exact routed
          | exhausted => exact routed

theorem requestNamed {fuel : Nat} (leads : (Likeness.ofProperty holds).Leads (run fuel) true)
    (held : holds session) (method params : Value) (onAcknowledge : Option (Int → Program))
    (name : Option String) :
    holds (perform fuel (.request method params onAcknowledge name) session).2 := by
  have requested := kept.request leads held method params onAcknowledge
  unfold perform operate
  dsimp only
  rw [Action.bind_apply]
  cases came : Session.request (run fuel) method params onAcknowledge session with
  | mk outcome after =>
      rw [came] at requested
      cases outcome with
      | failed failure => exact requested
      | exhausted => exact requested
      | value report =>
          cases name with
          | none => exact requested
          | some name =>
              refine kept.naming requested name _ ?_
              rintro identifier handled same
              cases same
              rcases request_finished (run_moves fuel) came with ⟨_, _, _, finished⟩
              rw [finished.number]
              exact finished.taken

theorem notify {fuel : Nat} (leads : (Likeness.ofProperty holds).Leads (run fuel) false)
    (held : holds session) (method params : Value) :
    holds (notify (run fuel) method params session).2 := by
  rw [notify_state]
  cases stopped : session.lifecycle.stopped with
  | true =>
      rw [accept_of_stopped (run fuel) method params false stopped]
      exact kept.noting held (.arrived method false false) rfl
  | false =>
      rw [accept_of_live (run fuel) method params false stopped]
      have routed := (leads method params session.identifiers.next trivial).kept
        (kept.dispatching held method false)
      rw [Action.bind_apply]
      generalize route (run fuel) method params false session.identifiers.next
        (session.dispatching method false) = way at routed
      rcases way with ⟨outcome, before⟩
      cases outcome <;> exact routed

theorem terminate (held : holds session) : holds (terminate session).2 := by
  unfold Session.terminate
  rw [Action.get_bind_apply]
  split
  · exact held
  · have ended : holds { session with lifecycle := session.lifecycle.terminate } :=
      kept.agreeing held ⟨rfl, rfl, rfl, rfl, rfl⟩
    exact kept.log (kept.noting ended .terminated rfl) _

theorem finishStart (held : holds session) (byHost : session.launcher ≠ none)
    (identifier : Value) : holds (finishStart identifier session).2 := by
  cases given : identifier.isNull with
  | true =>
      rcases finishStart_of_null session given with ⟨entry, same⟩
      rw [same]
      exact kept.log (kept.noting held (.launcherReturned identifier) rfl) entry
  | false =>
      rcases finishStart_of_given session given with ⟨entry, same⟩
      rw [same]
      exact kept.launching held byHost identifier entry

theorem startByHost {fuel : Nat} {launcher : Program}
    (admitted : (Likeness.ofProperty holds).Admits (run fuel)) (held : holds session)
    (byHost : session.launcher = some launcher) (live : session.lifecycle.stopped = false)
    (fresh : session.lifecycle.started = false) : holds (start (run fuel) session).2 := by
  have still : (launch (run fuel) session).2.launcher ≠ none := by
    have launched : Moves session.identifiers.next session (launch (run fuel)) :=
      launch_moves (run_moves fuel) live fresh
    rw [(launched (Int.le_refl _)).launcher_eq, byHost]
    exact Option.some_ne_none launcher
  have logging (entry : LogEntry) : (Likeness.ofProperty holds).Respects (record (.logged entry)) :=
    .of_kept (fun _ => List.suffix_cons _ _) fun _ held => kept.log held entry
  rcases launch_of_launcher byHost logging admitted with ⟨launched, same, respects⟩
  have left := respects.kept held
  rw [← same] at left
  rw [Session.start, Action.get_bind_apply, if_neg (by simp [live]), if_neg (by simp [fresh]),
    Action.bind_apply]
  generalize launch (run fuel) session = result at still left
  rcases result with ⟨outcome, middle⟩
  cases outcome with
  | value identifier => exact kept.finishStart left still identifier
  | failed failure => exact left
  | exhausted => exact left

theorem start {fuel : Nat} (admitted : (Likeness.ofProperty holds).Admits (run fuel))
    (held : holds session) : holds (start (run fuel) session).2 := by
  cases stopped : session.lifecycle.stopped with
  | true =>
      rw [Session.start, Action.get_bind_apply, if_pos stopped]
      exact held
  | false =>
      cases started : session.lifecycle.started with
      | true =>
          rw [start_of_started (run fuel) stopped started]
          exact kept.restarting held started
      | false =>
          cases launcher : session.launcher with
          | some program => exact kept.startByHost admitted held launcher stopped started
          | none =>
              rcases start_by_default (run fuel) launcher stopped started with ⟨entry, same⟩
              rw [same]
              exact kept.starting held launcher started entry

/-! ## Runs -/

theorem upheld : (Likeness.ofProperty holds).Upheld where
  noting event plain := by
    refine .of_kept (fun _ => List.suffix_cons _ _) fun session held => kept.noting held event ?_
    cases event <;> simp_all [Event.isPlain, Event.isBound]
  changing change aside := by
    refine .of_kept (fun session => ⟨[], (aside.apart.history session).symm⟩) fun session held =>
      kept.agreeing held ?_
    exact ⟨aside.identifiers session, congrArg Lifecycle.started (aside.lifecycle session),
      aside.launcher session, aside.names session, aside.apart.history session⟩
  numbering use free := by
    refine .of_kept (fun _ => List.suffix_cons _ _) fun session held => kept.numbering held use ?_
    rcases free with rfl | rfl <;> decide
  naming name reference other := by
    refine .of_kept (fun _ => List.suffix_refl _) fun session held => kept.naming held name _ ?_
    rintro identifier handled rfl
    exact absurd trivial other
  finding name := by
    have same := findRequest_state name
    refine .of_kept (fun session => ⟨[], congrArg Session.history (same session).symm⟩)
      fun session held => ?_
    rw [same]
    exact held
  terminating :=
    .of_kept (fun _ => terminate_moves.grows (Int.le_refl _)) fun _ held => kept.terminate held
  responding invoke identifier answer := by
    refine .of_kept (fun _ => ?_) fun session held => ?_
    · exact (respond_exchange_moves invoke identifier answer).grows (Int.le_refl _)
    · exact kept.deliver (kept.noting held (.answered (.exchange identifier) answer) rfl) invoke
        identifier answer
  delivering invoke identifier _ answer := by
    refine .of_kept (fun session => ?_) fun _ held => kept.deliver held invoke identifier answer
    exact (deliver_moves invoke (Int.min_le_right session.identifiers.next identifier)
      answer).grows (Int.min_le_left _ _)
  starting fuel admitted :=
    .of_kept (fun _ => (start_moves (run_moves fuel)).grows (Int.le_refl _))
      fun _ held => kept.start admitted held
  requesting fuel leads method params onAcknowledge name :=
    .of_kept (fun _ => (perform_moves fuel _).grows (Int.le_refl _))
      fun _ held => kept.requestNamed leads held method params onAcknowledge name
  notifying fuel leads method params :=
    .of_kept (fun _ => (notify_moves (run_moves fuel) method params).grows (Int.le_refl _))
      fun _ held => kept.notify leads held method params

theorem run (fuel : Nat) (program : Program) (held : holds session) :
    holds (run fuel program session).2 := (kept.upheld.admits fuel program).kept held

theorem leads (fuel : Nat) (answerable : Bool) :
    (Likeness.ofProperty holds).Leads (Session.run fuel) answerable :=
  kept.upheld.leads (kept.upheld.admits fuel) answerable

theorem after (held : holds session) (operations : List (Nat × Operation Program)) :
    holds (session.after operations) := by
  induction operations generalizing session with
  | nil => exact held
  | cons first operations induction =>
      rcases first with ⟨fuel, operation⟩
      exact induction ((kept.upheld.perform (kept.upheld.admits fuel) operation).kept held)

end IsKept

end RpcSession.Session
