import Mathlib.Data.List.Basic
import RpcSession.Proofs.Movement.Run

/-!
# The queue of acknowledgements

A request that comes back puts its acknowledgement at the end of the queue of the loop, and the loop
takes acknowledgements from the front of it. So they are run once each, in the order in which they
came due, whatever else the callbacks in between do.
-/

namespace RpcSession.Session

variable {since : Int} {session middle after : Session} {invoke : Invoke}

/-! ## Views -/

namespace Event

def due? : Event → Option Int
  | .acknowledgementDue identifier => some identifier
  | _ => none

def acknowledged? : Event → Option Int
  | .acknowledged identifier => some identifier
  | _ => none

end Event

def dues (history : List Event) : List Int := history.reverse.filterMap Event.due?

def acknowledgements (history : List Event) : List Int :=
  history.reverse.filterMap Event.acknowledged?

theorem dues_append (recent history : List Event) :
    dues (recent ++ history) = dues history ++ dues recent := by
  simp [dues]

theorem dues_cons (event : Event) (history : List Event) :
    dues (event :: history) = dues history ++ event.due?.toList := by
  cases due : event.due? <;> simp [dues, due]

theorem mem_dues {identifier : Int} {history : List Event} :
    identifier ∈ dues history ↔ .acknowledgementDue identifier ∈ history := by
  simp only [dues, List.mem_filterMap, List.mem_reverse]
  constructor
  · rintro ⟨event, member, due⟩
    cases event with
    | acknowledgementDue other =>
        cases due
        exact member
    | _ => cases due
  · exact fun member => ⟨_, member, rfl⟩

theorem acknowledgements_append (recent history : List Event) :
    acknowledgements (recent ++ history) = acknowledgements history ++ acknowledgements recent := by
  simp [acknowledgements]

private theorem mem_acknowledgements {identifier : Int} {history : List Event} :
    identifier ∈ acknowledgements history ↔ .acknowledged identifier ∈ history := by
  simp only [acknowledgements, List.mem_filterMap, List.mem_reverse]
  constructor
  · rintro ⟨event, member, acknowledged⟩
    cases event with
    | acknowledged other =>
        cases acknowledged
        exact member
    | _ => cases acknowledged
  · exact fun member => ⟨_, member, rfl⟩

def waiting (session : Session) : List Int := session.loop.ready.map (·.identifier)

/-! ## One change

A change leaves the queue alone, adds what came due at its end, or takes its first. -/

inductive QueueChange (session after : Session) : List Event → Prop
  | aside {recent : List Event} (ready : after.loop.ready = session.loop.ready)
      (dues : dues recent = []) (acknowledgements : acknowledgements recent = []) :
      QueueChange session after recent
  | owed (acknowledgement : Acknowledgement)
      (ready : after.loop.ready = session.loop.ready ++ [acknowledgement]) :
      QueueChange session after [.acknowledgementDue acknowledgement.identifier]
  | taken (next : Acknowledgement) (ready : session.loop.ready = next :: after.loop.ready) :
      QueueChange session after [.acknowledged next.identifier]

theorem Change.queue (change : Change since session after) :
    ∃ recent, after.history = recent ++ session.history ∧ QueueChange session after recent := by
  cases change with
  | acknowledgementDue acknowledgement => exact ⟨[_], rfl, .owed acknowledgement rfl⟩
  | acknowledged next ready first => exact ⟨[_], rfl, .taken next first⟩
  | named | remembered | settled | kept | timerCreated | tickScheduled | timePassed =>
      exact ⟨[], rfl, .aside rfl rfl rfl⟩
  | remarked event remark =>
      refine ⟨[event], rfl, ?_⟩
      cases event <;> first | exact .aside rfl rfl rfl | cases remark
  | opened => exact ⟨[_, _], rfl, .aside rfl rfl rfl⟩
  | begun percentage entry progress =>
      exact ⟨[.sent progress, .logged entry, .begun _ _, .numbered _ _, .progressAsked _ _], rfl,
        .aside rfl rfl rfl⟩
  | reported before after entry => exact ⟨[.sent after, .logged entry], rfl, .aside rfl rfl rfl⟩
  | initialized => exact ⟨[_, _, _], rfl, .aside rfl rfl rfl⟩
  | answered responder answer =>
      refine ⟨[.answered responder answer], ?_⟩
      unfold answering
      split <;> exact ⟨rfl, .aside rfl rfl rfl⟩
  | fired tick =>
      unfold firing
      split
      · exact ⟨[], rfl, .aside rfl rfl rfl⟩
      · exact ⟨[_], rfl, .aside rfl rfl rfl⟩
  | tickReturned index timer outcome =>
      rcases session.returning_cases index timer outcome with same | same | ⟨entry, same⟩ <;>
        rw [same]
      · exact ⟨[_], rfl, .aside rfl rfl rfl⟩
      · exact ⟨[_], rfl, .aside rfl rfl rfl⟩
      · exact ⟨[_, _, _], rfl, .aside rfl rfl rfl⟩
  | numbered | launched | unlaunched | started | terminated | refused | called | returned
  | concluded | declined | registered | unregistered | timerStopped | indexed =>
      exact ⟨[_], rfl, .aside rfl rfl rfl⟩

/-! ## Conservation -/

/-- What waits and what comes to the queue is what is taken from it and what still waits. -/
def Conserves (session after : Session) (recent : List Event) : Prop :=
  ∃ come taken : List Acknowledgement,
    session.loop.ready ++ come = taken ++ after.loop.ready ∧
      dues recent = come.map (·.identifier) ∧
      acknowledgements recent = taken.map (·.identifier)

theorem QueueChange.conserves {recent : List Event} (change : QueueChange session after recent) :
    Conserves session after recent := by
  cases change with
  | aside ready dues acknowledgements =>
      exact ⟨[], [], by rw [ready, List.append_nil, List.nil_append], dues, acknowledgements⟩
  | owed acknowledgement ready =>
      exact ⟨[acknowledgement], [], by rw [ready, List.nil_append], rfl, rfl⟩
  | taken next ready =>
      exact ⟨[], [next], by rw [ready, List.append_nil, List.singleton_append], rfl, rfl⟩

theorem Conserves.trans {older latest : List Event} (earlier : Conserves session middle older)
    (later : Conserves middle after latest) : Conserves session after (latest ++ older) := by
  rcases earlier with ⟨come, taken, kept, due, acknowledged⟩
  rcases later with ⟨come', taken', kept', due', acknowledged'⟩
  refine ⟨come ++ come', taken ++ taken', ?_, ?_, ?_⟩
  · rw [← List.append_assoc, kept, List.append_assoc, kept', List.append_assoc]
  · rw [dues_append, due, due', List.map_append]
  · rw [acknowledgements_append, acknowledged, acknowledged', List.map_append]

theorem Changes.conserves (changes : Changes since session after) :
    ∃ recent, after.history = recent ++ session.history ∧ Conserves session after recent := by
  induction changes with
  | refl => exact ⟨[], rfl, [], [], List.append_nil _, rfl, rfl⟩
  | tail _ change induction =>
      rcases induction with ⟨older, grown, earlier⟩
      rcases change.queue with ⟨latest, more, queue⟩
      exact ⟨latest ++ older, by rw [more, grown, List.append_assoc],
        earlier.trans queue.conserves⟩

/-- The history of a session says what waits for its loop, and nothing is acknowledged that did not
come due. -/
structure Queued (session : Session) : Prop where
  conserved : dues session.history = acknowledgements session.history ++ session.waiting
  owed : Throughout (fun event earlier => ∀ identifier, event = .acknowledged identifier →
    .acknowledgementDue identifier ∈ earlier) session.history

theorem Queued.change (queued : Queued session) (change : Change since session after) :
    Queued after := by
  rcases change.queue with ⟨recent, grown, queue⟩
  constructor
  · rcases queue.conserves with ⟨come, taken, kept, due, acknowledged⟩
    have waited := congrArg (List.map (·.identifier)) kept
    rw [List.map_append, List.map_append] at waited
    rw [grown, dues_append, acknowledgements_append, due, acknowledged, queued.conserved,
      List.append_assoc, List.append_assoc]
    exact congrArg _ waited
  · rw [grown]
    cases queue with
    | aside _ _ none =>
        apply queued.owed.append
        rintro event member earlier identifier rfl
        have listed := mem_acknowledgements.mpr member
        rw [none] at listed
        cases listed
    | owed acknowledgement =>
        refine Throughout.cons_iff.mpr ⟨?_, queued.owed⟩
        intro identifier same
        cases same
    | taken next ready =>
        refine Throughout.cons_iff.mpr ⟨?_, queued.owed⟩
        intro identifier same
        cases same
        have listed : next.identifier ∈ dues session.history := by
          rw [queued.conserved, waiting, ready]
          simp
        exact mem_dues.mp listed

theorem Queued.of_new {start : Session} (new : start.IsNew) : Queued start := by
  constructor
  · simp [new.history, new.loop, dues, acknowledgements, waiting]
  · rw [new.history]
    exact .nil

theorem Queued.due {identifier : Int} (queued : Queued session)
    (member : identifier ∈ acknowledgements session.history) :
    identifier ∈ dues session.history := by
  rw [queued.conserved]
  exact List.mem_append_left _ member

theorem Queued.idxOf_eq {identifier : Int} (queued : Queued session)
    (member : identifier ∈ acknowledgements session.history) :
    (dues session.history).idxOf identifier =
      (acknowledgements session.history).idxOf identifier := by
  rw [queued.conserved, List.idxOf_append_of_mem member]

/-! ## Running the queue -/

def taking (session : Session) (next : Acknowledgement) (ready : List Acknowledgement) : Session :=
  { session with loop := { session.loop with ready } }.noting (.acknowledged next.identifier)

/-- A callback of the loop was run to its end. A failure that leaves it is noted. -/
inductive Ran (invoke : Invoke) (callback : Program) (session : Session) : Session → Prop
  | returned {value : Value} {after : Session}
      (came : invoke callback session = (.value value, after)) : Ran invoke callback session after
  | failed {failure : Failure} {middle : Session}
      (came : invoke callback session = (.failed failure, middle)) :
      Ran invoke callback session (middle.noting (.loopFailed failure))

/-- Acknowledgements taken from the front of the queue one after the other, each with its callback
run on its identifier, until none waits. -/
inductive Delivered (invoke : Invoke) : Session → List Acknowledgement → Session → Prop
  | idle {session : Session} (empty : session.loop.ready = []) : Delivered invoke session [] session
  | next {session middle after : Session} {next : Acknowledgement}
      {ready rest : List Acknowledgement} (first : session.loop.ready = next :: ready)
      (ran : Ran invoke (next.callback next.identifier) (session.taking next ready) middle)
      (later : Delivered invoke middle rest after) : Delivered invoke session (next :: rest) after

private theorem Ran.of_guarded {callback : Program}
    (came : guarded (do let _ ← invoke callback) session = (.value (), after)) :
    Ran invoke callback session after := by
  rcases Action.value_of_bind came with ⟨result, between, tried, rest⟩
  rw [Action.attempt, Action.bind_apply] at tried
  cases ran : invoke callback session with
  | mk outcome left =>
      rw [ran] at tried
      cases outcome with
      | value value =>
          cases tried
          cases rest
          exact .returned ran
      | failed failure =>
          cases tried
          cases rest
          exact .failed ran
      | exhausted => cases tried

theorem drain_delivered {fuel : Nat} (came : drain invoke fuel session = (.value (), after)) :
    ∃ served, Delivered invoke session served after := by
  induction fuel generalizing session with
  | zero => cases came
  | succ fuel induction =>
      cases ready : session.loop.ready with
      | nil =>
          rw [drain_succ, Action.bind_of_value (takeReady_of_nil ready)] at came
          cases came
          exact ⟨[], .idle ready⟩
      | cons next ready' =>
          rw [drain_of_ready invoke fuel ready] at came
          rcases Action.value_of_bind came with ⟨_, between, ran, rest⟩
          rcases induction rest with ⟨served, later⟩
          exact ⟨next :: served, .next ready (.of_guarded ran) later⟩

theorem Delivered.idle_after {served : List Acknowledgement}
    (delivered : Delivered invoke session served after) : after.loop.ready = [] := by
  induction delivered with
  | idle empty => exact empty
  | next _ _ _ induction => exact induction

end RpcSession.Session
