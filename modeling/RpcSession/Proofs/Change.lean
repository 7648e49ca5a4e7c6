import Mathlib.Logic.Relation
import RpcSession.Proofs.History

/-!
# Changes of a session

Between two points at which host code may run, a session changes in one of a few ways, and
whatever a program does to a session is a series of such changes. Every change says when it is
made, so what all changes preserve holds at every moment of every run.
-/

namespace RpcSession.Session

/-! ## Effects of single changes

Each of these is the session that one step leaves, with the events that the step records. A
scheduled tick that starts clears its timer and is counted; what its callback comes back with then
decides whether the next one is scheduled. -/

def noting (session : Session) (event : Event) : Session :=
  { session with history := event :: session.history }

def numbering (session : Session) (use : IdentifierUse) : Session :=
  { session with
    identifiers := session.identifiers.take.2
    history := .numbered use session.identifiers.next :: session.history }

def opening (session : Session) (method : Value) (answerable : Bool) : Session :=
  let numbered := (session.noting (.arrived method answerable true)).numbering
    (if answerable then .request else .notification)
  let exchange : Exchange :=
    { identifier := session.identifiers.next, method,
      reception := if answerable then .awaited else .unwanted }
  { numbered with exchanges := exchange :: session.exchanges }

def settling (session : Session) (identifier : Int) (outcome : Except Failure Value) : Session :=
  { session with
    exchanges := session.exchanges.map fun exchange =>
      if exchange.identifier == identifier then { exchange with reception := .settled outcome }
      else exchange }

/-- The exchange that an answer settles, if it settles any, and its outcome. -/
def settlement? (session : Session) (responder : Responder) (answer : Answer) :
    Option (Int × Except Failure Value) :=
  match responder with
  | .host _ => none
  | .exchange identifier =>
      match session.exchange? identifier, Answer.outcome answer with
      | some { reception := .awaited, .. }, .ok outcome => some (identifier, outcome)
      | _, _ => none

def answering (session : Session) (responder : Responder) (answer : Answer) : Session :=
  let noted := session.noting (.answered responder answer)
  match session.settlement? responder answer with
  | some (identifier, outcome) => noted.settling identifier outcome
  | none => noted

def subscribing (session : Session) (method : String) (receiver : Receiver) : Session :=
  { session with registry := (session.registry.register method receiver).2 }.noting
    (.registered session.registry.next method receiver)

def unsubscribing (session : Session) (subscription : Int) (registry : Registry Receiver) :
    Session :=
  { session with registry }.noting (.unregistered subscription)

def initializing (session : Session) (identifier : Value) (entry : LogEntry) : Session :=
  let launched := session.noting (.launcherReturned identifier)
  let initialized := { launched with lifecycle := session.lifecycle.begin identifier }
  (initialized.noting (.logged entry)).noting (.started identifier)

def beginning (session : Session) (percentage : Value) (progress : Progress) : Session :=
  let numbered := (session.noting (.progressAsked percentage true)).numbering .progress
  { numbered with progresses := progress :: session.progresses }.noting
    (.begun progress.token progress.title)

def announcing (session : Session) (entry : LogEntry) (progress : Progress) : Session :=
  (session.noting (.logged entry)).noting (.sent progress)

def updating (session : Session) (progress : Progress) : Session :=
  { session with
    progresses := session.progresses.map fun other =>
      if other.token == progress.token then progress else other }

def scheduling (session : Session) (index : Nat) (seconds : Float) : Session :=
  let order := session.loop.nextOrder
  { session with
    loop := { session.loop with
      scheduled := session.loop.scheduled ++ [⟨order, session.loop.now + seconds, index⟩]
      nextOrder := order + 1 }
    timers := session.timers.modify index fun timer => { timer with pending := some order } }

def stopping (session : Session) (index : Nat) (timer : Timer) : Session :=
  { session with
    loop := { session.loop with
      scheduled := match timer.pending with
        | some order => session.loop.scheduled.filter (·.order != order)
        | none => session.loop.scheduled }
    timers := session.timers.modify index fun timer =>
      { timer with stopped := true, pending := none } }.noting (.timerStopped index)

def tickFailureEntry (failure : Failure) : LogEntry :=
  ⟨.error, "notify_ls.timers", "Timer callback failed; stopping timer", failure⟩

/-- The callback of a tick came back. The next tick is scheduled unless the timer has been
stopped, and a timer whose callback failed is stopped; after an abort nothing more is done. -/
def returning (session : Session) (index : Nat) (timer : Timer)
    (outcome : Except Failure Unit) : Session :=
  let noted := session.noting (.tickReturned index timer.isRunning outcome)
  match outcome with
  | .ok () => if timer.stopped then noted else noted.scheduling index timer.interval
  | .error failure =>
      if failure.isOrdinary then
        (noted.noting (.logged (tickFailureEntry failure))).stopping index timer
      else noted

def Loop.taking (loop : Loop) (tick : ScheduledTick) : Loop :=
  { loop with
    now := if loop.now < tick.due then tick.due else loop.now
    scheduled := loop.scheduled.filter (·.order != tick.order) }

def clearing (session : Session) (tick : ScheduledTick) : Session :=
  { session with
    loop := session.loop.taking tick
    timers := session.timers.modify tick.timer fun timer =>
      { timer with pending := none, ticks := timer.ticks + 1 } }

def firing (session : Session) (tick : ScheduledTick) : Session :=
  match (session.clearing tick).timer? tick.timer with
  | none => session.clearing tick
  | some _ => (session.clearing tick).noting (.ticked tick.timer)

theorem returning_cases (session : Session) (index : Nat) (timer : Timer)
    (outcome : Except Failure Unit) :
    let noted := session.noting (.tickReturned index timer.isRunning outcome)
    session.returning index timer outcome = noted ∨
      session.returning index timer outcome = noted.scheduling index timer.interval ∨
      ∃ entry, session.returning index timer outcome =
        (noted.noting (.logged entry)).stopping index timer := by
  intro noted
  unfold returning
  cases outcome with
  | ok =>
      dsimp only
      split
      · exact .inl rfl
      · exact .inr (.inl rfl)
  | error failure =>
      dsimp only
      split
      · exact .inr (.inr ⟨_, rfl⟩)
      · exact .inl rfl

def owing (session : Session) (acknowledgement : Acknowledgement) : Session :=
  { session with
    loop := { session.loop with ready := session.loop.ready ++ [acknowledgement] } }.noting
    (.acknowledgementDue acknowledgement.identifier)

end RpcSession.Session

namespace RpcSession.Progress

/-- A progress that has not ended, and one that a change of it may give. -/
structure Follows (before after : Progress) : Prop where
  live : before.isEnded = false
  token : after.token = before.token
  title : after.title = before.title
  stage : after.stage = .reported ∨ after.stage = .ended

theorem follows_update {progress updated : Progress} {fields : List (String × Value)}
    (live : progress.isEnded = false) (changed : progress.update fields = .ok updated) :
    progress.Follows updated := by
  unfold update at changed
  split at changed
  · cases valid : Percentage.ofValue? ‹Value› with
    | error failure => simp [valid, bind, Except.bind] at changed
    | ok percentage =>
        simp only [valid, bind, Except.bind, pure, Except.pure, Except.ok.injEq] at changed
        subst changed
        exact ⟨live, rfl, rfl, .inl rfl⟩
  · simp only [bind, Except.bind, pure, Except.pure, Except.ok.injEq] at changed
    subst changed
    exact ⟨live, rfl, rfl, .inl rfl⟩

theorem follows_finish {progress : Progress} (live : progress.isEnded = false)
    (message : Value) : progress.Follows (progress.finish message) :=
  ⟨live, rfl, rfl, .inr rfl⟩

end RpcSession.Progress

namespace RpcSession.Session

/-! ## Changes -/

/-- Whether an event is only a remark, of which nothing else of the session knows. -/
def Event.isRemark : Event → Bool
  | .logged _ | .noted _ | .loopFailed _ => true
  | _ => false

/-- Whether a responder belongs to no exchange opened before some identifier was taken. -/
def Responder.IsSince (since : Int) (responder : Responder) : Prop :=
  ∀ identifier, responder = .exchange identifier → since ≤ identifier

/-- One change of a session, by code that was entered when the next identifier was `since`. Such
code runs receivers and settles exchanges for calls made from then on only; what it does for
earlier ones is to answer them. -/
inductive Change (since : Int) (session : Session) : Session → Prop
  | remarked (event) (remark : event.isRemark = true) : Change since session (session.noting event)
  | named (name reference) :
      Change since session { session with names := (name, reference) :: session.names }
  | remembered (cells queues responders) :
      Change since session { session with cells, queues, responders }
  | numbered : Change since session (session.numbering .host)
  | launched (live : session.lifecycle.stopped = false)
      (fresh : session.lifecycle.started = false) (byDefault : session.launcher = none) :
      Change since session (session.numbering .session)
  | unlaunched (identifier) (missing : identifier.isNull = true) :
      Change since session (session.noting (.launcherReturned identifier))
  | initialized (identifier entry) (given : identifier.isNull = false)
      (byDefault : session.launcher = none →
        session.lifecycle.started = false ∧ session.lifecycle.stopped = false) :
      Change since session (session.initializing identifier entry)
  | started (live : session.lifecycle.stopped = false)
      (running : session.lifecycle.started = true) :
      Change since session (session.noting (.started session.lifecycle.session))
  | terminated (live : session.lifecycle.stopped = false) :
      Change since session
        ({ session with lifecycle := session.lifecycle.terminate }.noting .terminated)
  | refused (method answerable) (stopped : session.lifecycle.stopped = true) :
      Change since session (session.noting (.arrived method answerable false))
  | opened (method answerable) (live : session.lifecycle.stopped = false) :
      Change since session (session.opening method answerable)
  | called (subscription method params responder) (own : Responder.IsSince since responder) :
      Change since session (session.noting (.called subscription method params responder))
  | returned (subscription responder outcome) (own : Responder.IsSince since responder) :
      Change since session (session.noting (.returned subscription responder outcome))
  | answered (responder answer) : Change since session (session.answering responder answer)
  | settled (identifier outcome) (own : since ≤ identifier)
      (waiting : session.outcome? identifier = none) :
      Change since session (session.settling identifier outcome)
  | concluded (identifier outcome) (own : since ≤ identifier)
      (done : session.outcome? identifier = some outcome)
      (lawful : outcome = lawfulOutcome identifier session.history) :
      Change since session (session.noting (.concluded identifier outcome))
  | declined (percentage)
      (unfit : session.lifecycle.stopped = true ∨ (Percentage.ofValue? percentage).isOk = false) :
      Change since session
        (session.noting (.progressAsked percentage (!session.lifecycle.stopped)))
  | begun (percentage entry) (progress : Progress) (live : session.lifecycle.stopped = false)
      (token : progress.token = session.identifiers.next) (stage : progress.stage = .opened)
      (valid : Percentage.ofValue? percentage = .ok progress.percentage) :
      Change since session ((session.beginning percentage progress).announcing entry progress)
  | reported (before after entry) (live : session.lifecycle.stopped = false)
      (held : session.progress? before.token = some before)
      (follows : before.Follows after) :
      Change since session ((session.updating after).announcing entry after)
  | kept (before after) (stopped : session.lifecycle.stopped = true)
      (held : session.progress? before.token = some before)
      (follows : before.Follows after) : Change since session (session.updating after)
  | registered (method receiver) : Change since session (session.subscribing method receiver)
  | unregistered (subscription method registry)
      (found : session.registry.unregister? subscription = some (method, registry)) :
      Change since session (session.unsubscribing subscription registry)
  | timerCreated (interval delay callback) (positive : ¬interval ≤ 0) :
      Change since session
        { session with timers := session.timers ++ [{ interval, delay, callback }] }
  | tickScheduled (index timer seconds) (found : session.timer? index = some timer)
      (idle : timer.isRunning = false) (going : timer.stopped = false) :
      Change since session (session.scheduling index seconds)
  | timerStopped (index timer) (found : session.timer? index = some timer) :
      Change since session (session.stopping index timer)
  | fired (tick) (due : tick ∈ session.loop.scheduled) : Change since session (session.firing tick)
  | tickReturned (index timer outcome) (found : session.timer? index = some timer) :
      Change since session (session.returning index timer outcome)
  | indexed (token) : Change since session (session.noting (.indexed token))
  | acknowledgementDue (acknowledgement : Acknowledgement)
      (own : since ≤ acknowledgement.identifier) :
      Change since session (session.owing acknowledgement)
  | acknowledged (next ready) (first : session.loop.ready = next :: ready) :
      Change since session
        ({ session with loop := { session.loop with ready } }.noting
          (.acknowledged next.identifier))
  | timePassed (now) : Change since session { session with loop := { session.loop with now } }

def Changes (since : Int) : Session → Session → Prop :=
  Relation.ReflTransGen (Change since)

/-! ## What a change records

An event that ends something, as the end of a session or the conclusion of a request does, is
the only one that its change records. -/

def Event.Fits (since : Int) (session : Session) : Event → Prop
  | .numbered use identifier =>
      identifier = session.identifiers.next ∧ (use ≠ .host → session.lifecycle.stopped = false)
  | .arrived _ _ live | .progressAsked _ live => live = !session.lifecycle.stopped
  | .begun _ _ | .sent _ | .terminated => session.lifecycle.stopped = false
  | .called _ _ _ responder | .returned _ responder _ => Responder.IsSince since responder
  | .concluded identifier outcome =>
      since ≤ identifier ∧ session.outcome? identifier = some outcome ∧
        outcome = lawfulOutcome identifier session.history
  | _ => True

def Event.isLone : Event → Bool
  | .terminated | .concluded _ _ => true
  | _ => false

/-- What one change adds to the history of a session, and how its counter and its end go with
that. -/
structure Records (since : Int) (session after : Session) (recent : List Event) : Prop where
  history : after.history = recent ++ session.history
  fits : ∀ event ∈ recent, event.Fits since session
  counted : after.identifiers.next = session.identifiers.next + recent.countP Event.isNumbered
  stopped : after.lifecycle.stopped = true ↔
    session.lifecycle.stopped = true ∨ Event.terminated ∈ recent
  alone : ∀ event ∈ recent, event.isLone = true → recent = [event]

variable {since : Int} {session after : Session}

private theorem Records.nothing (history : after.history = session.history)
    (identifiers : after.identifiers = session.identifiers)
    (lifecycle : after.lifecycle.stopped = session.lifecycle.stopped) :
    Records since session after [] := by
  constructor
  · exact history
  · simp
  · simp [identifiers]
  · simp [lifecycle]
  · simp

private theorem Records.single {event : Event}
    (history : after.history = event :: session.history)
    (identifiers : after.identifiers = session.identifiers)
    (lifecycle : after.lifecycle.stopped = session.lifecycle.stopped)
    (fits : event.Fits since session)
    (other : event.isNumbered = false) (going : Event.terminated ≠ event) :
    Records since session after [event] := by
  constructor
  · exact history
  · simpa using fits
  · simp [identifiers, other]
  · simp [lifecycle, going]
  · simp

private theorem records_numbering {use : IdentifierUse}
    (live : use ≠ .host → session.lifecycle.stopped = false) :
    Records since session (session.numbering use)
      [.numbered use session.identifiers.next] := by
  constructor
  · rfl
  · simpa [Event.Fits] using live
  · simp [numbering, Identifiers.take, Event.isNumbered]
  · simp [numbering]
  · simp

private theorem records_opening (method : Value) (answerable : Bool)
    (live : session.lifecycle.stopped = false) :
    Records since session (session.opening method answerable)
      [.numbered (if answerable then .request else .notification) session.identifiers.next,
        .arrived method answerable true] := by
  constructor
  · rfl
  · simp [Event.Fits, live]
  · simp [opening, noting, numbering, Identifiers.take, Event.isNumbered, List.countP_cons]
  · simp [opening, noting, numbering]
  · simp [Event.isLone]

private theorem records_beginning (percentage : Value) (entry : LogEntry) (progress : Progress)
    (live : session.lifecycle.stopped = false) :
    Records since session ((session.beginning percentage progress).announcing entry progress)
      [.sent progress, .logged entry, .begun progress.token progress.title,
        .numbered .progress session.identifiers.next, .progressAsked percentage true] := by
  constructor
  · rfl
  · simp [Event.Fits, live]
  · simp [beginning, announcing, noting, numbering, Identifiers.take, Event.isNumbered,
      List.countP_cons]
  · simp [beginning, announcing, noting, numbering]
  · simp [Event.isLone]

private theorem records_updating (after : Progress) (entry : LogEntry)
    (live : session.lifecycle.stopped = false) :
    Records since session ((session.updating after).announcing entry after)
      [.sent after, .logged entry] := by
  constructor
  · rfl
  · simp [Event.Fits, live]
  · simp [updating, announcing, noting, Event.isNumbered]
  · simp [updating, announcing, noting]
  · simp [Event.isLone]

private theorem records_initializing (identifier : Value) (entry : LogEntry) :
    Records since session (session.initializing identifier entry)
      [.started identifier, .logged entry, .launcherReturned identifier] := by
  constructor
  · rfl
  · simp [Event.Fits]
  · simp [initializing, noting, Event.isNumbered]
  · simp [initializing, noting, Lifecycle.begin]
  · simp [Event.isLone]

/-- A tick that has failed also stops its timer. -/
private theorem records_returning (index : Nat) (timer : Timer) (outcome : Except Failure Unit) :
    ∃ recent, Records since session (session.returning index timer outcome) recent := by
  have noted : Records since session
      (session.noting (.tickReturned index timer.isRunning outcome))
      [.tickReturned index timer.isRunning outcome] :=
    .single rfl rfl rfl trivial rfl (by simp)
  rcases session.returning_cases index timer outcome with same | same | ⟨entry, same⟩ <;> rw [same]
  · exact ⟨_, noted⟩
  · exact ⟨_, ⟨noted.history, noted.fits, noted.counted, noted.stopped, noted.alone⟩⟩
  · refine ⟨[.timerStopped index, .logged entry, .tickReturned index timer.isRunning outcome],
      ⟨rfl, ?_, ?_, ?_, ?_⟩⟩ <;>
      simp [Event.Fits, stopping, noting, Event.isNumbered, Event.isLone]

theorem Change.records (change : Change since session after) :
    ∃ recent, Records since session after recent := by
  cases change with
  | remarked event remark =>
      refine ⟨[event], .single rfl rfl rfl ?_ ?_ ?_⟩ <;>
        cases event <;> simp_all [Event.isRemark, Event.Fits, Event.isNumbered]
  | named | remembered | settled | kept | timerCreated | tickScheduled | timePassed =>
      exact ⟨[], .nothing rfl rfl rfl⟩
  | numbered => exact ⟨_, records_numbering (absurd rfl)⟩
  | launched live => exact ⟨_, records_numbering fun _ => live⟩
  | terminated live =>
      refine ⟨[.terminated], ⟨rfl, ?_, ?_, ?_, ?_⟩⟩ <;>
        simp [Event.Fits, noting, Event.isNumbered, Event.isLone, Lifecycle.terminate, live]
  | opened method answerable live => exact ⟨_, records_opening method answerable live⟩
  | begun percentage entry progress live =>
      exact ⟨_, records_beginning percentage entry progress live⟩
  | reported before after entry live => exact ⟨_, records_updating after entry live⟩
  | answered responder answer =>
      refine ⟨[.answered responder answer], ?_⟩
      unfold answering
      split <;> exact .single rfl rfl rfl trivial rfl (by simp)
  | fired tick =>
      unfold firing
      split
      · exact ⟨[], .nothing rfl rfl rfl⟩
      · exact ⟨[.ticked tick.timer], .single rfl rfl rfl trivial rfl (by simp)⟩
  | tickReturned index timer outcome => exact records_returning index timer outcome
  | initialized identifier entry => exact ⟨_, records_initializing identifier entry⟩
  | unlaunched | started | registered | unregistered | indexed | timerStopped |
    acknowledgementDue | acknowledged =>
      exact ⟨[_], .single rfl rfl rfl trivial rfl (by simp)⟩
  | refused method answerable stopped =>
      exact ⟨[_], .single rfl rfl rfl (by simp [Event.Fits, stopped]) rfl (by simp)⟩
  | called subscription method params responder own
  | returned subscription responder outcome own =>
      exact ⟨[_], .single rfl rfl rfl own rfl (by simp)⟩
  | concluded identifier outcome own done lawful =>
      exact ⟨[_], .single rfl rfl rfl ⟨own, done, lawful⟩ rfl (by simp)⟩
  | declined percentage unfit => exact ⟨[_], .single rfl rfl rfl rfl rfl (by simp)⟩

theorem Change.history_suffix (change : Change since session after) :
    session.history <:+ after.history := by
  rcases change.records with ⟨recent, records⟩
  rw [records.history]
  exact List.suffix_append _ _

theorem Records.lone {recent later earlier : List Event} {event : Event}
    (records : Records since session after recent) (lone : event.isLone = true)
    (history : after.history = later ++ event :: earlier) :
    (∃ between, later = recent ++ between ∧ session.history = between ++ event :: earlier) ∨
      later = [] ∧ earlier = session.history ∧ event ∈ recent := by
  rw [records.history] at history
  rcases List.append_eq_append_iff.mp history with
    ⟨between, latest, rest⟩ | ⟨between, latest, rest⟩
  · exact .inl ⟨between, latest, rest⟩
  · cases between with
    | nil =>
        rw [List.append_nil] at latest
        rw [List.nil_append] at rest
        exact .inl ⟨[], by rw [latest, List.append_nil], rest.symm⟩
    | cons first between =>
        rcases List.cons.inj rest with ⟨same, older⟩
        have member : event ∈ recent := by simp [latest, ← same]
        have alone := records.alone event member lone
        rw [latest] at alone
        have short := congrArg List.length alone
        simp only [List.length_append, List.length_cons, List.length_nil] at short
        have nothing : later = [] := List.eq_nil_of_length_eq_zero (by omega)
        have none : between = [] := List.eq_nil_of_length_eq_zero (by omega)
        exact .inr ⟨nothing, by simpa [none] using older, member⟩

end RpcSession.Session
