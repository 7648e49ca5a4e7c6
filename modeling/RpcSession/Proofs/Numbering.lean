import RpcSession.Proofs.Likeness.Kept
import RpcSession.Proofs.Termination

/-!
# Numbering of calls

Each call that a session takes in takes the next identifier when it is entered, before any code of
the host runs inside it. So the identifiers follow one another in the order in which the calls were
entered, however they are nested, and the counter says how many there were.
-/

namespace RpcSession.Session

variable {since first : Int} {session after : Session}

/-! ## Entries and numbers

A call takes its identifier when it is entered, so the identifiers of a history increase in the
order in which they were taken. -/

namespace Event

/-- What a call takes an identifier for when it is entered, if it takes one. The host takes its own
identifiers, and a start by default takes one, with nothing before. -/
def entry? : Event → Option IdentifierUse
  | .arrived _ answerable live =>
      if live then some (if answerable then .request else .notification) else none
  | .progressAsked percentage live =>
      if live && (Percentage.ofValue? percentage).isOk then some .progress else none
  | .numbered .session _ => some .session
  | .numbered .host _ => some .host
  | _ => none

def number? : Event → Option (IdentifierUse × Int)
  | .numbered use identifier => some (use, identifier)
  | _ => none

def isLiveCall : Event → Bool
  | .arrived _ _ live => live
  | _ => false

def isFitQuestion : Event → Bool
  | .progressAsked percentage live => live && (Percentage.ofValue? percentage).isOk
  | _ => false

def isNumberOfSession : Event → Bool
  | .numbered .session _ => true
  | _ => false

def isStarted : Event → Bool
  | .started _ => true
  | _ => false

end Event

/-- What identifiers were taken for, in the order in which the calls were entered. -/
def enteredUses (history : List Event) : List IdentifierUse :=
  history.reverse.filterMap Event.entry?

def numbers (history : List Event) : List (IdentifierUse × Int) :=
  history.reverse.filterMap Event.number?

def enumerated (first : Int) (uses : List IdentifierUse) : List (IdentifierUse × Int) :=
  uses.zipIdx.map fun (use, place) => (use, first + place)

theorem enteredUses_append (recent history : List Event) :
    enteredUses (recent ++ history) = enteredUses history ++ enteredUses recent := by
  simp [enteredUses]

theorem numbers_append (recent history : List Event) :
    numbers (recent ++ history) = numbers history ++ numbers recent := by
  simp [numbers]

theorem enumerated_append (first : Int) (uses : List IdentifierUse) (use : IdentifierUse) :
    enumerated first (uses ++ [use]) =
      enumerated first uses ++ [(use, first + uses.length)] := by
  simp [enumerated, List.zipIdx_append]

private theorem enumerated_increasing (first : Int) (uses : List IdentifierUse) :
    ((enumerated first uses).map (·.2)).Pairwise (· < ·) := by
  rw [List.pairwise_iff_getElem]
  intro one other inside within less
  simp only [enumerated, List.getElem_map, List.getElem_zipIdx]
  omega

theorem mem_numbers {use : IdentifierUse} {identifier : Int} {history : List Event} :
    (use, identifier) ∈ numbers history ↔ .numbered use identifier ∈ history := by
  simp only [numbers, List.mem_filterMap, List.mem_reverse]
  constructor
  · rintro ⟨event, member, number⟩
    cases event with
    | numbered =>
        cases number
        exact member
    | _ => cases number
  · exact fun member => ⟨_, member, rfl⟩

def Increasing (history : List Event) : Prop := ((numbers history).map (·.2)).Pairwise (· < ·)

private theorem Increasing.unnumbered {later earlier : List Event} {use : IdentifierUse}
    {identifier : Int} (increasing : Increasing (later ++ .numbered use identifier :: earlier))
    (other : IdentifierUse) :
    .numbered other identifier ∉ earlier := by
  intro member
  have twice : numbers (later ++ .numbered use identifier :: earlier) =
      numbers earlier ++ (use, identifier) :: numbers later := by
    simp [numbers, Event.number?]
  unfold Increasing at increasing
  rw [twice, List.map_append, List.pairwise_append] at increasing
  have less := increasing.2.2 identifier (List.mem_map_of_mem (mem_numbers.mpr member)) identifier
    List.mem_cons_self
  exact Int.lt_irrefl _ less

/-- An identifier is taken at one moment only, so what happened before that is certain. -/
theorem Increasing.before_unique {later earlier later' earlier' : List Event}
    {use use' : IdentifierUse} {identifier : Int}
    (increasing : Increasing (later ++ .numbered use identifier :: earlier))
    (same : later ++ .numbered use identifier :: earlier =
      later' ++ .numbered use' identifier :: earlier') : earlier = earlier' := by
  rcases List.append_eq_append_iff.mp same with
    ⟨between, _, rest⟩ | ⟨between, _, rest⟩
  · cases between with
    | nil => exact (List.cons.inj rest).2
    | cons first between =>
        have older := (List.cons.inj rest).2
        refine absurd ?_ (increasing.unnumbered use')
        rw [older]
        exact List.mem_append_right _ List.mem_cons_self
  · cases between with
    | nil => exact (List.cons.inj rest).2.symm
    | cons first between =>
        have older := (List.cons.inj rest).2
        rw [same] at increasing
        refine absurd ?_ (increasing.unnumbered use)
        rw [older]
        exact List.mem_append_right _ List.mem_cons_self

private theorem length_enteredUses (history : List Event) :
    (enteredUses history).length = history.countP Event.isLiveCall +
      history.countP Event.isFitQuestion + history.countP Event.isNumberOfSession +
        history.countP Event.isNumberedByHost := by
  induction history with
  | nil => rfl
  | cons event history induction =>
      have one : (enteredUses [event]).length = [event].countP Event.isLiveCall +
          [event].countP Event.isFitQuestion + [event].countP Event.isNumberOfSession +
            [event].countP Event.isNumberedByHost := by
        cases event with
        | arrived _ _ live => cases live <;> rfl
        | numbered use => cases use <;> rfl
        | progressAsked percentage live =>
            cases fit : live && (Percentage.ofValue? percentage).isOk <;>
              simp [enteredUses, Event.entry?, Event.isLiveCall, Event.isFitQuestion,
                Event.isNumberOfSession, Event.isNumberedByHost, fit]
        | _ => rfl
      rw [← List.singleton_append, enteredUses_append, List.length_append, induction, one]
      simp only [List.countP_append]
      omega

/-! ## One change -/

inductive Counts (session after : Session) (recent : List Event) : Prop
  | none (uses : enteredUses recent = []) (numbers : numbers recent = [])
      (next : after.identifiers.next = session.identifiers.next)
  | one (use : IdentifierUse) (uses : enteredUses recent = [use])
      (numbers : numbers recent = [(use, session.identifiers.next)])
      (next : after.identifiers.next = session.identifiers.next + 1)

private theorem counts_firing (session : Session) (tick : ScheduledTick) :
    ∃ recent, (session.firing tick).history = recent ++ session.history ∧
      Counts session (session.firing tick) recent := by
  unfold firing
  split
  · exact ⟨[], rfl, .none rfl rfl rfl⟩
  · exact ⟨[_], rfl, .none rfl rfl rfl⟩

private theorem counts_returning (session : Session) (index : Nat) (timer : Timer)
    (outcome : Except Failure Unit) :
    ∃ recent, (session.returning index timer outcome).history = recent ++ session.history ∧
      Counts session (session.returning index timer outcome) recent := by
  rcases session.returning_cases index timer outcome with same | same | ⟨entry, same⟩ <;> rw [same]
  · exact ⟨[_], rfl, .none rfl rfl rfl⟩
  · exact ⟨[_], rfl, .none rfl rfl rfl⟩
  · exact ⟨[_, _, _], rfl, .none rfl rfl rfl⟩

theorem Change.counts (change : Change since session after) :
    ∃ recent, after.history = recent ++ session.history ∧ Counts session after recent := by
  cases change with
  | named | remembered | settled | kept | timerCreated | tickScheduled | timePassed =>
      exact ⟨[], rfl, .none rfl rfl rfl⟩
  | numbered => exact ⟨[_], rfl, .one .host rfl rfl rfl⟩
  | launched => exact ⟨[_], rfl, .one .session rfl rfl rfl⟩
  | opened method answerable =>
      refine ⟨[.numbered (if answerable then .request else .notification)
        session.identifiers.next, .arrived method answerable true], rfl, ?_⟩
      cases answerable
      · exact .one .notification rfl rfl rfl
      · exact .one .request rfl rfl rfl
  | begun percentage entry progress live token stage valid =>
      refine ⟨[.sent progress, .logged entry, .begun progress.token progress.title,
        .numbered .progress session.identifiers.next, .progressAsked percentage true], rfl, ?_⟩
      refine .one .progress ?_ rfl rfl
      simp [enteredUses, Event.entry?, valid, Except.isOk, Except.toBool]
  | declined percentage unfit =>
      refine ⟨[.progressAsked percentage (!session.lifecycle.stopped)], rfl, .none ?_ rfl rfl⟩
      rcases unfit with stopped | invalid
      · simp [enteredUses, Event.entry?, stopped]
      · simp [enteredUses, Event.entry?, invalid]
  | remarked event remark =>
      refine ⟨[event], rfl, ?_⟩
      cases event <;> first | exact .none rfl rfl rfl | cases remark
  | reported before after entry =>
      exact ⟨[.sent after, .logged entry], rfl, .none rfl rfl rfl⟩
  | answered responder answer =>
      refine ⟨[.answered responder answer], ?_⟩
      unfold answering
      split <;> exact ⟨rfl, .none rfl rfl rfl⟩
  | fired tick => exact counts_firing session tick
  | tickReturned index timer outcome => exact counts_returning session index timer outcome
  | initialized identifier entry =>
      exact ⟨[_, _, _], rfl, .none rfl rfl rfl⟩
  | unlaunched | started | terminated | refused | called | returned | concluded | registered
  | unregistered | timerStopped | indexed | acknowledgementDue | acknowledged =>
      exact ⟨[_], rfl, .none rfl rfl rfl⟩

/-! ## Whole runs -/

/-- The counter of a session and the numbers in its history, when the first identifier was
`first`. -/
structure Numbered (first : Int) (session : Session) : Prop where
  next : session.identifiers.next = first + (enteredUses session.history).length
  numbers : numbers session.history = enumerated first (enteredUses session.history)

theorem Numbered.change (numbered : Numbered first session)
    (change : Change since session after) : Numbered first after := by
  rcases change.counts with ⟨recent, grown, counts⟩
  cases counts with
  | none uses numbers next =>
      constructor
      · rw [next, numbered.next, grown, enteredUses_append, uses, List.append_nil]
      · rw [grown, numbers_append, enteredUses_append, numbers, uses, List.append_nil,
          List.append_nil, numbered.numbers]
  | one use uses numbers next =>
      constructor
      · rw [next, numbered.next, grown, enteredUses_append, uses, List.length_append]
        simp [Int.add_assoc]
      · rw [grown, numbers_append, enteredUses_append, numbers, uses, enumerated_append,
          numbered.numbers, numbered.next]

theorem Numbered.of_new {start : Session} (new : start.IsNew) :
    Numbered start.identifiers.next start := by
  constructor <;> simp [new.history, enteredUses, Session.numbers, enumerated]

theorem Numbered.increasing (numbered : Numbered first session) : Increasing session.history := by
  rw [Increasing, numbered.numbers]
  exact enumerated_increasing _ _

theorem numbered_after {start : Session} (new : start.IsNew)
    (operations : List (Nat × Operation Program)) :
    Numbered start.identifiers.next (start.after operations) :=
  after_preserves (Numbered.of_new new) (fun _ _ numbered change => numbered.change change)
    operations

theorem Changes.numbers_le (changes : Changes since session after) :
    ∃ recent, after.history = recent ++ session.history ∧
      ∀ use number, (use, number) ∈ numbers recent → session.identifiers.next ≤ number := by
  induction changes with
  | refl => exact ⟨[], rfl, fun _ _ member => by cases member⟩
  | tail earlier change induction =>
      rcases induction with ⟨older, grown, bounded⟩
      rcases change.counts with ⟨latest, more, counts⟩
      refine ⟨latest ++ older, by rw [more, grown, List.append_assoc], ?_⟩
      intro use number member
      rw [numbers_append, List.mem_append] at member
      rcases member with before | now
      · exact bounded use number before
      · cases counts with
        | none _ nothing => simp [nothing] at now
        | one other _ single =>
            rw [single, List.mem_singleton] at now
            cases now
            exact Changes.next_le earlier

/-! ## The number of a session -/

/-- Under a default launcher a session has a number of its own as soon as a start came back. -/
structure StartCounted (session : Session) : Prop where
  started : session.lifecycle.started = session.history.any Event.isStarted
  counted : session.launcher = none →
    session.history.countP Event.isNumberOfSession = if session.lifecycle.started then 1 else 0

private theorem StartCounted.agreeing (counted : StartCounted session)
    (agrees : Agrees session after) :
    StartCounted after := by
  constructor
  · rw [agrees.started, agrees.history, counted.started]
  · rw [agrees.launcher, agrees.history, agrees.started]
    exact counted.counted

private theorem StartCounted.noting (counted : StartCounted session) (event : Event)
    (other : event.isStarted = false) (aside : event.isNumberOfSession = false) :
    StartCounted (session.noting event) := by
  constructor
  · rw [Session.noting, List.any_cons, other, Bool.false_or, counted.started]
  · intro byDefault
    rw [Session.noting, List.countP_cons, aside, counted.counted byDefault]
    simp

theorem isKept_startCounted : IsKept StartCounted where
  agreeing counted agrees := counted.agreeing agrees
  noting counted event free := by
    refine counted.noting event ?_ ?_
    · cases event <;> first | rfl | cases free
    · cases event <;> first | rfl | cases free
  numbering {session} counted use other := by
    have noted := counted.noting (.numbered use session.identifiers.next) rfl
      (by cases use <;> first | rfl | exact absurd rfl other)
    exact ⟨noted.started, noted.counted⟩
  naming counted _ _ _ := ⟨counted.started, counted.counted⟩
  restarting {session} counted started := by
    constructor
    · simp [Session.noting, Event.isStarted, started]
    · intro byDefault
      rw [Session.noting, List.countP_cons, counted.counted byDefault]
      simp [Event.isNumberOfSession]
  starting {session} counted byDefault fresh entry := by
    have none := counted.counted byDefault
    rw [fresh] at none
    constructor
    · simp [initializing, Session.noting, numbering, Event.isStarted, Lifecycle.begin]
    · simp [initializing, Session.noting, numbering, Lifecycle.begin, List.countP_cons, none,
        Event.isNumberOfSession]
  launching {session} counted byHost identifier entry := by
    constructor
    · simp [initializing, Session.noting, Event.isStarted, Lifecycle.begin]
    · exact fun byDefault => absurd byDefault byHost
  finishing _ _ counted onAcknowledge :=
    finishRequest_kept (fun counted agrees => counted.agreeing agrees)
      (fun outcome counted => counted.noting (.concluded _ outcome) rfl rfl)
      (fun counted => counted.noting (.acknowledgementDue _) rfl rfl) counted onAcknowledge

/-! ## Single calls

What follows when a call has taken its identifier is numbered later, so all that happened since is
what happened inside it and afterwards. -/

variable {before : Session} {invoke : Invoke}

/-- A call took the next identifier as soon as it was entered, and all that was numbered inside it
got greater ones. -/
def TakesNext (before after : Session) (use : IdentifierUse) (entry : Event) : Prop :=
  ∃ recent, after.history =
      recent ++ .numbered use before.identifiers.next :: entry :: before.history ∧
    ∀ other number, (other, number) ∈ numbers recent → before.identifiers.next < number

theorem TakesNext.of_changes {use : IdentifierUse} {entry : Event} (between : List Event)
    (history : session.history =
      between ++ .numbered use before.identifiers.next :: entry :: before.history)
    (silent : numbers between = [])
    (next : session.identifiers.next = before.identifiers.next + 1)
    (changes : Changes since session after) : TakesNext before after use entry := by
  rcases changes.numbers_le with ⟨recent, grown, bounded⟩
  refine ⟨recent ++ between, by rw [grown, history, List.append_assoc], ?_⟩
  intro other number member
  rw [numbers_append, silent, List.nil_append] at member
  have later := bounded other number member
  omega

theorem TakesNext.changes {use : IdentifierUse} {entry : Event}
    (taken : TakesNext before session use entry)
    (reached : before.identifiers.next < session.identifiers.next)
    (changes : Changes since session after) : TakesNext before after use entry := by
  rcases taken with ⟨inside, history, bounded⟩
  rcases changes.numbers_le with ⟨recent, grown, later⟩
  refine ⟨recent ++ inside, by rw [grown, history, List.append_assoc], ?_⟩
  intro other number member
  rw [numbers_append, List.mem_append] at member
  rcases member with earlier | now
  · exact bounded other number earlier
  · exact Int.lt_of_lt_of_le reached (later other number now)

theorem TakesNext.eventsSince_eq {use : IdentifierUse} {entry : Event} {recent : List Event}
    (taken : TakesNext before after use entry)
    (grown : after.history =
      recent ++ .numbered use before.identifiers.next :: entry :: before.history) :
    eventsSince before.identifiers.next after.history = recent.reverse := by
  rcases taken with ⟨inside, history, bounded⟩
  have same : inside = recent := List.append_cancel_right (history.symm.trans grown)
  subst same
  have other : ∀ event ∈ inside, (!event.numbers before.identifiers.next) = true := by
    intro event member
    cases event with
    | numbered use number =>
        have later := bounded use number (mem_numbers.mpr member)
        simp only [Event.numbers, Bool.not_eq_true', beq_eq_false_iff_ne]
        exact Int.ne_of_gt later
    | _ => rfl
  rw [history, eventsSince, List.takeWhile_append_of_pos other, List.takeWhile_cons_of_neg,
    List.append_nil]
  simp [Event.numbers]

theorem request_takesNext (moving : Invoke.Moves invoke) (method params : Value)
    (onAcknowledge : Option (Int → Program)) (live : before.lifecycle.stopped = false) :
    TakesNext before (request invoke method params onAcknowledge before).2 .request
      (.arrived method true true) :=
  .of_changes [.logged _] rfl rfl rfl (request_changes moving method params onAcknowledge live)

theorem notify_takesNext (moving : Invoke.Moves invoke) (method params : Value)
    (live : before.lifecycle.stopped = false) :
    TakesNext before (notify invoke method params before).2 .notification
      (.arrived method false true) :=
  .of_changes [.logged _] rfl rfl rfl (notify_changes moving method params live)

private theorem begin_takesNext (moving : Invoke.Moves invoke) (title message : Value)
    {percentage : Value} {given : Option Percentage} (live : before.lifecycle.stopped = false)
    (valid : Percentage.ofValue? percentage = .ok given) :
    let result := begin invoke title message percentage before
    TakesNext before result.2 .progress (.progressAsked percentage true) ∧
      ∀ token, result.1 = .value token → token = before.identifiers.next := by
  intro result
  have steps : result = _ := begin_of_fit invoke title message percentage live valid
  let progress : Progress :=
    { token := before.identifiers.next, title, message, percentage := given }
  let begun := (before.beginning percentage progress).announcing (progressEntry progress) progress
  have told : Moves before.identifiers.next begun (do
      let _ ← invoke (before.outbound progress.notification)
      return before.identifiers.next) := (moving _ _ _).seq fun _ _ => .pure _
  rw [steps]
  constructor
  · exact .of_changes [.sent progress, .logged _, .begun _ title] rfl rfl rfl
      (told (Int.le_of_lt (Int.lt_add_one_iff.mpr (Int.le_refl _))))
  · intro token came
    rcases Action.value_of_bind (Prod.ext came rfl) with ⟨_, _, _, rest⟩
    cases rest
    rfl

private theorem start_counts (fuel : Nat) (before : Session) (byDefault : before.launcher = none) :
    let result := start (run fuel) before
    if before.lifecycle.stopped || before.lifecycle.started then
      result.2.identifiers = before.identifiers
    else result.1 = .value (.int before.identifiers.next) ∧
      ∃ recent, numbers recent = [] ∧ result.2.history =
        recent ++ .numbered .session before.identifiers.next :: before.history := by
  intro result
  cases stopped : before.lifecycle.stopped with
  | true =>
      have refused := (refuses_of_stopped (run fuel) stopped).start
      rcases refused with ⟨text, same⟩
      exact congrArg (·.2.identifiers) same
  | false =>
      cases started : before.lifecycle.started with
      | true => exact congrArg (·.2.identifiers) (start_of_started (run fuel) stopped started)
      | false =>
          rcases start_by_default (run fuel) byDefault stopped started with ⟨entry, same⟩
          have steps : result = _ := same
          rw [steps]
          exact ⟨rfl, [.started _, .logged entry, .launcherReturned _], rfl, rfl⟩

/-- How the calls of a session go about its counter. Those that are refused leave it alone. -/
structure CallsCount (fuel : Nat) (before : Session) : Prop where
  request (method params : Value) (onAcknowledge : Option (Int → Program)) :
    let result := request (run fuel) method params onAcknowledge before
    if before.lifecycle.stopped then result.2.identifiers = before.identifiers
    else TakesNext before result.2 .request (.arrived method true true) ∧
      ∀ report, result.1 = .value report → report.identifier = before.identifiers.next
  notify (method params : Value) :
    let after := (notify (run fuel) method params before).2
    if before.lifecycle.stopped then after.identifiers = before.identifiers
    else TakesNext before after .notification (.arrived method false true)
  begin (title message percentage : Value) :
    let result := begin (run fuel) title message percentage before
    if before.lifecycle.stopped || !(Percentage.ofValue? percentage).isOk then
      result.2.identifiers = before.identifiers
    else TakesNext before result.2 .progress (.progressAsked percentage true) ∧
      ∀ token, result.1 = .value token → token = before.identifiers.next
  start (byDefault : before.launcher = none) :
    let result := start (run fuel) before
    if before.lifecycle.stopped || before.lifecycle.started then
      result.2.identifiers = before.identifiers
    else result.1 = .value (.int before.identifiers.next) ∧
      ∃ recent, numbers recent = [] ∧ result.2.history =
        recent ++ .numbered .session before.identifiers.next :: before.history

private theorem callsCount (fuel : Nat) (before : Session) : CallsCount fuel before := by
  constructor
  · intro method params onAcknowledge result
    split
    · rename_i stopped
      have refused := request_of_stopped (run fuel) method params onAcknowledge stopped
      exact congrArg (·.2.identifiers) refused
    · rename_i live
      rw [Bool.not_eq_true] at live
      refine ⟨request_takesNext (run_moves fuel) method params onAcknowledge live, ?_⟩
      intro report came
      rcases request_finished (run_moves fuel) (Prod.ext came rfl) with ⟨_, _, _, finished⟩
      exact finished.number
  · intro method params after
    split
    · rename_i stopped
      have refused := congrArg (·.2.identifiers)
        (accept_of_stopped (run fuel) method params false stopped)
      rw [← notify_state] at refused
      exact refused
    · rename_i live
      rw [Bool.not_eq_true] at live
      exact notify_takesNext (run_moves fuel) method params live
  · intro title message percentage result
    split
    · rename_i unfit
      rw [Bool.or_eq_true, Bool.not_eq_true'] at unfit
      rcases begin_of_unfit (run fuel) title message percentage unfit with ⟨failure, declined⟩
      exact congrArg (·.2.identifiers) declined
    · rename_i fit
      rw [Bool.not_eq_true, Bool.or_eq_false_iff, Bool.not_eq_false'] at fit
      cases valid : Percentage.ofValue? percentage with
      | error failure => simp [valid, Except.isOk, Except.toBool] at fit
      | ok given => exact begin_takesNext (run_moves fuel) title message fit.1 valid
  · exact start_counts fuel before

/-! ## The account -/

/-- The counter of a session that is started by default says how many calls were entered that take
an identifier, and the identifiers follow one another in the order in which these calls were
entered, however they were nested. -/
theorem identifiers_accounted {start : Session} (new : start.IsNew)
    (byDefault : start.launcher = none) (operations : List (Nat × Operation Program)) :
    let session := start.after operations
    let history := session.history
    session.identifiers.next = start.identifiers.next + history.countP Event.isLiveCall +
      history.countP Event.isFitQuestion + (if history.any Event.isStarted then 1 else 0) +
        history.countP Event.isNumberedByHost ∧
    numbers history = enumerated start.identifiers.next (enteredUses history) ∧
    Increasing history ∧
    ∀ fuel before, CallsCount fuel before := by
  intro session history
  have numbered : Numbered start.identifiers.next session := numbered_after new operations
  have counted : StartCounted session := by
    refine isKept_startCounted.after ?_ operations
    constructor <;> simp [new.history, new.lifecycle]
  have launcher : session.launcher = none := by
    rw [(after_changes operations (Int.le_refl _)).launcher_eq, byDefault]
  refine ⟨?_, numbered.numbers, numbered.increasing, callsCount⟩
  have starts := counted.counted launcher
  rw [counted.started] at starts
  rw [numbered.next, length_enteredUses, starts]
  simp only [history]
  split <;> push_cast <;> omega

/-- What the receiver of a request takes comes after the number of the request. -/
theorem identifiers_accounted_of_nesting :
    let taking : Program := .perform .nextIdentifier fun _ => .done .null
    let session := ({} : Session).after
      [(4, .register "m" fun _ _ => taking), (4, .start),
        (4, .request (.string "m") .null none none), (4, .notify (.string "other") .null)]
    session.identifiers.next = 5 ∧
      numbers session.history = [(.session, 1), (.request, 2), (.host, 3), (.notification, 4)] := by
  intro taking session
  have law := identifiers_accounted isNew_default rfl
    [(4, .register "m" fun _ _ => taking), (4, .start),
      (4, .request (.string "m") .null none none), (4, .notify (.string "other") .null)]
  exact ⟨law.1.trans (by decide +kernel), law.2.1.trans (by decide +kernel)⟩

end RpcSession.Session
