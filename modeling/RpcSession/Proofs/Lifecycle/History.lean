import RpcSession.Proofs.Termination

/-!
# The lifecycle and the history

A session is started by every launcher that comes back with an identifier, and ended when it is
terminated. Its lifecycle is at every moment what its history says of these, and a start that
comes back gives the identifier that the session has at that moment.
-/

namespace RpcSession.Session

variable {since : Int} {session after : Session}

/-! ## The lifecycle of a history

An event makes something of a lifecycle: a launcher that came back with an identifier starts the
session under it. Without a launch, a lifecycle can come to its end only. -/

namespace Event

def launch? : Event → Option Value
  | .launcherReturned identifier => if identifier.isNull then none else some identifier
  | _ => none

def start? : Event → Option Value
  | .started identifier => some identifier
  | _ => none

/-- What an event makes of a lifecycle. -/
def lead : Event → Lifecycle → Lifecycle
  | .launcherReturned identifier, lifecycle =>
      if identifier.isNull then lifecycle else lifecycle.begin identifier
  | .terminated, lifecycle => lifecycle.terminate
  | _, lifecycle => lifecycle

def isOfLifecycle : Event → Bool
  | .launcherReturned _ | .started _ | .terminated => true
  | _ => false

theorem lead_of_launch {event : Event} {identifier : Value}
    (launch : event.launch? = some identifier) (lifecycle : Lifecycle) :
    event.lead lifecycle = lifecycle.begin identifier := by
  cases event with
  | launcherReturned given =>
      rw [launch?] at launch
      split at launch
      · cases launch
      · rename_i present
        cases launch
        rw [lead, if_neg present]
  | _ => cases launch

theorem lead_of_no_launch {event : Event} (none : event.launch? = none) (lifecycle : Lifecycle) :
    event.lead lifecycle = lifecycle ∨ event.lead lifecycle = lifecycle.terminate := by
  cases event <;> simp_all [launch?, lead]

private theorem lead_of_aside {event : Event} (aside : event.isOfLifecycle = false)
    (lifecycle : Lifecycle) : event.lead lifecycle = lifecycle := by
  cases event <;> simp_all [isOfLifecycle, lead]

private theorem launch?_of_aside {event : Event} (aside : event.isOfLifecycle = false) :
    event.launch? = none := by
  cases event <;> simp_all [isOfLifecycle, launch?]

end Event

def lifecycleOf (history : List Event) : Lifecycle :=
  history.foldr Event.lead {}

@[simp] theorem lifecycleOf_cons (event : Event) (history : List Event) :
    lifecycleOf (event :: history) = event.lead (lifecycleOf history) := rfl

def launches (history : List Event) : List Value :=
  history.filterMap Event.launch?

def starts (history : List Event) : List Value :=
  history.filterMap Event.start?

theorem launches_eq_nil_iff (history : List Event) :
    launches history = [] ↔ (lifecycleOf history).started = false := by
  induction history with
  | nil => simp [launches, lifecycleOf]
  | cons event history induction =>
      rw [lifecycleOf_cons]
      cases launch : event.launch? with
      | some identifier => simp [launches, launch, Event.lead_of_launch launch, Lifecycle.begin]
      | none =>
          rw [launches, List.filterMap_cons_none launch, ← launches, induction]
          rcases event.lead_of_no_launch launch (lifecycleOf history) with same | same
          · rw [same]
          · rw [same]
            rfl

theorem stopped_lifecycleOf (history : List Event) :
    (lifecycleOf history).stopped = true ↔ .terminated ∈ history := by
  induction history with
  | nil => simp [lifecycleOf]
  | cons event history induction =>
      cases event with
      | terminated => simp [Event.lead, Lifecycle.terminate]
      | launcherReturned identifier =>
          cases missing : identifier.isNull <;>
            simp [Event.lead, missing, Lifecycle.begin, induction]
      | _ => simpa [Event.lead] using induction

theorem lifecycleOf_append_of_ended {later : List Event} (none : launches later = [])
    (earlier : List Event) :
    lifecycleOf (later ++ .terminated :: earlier) = (lifecycleOf earlier).terminate := by
  induction later with
  | nil => rfl
  | cons event later induction =>
      have silent : event.launch? = Option.none := List.filterMap_eq_nil_iff.mp none _
        List.mem_cons_self
      rw [launches, List.filterMap_cons_none silent] at none
      rw [List.cons_append, lifecycleOf_cons, induction none]
      rcases event.lead_of_no_launch silent (lifecycleOf earlier).terminate with same | same
      · exact same
      · rw [same, Lifecycle.terminate_terminate]

/-! ## Launchers that are overtaken -/

/-- Whether a launcher came back with an identifier although the session had been started while
it ran. -/
def isOvertaken : List Event → Bool
  | [] => false
  | event :: history =>
      isOvertaken history || (event.launch?.isSome && (lifecycleOf history).started)

theorem isOvertaken_eq_false_iff (history : List Event) :
    isOvertaken history = false ↔ Throughout (fun event earlier =>
      event.launch?.isSome = true → (lifecycleOf earlier).started = false) history := by
  induction history with
  | nil => exact ⟨fun _ => .nil, fun _ => rfl⟩
  | cons event history induction =>
      rw [isOvertaken, Bool.or_eq_false_iff, induction, Throughout.cons_iff,
        Bool.and_eq_false_imp, and_comm]

theorem isOvertaken_eq_false_of_suffix {earlier history : List Event}
    (suffix : earlier <:+ history) (alone : isOvertaken history = false) :
    isOvertaken earlier = false := by
  rw [isOvertaken_eq_false_iff] at alone ⊢
  exact alone.of_suffix suffix

/-- No launcher is overtaken exactly if no more than one gave the session an identifier. -/
theorem length_launches_le_one_iff (history : List Event) :
    (launches history).length ≤ 1 ↔ isOvertaken history = false := by
  induction history with
  | nil => simp [launches, isOvertaken]
  | cons event history induction =>
      cases launch : event.launch? with
      | none =>
          rw [launches, List.filterMap_cons_none launch, ← launches, induction, isOvertaken, launch]
          simp
      | some identifier =>
          rw [launches, List.filterMap_cons_some launch, ← launches, isOvertaken, launch,
            Bool.or_eq_false_iff, ← induction, Option.isSome_some, Bool.true_and,
            ← launches_eq_nil_iff, List.length_cons]
          constructor
          · intro short
            have none : launches history = [] := List.eq_nil_of_length_eq_zero (by omega)
            exact ⟨by simp [none], none⟩
          · rintro ⟨_, none⟩
            simp [none]

theorem session_of_suffix {earlier history : List Event} (suffix : earlier <:+ history)
    (alone : isOvertaken history = false) (running : (lifecycleOf earlier).started = true) :
    (lifecycleOf history).started = true ∧
      (lifecycleOf history).session = (lifecycleOf earlier).session := by
  induction history with
  | nil =>
      rw [List.suffix_nil.mp suffix] at running ⊢
      exact ⟨running, rfl⟩
  | cons event history induction =>
      rcases List.suffix_cons_iff.mp suffix with rfl | older
      · exact ⟨running, rfl⟩
      · have kept := induction older
          (isOvertaken_eq_false_of_suffix (List.suffix_cons _ _) alone)
        rw [lifecycleOf_cons]
        cases launch : event.launch? with
        | none =>
            rcases event.lead_of_no_launch launch (lifecycleOf history) with same | same <;>
              rw [same] <;> exact kept
        | some identifier =>
            have overtaken := (isOvertaken_eq_false_iff _).mp alone event history
              (List.suffix_refl _) (by rw [launch]; rfl)
            rw [kept.1] at overtaken
            cases overtaken

/-! ## What a change does to the lifecycle -/

inductive LifecycleChange (session after : Session) : Prop
  | aside (recent : List Event) (lifecycle : after.lifecycle = session.lifecycle)
      (history : after.history = recent ++ session.history)
      (others : ∀ event ∈ recent, event.isOfLifecycle = false)
  | unlaunched (identifier : Value) (missing : identifier.isNull = true)
      (same : after = session.noting (.launcherReturned identifier))
  | initialized (identifier : Value) (entry : LogEntry) (given : identifier.isNull = false)
      (byDefault : session.launcher = none →
        session.lifecycle.started = false ∧ session.lifecycle.stopped = false)
      (same : after = session.initializing identifier entry)
  | started (live : session.lifecycle.stopped = false)
      (running : session.lifecycle.started = true)
      (same : after = session.noting (.started session.lifecycle.session))
  | terminated
      (same : after =
        { session with lifecycle := session.lifecycle.terminate }.noting .terminated)

theorem Change.lifecycle (change : Change since session after) :
    LifecycleChange session after := by
  cases change with
  | unlaunched identifier missing => exact .unlaunched identifier missing rfl
  | initialized identifier entry given byDefault =>
      exact .initialized identifier entry given byDefault rfl
  | started live running => exact .started live running rfl
  | terminated => exact .terminated rfl
  | remarked event remark =>
      refine .aside [event] rfl rfl ?_
      cases event <;> simp_all [Event.isRemark, Event.isOfLifecycle]
  | named | remembered | settled | kept | timerCreated | tickScheduled | timePassed =>
      exact .aside [] rfl rfl (by simp)
  | numbered | launched | refused | called | returned | concluded | declined | registered |
    unregistered | timerStopped | indexed | acknowledgementDue | acknowledged =>
      exact .aside [_] rfl rfl (by simp [Event.isOfLifecycle])
  | opened => exact .aside [_, _] rfl rfl (by simp [Event.isOfLifecycle])
  | begun => exact .aside [_, _, _, _, _] rfl rfl (by simp [Event.isOfLifecycle])
  | reported => exact .aside [_, _] rfl rfl (by simp [Event.isOfLifecycle])
  | answered responder answer =>
      unfold answering
      split <;> exact .aside [_] rfl rfl (by simp [Event.isOfLifecycle])
  | fired tick =>
      unfold firing
      split
      · exact .aside [] rfl rfl (by simp)
      · exact .aside [_] rfl rfl (by simp [Event.isOfLifecycle])
  | tickReturned index timer outcome =>
      rcases session.returning_cases index timer outcome with same | same | ⟨entry, same⟩ <;>
        rw [same]
      · exact .aside [_] rfl rfl (by simp [Event.isOfLifecycle])
      · exact .aside [_] rfl rfl (by simp [Event.isOfLifecycle])
      · exact .aside [_, _, _] rfl rfl (by simp [Event.isOfLifecycle])

/-! ## Starts and launchers in a history -/

/-- What is true of the starts of a history and of the launchers that they called. -/
structure Led (launcher : Option Program) (history : List Event) : Prop where
  /-- A start that comes back gives the identifier that the session has. -/
  returned : Throughout (fun start earlier => ∀ identifier, start = .started identifier →
    (lifecycleOf earlier).started = true ∧ (lifecycleOf earlier).session = identifier) history
  /-- After the end only a start whose launcher has just come back gives an identifier. -/
  late : Throughout (fun start earlier => ∀ identifier, start = .started identifier →
    (lifecycleOf earlier).stopped = true →
      ∃ entry launch rest, earlier = .logged entry :: launch :: rest ∧
        launch.launch? = some identifier) history
  /-- The identifier of a launcher is given by the start that called it, at once. -/
  answered : Throughout (fun launch earlier => ∀ identifier, launch.launch? = some identifier →
    ∃ entry, .started identifier :: .logged entry :: launch :: earlier <:+ history) history
  byDefault : launcher = none → Throughout (fun launch earlier => launch.launch?.isSome = true →
    (lifecycleOf earlier).started = false ∧ (lifecycleOf earlier).stopped = false) history

namespace Led

variable {launcher : Option Program} {history : List Event}

private theorem nil (launcher : Option Program) : Led launcher [] :=
  ⟨.nil, .nil, .nil, fun _ => .nil⟩

theorem answered_after (led : Led launcher history) (recent : List Event) :
    Throughout (fun launch earlier => ∀ identifier, launch.launch? = some identifier →
      ∃ entry, .started identifier :: .logged entry :: launch :: earlier <:+
        recent ++ history) history := by
  refine led.answered.imp ?_
  intro launch earlier answered identifier launched
  rcases answered identifier launched with ⟨entry, within⟩
  exact ⟨entry, within.trans (List.suffix_append _ _)⟩

theorem cons {event : Event} (led : Led launcher history) (silent : event.launch? = none)
    (given : ∀ identifier, event = .started identifier →
      (lifecycleOf history).started = true ∧ (lifecycleOf history).session = identifier ∧
        (lifecycleOf history).stopped = false) : Led launcher (event :: history) := by
  constructor
  · refine Throughout.cons_iff.mpr ⟨fun identifier same => ?_, led.returned⟩
    exact ⟨(given identifier same).1, (given identifier same).2.1⟩
  · refine Throughout.cons_iff.mpr ⟨fun identifier same stopped => ?_, led.late⟩
    rw [(given identifier same).2.2] at stopped
    cases stopped
  · refine Throughout.cons_iff.mpr ⟨fun identifier launched => ?_, led.answered_after [event]⟩
    rw [silent] at launched
    cases launched
  · refine fun byDefault => Throughout.cons_iff.mpr ⟨fun launched => ?_, led.byDefault byDefault⟩
    rw [silent] at launched
    cases launched

private theorem aside {recent : List Event} (led : Led launcher history)
    (others : ∀ event ∈ recent, event.isOfLifecycle = false) :
    Led launcher (recent ++ history) := by
  induction recent with
  | nil => exact led
  | cons event recent induction =>
      have other := others event List.mem_cons_self
      apply (induction fun event member => others event (List.mem_cons_of_mem _ member)).cons
        (Event.launch?_of_aside other)
      rintro identifier rfl
      cases other

private theorem initialized {identifier : Value} (entry : LogEntry) (led : Led launcher history)
    (given : identifier.isNull = false)
    (fresh : launcher = none →
      (lifecycleOf history).started = false ∧ (lifecycleOf history).stopped = false) :
    Led launcher
      (.started identifier :: .logged entry :: .launcherReturned identifier :: history) := by
  have launch : (Event.launcherReturned identifier).launch? = some identifier := by
    rw [Event.launch?, given]
    rfl
  constructor
  · simp only [Throughout.cons_iff]
    refine ⟨fun other same => ?_, nofun, nofun, led.returned⟩
    cases same
    rw [lifecycleOf_cons, lifecycleOf_cons, Event.lead_of_launch launch]
    exact ⟨rfl, rfl⟩
  · simp only [Throughout.cons_iff]
    refine ⟨fun other same _ => ?_, nofun, nofun, led.late⟩
    cases same
    exact ⟨entry, _, history, rfl, launch⟩
  · rw [Throughout.cons_iff, Throughout.cons_iff, Throughout.cons_iff]
    refine ⟨nofun, nofun, fun other launched => ?_, led.answered_after [_, _, _]⟩
    cases launch.symm.trans launched
    exact ⟨entry, List.suffix_refl _⟩
  · intro byDefault
    rw [Throughout.cons_iff, Throughout.cons_iff, Throughout.cons_iff]
    exact ⟨nofun, nofun, fun _ => fresh byDefault, led.byDefault byDefault⟩

end Led

private theorem lifecycleOf_aside {recent : List Event}
    (others : ∀ event ∈ recent, event.isOfLifecycle = false) (history : List Event) :
    lifecycleOf (recent ++ history) = lifecycleOf history := by
  induction recent with
  | nil => rfl
  | cons event recent induction =>
      rw [List.cons_append, lifecycleOf_cons, Event.lead_of_aside (others _ List.mem_cons_self)]
      exact induction fun event member => others event (List.mem_cons_of_mem _ member)

theorem Reachable.led (reachable : Reachable session) :
    session.lifecycle = lifecycleOf session.history ∧ Led session.launcher session.history := by
  induction reachable with
  | new new =>
      rw [new.lifecycle, new.history]
      exact ⟨rfl, .nil _⟩
  | step _ change induction =>
      rcases induction with ⟨lifecycle, led⟩
      rw [change.launcher_eq]
      rcases change.lifecycle with ⟨recent, same, history, others⟩ | ⟨identifier, missing, rfl⟩ |
        ⟨identifier, entry, given, byDefault, rfl⟩ | ⟨live, running, rfl⟩ | rfl
      · rw [same, history, lifecycleOf_aside others]
        exact ⟨lifecycle, led.aside others⟩
      · refine ⟨?_, led.cons (by simp [Event.launch?, missing]) ?_⟩
        · simpa [noting, Event.lead, missing] using lifecycle
        · rintro other same
          cases same
      · refine ⟨?_, led.initialized entry given ?_⟩
        · rw [initializing, lifecycle]
          simp [noting, Event.lead, given]
        · rwa [← lifecycle]
      · refine ⟨lifecycle, led.cons rfl ?_⟩
        rintro other same
        cases same
        rw [← lifecycle]
        exact ⟨running, rfl, live⟩
      · refine ⟨congrArg Lifecycle.terminate lifecycle, led.cons rfl ?_⟩
        rintro other same
        cases same

end RpcSession.Session
