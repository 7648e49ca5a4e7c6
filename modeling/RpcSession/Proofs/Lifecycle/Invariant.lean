import RpcSession.Proofs.Lifecycle.History

/-!
# What a lifecycle keeps

A lifecycle only goes forward, and a session has an identifier exactly if it has been started.
Whatever a launcher does, a start that fails changes the lifecycle only by the starts and the ends
that came about while its launcher ran.
-/

namespace RpcSession

namespace Lifecycle

/-! ## Forward -/

def Stage.rank : Stage → Nat
  | uninitialized => 0
  | initialized => 1
  | terminated => 2

/-- The later one is what the earlier one has become, or is still the same. -/
structure Precedes (earlier later : Lifecycle) : Prop where
  started : earlier.started = true → later.started = true
  stopped : earlier.stopped = true → later.stopped = true
  stage : earlier.stage.rank ≤ later.stage.rank

namespace Precedes

variable {earlier middle later : Lifecycle}

theorem refl (lifecycle : Lifecycle) : Precedes lifecycle lifecycle := ⟨id, id, Nat.le_refl _⟩

theorem trans (first : Precedes earlier middle) (second : Precedes middle later) :
    Precedes earlier later where
  started := second.started ∘ first.started
  stopped := second.stopped ∘ first.stopped
  stage := Nat.le_trans first.stage second.stage

private theorem begin (lifecycle : Lifecycle) (session : Value) :
    Precedes lifecycle (lifecycle.begin session) where
  started _ := rfl
  stopped := id
  stage := by
    rcases lifecycle with ⟨started, stopped, former⟩
    cases started <;> cases stopped <;> simp [Lifecycle.begin, Lifecycle.stage, Stage.rank]

private theorem terminate (lifecycle : Lifecycle) : Precedes lifecycle lifecycle.terminate where
  started := id
  stopped _ := rfl
  stage := by
    rw [stage_terminate]
    cases lifecycle.stage <;> decide

end Precedes

private theorem flags_of_initialized (lifecycle : Lifecycle)
    (initialized : lifecycle.stage = .initialized) :
    lifecycle.started = true ∧ lifecycle.stopped = false := by
  rcases lifecycle with ⟨started, stopped, session⟩
  cases started <;> cases stopped <;> first | exact ⟨rfl, rfl⟩ | cases initialized

end Lifecycle

namespace Session

variable {since : Int} {session after : Session}

/-- Whether an event is a start that came back or the end of a session. -/
def Event.isTurn : Event → Bool
  | .started _ | .terminated => true
  | _ => false

/-! ## What changes do to a lifecycle -/

structure Leads (session after : Session) (recent : List Event) : Prop where
  history : after.history = recent ++ session.history
  precedes : session.lifecycle.Precedes after.lifecycle
  unturned : (∀ event ∈ recent, event.isTurn = false) → after.lifecycle = session.lifecycle
  turned : (∃ event ∈ recent, event.isTurn = true) →
    after.lifecycle.started = true ∨ after.lifecycle.stopped = true

namespace Leads

theorem of_aside {recent : List Event} (lifecycle : after.lifecycle = session.lifecycle)
    (history : after.history = recent ++ session.history)
    (others : ∀ event ∈ recent, event.isTurn = false) : Leads session after recent where
  history := history
  precedes := lifecycle ▸ .refl _
  unturned _ := lifecycle
  turned := by
    rintro ⟨event, member, turn⟩
    rw [others event member] at turn
    cases turn

theorem trans {middle : Session} {early late : List Event} (first : Leads session middle early)
    (second : Leads middle after late) : Leads session after (late ++ early) where
  history := by rw [second.history, first.history, List.append_assoc]
  precedes := first.precedes.trans second.precedes
  unturned others := by
    rw [second.unturned fun event member => others event (List.mem_append_left _ member)]
    exact first.unturned fun event member => others event (List.mem_append_right _ member)
  turned := by
    rintro ⟨event, member, turn⟩
    rcases List.mem_append.mp member with late | early
    · exact second.turned ⟨event, late, turn⟩
    · exact (first.turned ⟨event, early, turn⟩).imp second.precedes.started
        second.precedes.stopped

end Leads

private theorem Change.leads (change : Change since session after) :
    ∃ recent, Leads session after recent := by
  cases change.lifecycle with
  | aside recent lifecycle history others =>
      refine ⟨recent, .of_aside lifecycle history fun event member => ?_⟩
      have other := others event member
      cases event <;> first | rfl | cases other
  | unlaunched identifier _ same =>
      subst same
      exact ⟨[.launcherReturned identifier], .of_aside rfl rfl (by simp [Event.isTurn])⟩
  | initialized identifier entry _ _ same =>
      subst same
      refine ⟨[.started identifier, .logged entry, .launcherReturned identifier], rfl,
        .begin _ identifier, fun others => ?_, fun _ => .inl rfl⟩
      cases others (.started identifier) List.mem_cons_self
  | started _ running same =>
      subst same
      exact ⟨[.started session.lifecycle.session], rfl, .refl _, fun _ => rfl,
        fun _ => .inl running⟩
  | terminated same =>
      subst same
      refine ⟨[.terminated], rfl, .terminate _, fun others => ?_, fun _ => .inr rfl⟩
      cases others .terminated List.mem_cons_self

private theorem Changes.leads (changes : Changes since session after) :
    ∃ recent, Leads session after recent := by
  induction changes with
  | refl => exact ⟨[], .of_aside rfl rfl (by simp)⟩
  | tail _ change induction =>
      rcases induction with ⟨early, first⟩
      rcases change.leads with ⟨late, second⟩
      exact ⟨late ++ early, first.trans second⟩

theorem Reachable.named_iff (reachable : Reachable session) :
    session.lifecycle.started = true ↔ session.lifecycle.session.isNull = false := by
  induction reachable with
  | new new =>
      rw [new.lifecycle]
      decide
  | step _ change named =>
      cases change.lifecycle with
      | aside _ lifecycle => rwa [lifecycle]
      | unlaunched _ _ same | started _ _ same | terminated same =>
          subst same
          exact named
      | initialized identifier _ given _ same =>
          subst same
          exact ⟨fun _ => given, fun _ => rfl⟩

/-! ## Starts that fail

A start fails on a session that has ended, and then does nothing, or on one that has not been
started. -/

private theorem unstarted_of_failed {invoke : Invoke} {failure : Failure}
    (failed : start invoke session = (.failed failure, after)) :
    after = session ∨
      session.lifecycle.started = false ∧ session.lifecycle.stopped = false := by
  cases stopped : session.lifecycle.stopped with
  | true =>
      rcases (refuses_of_stopped invoke stopped).start with ⟨message, refused⟩
      rw [refused] at failed
      cases failed
      exact .inl rfl
  | false =>
      cases started : session.lifecycle.started with
      | true =>
          rw [start_of_started invoke stopped started] at failed
          cases failed
      | false => exact .inr ⟨rfl, rfl⟩

private theorem lifecycle_of_failed {invoke : Invoke} {failure : Failure} {recent : List Event}
    (failed : start invoke session = (.failed failure, after))
    (leads : Leads session after recent) :
    after.lifecycle = session.lifecycle ↔ ∀ event ∈ recent, event.isTurn = false := by
  refine ⟨fun same event member => ?_, leads.unturned⟩
  rcases unstarted_of_failed failed with rfl | ⟨unstarted, live⟩
  · rw [List.self_eq_append_left.mp leads.history] at member
    cases member
  · cases turn : event.isTurn with
    | false => rfl
    | true =>
        have turned := leads.turned ⟨event, member, turn⟩
        rw [same, unstarted, live] at turned
        simp at turned

/-- At every moment of every run a session has an identifier exactly if it has been started, so
starts of one that has been started give one; from every moment to every later one its lifecycle
goes forward. A start that fails leaves the lifecycle as it was, unless a start came back or an end
came about while its launcher ran. -/
theorem lifecycle_invariant (reachable : Reachable session) :
    (session.lifecycle.started = true ↔ session.lifecycle.session.isNull = false) ∧
    (∀ fuel, session.lifecycle.stage = .initialized → ∃ identifier,
      identifier.isNull = false ∧ session.lifecycle.session = identifier ∧
        start (run fuel) session = (.value identifier, session.noting (.started identifier))) ∧
    (∀ operations, session.lifecycle.Precedes (session.after operations).lifecycle) ∧
    (∀ since after, Changes since session after →
      session.lifecycle.Precedes after.lifecycle) ∧
    (∀ fuel failure after, start (run fuel) session = (.failed failure, after) →
      ∃ recent, after.history = recent ++ session.history ∧
        (after.lifecycle = session.lifecycle ↔ ∀ event ∈ recent, event.isTurn = false)) := by
  have precedes (since : Int) (after : Session) (changes : Changes since session after) :
      session.lifecycle.Precedes after.lifecycle := by
    rcases changes.leads with ⟨recent, leads⟩
    exact leads.precedes
  refine ⟨reachable.named_iff, fun fuel initialized => ?_, fun operations => ?_, precedes,
    fun fuel failure after failed => ?_⟩
  · rcases session.lifecycle.flags_of_initialized initialized with ⟨started, live⟩
    exact ⟨_, reachable.named_iff.mp started, rfl, start_of_started _ live started⟩
  · exact precedes _ _ (after_changes operations (Int.le_refl _))
  · have changes : Changes session.identifiers.next session after := by
      have moved : Moves session.identifiers.next session (start (run fuel)) :=
        start_moves (run_moves fuel)
      have taken := moved (Int.le_refl _)
      rwa [failed] at taken
    rcases changes.leads with ⟨recent, leads⟩
    exact ⟨recent, leads.history, lifecycle_of_failed failed leads⟩

/-- A launcher that starts the session itself, in vain, and then comes back with nothing. -/
theorem lifecycle_invariant_of_failing_launcher :
    let launcher : Program := .ask (.readCell "nested") fun
      | .value .null =>
          .andThen (.writeCell "nested" (.bool true)) (.perform .start fun _ => .done .null)
      | _ => .fail (.host .key [])
    let session : Session := { launcher := some launcher }
    let after := (start (run 9) session).2
    Reachable session ∧ start (run 9) session = (.failed (.peer .startFailed), after) ∧
      after.lifecycle = session.lifecycle := by
  intro launcher session after
  have reachable : Reachable session := .new isNew_given
  have failed : start (run 9) session = (.failed (.peer .startFailed), after) := by
    with_unfolding_all rfl
  rcases (lifecycle_invariant reachable).2.2.2.2 9 _ after failed with ⟨recent, history, same⟩
  refine ⟨reachable, failed, same.mpr ?_⟩
  have others : ∀ event ∈ after.history, event.isTurn = false := by decide +kernel
  rwa [history, show session.history = [] from rfl, List.append_nil] at others

end Session

end RpcSession
