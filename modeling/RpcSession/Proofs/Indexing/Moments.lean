import RpcSession.Proofs.Dispatch
import RpcSession.Proofs.Indexing.Runs

/-!
# Moments of a run

Host code runs at many moments of a run: between the operations from outside, but also in the
middle of them, when a receiver is called, when a timer ticks or when a walk has come to its end.
At all these moments every walk is on its course, if the peer is quiet.
-/

namespace RpcSession.Session

variable {start session before after : Session} {fuel : ℕ}

/-! ## Moments

An operation may come from outside or from a program that is under way, and each has its own fuel.
What the server does between two steps of a run touches no walk. -/

inductive Unfolds (start : Session) : Session → Prop
  | start : Unfolds start start
  | performed {session : Session} (unfolds : Unfolds start session) (fuel : ℕ)
      (operation : Operation Program) : Unfolds start (perform fuel operation session).2
  | received {session : Session} (unfolds : Unfolds start session) (fuel : ℕ) (receiver : Receiver)
      (params : Value) (responder : Responder) :
      Unfolds start (runReceiver (run fuel) receiver params responder session).2
  | drained {session : Session} (unfolds : Unfolds start session) (fuel count : ℕ) :
      Unfolds start (drain (run fuel) count session).2
  | fired {session : Session} (unfolds : Unfolds start session) (fuel : ℕ) {tick : ScheduledTick}
      (due : tick ∈ session.loop.scheduled) : Unfolds start (fire (run fuel) tick session).2
  /-- The callback of a tick is about to run. -/
  | firing {session : Session} (unfolds : Unfolds start session) {tick : ScheduledTick}
      (due : tick ∈ session.loop.scheduled) : Unfolds start (session.firing tick)
  /-- What is called at the end of a walk is about to run. -/
  | indexed {session : Session} (unfolds : Unfolds start session) (fuel : ℕ)
      {tick : ScheduledTick} (due : tick ∈ session.loop.scheduled) {timer : Timer}
      (found : session.timer? tick.timer = some timer) {token files : ℤ}
      {onFinish : Option Program} (calls : timer.callback = .indexing token files onFinish) :
      Unfolds start (indexFile (run fuel) tick.timer token files none (timer.ticks + 1)
        (session.firing tick)).2
  | aside {session after : Session} (unfolds : Unfolds start session)
      (aside : Aside session after) : Unfolds start after

/-! ## The course of walks -/

theorem callback?_of_found {index : ℕ} {timer : Timer}
    (found : session.timer? index = some timer) :
    session.callback? index = some timer.callback := by
  rw [callback?, found]
  rfl

variable {tick : ScheduledTick}

theorem firing_goes (onCourse : OnCourse session) (due : tick ∈ session.loop.scheduled) :
    Goes nobody session (session.firing tick) := by
  rcases Option.isSome_iff_exists.mp (onCourse.clocked.owned tick due) with ⟨timer, found⟩
  rcases strays_or_tracks (callback?_of_found found) with strays | ⟨token, files, tracks⟩
  · exact onCourse.astray strays (.firing onCourse.clocked due)
      (firing_clocked onCourse.clocked due)
  · rcases onCourse.waiting_of_due tracks due with ⟨reached, timer, progress, waiting⟩
    exact (waiting.firing onCourse tracks due).goes.of_waiting onCourse tracks
      (List.ne_nil_of_mem (mem_ticksOf due))

private theorem firing_indexFile_goes (fuel : ℕ) (onCourse : OnCourse session)
    (due : tick ∈ session.loop.scheduled) {timer : Timer}
    (found : session.timer? tick.timer = some timer) {token files : ℤ} {onFinish : Option Program}
    (calls : timer.callback = .indexing token files onFinish) :
    Goes nobody session (indexFile (run fuel) tick.timer token files none (timer.ticks + 1)
      (session.firing tick)).2 := by
  have callback := callback?_of_found found
  rcases strays_or_tracks callback with strays | ⟨label, number, tracks⟩
  · have goes := firing_goes onCourse due
    have known := (goes.later.callbacks _ _ callback).trans (congrArg some calls)
    exact goes.trans (indexFile_keeps (run_keeps fuel) known (strays.later goes.later) none _
      goes.onCourse)
  · rcases onCourse.waiting_of_due tracks due with ⟨reached, other, progress, waiting⟩
    cases waiting.found.symm.trans found
    rcases tracks.calls found with ⟨onFinishToo, callsToo⟩
    cases calls.symm.trans callsToo
    rw [waiting.ticks]
    exact (waiting.indexed onCourse tracks due fuel).goes.of_waiting onCourse tracks
      (List.ne_nil_of_mem (mem_ticksOf due))

theorem OnCourse.unfolds (onCourse : OnCourse start) (unfolds : Unfolds start session) :
    OnCourse session := by
  induction unfolds with
  | start => exact onCourse
  | performed _ fuel operation induction => exact (perform_keeps fuel operation induction).onCourse
  | received _ fuel receiver params responder induction =>
      exact (runReceiver_keeps (run_keeps fuel) receiver params responder induction).onCourse
  | drained _ fuel count induction => exact (drain_keeps (run_keeps fuel) count induction).onCourse
  | fired _ fuel due induction => exact (fire_keeps (run_keeps fuel) due induction).onCourse
  | firing _ due induction => exact (firing_goes induction due).onCourse
  | indexed _ fuel due found calls induction =>
      exact (firing_indexFile_goes fuel induction due found calls).onCourse
  | aside _ aside induction => exact (induction.aside aside).onCourse

/-! ## Moments of programs and dispatches -/

namespace Unfolds

theorem performing (unfolds : Unfolds start session) (operations : List (ℕ × Operation Program)) :
    Unfolds start (session.after operations) := by
  induction operations generalizing session with
  | nil => exact unfolds
  | cons first operations induction => exact induction (unfolds.performed first.1 first.2)

theorem noting (unfolds : Unfolds start session) {event : Event}
    (unmarked : event.isMarking = false) : Unfolds start (session.noting event) :=
  unfolds.aside (.noting session unmarked)

theorem dispatching (unfolds : Unfolds start session) (method : Value) (answerable : Bool) :
    Unfolds start (session.dispatching method answerable) := by
  have numbered : Aside session (session.dispatching method answerable) := by
    refine ⟨rfl, rfl, Int.le_of_lt (Int.lt_succ _), fun _ => .inl, rfl, rfl, rfl, rfl, ?_⟩
    rcases dispatching_history session method answerable with ⟨entry, same⟩
    refine ⟨[.logged entry, .numbered _ _, .arrived method answerable true], same, ?_⟩
    simp [Event.isMarking]
  exact unfolds.aside numbered

private theorem ran (unfolds : Unfolds start session) (fuel : ℕ) (program : Program) :
    Unfolds start (run fuel program session).2 := by
  induction fuel generalizing program session with
  | zero => exact unfolds
  | succ fuel induction =>
      have sequel {α : Type} {action : Action Session α} {next : Except Failure α → Program}
          (first : Unfolds start (action session).2) :
          Unfolds start ((Action.attempt action >>= fun outcome => run fuel (next outcome))
            session).2 := by
        rw [Action.bind_apply]
        rcases Action.attempt_cases action session with cut | ⟨outcome, came⟩
        · rw [cut]
          exact first
        · rw [came]
          exact induction first _
      cases program with
      | done | fail => exact unfolds
      | call callee next => exact sequel (induction unfolds callee)
      | perform operation next => exact sequel (unfolds.performed fuel operation)

private theorem delivered (unfolds : Unfolds start session) (fuel : ℕ) (responder : Responder)
    (answer : Answer) : Unfolds start (deliver (run fuel) responder answer session).2 := by
  cases responder with
  | host index =>
      rw [deliver, Action.get_bind_apply]
      cases session.responders[index]? with
      | none => exact unfolds
      | some callback =>
          dsimp only
          rw [Action.bind_pure_state]
          exact unfolds.ran fuel _
  | exchange identifier =>
      rcases deliver_cases (run fuel) session identifier answer with
        ⟨settled, outcome, _, same⟩ | ⟨_, same | ⟨entry, same⟩ | ⟨failure, _, same⟩⟩ <;> rw [same]
      · exact unfolds.aside (.of_eq rfl)
      · exact unfolds
      · exact unfolds.noting rfl
      · exact unfolds

private theorem responded (unfolds : Unfolds start session) (fuel : ℕ) (responder : Responder)
    (answer : Answer) : Unfolds start (respond (run fuel) responder answer session).2 :=
  have noted : Unfolds start (session.noting (.answered responder answer)) := unfolds.noting rfl
  noted.delivered fuel responder answer

variable {method : String} {params : Value} {responder : Responder}

private theorem served {entry : ℤ × Receiver} {outcome : Outcome Unit}
    (unfolds : Unfolds start before)
    (served : Served (run fuel) method params responder entry before outcome after) :
    Unfolds start after := by
  have called : Unfolds start (before.noting (.called entry.1 method params responder)) :=
    unfolds.noting rfl
  have ran := called.received fuel entry.2 params responder
  rw [← runCalled] at ran
  cases served with
  | exhausted came => rwa [came] at ran
  | failed came | silent came =>
      rw [came] at ran
      exact ran.noting rfl
  | @answered middle _ value _ came given answered =>
      rw [came] at ran
      have noted : Unfolds start (middle.noting (.returned entry.1 responder (.ok value))) :=
        ran.noting rfl
      have responded := noted.responded fuel responder { result := value }
      rwa [answered] at responded

/-- A dispatch at a moment of the run calls each of its receivers at one. -/
theorem serving {receivers : List (ℤ × Receiver)} {results : List (Option Failure)}
    (unfolds : Unfolds start before)
    (serving : Serving (run fuel) method params responder receivers before results after) :
    Unfolds start after := by
  induction serving with
  | none => exact unfolds
  | succeeded served rest induction => exact induction (unfolds.served served)
  | failed logged _ served rest induction =>
      exact induction ((unfolds.served served).noting rfl)

end Unfolds

end RpcSession.Session
