import RpcSession.Proofs.Registry.History

/-!
# Dispatches

A dispatch serves the receivers that its method has when it begins, each once and in the order of
their registration, whatever they do to the registry meanwhile. A receiver is served when it came
back and, if it returned something, that has been given to the responder. A dispatch gives the
number of its receivers, or else the first of their failures when all have been served.
-/

namespace RpcSession.Session

open Registry (Entry Represents receiversFor)

/-! ## Serving receivers

What runs when a receiver is called is what it was registered with: for one of the host, the
program that its handler gives. -/

section

variable (invoke : Invoke) (method : String) (params : Value) (responder : Responder)

def runCalled (entry : Int × Receiver) (before : Session) : Outcome Value × Session :=
  runReceiver invoke entry.2 params responder
    (before.noting (.called entry.1 method params responder))

/-- One receiver is called, and what comes of that. It fails by its own failure, or by that of the
responder which is given what it returned. -/
inductive Served (entry : Int × Receiver) (before : Session) : Outcome Unit → Session → Prop
  | exhausted {after : Session}
      (ran : runCalled invoke method params responder entry before = (.exhausted, after)) :
      Served entry before .exhausted after
  | failed {middle : Session} {failure : Failure}
      (ran : runCalled invoke method params responder entry before = (.failed failure, middle)) :
      Served entry before (.failed failure)
        (middle.noting (.returned entry.1 responder (.error failure)))
  | silent {middle : Session}
      (ran : runCalled invoke method params responder entry before = (.value .null, middle)) :
      Served entry before (.value ()) (middle.noting (.returned entry.1 responder (.ok .null)))
  | answered {middle after : Session} {value : Value} {outcome : Outcome Unit}
      (ran : runCalled invoke method params responder entry before = (.value value, middle))
      (given : value.isNull = false)
      (answered : respond invoke responder { result := value }
        (middle.noting (.returned entry.1 responder (.ok value))) = (outcome, after)) :
      Served entry before outcome after

/-- Receivers are served one after the other. The results say which of them failed, and by what. -/
inductive Serving : List (Int × Receiver) → Session → List (Option Failure) → Session → Prop
  | none {session : Session} : Serving [] session [] session
  | succeeded {entry : Int × Receiver} {receivers : List (Int × Receiver)}
      {before middle after : Session} {results : List (Option Failure)}
      (served : Served invoke method params responder entry before (.value ()) middle)
      (rest : Serving receivers middle results after) :
      Serving (entry :: receivers) before (none :: results) after
  | failed {entry : Int × Receiver} {receivers : List (Int × Receiver)}
      {before middle after : Session} {results : List (Option Failure)} {failure : Failure}
      (logged : LogEntry) (ordinary : failure.isOrdinary = true)
      (served : Served invoke method params responder entry before (.failed failure) middle)
      (rest : Serving receivers (middle.noting (.logged logged)) results after) :
      Serving (entry :: receivers) before (some failure :: results) after

def firstFailure (results : List (Option Failure)) : Option Failure := results.findSome? id

/-- What a fan-out to some receivers comes to, given what it makes of their results. All of them
are served, or else it stops at one that aborts or does not come back. -/
inductive FannedOut {α : Type} (conclude : List (Option Failure) → Outcome α)
    (receivers : List (Int × Receiver)) (before : Session) : Outcome α × Session → Prop
  | finished {results : List (Option Failure)} {after : Session}
      (serving : Serving invoke method params responder receivers before results after) :
      FannedOut conclude receivers before (conclude results, after)
  | aborted {earlier later : List (Int × Receiver)} {entry : Int × Receiver}
      {results : List (Option Failure)} {middle after : Session} {failure : Failure}
      (split : receivers = earlier ++ entry :: later)
      (serving : Serving invoke method params responder earlier before results middle)
      (served : Served invoke method params responder entry middle (.failed failure) after)
      (abort : failure.isOrdinary = false) :
      FannedOut conclude receivers before (.failed failure, after)
  | exhausted {earlier later : List (Int × Receiver)} {entry : Int × Receiver}
      {results : List (Option Failure)} {middle after : Session}
      (split : receivers = earlier ++ entry :: later)
      (serving : Serving invoke method params responder earlier before results middle)
      (served : Served invoke method params responder entry middle .exhausted after) :
      FannedOut conclude receivers before (.exhausted, after)

end

variable {session before middle after : Session} {invoke : Invoke}
variable {method : String} {params : Value} {responder : Responder}
variable {entry : Int × Receiver} {receivers : List (Int × Receiver)}
variable {results : List (Option Failure)} {failure : Failure}

theorem runCalled_host (invoke : Invoke) (method : String) (params : Value)
    (responder : Responder) (subscription : Int) (handler : Value → Responder → Program)
    (before : Session) :
    runCalled invoke method params responder (subscription, .host handler) before =
      invoke (handler params responder)
        (before.noting (.called subscription method params responder)) := rfl

private theorem callReceiver_served (invoke : Invoke) (method : String) (params : Value)
    (responder : Responder) (entry : Int × Receiver) (session : Session) :
    let result := callReceiver invoke method params responder entry.1 entry.2 session
    Served invoke method params responder entry session result.1 result.2 := by
  intro result
  have steps : result = finishReceiver invoke params responder entry.1 entry.2
    (session.noting (.called entry.1 method params responder)) := callReceiver_apply ..
  rw [steps, finishReceiver, Action.bind_apply, Action.attempt]
  cases ran : runReceiver invoke entry.2 params responder
      (session.noting (.called entry.1 method params responder)) with
  | mk outcome middle =>
      cases outcome with
      | exhausted => exact .exhausted ran
      | failed failure => exact .failed ran
      | value value =>
          dsimp only
          rw [Action.bind_of_value (record_apply _ _), Action.ofExcept_ok_bind]
          cases given : value.isNull with
          | false => exact .answered ran given rfl
          | true =>
              cases value with
              | null => exact .silent ran
              | _ => cases given

namespace FannedOut

variable {α β : Type} {conclude : List (Option Failure) → Outcome α} {result : Outcome α × Session}

private theorem cons {first : Option Failure} {next : Session}
    (serve : ∀ {receivers results after},
      Serving invoke method params responder receivers next results after →
        Serving invoke method params responder (entry :: receivers) before (first :: results) after)
    (rest : FannedOut invoke method params responder (fun results => conclude (first :: results))
      receivers next result) :
    FannedOut invoke method params responder conclude (entry :: receivers) before result := by
  cases rest with
  | finished serving => exact .finished (serve serving)
  | aborted split serving served abort =>
      exact .aborted (congrArg (entry :: ·) split) (serve serving) served abort
  | exhausted split serving served =>
      exact .exhausted (congrArg (entry :: ·) split) (serve serving) served

theorem map (change : Outcome α → Outcome β)
    (failed : ∀ failure, change (.failed failure) = .failed failure)
    (exhausted : change .exhausted = .exhausted)
    (fannedOut : FannedOut invoke method params responder conclude receivers before result) :
    FannedOut invoke method params responder (change ∘ conclude) receivers before
      (change result.1, result.2) := by
  cases fannedOut with
  | finished serving => exact .finished serving
  | aborted split serving served abort =>
      rw [failed]
      exact .aborted split serving served abort
  | exhausted split serving served =>
      rw [exhausted]
      exact .exhausted split serving served

end FannedOut

theorem fanOut_fannedOut (invoke : Invoke) (method : String) (params : Value)
    (responder : Responder) (receivers : List (Int × Receiver)) (session : Session) :
    FannedOut invoke method params responder (.value ∘ firstFailure) receivers session
      (fanOut invoke method params responder receivers session) := by
  induction receivers generalizing session with
  | nil => exact .finished .none
  | cons entry receivers induction =>
      have served := callReceiver_served invoke method params responder entry session
      rcases entry with ⟨subscription, receiver⟩
      cases called : callReceiver invoke method params responder subscription receiver session with
      | mk reply middle =>
          rw [called] at served
          cases reply with
          | value =>
              rw [fanOut_of_value called]
              exact (induction middle).cons (.succeeded served)
          | exhausted =>
              rw [fanOut_of_exhausted called]
              exact .exhausted (List.nil_append _).symm .none served
          | failed failure =>
              cases ordinary : failure.isOrdinary with
              | false =>
                  rw [fanOut_of_abort called ordinary]
                  exact .aborted (List.nil_append _).symm .none served ordinary
              | true =>
                  rcases fanOut_of_failure receivers called ordinary with ⟨logged, same⟩
                  rw [same]
                  have rest := (induction (middle.noting (.logged logged))).map
                    (afterFailure failure) (fun _ => rfl) rfl
                  exact FannedOut.cons (.failed logged ordinary served) rest

/-! ## Sessions between receivers -/

variable {since : Int} {outcome : Outcome Unit}

theorem Served.changes (moving : Invoke.Moves invoke) (own : Responder.IsSince since responder)
    (entered : since ≤ before.identifiers.next)
    (served : Served invoke method params responder entry before outcome after) :
    Changes since (before.noting (.called entry.1 method params responder)) after := by
  have ran : Changes since (before.noting (.called entry.1 method params responder))
      (runCalled invoke method params responder entry before).2 :=
    runReceiver_moves moving entry.2 params responder entered
  cases served with
  | exhausted came => rwa [came] at ran
  | failed came =>
      rw [came] at ran
      exact ran.tail (.returned _ _ _ own)
  | silent came =>
      rw [came] at ran
      exact ran.tail (.returned _ _ _ own)
  | @answered middle _ value _ came given answered =>
      rw [came] at ran
      let noted := middle.noting (.returned entry.1 responder (.ok value))
      have returned := ran.tail (.returned entry.1 responder (.ok value) own)
      have later := Changes.next_le returned
      have below : since ≤ noted.identifiers.next := Int.le_trans entered later
      have responded := respond_moves moving responder { result := value } below
      rw [answered] at responded
      exact returned.trans responded

private theorem Serving.changes (moving : Invoke.Moves invoke)
    (own : Responder.IsSince since responder) (entered : since ≤ before.identifiers.next)
    (serving : Serving invoke method params responder receivers before results after) :
    Changes since before after := by
  induction serving with
  | none => exact .refl
  | succeeded served rest induction =>
      have first := (served.changes moving own entered).head (.called _ _ _ _ own)
      exact first.trans (induction (Int.le_trans entered (Changes.next_le first)))
  | failed logged ordinary served rest induction =>
      have first := (served.changes moving own entered).head (.called _ _ _ _ own)
      have noted := first.tail (.remarked (.logged logged) rfl)
      exact noted.trans (induction (Int.le_trans entered (Changes.next_le noted)))

/-- Whoever the responder belongs to, a receiver is called at a moment of the run. -/
private theorem Serving.reachable (moving : Invoke.Moves invoke) (reachable : Reachable before)
    (serving : Serving invoke method params responder receivers before results after) :
    Reachable after := by
  rcases exists_isSince responder before.identifiers.next with ⟨since, entered, own⟩
  exact reachable.changes (serving.changes moving own entered)

/-! ## The law of dispatches -/

def tally (receivers : List (Int × Receiver)) (results : List (Option Failure)) : Outcome Nat :=
  match firstFailure results with
  | some failure => .failed failure
  | none => .value receivers.length

theorem dispatch_of_nobody (invoke : Invoke) (params : Value) (responder : Responder)
    (none : session.registry.receivers method = []) :
    ∃ logged, dispatch invoke method params responder session =
      (.value 0, session.noting (.logged logged)) := by
  rw [dispatch, Action.get_bind_apply, none]
  exact ⟨_, rfl⟩

theorem dispatch_fannedOut (invoke : Invoke) (params : Value) (responder : Responder)
    (some : session.registry.receivers method ≠ []) :
    FannedOut invoke method params responder (tally (session.registry.receivers method))
      (session.registry.receivers method) session
      (dispatch invoke method params responder session) := by
  let number := (session.registry.receivers method).length
  let change : Outcome (Option Failure) → Outcome Nat
    | .value (Option.some failure) => .failed failure
    | .value Option.none => .value number
    | .failed failure => .failed failure
    | .exhausted => .exhausted
  have served := (fanOut_fannedOut invoke method params responder
    (session.registry.receivers method) session).map change (fun _ => rfl) rfl
  have tallied : change ∘ (.value ∘ firstFailure) = tally (session.registry.receivers method) := by
    funext results
    simp only [Function.comp_apply, tally]
    cases firstFailure results <;> rfl
  have has : session.registry.hasReceivers method = true := by
    simpa [Registry.hasReceivers] using some
  rw [dispatch_of_receivers responder has, Action.bind_apply]
  rw [tallied] at served
  cases ran : fanOut invoke method params responder (session.registry.receivers method)
      session with
  | mk outcome after =>
      rw [ran] at served
      cases outcome with
      | value first => cases first <;> exact served
      | failed failure => exact served
      | exhausted => exact served

theorem dispatch_follows {listed : List (Entry Receiver)}
    (represents : Represents session.registry listed) (invoke : Invoke) (method : String)
    (params : Value) (responder : Responder) :
    let receivers := receiversFor method listed
    let result := dispatch invoke method params responder session
    (receivers = [] → ∃ logged, result = (.value 0, session.noting (.logged logged))) ∧
    (receivers ≠ [] →
      FannedOut invoke method params responder (tally receivers) receivers session result) := by
  intro receivers result
  have held : session.registry.receivers method = receivers := represents.receivers method
  constructor
  · intro none
    exact dispatch_of_nobody _ _ _ (held.trans none)
  · intro some
    have law := dispatch_fannedOut invoke params responder (held.symm ▸ some)
    rwa [held] at law

/-- A dispatch serves the receivers whose entries the registry holds for the method when it
begins: each once, in the order of registration, and with the same parameters and responder. It
comes to what their results are tallied to. Each of them is called at a moment of the run, so that
the dispatches it begins itself follow the same law, and what the host registered then runs as the
program that it gives. -/
theorem dispatch_serves_entries (reachable : Reachable session) (fuel : Nat) (method : String)
    (params : Value) (responder : Responder) :
    let receivers := receiversFor method (entries session.history)
    let result := dispatch (run fuel) method params responder session
    receivers.Pairwise (·.1 < ·.1) ∧
    (receivers = [] → ∃ logged, result = (.value 0, session.noting (.logged logged))) ∧
    (receivers ≠ [] →
      FannedOut (run fuel) method params responder (tally receivers) receivers session result) ∧
    (∀ earlier results middle,
      Serving (run fuel) method params responder earlier session results middle →
        Reachable middle) ∧
    (∀ subscription handler before,
      runCalled (run fuel) method params responder (subscription, .host handler) before =
        run fuel (handler params responder)
          (before.noting (.called subscription method params responder))) := by
  intro receivers result
  have represents := reachable.registered.represents
  have held : session.registry.receivers method = receivers := represents.receivers method
  rcases dispatch_follows represents (run fuel) method params responder with ⟨nobody, served⟩
  refine ⟨?_, nobody, served, ?_, runCalled_host (run fuel) method params responder⟩
  · rw [← held]
    exact represents.receivers_increasing method
  · intro earlier results middle serving
    exact serving.reachable (run_moves fuel) reachable

/-- The responder refuses what the first of two receivers returned. That counts as a failure of
the first, and the second is called all the same. -/
theorem dispatch_serves_entries_of_refusal :
    let start : Session := { responders := [fun _ => .fail (.host .key [])] }
    let session := start.after
      [(1, .register "m" fun _ _ => .done (.int 7)), (1, .register "m" fun _ _ => .done .null)]
    let receivers := receiversFor "m" (entries session.history)
    let result := dispatch (run 2) "m" .null (.host 0) session
    receivers.map (·.1) = [1, 2] ∧ result.1 = .failed (.host .key []) ∧
      ∃ results, Serving (run 2) "m" .null (.host 0) receivers session results result.2 ∧
        firstFailure results = some (.host .key []) := by
  intro start session receivers result
  have new : start.IsNew := isNew_given
  have law := dispatch_serves_entries ((Reachable.new new).after
    [(1, .register "m" fun _ _ => .done (.int 7)), (1, .register "m" fun _ _ => .done .null)])
    2 "m" .null (.host 0)
  have came : result.1 = .failed (.host .key []) := by with_unfolding_all rfl
  have fannedOut : FannedOut (run 2) "m" .null (.host 0) (tally receivers) receivers session
      result := law.2.2.1 (by with_unfolding_all exact List.cons_ne_nil _ _)
  refine ⟨by decide +kernel, came, ?_⟩
  generalize result = reply at came fannedOut
  cases fannedOut with
  | exhausted => cases came
  | aborted _ _ _ abort =>
      cases came
      cases abort
  | @finished results _ serving =>
      refine ⟨results, serving, ?_⟩
      rw [tally] at came
      cases first : firstFailure results with
      | none => simp [first] at came
      | some failure => simpa [first] using came

end RpcSession.Session
