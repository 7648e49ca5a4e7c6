import RpcSession.Demonstration
import RpcSession.Proofs.Exchange.Request
import RpcSession.Proofs.Indexing.SilentPeer

/-!
# The course of a demonstration

A demonstration is followed from its start to its end: it writes what `initialize` came to, begins
one progress, walks it file by file to a hundred percent, and exits.
-/

namespace RpcSession.Demonstration

open Session

def written (session : Session) : List Value :=
  session.history.reverse.filterMap messageOf?

theorem written_append {session after : Session} {recent : List Event}
    (history : after.history = recent ++ session.history) :
    written after = written session ++ recent.reverse.filterMap messageOf? := by
  rw [written, history, List.reverse_append, List.filterMap_append, written]

/-! ## Introduction -/

def introduced (configuration : Configuration) : Session :=
  (introduce (fun _ => Action.exhausted) { configuration }).2

theorem introduce_eq (invoke : Invoke) (configuration : Configuration) :
    introduce invoke { configuration } = (.value (), introduced configuration) := rfl

def greeting (capabilities : Value) : Value :=
  Message.resultResponse (.int 2) (.object [("capabilities", capabilities)])

/-! ## References -/

variable {invoke : Invoke} {session after : Session}

def answered (after : Session) (subscription : Int) (responder : Responder) : Session :=
  after.noting (.returned subscription responder (.ok .null))

private theorem notify_receiver {name : String} {params : Value} {subscription : Int}
    {receiver : Receiver}
    {responder : Responder} (own : responder = .exchange session.identifiers.next)
    (live : session.lifecycle.stopped = false) (custom : name ≠ "initialize" ∧ name ≠ "exit")
    (has : session.registry.hasReceivers name = true)
    (only : session.registry.receivers name = [(subscription, receiver)])
    (given : params.isNull = false)
    (runs : runReceiver invoke receiver params responder
      ((session.dispatching (.string name) false).noting
        (.called subscription name params responder)) = (.value .null, after)) :
    notify invoke (.string name) params session =
      (.value (), answered after subscription responder) := by
  subst own
  have called : callReceiver invoke name params (.exchange session.identifiers.next) subscription
      receiver (session.dispatching (.string name) false) =
      (.value (), answered after subscription (.exchange session.identifiers.next)) := by
    rw [callReceiver_apply, finishReceiver, Action.bind_apply, Action.attempt, runs]
    rfl
  have fannedOut : fanOut invoke name params (.exchange session.identifiers.next)
      [(subscription, receiver)] (session.dispatching (.string name) false) =
      (.value none, answered after subscription (.exchange session.identifiers.next)) := by
    rw [fanOut, Action.bind_apply, Action.attempt, called]
    rfl
  have dispatched : dispatch invoke name params (.exchange session.identifiers.next)
      (session.dispatching (.string name) false) =
      (.value 1, answered after subscription (.exchange session.identifiers.next)) := by
    have same : (session.dispatching (.string name) false).registry.receivers name =
        [(subscription, receiver)] := only
    rw [dispatch, Action.get_bind_apply, same]
    dsimp only
    rw [Action.bind_of_value fannedOut]
    rfl
  have known : (session.dispatching (.string name) false).registry.hasReceivers name = true := has
  rw [notify, Action.bind_apply, accept_of_live invoke _ _ _ live,
    route_of_custom invoke params false _ custom, Action.bind_apply, Action.get_bind_apply, known,
    if_pos rfl, given, if_neg (by simp), Action.bind_apply, Action.recover, Action.bind_apply,
    Action.attempt, Action.bind_of_value dispatched]
  rfl

/-! ## Questions -/

def receiver (configuration : Configuration) (files : Option Int) (seed : Int) : Receiver :=
  .indexing files configuration.progressDelay configuration.progressInterval (Draw.seeded seed 1)
    none

def registered (configuration : Configuration) (files : Option Int) (seed : Int) : Session :=
  (registerReceiver referencesMethod (receiver configuration files seed)
    (introduced configuration)).2

theorem registerIndexing_eq (configuration : Configuration) {files : Option Int} (seed : Int)
    (some : files.any (· < 1) = false) :
    registerIndexing { files, draw := Draw.seeded seed } (introduced configuration) =
      (.value 1, registered configuration files seed) := by
  rw [registerIndexing, if_neg (by simpa using some)]
  rfl

def called (configuration : Configuration) (files : Option Int) (seed : Int) : Session :=
  ((registered configuration files seed).dispatching (.string referencesMethod) false).noting
    (.called 1 referencesMethod (.object []) (.exchange 3))

def asked (session : Session) (configuration : Configuration) (files : Int) : Session :=
  answered (session.startingWalk files configuration.progressDelay
    configuration.progressInterval none) 1 (.exchange 3)

theorem askForReferences_eq (configuration : Configuration) {files : Option Int} (seed : Int)
    (some : files.any (· < 1) = false) {number : Int} {session : Session}
    (runs : receiveIndexing invoke files configuration.progressDelay
      configuration.progressInterval (Draw.seeded seed 1) none (called configuration files seed) =
      (.value (), session.startingWalk number configuration.progressDelay
        configuration.progressInterval none)) :
    askForReferences invoke files (Option.some seed) (introduced configuration) =
      (.value (), asked session configuration number) := by
  have returned : runReceiver invoke (receiver configuration files seed) (.object [])
      (.exchange 3) (called configuration files seed) =
      (.value .null, session.startingWalk number configuration.progressDelay
        configuration.progressInterval none) := by
    rw [receiver, runReceiver, Action.bind_of_value runs]
    rfl
  have custom : referencesMethod ≠ "initialize" ∧ referencesMethod ≠ "exit" := by decide
  have notified : notify invoke (.string referencesMethod) (.object [])
      (registered configuration files seed) =
      (.value (), asked session configuration number) :=
    notify_receiver rfl rfl custom rfl rfl rfl returned
  rw [askForReferences, Action.bind_of_value (registerIndexing_eq configuration seed some)]
  exact notified

/-! ## Numbers of files

The receiver walks as many files as it is given, or else draws a number of them. -/

theorem isSilent_run (fuel : ℕ) {session : Session}
    (outbound : session.outbound = fun _ => .done .null) :
    IsSilent (run (fuel + 1)) session := by
  intro message state
  rw [outbound]
  rfl

def drawn (session : Session) : Session :=
  { session with cells := [("draws of 1", .int 1)] }

def drawnFiles (seed : Int) : ℕ :=
  (Random.MersenneTwister.ofSeed seed).nthBetween Draw.fewest Draw.most 0

private theorem run_draw (fuel : ℕ) (configuration : Configuration) (seed : Int) :
    run (fuel + 5) (Draw.seeded seed 1) (called configuration none seed) =
      (.value (.int (drawnFiles seed)), drawn (called configuration none seed)) := rfl

private theorem below_lt {bound : ℕ} (some : 0 < bound) (fuel : ℕ)
    (generator : Random.MersenneTwister) :
    (Random.MersenneTwister.below bound fuel generator).1 < bound := by
  induction fuel generalizing generator with
  | zero => exact some
  | succ fuel induction =>
      rw [Random.MersenneTwister.below]
      dsimp only
      split
      · assumption
      · exact induction _

theorem drawnFiles_range (seed : Int) : 15 ≤ drawnFiles seed ∧ drawnFiles seed ≤ 60 := by
  have some : 0 < Draw.most - Draw.fewest + 1 := by decide
  have small := below_lt some Random.MersenneTwister.drawLimit
    (Random.MersenneTwister.ofSeed seed)
  have shown : drawnFiles seed = Draw.fewest + (Random.MersenneTwister.below
    (Draw.most - Draw.fewest + 1) Random.MersenneTwister.drawLimit
    (Random.MersenneTwister.ofSeed seed)).1 := rfl
  rw [Draw.fewest, Draw.most] at *
  omega

/-! ## Ticks

While a walk is under way its timer is the only one, and a tick of it the only thing that is
scheduled. A tick on the way reports one more file and schedules the next; that of the last file
ends the progress, and nothing is left to do. -/

/-- A session between two ticks of a walk, which has reached so many files and has nothing else to
do. -/
structure Walking (token : Int) (files reached : ℕ) (session : Session) : Prop where
  live : session.lifecycle.stopped = false
  outbound : session.outbound = fun _ => .done .null
  held : ∃ progress, session.progress? token = some progress ∧ progress.isEnded = false ∧
    progress.title = .string "indexing"
  timed : ∃ interval delay order due,
    session.timers = [{
      interval, delay, callback := .indexing token files none, pending := some order,
      ticks := reached }] ∧
    session.loop.scheduled = [⟨order, due, 0⟩]
  idle : session.loop.ready = []

structure Walked (session : Session) : Prop where
  live : session.lifecycle.stopped = false
  still : session.loop.scheduled = []
  idle : session.loop.ready = []

variable {token : Int} {files reached : ℕ}

def ticking (session : Session) (timer : Timer) (due : Float) : Session :=
  { session with
    loop := { session.loop with
      now := if session.loop.now < due then due else session.loop.now
      scheduled := [] }
    timers := [{ timer with pending := none, ticks := timer.ticks + 1 }]
    history := .ticked 0 :: session.history }

private theorem firing_alone {timer : Timer} {order : ℕ} {due : Float}
    (timers : session.timers = [timer]) (scheduled : session.loop.scheduled = [⟨order, due, 0⟩]) :
    session.firing ⟨order, due, 0⟩ = ticking session timer due := by
  have cleared : session.clearing ⟨order, due, 0⟩ = { session with
      loop := { session.loop with
        now := if session.loop.now < due then due else session.loop.now
        scheduled := [] }
      timers := [{ timer with pending := none, ticks := timer.ticks + 1 }] } := by
    rw [clearing, Loop.taking, scheduled, timers]
    simp
  rw [firing, cleared]
  rfl

private theorem outbound_returning (session : Session) (index : ℕ) (timer : Timer)
    (outcome : Except Failure Unit) :
    (session.returning index timer outcome).outbound = session.outbound := by
  unfold returning
  dsimp only
  split <;> split <;> rfl

/-- A tick of the only timer runs its callback, and what the callback leaves of the timer decides
how the tick ends. -/
theorem fire_alone {timer : Timer} {order : ℕ} {due : Float}
    (timers : session.timers = [timer]) (scheduled : session.loop.scheduled = [⟨order, due, 0⟩])
    (runs : runTimerCallback invoke 0 timer.callback (timer.ticks + 1)
      (ticking session timer due) = (.value (), after))
    {last : Timer} (left : after.timer? 0 = some last) :
    fire invoke ⟨order, due, 0⟩ session = (.value (), after.returning 0 last (.ok ())) := by
  have finished : finishTick 0 (.ok ()) after = (.value (), after.returning 0 last (.ok ())) := by
    rw [finishTick, Action.get_bind_apply, Action.bind_of_value (record_apply _ _), left]
    unfold returning
    dsimp only [Option.any_some]
    split <;> rfl
  have attempted : Action.attempt (runTimerCallback invoke 0 timer.callback (timer.ticks + 1))
      (ticking session timer due) = (.value (.ok ()), after) := by
    rw [Action.attempt, runs]
  have found : (ticking session timer due).timer? 0 =
      some { timer with pending := none, ticks := timer.ticks + 1 } := rfl
  rw [fire_apply, firing_alone timers scheduled]
  dsimp only
  rw [found]
  dsimp only
  rw [guarded, Action.bind_apply, Action.attempt, runTick, Action.bind_of_value attempted, finished]
  rfl

private theorem fire_on_the_way (fuel : ℕ) (walking : Walking token files reached session)
    (more : reached < files) (under : reachedPercentage (reached + 1) files ≠ 100) :
    ∃ scheduled after, session.loop.scheduled = [scheduled] ∧
      fire (run (fuel + 1)) scheduled session = (.value (), after) ∧
      Walking token files (reached + 1) after ∧
      written after =
        written session ++ [(Walk.report token files (reached + 1)).notification] := by
  rcases walking.timed with ⟨interval, delay, order, due, timers, scheduled⟩
  rcases walking.held with ⟨progress, held, going, title⟩
  let timer : Timer :=
    { interval, delay, callback := .indexing token files none, pending := some order,
      ticks := reached }
  have silent : IsSilent (run (fuel + 1)) (ticking session timer due) :=
    isSilent_run fuel walking.outbound
  have runs := indexFile_of_silent silent walking.live held going title (by omega)
    (show reached + 1 ≤ files by omega) 0 none
  rw [if_neg under] at runs
  have still : (ticking session timer due).progress? token = some progress := held
  have reported := progress?_reported still files (reached + 1)
  refine ⟨_, _, scheduled, fire_alone timers scheduled runs rfl, ?_, ?_⟩
  · refine ⟨walking.live, ?_, ⟨_, reported, rfl, rfl⟩, ⟨_, _, _, _, rfl, rfl⟩, walking.idle⟩
    rw [outbound_returning, outbound_telling]
    exact walking.outbound
  · have recent : ∀ events : List Event, events = [.tickReturned 0 false (.ok ()),
        .sent (Walk.report token files (reached + 1)),
        .logged (progressEntry (Walk.report token files (reached + 1))), .ticked 0] →
        events.reverse.filterMap messageOf? =
          [(Walk.report token files (reached + 1)).notification] := by
      rintro _ rfl
      rfl
    exact (written_append rfl).trans (congrArg (written session ++ ·) (recent _ rfl))

private theorem fire_at_the_end (fuel : ℕ) (walking : Walking token files reached session)
    (more : reached < files) (all : reachedPercentage (reached + 1) files = 100) :
    ∃ scheduled after, session.loop.scheduled = [scheduled] ∧
      fire (run (fuel + 1)) scheduled session = (.value (), after) ∧ Walked after ∧
      written after =
        written session ++ [(Walk.report token files (reached + 1)).notification,
          (Walk.ending token files (reached + 1)).notification] := by
  rcases walking.timed with ⟨interval, delay, order, due, timers, scheduled⟩
  rcases walking.held with ⟨progress, held, going, title⟩
  let timer : Timer :=
    { interval, delay, callback := .indexing token files none, pending := some order,
      ticks := reached }
  have silent : IsSilent (run (fuel + 1)) (ticking session timer due) :=
    isSilent_run fuel walking.outbound
  have found : (ticking session timer due).timer? 0 =
      some { timer with pending := none, ticks := reached + 1 } := rfl
  have runs := indexFile_last_of_silent silent walking.live held going title (by omega)
    (show reached + 1 ≤ files by omega) all found
  refine ⟨_, _, scheduled, fire_alone timers scheduled runs rfl, ?_, ?_⟩
  · exact ⟨walking.live, rfl, walking.idle⟩
  · have recent : ∀ events : List Event, events = [.tickReturned 0 false (.ok ()), .indexed token,
        .logged ⟨.info, "notify_ls.demo", "Indexed " ++ toString (files : Int) ++ " files", none⟩,
        .timerStopped 0, .sent (Walk.ending token files (reached + 1)),
        .logged (progressEntry (Walk.ending token files (reached + 1))),
        .sent (Walk.report token files (reached + 1)),
        .logged (progressEntry (Walk.report token files (reached + 1))), .ticked 0] →
        events.reverse.filterMap messageOf? =
          [(Walk.report token files (reached + 1)).notification,
            (Walk.ending token files (reached + 1)).notification] := by
      rintro _ rfl
      rfl
    exact (written_append rfl).trans (congrArg (written session ++ ·) (recent _ rfl))

/-! ## The loop -/

private theorem drain_of_idle (fuel : ℕ) (idle : session.loop.ready = []) :
    drain invoke (fuel + 1) session = (.value (), session) := by
  rw [drain_succ, Action.bind_of_value (takeReady_of_nil idle)]
  rfl

private theorem fireAll_of_still (fuel : ℕ) (still : session.loop.scheduled = []) :
    fireAll invoke earliest? (fuel + 1) session = (.value (), session) := by
  rw [fireAll_succ, Action.get_bind_apply, still]
  rfl

private theorem fireAll_of_alone (fuel : ℕ) {scheduled : ScheduledTick}
    (alone : session.loop.scheduled = [scheduled])
    (fired : fire invoke scheduled session = (.value (), after)) (idle : after.loop.ready = []) :
    fireAll invoke earliest? (fuel + 2) session = fireAll invoke earliest? (fuel + 1) after := by
  have drained : (do fire invoke scheduled; drain invoke (fuel + 1) : Action Session Unit) session =
      (.value (), after) := by
    rw [Action.bind_of_value fired, drain_of_idle fuel idle]
  rw [fireAll_succ, Action.get_bind_apply, alone]
  exact Action.bind_of_value drained

/-- What is written on the way from some files to a number of them, and when that is all. -/
def remaining (token : Int) (files reached count : ℕ) : List Value :=
  ((List.range count).map fun index =>
    (Walk.report token files (reached + index + 1)).notification) ++
    [(Walk.ending token files (reached + count)).notification]

theorem remaining_succ (token : Int) (files reached count : ℕ) :
    remaining token files reached (count + 1) =
      (Walk.report token files (reached + 1)).notification ::
        remaining token files (reached + 1) count := by
  have shifted : (fun index => (Walk.report token files (reached + index + 1)).notification) ∘
      Nat.succ = fun index => (Walk.report token files (reached + 1 + index + 1)).notification := by
    funext index
    rw [Function.comp_apply, Nat.succ_eq_add_one, Nat.add_right_comm reached 1 index,
      ← Nat.add_assoc]
  rw [remaining, List.range_succ_eq_map, List.map_cons, List.map_map, shifted, List.cons_append,
    remaining, Nat.add_right_comm reached 1 count, Nat.add_zero, Nat.add_assoc reached count 1]

/-- The loop walks to the first number of files that is a hundred percent. The induction is on the
number of ticks that are left. -/
private theorem fireAll_walking (fuel turns left : ℕ)
    (walking : Walking token files reached session) (ordered : reached + left + 1 ≤ files)
    (all : reachedPercentage (reached + left + 1) files = 100)
    (under : ∀ indexed, reached < indexed → indexed < reached + left + 1 →
      reachedPercentage indexed files ≠ 100) :
    ∃ after, fireAll (run (fuel + 1)) earliest? (turns + left + 2) session = (.value (), after) ∧
      Walked after ∧
      written after = written session ++ remaining token files reached (left + 1) := by
  induction left generalizing session reached with
  | zero =>
      rcases fire_at_the_end fuel walking (by omega) all with
        ⟨scheduled, after, alone, fired, walked, told⟩
      refine ⟨after, ?_, walked, told⟩
      rw [fireAll_of_alone turns alone fired walked.idle, fireAll_of_still turns walked.still]
  | succ left induction =>
      have next : reachedPercentage (reached + 1) files ≠ 100 := under _ (by omega) (by omega)
      rcases fire_on_the_way fuel walking (by omega) next with
        ⟨scheduled, middle, alone, fired, going, told⟩
      have shift : reached + 1 + left + 1 = reached + (left + 1) + 1 := by omega
      rcases induction going (by omega) (by rw [shift]; exact all)
          fun indexed less more => under indexed (by omega) (by omega) with
        ⟨after, rest, walked, toldRest⟩
      refine ⟨after, ?_, walked, ?_⟩
      · have turned := fireAll_of_alone (turns + left + 1) alone fired going.idle
        exact turned.trans rest
      · rw [toldRest, told, remaining_succ token files reached (left + 1), List.append_assoc,
          List.singleton_append]

/-! ## The end -/

def ended (session : Session) : Session :=
  let entry : LogEntry := ⟨.info, "notify_ls.lifecycle",
    "Session " ++ session.lifecycle.session.display ++ " terminated", none⟩
  ({ session.dispatching (.string "exit") true with
      lifecycle := session.lifecycle.terminate }.noting .terminated).noting (.logged entry)

private theorem terminate_dispatching (live : session.lifecycle.stopped = false) :
    terminate (session.dispatching (.string "exit") true) = (.value (), ended session) := by
  have opened : (session.dispatching (.string "exit") true).lifecycle.stopped = false := live
  rw [terminate, Action.get_bind_apply, if_neg (by simp [opened])]
  rfl

private theorem exchange?_ended (session : Session) :
    (ended session).exchange? session.identifiers.next =
      some ⟨session.identifiers.next, .string "exit", .awaited⟩ :=
  List.find?_cons_of_pos (by simp)

private theorem request_exit (live : session.lifecycle.stopped = false) :
    ∃ report after, request invoke (.string "exit") .null none session = (.value report, after) ∧
      after.lifecycle.stopped = true ∧ written after = written session := by
  let number := session.identifiers.next
  let settled := ((ended session).noting (.answered (.exchange number) {})).settling number
    (.ok .null)
  have responded : respond invoke (.exchange number) {} (ended session) = (.value (), settled) := by
    have found : ((ended session).noting (.answered (.exchange number) {})).exchange? number =
        some ⟨number, .string "exit", .awaited⟩ := exchange?_ended session
    rw [respond_apply, deliver, Action.get_bind_apply, found]
    rfl
  have routed : route invoke (.string "exit") .null true number
      (session.dispatching (.string "exit") true) = (.value true, settled) := by
    change (do terminate; respond invoke (.exchange number) {}; return true : Action Session Bool)
      (session.dispatching (.string "exit") true) = _
    rw [Action.bind_of_value (terminate_dispatching live), Action.bind_of_value responded]
    rfl
  have known : settled.outcome? number = some (.ok .null) := by
    have found : settled.exchange? number =
        some ⟨number, .string "exit", .settled (.ok .null)⟩ := by
      have before : ((ended session).noting (.answered (.exchange number) {})).exchange? number =
          some ⟨number, .string "exit", .awaited⟩ := exchange?_ended session
      rw [exchange?_settling, before, Option.map_some, if_pos rfl]
    rw [outcome?, found]
  refine ⟨⟨number, true, .ok .null⟩, settled.noting (.concluded number (.ok .null)), ?_, rfl, ?_⟩
  · rw [request_of_live invoke _ _ none live, Action.bind_of_value routed, finishRequest,
      Action.bind_apply, conclude, Action.get_bind_apply, known]
    rfl
  · have history : ∃ first second : LogEntry,
        (settled.noting (.concluded number (.ok .null))).history =
          ([.concluded number (.ok .null), .answered (.exchange number) {}, .logged first,
            .terminated, .logged second, .numbered .request number,
            .arrived (.string "exit") true true] : List Event) ++ session.history := ⟨_, _, rfl⟩
    rcases history with ⟨first, second, history⟩
    exact (written_append history).trans (List.append_nil _)

/-! ## Whole demonstrations -/

/-- A session that has been asked for references has told of the begin only, and waits for the loop
to run the acknowledgement of `initialize`. -/
private theorem asked_walking (fuel files : ℕ) {session : Session} {configuration : Configuration}
    {seed : Int} {given : Option Int}
    (same : session = called configuration given seed ∨
      session = drawn (called configuration given seed)) :
    ∃ after, drain (run (fuel + 2)) (fuel + 2) (asked session configuration files) =
        (.value (), after) ∧
      Walking 4 files 0 after ∧
      written after = [greeting configuration.capabilities, (Walk.opening 4).notification] := by
  rcases same with rfl | rfl
  · exact ⟨_, rfl, ⟨rfl, rfl, ⟨_, rfl, rfl, rfl⟩, ⟨_, _, _, _, rfl, rfl⟩, rfl⟩, rfl⟩
  · exact ⟨_, rfl, ⟨rfl, rfl, ⟨_, rfl, rfl, rfl⟩, ⟨_, _, _, _, rfl, rfl⟩, rfl⟩, rfl⟩

/-- How many files a demonstration indexes: as many as are given, or as many as the seed draws. -/
inductive Indexes (given : Option Int) (seed : Int) : ℕ → Prop
  | given {files : ℕ} (same : given = some (files : Int)) : Indexes given seed files
  | drawn (none : given = none) : Indexes given seed (drawnFiles seed)

private theorem askForReferences_walks (fuel : ℕ) {configuration : Configuration}
    (positive : ¬configuration.progressInterval ≤ 0) {given : Option Int} {seed : Int}
    (indexes : Indexes given seed files) (any : 0 < files) :
    ∃ session, (session = called configuration given seed ∨
        session = drawn (called configuration given seed)) ∧
      askForReferences (run (fuel + 5)) given (some seed) (introduced configuration) =
        (.value (), asked session configuration files) := by
  have silent (session : Session) (outbound : session.outbound = fun _ => .done .null) :
      IsSilent (run (fuel + 5)) session := isSilent_run (fuel + 4) outbound
  cases indexes with
  | given same =>
      subst same
      refine ⟨_, .inl rfl, askForReferences_eq configuration seed (by simp; omega) ?_⟩
      exact receiveIndexing_of_silent (silent _ rfl) rfl files _ positive _ none
  | drawn none =>
      subst none
      refine ⟨_, .inr rfl, askForReferences_eq configuration seed rfl ?_⟩
      have chosen : (wholeNumber <$> run (fuel + 5) (Draw.seeded seed 1) : Action Session Int)
          (called configuration Option.none seed) =
          (.value (drawnFiles seed : Int), drawn (called configuration Option.none seed)) := by
        rw [← bind_pure_comp, Action.bind_of_value (run_draw fuel configuration seed)]
        rfl
      have fixed := receiveIndexing_of_silent
        (silent (drawn (called configuration Option.none seed)) rfl) rfl (drawnFiles seed)
        configuration.progressDelay positive (Draw.seeded seed 1) Option.none
      rw [receiveIndexing]
      exact (Action.bind_of_value chosen).trans fixed

/-- A demonstration, given enough fuel, writes the reply to `initialize` and walks one progress to
the first number of files that is a hundred percent; then the session is terminated. -/
theorem play_walks {configuration : Configuration}
    (positive : ¬configuration.progressInterval ≤ 0) {given : Option Int} {seed : Int}
    (indexes : Indexes given seed files) {left : ℕ} (ordered : left + 1 ≤ files)
    (all : reachedPercentage (left + 1) files = 100)
    (under : ∀ indexed, 0 < indexed → indexed < left + 1 →
      reachedPercentage indexed files ≠ 100) (extra : ℕ) :
    ∃ after, play (extra + left + 5) given (some seed) { configuration } = (.value (), after) ∧
      after.lifecycle.stopped = true ∧
      written after = greeting configuration.capabilities :: (Walk.opening 4).notification ::
        remaining 4 files 0 (left + 1) := by
  rcases askForReferences_walks (extra + left) positive indexes (by omega) with
    ⟨session, same, answered⟩
  rcases asked_walking (extra + left + 3) files same with ⟨begun, drained, walking, told⟩
  have shift : 0 + left + 1 = left + 1 := by omega
  rcases fireAll_walking (extra + left + 4) (extra + 3) left walking (by omega)
      (by rw [shift]; exact all) (by rw [shift]; exact under) with ⟨idle, fired, walked, toldAll⟩
  have exits : ∃ report after, request (run (extra + left + 5)) (.string "exit") .null none idle =
      (.value report, after) ∧ after.lifecycle.stopped = true ∧ written after = written idle :=
    request_exit walked.live
  rcases exits with
    ⟨report, after, exited, stopped, toldLast⟩
  have turns : extra + 3 + left + 2 = extra + left + 5 := by omega
  rw [turns] at fired
  refine ⟨after, ?_, stopped, by rw [toldLast, toldAll, told]; rfl⟩
  have attempted : Action.attempt (askForReferences (run (extra + left + 5)) given (some seed))
      (introduced configuration) = (.value (.ok ()), asked session configuration files) := by
    rw [Action.attempt, answered]
  rw [play, Action.bind_of_value (introduce_eq _ configuration), Action.bind_of_value attempted,
    Action.bind_of_value drained, Action.ofExcept_ok_bind, Action.bind_of_value fired,
    Action.bind_of_value exited]
  rfl

end RpcSession.Demonstration
