import RpcSession.Proofs.Indexing.Moments
import RpcSession.Proofs.Indexing.Orphans

/-!
# Walks to completion

What comes of the calls of a registered indexing receiver, at every moment of every run with a
quiet peer, however many there are and whatever happens between their ticks.
-/

namespace RpcSession.Session

variable {start session after : Session} {index : ℕ} {token : ℤ} {files reached : ℕ}
  {fuel : ℕ} {onFinish : Option Program}

/-! ## What is so of a walk -/

/-- What has happened when the end of the session has broken a walk off: a part of its course and,
after the end, at most the rest of the tick that was under way or scheduled. -/
def BrokenOff (token : ℤ) (files : ℕ) (marks : List Mark) : Prop :=
  ∃ earlier later, marks = earlier ++ .terminated :: later ∧
    earlier <+: Walk.course token files ∧ (later <+: [.ticked, .returned] ∨ later = [.returned])

theorem Standing.going (standing : session.Standing index token files)
    (live : session.lifecycle.stopped = false) :
    session.marks index token <+: Walk.course token files := by
  cases standing with
  | waiting waiting =>
      rw [waiting.marks, closing, live, if_neg (by simp), List.append_nil]
      exact Walk.prefix_way_course waiting.more
  | resting _ _ _ lawful =>
      rw [live] at lawful
      cases lawful with
      | going within => exact within

theorem Standing.brokenOff (standing : session.Standing index token files)
    (stopped : session.lifecycle.stopped = true) :
    BrokenOff token files (session.marks index token) := by
  cases standing with
  | waiting waiting =>
      rw [waiting.marks, closing, stopped, if_pos rfl]
      exact ⟨_, [], rfl, Walk.prefix_way_course waiting.more, .inl (List.nil_prefix)⟩
  | resting _ _ _ lawful =>
      rw [stopped] at lawful
      generalize session.marks index token = marks at lawful
      cases lawful with
      | cut within => exact ⟨_, [], rfl, within, .inl List.nil_prefix⟩
      | late more within => exact ⟨_, _, rfl, Walk.prefix_way_course more, .inl within⟩
      | last =>
          refine ⟨_, [.returned], rfl, ⟨[.returned], ?_⟩, .inr rfl⟩
          rw [Walk.course, List.append_assoc]

private theorem Standing.told (standing : session.Standing index token files) (any : 0 < files) :
    session.sentProgress.filter (·.token == token) <+: walk token files := by
  rw [← told_marks session index, ← Walk.told_course token any]
  cases stopped : session.lifecycle.stopped with
  | false => exact (standing.going stopped).filterMap _
  | true =>
      rcases standing.brokenOff stopped with ⟨earlier, later, same, within, rest⟩
      have silent : later.filterMap Mark.told? = [] := by
        rcases rest with part | rfl
        · exact List.prefix_nil.mp (part.filterMap Mark.told?)
        · rfl
      rw [same, List.filterMap_append, List.filterMap_cons, silent]
      simpa [Mark.told?] using within.filterMap Mark.told?

private theorem Standing.complete (standing : session.Standing index token files)
    (live : session.lifecycle.stopped = false) (any : 0 < files)
    (all : session.finishedTicks index = files) :
    session.marks index token = Walk.course token files ∧ session.ticksOf index = [] ∧
      ∀ timer, session.timer? index = some timer → timer.pending = none := by
  rw [← countP_marks session index token] at all
  refine ⟨Walk.eq_course_of_countP any (standing.going live) all, ?_⟩
  cases standing with
  | waiting waiting =>
      rw [waiting.marks, closing, live, if_neg (by simp), List.append_nil, Walk.countP_way] at all
      exact absurd all (Nat.ne_of_lt waiting.more)
  | resting found idle still =>
      refine ⟨still, fun timer foundToo => ?_⟩
      cases found.symm.trans foundToo
      exact idle

private theorem Standing.scheduled (standing : session.Standing index token files)
    (live : session.lifecycle.stopped = false) (more : reached < files)
    (between : session.marks index token = Walk.way token files reached) :
    ∃ timer tick, session.timer? index = some timer ∧ session.ticksOf index = [tick] ∧
      timer.pending = some tick.order := by
  cases standing with
  | waiting waiting =>
      rcases waiting.scheduled with ⟨order, due, pending, scheduled⟩
      exact ⟨_, _, waiting.found, scheduled, pending⟩
  | resting _ _ _ lawful =>
      rw [live] at lawful
      cases lawful with
      | going _ inside => exact absurd between (inside reached more)

/-! ## Calls -/

theorem timer?_of_changes {since : ℤ} (changes : Changes since session after) {timer : Timer}
    (found : session.timer? index = some timer) :
    ∃ later, after.timer? index = some later ∧ later.interval = timer.interval ∧
      later.callback = timer.callback := by
  induction changes with
  | refl => exact ⟨timer, found, rfl, rfl⟩
  | tail _ change induction =>
      rcases induction with ⟨middle, known, interval, callback⟩
      rcases change.timer.kept known with ⟨later, foundToo, intervalToo, callbackToo⟩
      exact ⟨later, foundToo, intervalToo.trans interval, callbackToo.trans callback⟩

/-- A call has begun a walk under the next identifier, of which no more has happened than that the
peer was told of it. A new timer carries it on, with its first tick after the delay, and keeps its
interval and what it runs whatever happens to the session. -/
structure BeginsWalk (session after : Session) (files : ℤ) (delay interval : Float)
    (onFinish : Option Program) : Prop where
  told : after.sentProgress = session.sentProgress ++ [Walk.opening session.identifiers.next]
  marks : after.marks session.timers.length session.identifiers.next =
    [.told (Walk.opening session.identifiers.next)]
  scheduled : ∃ order,
    after.timer? session.timers.length = some
      { interval, delay, callback := .indexing session.identifiers.next files onFinish,
        pending := some order } ∧
    after.ticksOf session.timers.length =
      [⟨order, after.loop.now + delay, session.timers.length⟩]
  kept : ∀ since later, Changes since after later →
    ∃ timer, later.timer? session.timers.length = some timer ∧ timer.interval = interval ∧
      timer.callback = .indexing session.identifiers.next files onFinish

/-- What comes of a call whose number of files is known. -/
structure CallLaw (session : Session) (fuel : ℕ) (files : ℤ) (delay interval : Float)
    (onFinish : Option Program) (result : Outcome Value × Session) : Prop where
  begins : ∀ value after, result = (.value value, after) →
    value = .null ∧ session.BeginsWalk after files delay interval onFinish
  fails : ∀ failure after, result = (.failed failure, after) →
    session.lifecycle.stopped = true ∨ interval ≤ 0
  returns : session.lifecycle.stopped = false → ¬interval ≤ 0 → PeerReturns fuel session →
    ∃ after, result = (.value .null, after)

private theorem OnCourse.beginsWalk (onCourse : OnCourse session)
    (live : session.lifecycle.stopped = false) {told : Session}
    (undisturbed : Undisturbed session.beginningWalk told) (files : ℤ) (delay interval : Float)
    (onFinish : Option Program) :
    session.BeginsWalk (told.withWalk session.identifiers.next files delay interval onFinish)
      files delay interval onFinish := by
  have timers : told.timers = session.timers := undisturbed.unchanged.2.2.1
  have found := told.timer?_withWalk session.identifiers.next files delay interval onFinish
  have scheduled := onCourse.ticksOf_withWalk undisturbed files delay interval onFinish
  rw [timers] at found scheduled
  refine ⟨?_, marks_withWalk onCourse live undisturbed files delay interval onFinish,
    ⟨_, found, scheduled⟩, fun since later changes => timer?_of_changes changes found⟩
  exact undisturbed.sentProgress.trans session.sentProgress_beginningWalk

private theorem OnCourse.startWalk_law (onCourse : OnCourse session) (fuel : ℕ) (files : ℤ)
    (delay interval : Float) (onFinish : Option Program) :
    session.CallLaw fuel files delay interval onFinish
      ((do startWalk (run fuel) files delay interval onFinish; return .null
        : Action Session Value) session) := by
  have returns (live : session.lifecycle.stopped = false) (positive : ¬interval ≤ 0)
      (heard : PeerReturns fuel session) :
      ∃ after, (do startWalk (run fuel) files delay interval onFinish; return .null
        : Action Session Value) session = (.value .null, after) := by
    rcases startWalk_of_returning live heard files delay interval onFinish with ⟨told, _, same⟩
    rw [if_neg positive] at same
    exact ⟨_, Action.bind_of_value same⟩
  rcases startWalk_of_quiet fuel onCourse files delay interval onFinish with
    ⟨stopped, failure, same⟩ | ⟨told, live, undisturbed, same | ⟨positive, same⟩ | ⟨_, same⟩⟩ <;>
    refine ⟨fun value after came => ?_, fun failure after came => ?_, returns⟩ <;>
    rw [Action.bind_apply, same] at came <;> cases came
  · exact .inl stopped
  · exact .inr positive
  · exact ⟨rfl, onCourse.beginsWalk live undisturbed files delay interval onFinish⟩

/-- How a call gets to the receivers of its method. One that a live session takes in, as a request
or as a notification, is dispatched; the dispatch serves the receivers that the method has then;
and each of them is called at a moment of the run. -/
structure DispatchLaw (start session : Session) : Prop where
  taken : ∀ method answerable, Unfolds start (session.dispatching method answerable)
  routed : session.lifecycle.stopped = false → ∀ fuel name params answerable,
    name ≠ "initialize" ∧ name ≠ "exit" → session.registry.hasReceivers name = true →
      ∃ shared feedback,
        accept (run fuel) (.string name) params answerable session = (do
          Action.recover
            (do let _ ← dispatch (run fuel) name shared (.exchange session.identifiers.next))
            feedback
          return (session.identifiers.next, true) : Action Session (Int × Bool))
          (session.dispatching (.string name) answerable)
  served : ∀ fuel method params responder,
    let receivers := session.registry.receivers method
    receivers ≠ [] →
      FannedOut (run fuel) method params responder (tally receivers) receivers session
        (dispatch (run fuel) method params responder session)
  called : ∀ fuel method params responder earlier results middle,
    Serving (run fuel) method params responder earlier session results middle →
      ∀ subscription,
        Unfolds start (middle.noting (.called subscription method params responder))

private theorem Unfolds.dispatchLaw (unfolds : Unfolds start session) :
    DispatchLaw start session := by
  refine ⟨unfolds.dispatching, ?_, ?_, ?_⟩
  · intro live fuel name params answerable custom has
    exact accept_of_receivers (run fuel) params answerable live custom has
  · intro fuel method params responder receivers some
    exact dispatch_fannedOut (run fuel) params responder some
  · intro fuel method params responder earlier results middle serving subscription
    exact (unfolds.serving serving).noting rfl

/-- What an accepted registration comes to: dispatches find its receiver with all that was given to
it or configured, calls get to it at whatever moment they come, and whenever it is run, the number
of files that is given or drawn is walked. -/
structure RegistrationLaw (options : IndexingOptions Program) (delay interval : Float)
    (subscription : ℤ) (registered : Session) : Prop where
  held : (subscription, Receiver.indexing options.files delay interval (options.draw subscription)
    options.onFinish) ∈ registered.registry.receivers referencesMethod
  dispatches : ∀ before, Unfolds registered before → DispatchLaw registered before
  calls : ∀ before, Unfolds registered before → ∀ fuel params responder counted called,
    countFiles (run fuel) options.files (options.draw subscription) before = (counted, called) →
      let result := runReceiver (run fuel) (.indexing options.files delay interval
        (options.draw subscription) options.onFinish) params responder before
      (∀ files, counted = .value files →
        called.CallLaw fuel files delay interval options.onFinish result) ∧
      ∀ failure, counted = .failed failure → result = (.failed failure, called)

theorem countFiles_keeps (fuel : ℕ) (files : Option ℤ) (draw : Program) :
    Keeps session (countFiles (run fuel) files draw) := by
  cases files with
  | some files => exact .pure _
  | none => exact (run_keeps fuel draw session).map _

private theorem OnCourse.registrationLaw (onCourse : OnCourse session)
    {options : IndexingOptions Program} {subscription : ℤ} {registered : Session}
    (accepted : registerIndexing options session = (.value subscription, registered)) :
    RegistrationLaw options (options.delay.getD session.configuration.progressDelay)
      (options.interval.getD session.configuration.progressInterval) subscription registered := by
  have kept := (registerIndexing_keeps options onCourse).onCourse
  rw [accepted] at kept
  refine ⟨receiver_of_accepted accepted, fun before unfolds => unfolds.dispatchLaw, ?_⟩
  intro before unfolds fuel params responder counted called counts result
  have counting := countFiles_keeps fuel options.files (options.draw subscription)
    (kept.unfolds unfolds)
  rw [counts] at counting
  have same : result = _ := congrFun (runReceiver_indexing_eq (run fuel) options.files _ _
    (options.draw subscription) options.onFinish params responder) before
  rw [Action.bind_apply, counts] at same
  constructor
  · rintro files rfl
    rw [same]
    exact counting.onCourse.startWalk_law fuel files _ _ options.onFinish
  · rintro failure rfl
    exact same

/-! ## Sessions with a quiet peer -/

/-- What is so of the walk of a timer under a token, at any moment. -/
structure WalkLaw (session : Session) (index : ℕ) (token : ℤ) (files : ℕ)
    (onFinish : Option Program) : Prop where
  /-- While the session lives, a part of the course of the walk has happened, in its order. -/
  going : session.lifecycle.stopped = false →
    session.marks index token <+: Walk.course token files
  told : session.sentProgress.filter (·.token == token) <+: walk token files
  /-- With as many ticks as files, all of the course has happened, and no tick is scheduled. -/
  complete : session.lifecycle.stopped = false → session.finishedTicks index = files →
    session.marks index token = Walk.course token files ∧
      session.sentProgress.filter (·.token == token) = walk token files ∧
      session.ticksOf index = [] ∧
      ∀ timer, session.timer? index = some timer → timer.pending = none
  /-- Before that, one tick is scheduled between any two. -/
  scheduled : session.lifecycle.stopped = false → ∀ reached < files,
    session.marks index token = Walk.way token files reached →
      ∃ timer tick, session.timer? index = some timer ∧ session.ticksOf index = [tick] ∧
        timer.pending = some tick.order
  /-- A tick that fires takes the walk one file further. Then the last one, on a live session only,
  calls what is to be called at the end. -/
  fires : ∀ tick ∈ session.ticksOf index, ∀ fuel,
    fire (run fuel) tick session = guarded (do
      let outcome ← Action.attempt (do
        indexFile (run fuel) index token files none (session.finishedTicks index + 1)
        callAtEnd (run fuel)
          (session.calledAtEnd files (session.finishedTicks index) onFinish))
      finishTick index outcome) (session.firing tick)
  /-- At the call, the peer has been told of the end, and the timer waits for nothing. -/
  ends : session.lifecycle.stopped = false → session.finishedTicks index + 1 = files →
    ∀ tick ∈ session.ticksOf index, ∀ fuel completed,
      indexFile (run fuel) index token files none files (session.firing tick) =
          (.value (), completed) →
        completed.marks index token = Walk.way token files (files - 1) ++ Walk.last token files ∧
          completed.ticksOf index = [] ∧
          ∀ timer, completed.timer? index = some timer →
            timer.stopped = true ∧ timer.pending = none
  counts : ∀ tick ∈ session.ticksOf index, ∀ fuel after,
    fire (run fuel) tick session = (.value (), after) →
      after.finishedTicks index = session.finishedTicks index + 1
  /-- After any tick but the last, the next one comes after the interval. -/
  follows : session.lifecycle.stopped = false → session.finishedTicks index + 1 < files →
    ∀ timer, session.timer? index = some timer → ∀ tick ∈ session.ticksOf index, ∀ fuel after,
      fire (run fuel) tick session = (.value (), after) →
        ∃ order, after.ticksOf index = [⟨order, after.loop.now + timer.interval, index⟩]
  /-- A tick comes back with as much fuel as its peer needs, and what is called at the end. -/
  returns : ∀ tick ∈ session.ticksOf index, ∀ fuel, session.RecordsMessages fuel →
    (session.lifecycle.stopped = false → session.finishedTicks index + 1 = files →
      ∀ completed, indexFile (run fuel) index token files none files (session.firing tick) =
          (.value (), completed) → (callAtEnd (run fuel) onFinish completed).1 ≠ .exhausted) →
      ∃ after, fire (run fuel) tick session = (.value (), after)
  brokenOff : session.lifecycle.stopped = true → BrokenOff token files (session.marks index token)
  steady : ∀ indexed more, 0 < indexed → indexed ≤ more → more ≤ files →
    reachedPercentage indexed files ≤ reachedPercentage more files
  hundred : ∀ indexed ≤ files, reachedPercentage indexed files = 100 ↔ indexed = files

theorem OnCourse.waiting_of_mem (onCourse : OnCourse session)
    (tracks : session.Tracks index token files)
    (found : session.callback? index = some (.indexing token files onFinish))
    {tick : ScheduledTick} (member : tick ∈ session.ticksOf index) :
    tick.timer = index ∧ tick ∈ session.loop.scheduled ∧ ∃ timer progress,
      session.Waiting index token files (session.finishedTicks index) timer progress ∧
        timer.callback = .indexing token files onFinish := by
  rcases List.mem_filter.mp member with ⟨due, own⟩
  cases beq_iff_eq.mp own
  rcases onCourse.waiting_of_due tracks due with ⟨reached, timer, progress, waiting⟩
  have calls := (callback?_of_found waiting.found).symm.trans found
  rw [← waiting.finishedTicks] at waiting
  exact ⟨rfl, due, timer, progress, waiting, Option.some.inj calls⟩

private theorem OnCourse.walkLaw (onCourse : OnCourse session) (any : 0 < files)
    (few : files ≤ mostFiles)
    (found : session.callback? index = some (.indexing token files onFinish)) :
    session.WalkLaw index token files onFinish := by
  have tracks : session.Tracks index token files := ⟨any, few, onFinish, found⟩
  have standing := onCourse.standing index token files tracks
  constructor
  · exact standing.going
  · exact standing.told any
  · intro live all
    rcases standing.complete live any all with ⟨marks, still, idle⟩
    refine ⟨marks, ?_, still, idle⟩
    rw [← told_marks session index, marks, Walk.told_course token any]
  · exact fun live reached more => standing.scheduled live more
  · intro tick member fuel
    rcases onCourse.waiting_of_mem tracks found member with ⟨rfl, due, _, _, waiting, calls⟩
    exact waiting.fire_eq onCourse tracks due calls fuel
  · intro live last tick member fuel completed came
    rcases onCourse.waiting_of_mem tracks found member with ⟨rfl, due, _, _, waiting, _⟩
    exact waiting.ends onCourse tracks due live last came
  · intro tick member fuel after fired
    rcases onCourse.waiting_of_mem tracks found member with ⟨rfl, due, _, _, waiting, calls⟩
    rcases waiting.fire_cases onCourse tracks due calls (run_keeps fuel) with
      ⟨_, cut⟩ | ⟨_, later, same, counted⟩
    · rw [fired] at cut
      cases cut
    · cases same.symm.trans fired
      exact counted
  · intro live more timer foundToo tick member fuel after fired
    rcases onCourse.waiting_of_mem tracks found member with ⟨rfl, due, _, _, waiting, calls⟩
    cases waiting.found.symm.trans foundToo
    exact waiting.follows onCourse tracks due calls live more fired
  · intro tick member fuel records comes
    rcases onCourse.waiting_of_mem tracks found member with ⟨rfl, due, _, _, waiting, calls⟩
    exact waiting.returns onCourse tracks due calls (run_keeps fuel) records comes
  · exact standing.brokenOff
  · exact fun indexed more some ordered _ => reachedPercentage_mono some ordered any few
  · exact fun indexed ordered => reachedPercentage_eq_hundred_iff any ordered few

/-- Every call of a registered indexing receiver walks to completion, and if its session is
terminated earlier it is broken off, as long as the peer neither fails nor does anything to the
server. -/
theorem indexing_walks_to_completion (new : start.IsNew)
    (quiet : ∀ message, (start.outbound message).IsQuiet) (unfolds : Unfolds start session) :
    (∀ options subscription registered,
      registerIndexing options session = (.value subscription, registered) →
        RegistrationLaw options (options.delay.getD session.configuration.progressDelay)
          (options.interval.getD session.configuration.progressInterval) subscription
          registered) ∧
    ∀ index token (files : ℕ) onFinish, 0 < files → files ≤ mostFiles →
      session.callback? index = some (.indexing token files onFinish) →
        session.WalkLaw index token files onFinish := by
  have onCourse := (OnCourse.of_new new quiet).unfolds unfolds
  exact ⟨fun _ _ _ accepted => onCourse.registrationLaw accepted,
    fun _ _ _ _ any few found => onCourse.walkLaw any few found⟩

/-- A call comes while another one is under way, and the first of them is completed: what is to be
called at the end has been called for it, once, and not for the other. -/
theorem indexing_walks_to_completion_of_overlap :
    let onFinish : Program := .andThen (.note ⟨["finished"], []⟩) (.done .null)
    let options : IndexingOptions Program :=
      { files := some 2, delay := some 1, interval := some 1, draw := fun _ => .done .null,
        onFinish := some onFinish }
    let registered := ({} : Session).after [(8, .registerIndexing options)]
    let call : ℕ × Operation Program := (8, .notify (.string "textDocument/references") .null)
    let session := registered.after [call, (8, .advance 1), call, (8, .advance 1)]
    ({} : Session).IsNew ∧ (∀ message, (({} : Session).outbound message).IsQuiet) ∧
      registerIndexing options {} = (.value 1, registered) ∧ Unfolds {} session ∧
      RegistrationLaw options 1 1 1 registered ∧ session.lifecycle.stopped = false ∧
      session.finishedTicks 0 = 2 ∧ session.finishedTicks 1 = 1 ∧
      session.history.countP (fun | .noted _ => true | _ => false) = 1 ∧
      ∃ called, session.callback? 0 = some (.indexing 2 (2 : ℕ) (some called)) ∧
        session.WalkLaw 0 2 2 (some called) ∧ session.marks 0 2 = Walk.course 2 2 := by
  intro onFinish options registered call session
  have quiet : ∀ message, (({} : Session).outbound message).IsQuiet := fun _ => isQuiet_done .null
  have accepted : registerIndexing options {} = (.value 1, registered) := by
    with_unfolding_all rfl
  have unfolds : Unfolds {} session := (Unfolds.start.performing _).performing _
  have live : session.lifecycle.stopped = false := by decide +kernel
  have all : session.finishedTicks 0 = 2 := by decide +kernel
  have one : session.finishedTicks 1 = 1 := by decide +kernel
  have once : session.history.countP (fun | .noted _ => true | _ => false) = 1 := by
    decide +kernel
  have known : (session.callback? 0).any (fun
      | .indexing token files onFinish => token == 2 && files == 2 && onFinish.isSome
      | _ => false) = true := by decide +kernel
  have registration := (indexing_walks_to_completion isNew_default quiet .start).1 options 1
    registered accepted
  clear_value session
  rcases (Option.any_eq_true _ _).mp known with ⟨callback, found, same⟩
  cases callback with
  | host => cases same
  | indexing token files last =>
      rw [Bool.and_eq_true, Bool.and_eq_true, beq_iff_eq, beq_iff_eq] at same
      rcases same with ⟨⟨rfl, rfl⟩, given⟩
      rcases Option.isSome_iff_exists.mp given with ⟨called, rfl⟩
      have law := (indexing_walks_to_completion isNew_default quiet unfolds).2 0 2 2
        (some called) (by decide) (by decide) found
      exact ⟨isNew_default, quiet, accepted, unfolds, registration, live, all, one, once, called,
        found, law, (law.complete live all).1⟩

end RpcSession.Session
