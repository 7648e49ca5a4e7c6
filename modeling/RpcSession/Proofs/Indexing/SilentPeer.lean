import RpcSession.Proofs.Indexing.Walk
import RpcSession.Proofs.QuietPeer

/-!
# Indexing for a silent peer

A peer is silent if nothing is done for the messages to it. Telling such a peer of a progress is
one step that always comes back, so calls of the indexing receiver and their ticks can be followed
state by state.
-/

namespace RpcSession.Session

def IsSilent (invoke : Invoke) (session : Session) : Prop :=
  ∀ message state, invoke (session.outbound message) state = (.value .null, state)

variable {invoke : Invoke} {session : Session} {progress : Progress} {token : Int}

private theorem emit_of_silent (silent : IsSilent invoke session)
    (live : session.lifecycle.stopped = false) :
    emit invoke progress session =
      (.value (), session.announcing (progressEntry progress) progress) := by
  rw [emit_of_live session invoke progress live, Action.bind_of_value (silent _ _)]
  rfl

theorem setProgress_emit_of_silent (silent : IsSilent invoke session)
    (live : session.lifecycle.stopped = false) :
    (do setProgress progress; emit invoke progress : Action Session Unit) session =
      (.value (), session.telling progress) := by
  have told : emit invoke progress (session.updating progress) =
      (.value (), session.telling progress) :=
    emit_of_silent silent live
  exact told

/-! ## Calls -/

def beginningWalk (session : Session) : Session :=
  let progress := Walk.opening session.identifiers.next
  (session.beginning (.int 0) progress).announcing (progressEntry progress) progress

theorem sentProgress_beginningWalk (session : Session) :
    session.beginningWalk.sentProgress =
      session.sentProgress ++ [Walk.opening session.identifiers.next] := by
  simp [beginningWalk, announcing, beginning, numbering, noting, sentProgress]

def startingWalk (session : Session) (files : Int) (delay interval : Float)
    (onFinish : Option Program) : Session :=
  let begun := session.beginningWalk
  let timer : Timer :=
    { interval, delay, callback := .indexing session.identifiers.next files onFinish }
  { begun with timers := session.timers ++ [timer] }.scheduling session.timers.length delay

private theorem begin_of_silent (silent : IsSilent invoke session)
    (live : session.lifecycle.stopped = false) :
    begin invoke (.string "indexing") (.string "") (.int 0) session =
      (.value session.identifiers.next, session.beginningWalk) := by
  have fit : Percentage.ofValue? (.int 0) = .ok (some 0) := rfl
  rw [begin_of_fit invoke _ _ _ live fit]
  exact Action.bind_of_value (silent _ _)

theorem createTimer_apply {interval : Float} (positive : ¬interval ≤ 0) (delay : Float)
    (callback : TimerCallback) :
    createTimer interval (some delay) callback session =
      (.value session.timers.length,
        { session with timers := session.timers ++ [{ interval, delay, callback }] }) := by
  rw [createTimer, if_neg positive]
  rfl

theorem startTimer_created (timer : Timer) (idle : timer.pending = none)
    (going : timer.stopped = false) :
    startTimer session.timers.length { session with timers := session.timers ++ [timer] } =
      (.value (), { session with timers := session.timers ++ [timer] }.scheduling
        session.timers.length timer.delay) := by
  have found : ({ session with timers := session.timers ++ [timer] } : Session).timer?
      session.timers.length = some timer := by
    rw [timer?, List.getElem?_concat_length]
  rw [startTimer, Action.get_bind_apply, found]
  dsimp only
  rw [Timer.isRunning, idle, going]
  rfl

theorem receiveIndexing_of_silent (silent : IsSilent invoke session)
    (live : session.lifecycle.stopped = false) (files : Int) (delay : Float) {interval : Float}
    (positive : ¬interval ≤ 0) (draw : Program) (onFinish : Option Program) :
    receiveIndexing invoke (some files) delay interval draw onFinish session =
      (.value (), session.startingWalk files delay interval onFinish) := by
  change (do
    let token ← begin invoke (.string "indexing") (.string "") (.int 0)
    let timer ← createTimer interval (some delay) (.indexing token files onFinish)
    startTimer timer : Action Session Unit) session = _
  rw [Action.bind_of_value (begin_of_silent silent live),
    Action.bind_of_value (createTimer_apply positive delay _)]
  exact startTimer_created _ rfl rfl

/-! ## Ticks

A tick on a live session reports one more file. That is all unless it is a hundred percent; then
the progress is finished, the timer stopped and `on_finish` called. -/

def indexingFields (files indexed : ℕ) : List (String × Value) := [
  ("message", .string (toString indexed ++ " / " ++ toString (files : Int))),
  ("percentage", .int ((positivePercentage indexed files).1 : ℤ))]

private theorem readOnlyFields_indexing (files indexed : ℕ) :
    Progress.readOnlyFields (indexingFields files indexed) = [] := by
  simp [Progress.readOnlyFields, indexingFields, Progress.isMutable, Progress.mutableFields]

private theorem update_indexing {files indexed : ℕ} (ordered : indexed ≤ files)
    (title : progress.title = .string "indexing") :
    progress.update (indexingFields files indexed) =
      .ok (Walk.report progress.token files indexed) := by
  have given : (indexingFields files indexed).lookup "percentage" =
      some (.int ((positivePercentage indexed files).1 : ℤ)) := rfl
  rw [Progress.update, given]
  dsimp only
  rw [ofValue?_reachedPercentage ordered, title]
  rfl

private theorem update_of_going (session : Session) (going : progress.isEnded = false)
    (title : progress.title = .string "indexing") {indexed files : ℕ} (ordered : indexed ≤ files) :
    update invoke progress (indexingFields files indexed) session =
      (do
        setProgress (Walk.report progress.token files indexed)
        emit invoke (Walk.report progress.token files indexed) : Action Session Unit) session := by
  have fields : (indexingFields files indexed).any (Progress.isMutable ·.1) = true := rfl
  rw [update, going, if_neg (by simp), readOnlyFields_indexing, fields]
  simp only [List.isEmpty_nil, Bool.not_true, Bool.false_eq_true, if_false, if_true]
  rw [update_indexing ordered title]
  rfl

def afterFile (invoke : Invoke) (timer : ℕ) (token files : Int) (onFinish : Option Program) :
    Action Session Unit := do
  match (← Action.get).progress? token with
  | none => pure ()
  | some progress =>
      if progress.percentage = some 100 then
        finish invoke progress (.string "done")
        stopTimer timer
        log .info "demo" ("Indexed " ++ toString files ++ " files")
        record (.indexed token)
        if let some callback := onFinish then
          let _ ← invoke callback

theorem indexFile_of_live (live : session.lifecycle.stopped = false)
    (held : session.progress? token = some progress) (going : progress.isEnded = false)
    (title : progress.title = .string "indexing") {indexed files : ℕ} (any : 0 < files)
    (ordered : indexed ≤ files) (timer : ℕ) (onFinish : Option Program) :
    indexFile invoke timer token files onFinish indexed session =
      (do
        setProgress (Walk.report token files indexed)
        emit invoke (Walk.report token files indexed)
        afterFile invoke timer token files onFinish : Action Session Unit) session := by
  have updated : update invoke progress (indexingFields files indexed) session = _ :=
    update_of_going session going title ordered
  rw [progress?_token held] at updated
  rw [indexFile.eq_def, Action.get_bind_apply, isTerminated, live, if_neg (by simp), held]
  dsimp only
  rw [percentageOf_eq any, Action.ofExcept_ok_bind]
  change (update invoke progress (indexingFields files indexed) >>= _) session = _
  rw [Action.bind_apply, updated, ← Action.bind_apply, bind_assoc]
  rfl

/-- The end of a walk: its progress is finished, its timer stopped and its callback called. -/
def endWalk (invoke : Invoke) (timer : ℕ) (token : Int) (files indexed : ℕ)
    (onFinish : Option Program) : Action Session Unit := do
  finish invoke (Walk.report token files indexed) (.string "done")
  stopTimer timer
  log .info "demo" ("Indexed " ++ toString (files : Int) ++ " files")
  record (.indexed token)
  if let some callback := onFinish then
    let _ ← invoke callback

def callAtEnd (invoke : Invoke) (onFinish : Option Program) : Action Session Unit :=
  match onFinish with
  | some callback => do let _ ← invoke callback
  | none => pure ()

theorem afterFile_of_reported {indexed files : ℕ}
    (reported : session.progress? token = some (Walk.report token files indexed))
    (timer : ℕ) (onFinish : Option Program) :
    afterFile invoke timer token files onFinish session =
      (if reachedPercentage indexed files = 100 then
        endWalk invoke timer token files indexed onFinish
      else pure () : Action Session Unit) session := by
  rw [afterFile.eq_def, Action.get_bind_apply, reported]
  dsimp only
  by_cases all : reachedPercentage indexed files = 100
  · have reached : (Walk.report token files indexed).percentage = some 100 := congrArg some all
    rw [if_pos all]
    exact congrFun (if_pos reached) _
  · have other : (Walk.report token files indexed).percentage ≠ some 100 :=
      fun same => all (Option.some.inj same)
    rw [if_neg all, if_neg other]

theorem progress?_reported (held : session.progress? token = some progress) (files indexed : ℕ) :
    (session.telling (Walk.report token files indexed)).progress? token =
      some (Walk.report token files indexed) := by
  rw [progress?_telling, held]
  simp [Walk.report]

theorem indexFile_of_silent (silent : IsSilent invoke session)
    (live : session.lifecycle.stopped = false) (held : session.progress? token = some progress)
    (going : progress.isEnded = false) (title : progress.title = .string "indexing")
    {indexed files : ℕ} (any : 0 < files) (ordered : indexed ≤ files)
    (timer : ℕ) (onFinish : Option Program) :
    indexFile invoke timer token files onFinish indexed session =
      (if reachedPercentage indexed files = 100 then
        endWalk invoke timer token files indexed onFinish
      else pure () : Action Session Unit)
        (session.telling (Walk.report token files indexed)) := by
  have told : (do
      setProgress (Walk.report token files indexed)
      emit invoke (Walk.report token files indexed) : Action Session Unit) session =
      (.value (), session.telling (Walk.report token files indexed)) :=
    setProgress_emit_of_silent silent live
  rw [indexFile_of_live live held going title any ordered, ← bind_assoc, Action.bind_of_value told]
  exact afterFile_of_reported (progress?_reported held files indexed) timer onFinish

def completing (session : Session) (index : ℕ) (timer : Timer) (token : Int) (files : ℕ) :
    Session :=
  ((session.stopping index timer).noting (.logged ⟨.info, "notify_ls.demo",
    "Indexed " ++ toString (files : Int) ++ " files", none⟩)).noting (.indexed token)

theorem endWalk_of_finished {told : Session} {files indexed index : ℕ}
    (finished : finish invoke (Walk.report token files indexed) (.string "done") session =
      (.value (), told))
    {timer : Timer} (found : told.timer? index = some timer) (onFinish : Option Program) :
    endWalk invoke index token files indexed onFinish session =
      callAtEnd invoke onFinish (told.completing index timer token files) := by
  rw [endWalk.eq_def, Action.bind_of_value finished, Action.bind_of_value (stopTimer_apply found)]
  cases onFinish <;> rfl

def endingWalk (session : Session) (index : ℕ) (timer : Timer) (token : Int)
    (files indexed : ℕ) : Session :=
  ((session.telling (Walk.report token files indexed)).telling
    (Walk.ending token files indexed)).completing index timer token files

theorem indexFile_last_of_silent (silent : IsSilent invoke session)
    (live : session.lifecycle.stopped = false) (held : session.progress? token = some progress)
    (going : progress.isEnded = false) (title : progress.title = .string "indexing")
    {indexed files index : ℕ} (any : 0 < files) (ordered : indexed ≤ files)
    (all : reachedPercentage indexed files = 100) {timer : Timer}
    (found : session.timer? index = some timer) :
    indexFile invoke index token files none indexed session =
      (.value (), session.endingWalk index timer token files indexed) := by
  have finished : finish invoke (Walk.report token files indexed) (.string "done")
      (session.telling (Walk.report token files indexed)) =
      (.value (), (session.telling (Walk.report token files indexed)).telling
        (Walk.ending token files indexed)) :=
    setProgress_emit_of_silent silent live
  have running : ((session.telling (Walk.report token files indexed)).telling
      (Walk.ending token files indexed)).timer? index = some timer := by
    rw [timer?_telling, timer?_telling, found]
  rw [indexFile_of_silent silent live held going title any ordered, if_pos all,
    endWalk_of_finished finished running]
  rfl

end RpcSession.Session
