import RpcSession.Proofs.Movement.Basic

/-!
# Progress, start and termination as series of changes

Beginning a progress, changing it and telling the peer of it is one change: no host code runs
between the parts. A start is several, since its launcher runs in the middle.
-/

namespace RpcSession.Session

variable {α : Type} {since : Int} {session : Session}

/-! ## Progress -/

def progressEntry (progress : Progress) : LogEntry :=
  ⟨.debug, "notify_ls.progress",
    "Progress " ++ (toString progress.token ++ " " ++ progress.stage.name), none⟩

theorem emit_of_live (session : Session) (invoke : Invoke) (progress : Progress)
    (live : session.lifecycle.stopped = false) :
    emit invoke progress session =
      (do let _ ← invoke (session.outbound progress.notification) : Action Session Unit)
        (session.announcing (progressEntry progress) progress) := by
  rw [emit, Action.get_bind_apply, isTerminated, if_neg (by simp [live])]
  rfl

theorem emit_of_stopped (session : Session) (invoke : Invoke) (progress : Progress)
    (stopped : session.lifecycle.stopped = true) :
    emit invoke progress session =
      log .warning "progress" ("Dropping progress " ++ (toString progress.token ++ " " ++
        progress.stage.name) ++ " after session end") none session := by
  rw [emit, Action.get_bind_apply, isTerminated, if_pos stopped]

theorem reject_moves (progress : Progress) (operation : String) :
    Moves since session (reject progress operation) := by
  apply Moves.get
  split
  · exact .fail _
  · exact log_moves _ _ _

variable {invoke : Invoke}

theorem outbound_moves (moving : Invoke.Moves invoke) (message : Value)
    {next : Value → Action Session α}
    (rest : ∀ value middle, Moves since middle (next value)) :
    Moves since session (invoke (session.outbound message) >>= next) :=
  (moving _ _ _).seq rest

theorem begin_of_unfit (invoke : Invoke) (title message percentage : Value)
    (unfit : session.lifecycle.stopped = true ∨ (Percentage.ofValue? percentage).isOk = false) :
    ∃ failure, begin invoke title message percentage session =
      (.failed failure,
        session.noting (.progressAsked percentage (!session.lifecycle.stopped))) := by
  rw [begin, Action.get_bind_apply, Action.bind_of_value (record_apply _ _), isTerminated]
  cases valid : Percentage.ofValue? percentage with
  | error failure => exact ⟨failure, rfl⟩
  | ok given =>
      have stopped : session.lifecycle.stopped = true := by
        rcases unfit with stopped | invalid
        · exact stopped
        · simp [valid, Except.isOk, Except.toBool] at invalid
      rw [Action.ofExcept_ok_bind, stopped, if_pos rfl]
      exact ⟨_, rfl⟩

theorem begin_of_fit (invoke : Invoke) (title message percentage : Value)
    {given : Option Percentage} (live : session.lifecycle.stopped = false)
    (valid : Percentage.ofValue? percentage = .ok given) :
    let token := session.identifiers.next
    let progress : Progress := { token, title, message, percentage := given }
    begin invoke title message percentage session =
      (do let _ ← invoke (session.outbound progress.notification); return token)
        ((session.beginning percentage progress).announcing (progressEntry progress)
          progress) := by
  intro token progress
  rw [begin, Action.get_bind_apply, Action.bind_of_value (record_apply _ _), valid,
    Action.ofExcept_ok_bind, isTerminated, live, if_neg (by simp)]
  have emitted := emit_of_live (session.beginning percentage progress) invoke progress
    live
  change (emit invoke progress >>= fun _ => Pure.pure token)
    (session.beginning percentage progress) = _
  rw [Action.bind_apply, emitted, ← Action.bind_apply, bind_assoc]
  rfl

theorem begin_cases (session : Session) (invoke : Invoke) (title message percentage : Value) :
    ((session.lifecycle.stopped = true ∨ (Percentage.ofValue? percentage).isOk = false) ∧
      ∃ failure, begin invoke title message percentage session = (.failed failure,
        session.noting (.progressAsked percentage (!session.lifecycle.stopped)))) ∨
    ∃ given, session.lifecycle.stopped = false ∧ Percentage.ofValue? percentage = .ok given ∧
      let token := session.identifiers.next
      let progress : Progress := { token, title, message, percentage := given }
      begin invoke title message percentage session =
        (do let _ ← invoke (session.outbound progress.notification); return token)
          ((session.beginning percentage progress).announcing (progressEntry progress)
            progress) := by
  by_cases unfit : session.lifecycle.stopped = true ∨ (Percentage.ofValue? percentage).isOk = false
  · exact .inl ⟨unfit, begin_of_unfit invoke title message percentage unfit⟩
  · rw [not_or, Bool.not_eq_true, Bool.not_eq_false] at unfit
    rcases unfit with ⟨live, valid⟩
    cases given : Percentage.ofValue? percentage with
    | error failure => simp [given, Except.isOk, Except.toBool] at valid
    | ok fit =>
        exact .inr ⟨fit, live, rfl, begin_of_fit invoke title message percentage live given⟩

theorem begin_moves (moving : Invoke.Moves invoke) (title message percentage : Value) :
    Moves since session (begin invoke title message percentage) := by
  rcases begin_cases session invoke title message percentage with
    ⟨unfit, failure, declined⟩ | ⟨given, live, valid, begun⟩
  · apply Moves.of_change
    rw [declined]
    exact .declined percentage unfit
  · refine .step (.begun percentage _ _ live rfl rfl valid) begun ?_
    exact outbound_moves moving _ fun _ _ => .pure _

theorem setProgress_emit_moves (moving : Invoke.Moves invoke) {before changed : Progress}
    (held : session.progress? before.token = some before) (follows : before.Follows changed) :
    Moves since session (do setProgress changed; emit invoke changed) := by
  cases stopped : session.lifecycle.stopped with
  | true =>
      exact .step (.kept before changed stopped held follows)
        (emit_of_stopped (session.updating changed) invoke changed stopped)
        (log_moves _ _ _)
  | false =>
      refine .step (.reported before changed _ stopped held follows)
        (emit_of_live (session.updating changed) invoke changed stopped) ?_
      exact outbound_moves moving _ fun _ _ => .pure _

def mergeFields (invoke : Invoke) (progress : Progress) (fields : List (String × Value)) :
    Action Session Unit :=
  if fields.any (Progress.isMutable ·.1) then do
    let updated ← Action.ofExcept (progress.update fields)
    setProgress updated
    emit invoke updated
  else pure ()

theorem mergeFields_cases (invoke : Invoke) (progress : Progress)
    (fields : List (String × Value)) :
    fields.any (Progress.isMutable ·.1) = false ∧ mergeFields invoke progress fields = pure () ∨
      fields.any (Progress.isMutable ·.1) = true ∧
        ((∃ failure, progress.update fields = .error failure ∧
            mergeFields invoke progress fields = Action.fail failure) ∨
          ∃ updated, progress.update fields = .ok updated ∧
            mergeFields invoke progress fields = do
              setProgress updated
              emit invoke updated) := by
  cases any : fields.any (Progress.isMutable ·.1) with
  | false => exact .inl ⟨rfl, by rw [mergeFields, any, if_neg (by simp)]⟩
  | true =>
      refine .inr ⟨rfl, ?_⟩
      rw [mergeFields, any, if_pos rfl]
      cases result : progress.update fields with
      | error failure => exact .inl ⟨failure, rfl, rfl⟩
      | ok updated => exact .inr ⟨updated, rfl, Action.ofExcept_ok_bind _ _⟩

theorem update_of_ended (invoke : Invoke) {progress : Progress} (ended : progress.isEnded = true)
    (fields : List (String × Value)) :
    update invoke progress fields = reject progress "update" := by
  rw [update, ended, if_pos rfl]

theorem update_going_cases (invoke : Invoke) (session : Session) {progress : Progress}
    (going : progress.isEnded = false) (fields : List (String × Value)) :
    update invoke progress fields session = mergeFields invoke progress fields session ∨
      ∃ entry, update invoke progress fields session =
        mergeFields invoke progress fields (session.noting (.logged entry)) := by
  rw [update, going, if_neg (by simp)]
  dsimp only
  split
  · exact .inr ⟨_, rfl⟩
  · exact .inl rfl

theorem mergeFields_moves (moving : Invoke.Moves invoke) {progress : Progress}
    (held : session.progress? progress.token = some progress) (going : progress.isEnded = false)
    (fields : List (String × Value)) :
    Moves since session (mergeFields invoke progress fields) := by
  rcases mergeFields_cases invoke progress fields with
    ⟨_, same⟩ | ⟨_, ⟨failure, _, same⟩ | ⟨updated, changed, same⟩⟩ <;> rw [same]
  · exact .pure ()
  · exact .fail failure
  · exact setProgress_emit_moves moving held (Progress.follows_update going changed)

theorem update_moves (moving : Invoke.Moves invoke) {progress : Progress}
    (held : session.progress? progress.token = some progress) (fields : List (String × Value)) :
    Moves since session (update invoke progress fields) := by
  cases ended : progress.isEnded with
  | true =>
      rw [update_of_ended invoke ended]
      exact reject_moves _ _
  | false =>
      rcases update_going_cases invoke session ended fields with same | ⟨entry, same⟩
      · intro entered
        rw [same]
        exact mergeFields_moves moving held ended fields entered
      · have heldToo : (session.noting (.logged entry)).progress? progress.token =
            some progress := held
        exact .step (.remarked _ rfl) same (mergeFields_moves moving heldToo ended fields)

theorem finish_moves (moving : Invoke.Moves invoke) {progress : Progress}
    (held : session.progress? progress.token = some progress) (message : Value) :
    Moves since session (finish invoke progress message) := by
  unfold finish
  split
  · exact reject_moves _ _
  · rename_i live
    exact setProgress_emit_moves moving held
      (Progress.follows_finish (by simpa using live) message)

/-! ## Termination and start -/

theorem terminate_moves : Moves since session terminate := by
  cases stopped : session.lifecycle.stopped with
  | true =>
      apply Moves.get
      rw [if_pos stopped]
      exact .pure ()
  | false =>
      apply Moves.get
      rw [if_neg (by simp [stopped])]
      exact .step (.terminated stopped) rfl (log_moves _ _ _)

theorem launch_moves (moving : Invoke.Moves invoke) (live : session.lifecycle.stopped = false)
    (fresh : session.lifecycle.started = false) : Moves since session (launch invoke) := by
  apply Moves.get
  split
  · rename_i byDefault
    exact (Moves.of_change (.launched live fresh byDefault)).map _
  · apply (moving _ _ _).recover
    intro failure middle
    apply (Moves.ofExcept _).seq
    intro reason after
    exact (log_moves _ _ _).seq fun _ _ => .fail _

theorem launch_default (invoke : Invoke) (byDefault : session.launcher = none) :
    launch invoke session =
      (.value (.int session.identifiers.next), session.numbering .session) := by
  rw [launch, Action.get_bind_apply, byDefault]
  rfl

theorem finishStart_of_null (session : Session) {identifier : Value}
    (missing : identifier.isNull = true) :
    ∃ entry, finishStart identifier session = (.failed (.peer .startFailed),
      (session.noting (.launcherReturned identifier)).noting (.logged entry)) := by
  rw [finishStart, Action.bind_of_value (record_apply _ _), missing]
  exact ⟨_, rfl⟩

/-- A launcher that comes back with an identifier starts the session, whatever has become of it
in the meantime. -/
theorem finishStart_of_given (session : Session) {identifier : Value}
    (given : identifier.isNull = false) :
    ∃ entry, finishStart identifier session =
      (.value identifier, session.initializing identifier entry) := by
  rw [finishStart, Action.bind_of_value (record_apply _ _), given]
  exact ⟨_, rfl⟩

theorem start_of_started (invoke : Invoke) (live : session.lifecycle.stopped = false)
    (started : session.lifecycle.started = true) :
    start invoke session =
      (.value session.lifecycle.session, session.noting (.started session.lifecycle.session)) := by
  rw [start, Action.get_bind_apply, if_neg (by simp [live]), if_pos started]
  rfl

theorem start_by_default (invoke : Invoke) (byDefault : session.launcher = none)
    (live : session.lifecycle.stopped = false) (fresh : session.lifecycle.started = false) :
    ∃ entry, start invoke session = (.value (.int session.identifiers.next),
      (session.numbering .session).initializing (.int session.identifiers.next) entry) := by
  have given : (Value.int session.identifiers.next).isNull = false := rfl
  rcases finishStart_of_given (session.numbering .session) given with ⟨entry, same⟩
  refine ⟨entry, ?_⟩
  rw [start, Action.get_bind_apply, if_neg (by simp [live]), if_neg (by simp [fresh]),
    Action.bind_of_value (launch_default invoke byDefault), same]

theorem finishStart_moves (identifier : Value)
    (byDefault : session.launcher = none →
      session.lifecycle.started = false ∧ session.lifecycle.stopped = false) :
    Moves since session (finishStart identifier) := by
  intro _
  cases given : identifier.isNull with
  | true =>
      rcases finishStart_of_null session given with ⟨entry, applied⟩
      rw [applied]
      exact (Changes.single (.unlaunched identifier given)).tail (.remarked _ rfl)
  | false =>
      rcases finishStart_of_given session given with ⟨entry, applied⟩
      rw [applied]
      exact .single (.initialized identifier entry given byDefault)

theorem start_moves (moving : Invoke.Moves invoke) : Moves since session (start invoke) := by
  apply Moves.get
  split
  · exact .fail _
  · rename_i live
    split
    · rename_i running
      exact .of_change (.started (by simpa using live) running)
    · rename_i fresh
      rw [Bool.not_eq_true] at live fresh
      have launched : Moves since session (launch invoke) := launch_moves moving live fresh
      intro entered
      refine launched.bind (fun identifier _ => finishStart_moves identifier ?_) entered
      intro byDefault
      -- Only a launcher of the host can have changed the session meanwhile.
      rw [(launched entered).launcher_eq] at byDefault
      rw [launch_default invoke byDefault]
      exact ⟨fresh, live⟩

end RpcSession.Session
