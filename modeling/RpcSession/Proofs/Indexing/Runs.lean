import RpcSession.Proofs.Indexing.Firing

/-!
# Runs keep the course

Whatever is done to a session whose peer stays quiet, all its walks stay on their course. The end
of the session breaks off those that wait for a tick; the names of the host lead to none.
-/

namespace RpcSession.Session

variable {α β : Type} {session after : Session} {fuel : ℕ} {invoke : Invoke}

/-! ## Termination and start -/

def ended (session : Session) : Session :=
  { session with lifecycle := session.lifecycle.terminate }.noting .terminated

theorem marks_ended (session : Session) (index : ℕ) (token : ℤ) :
    session.ended.marks index token = session.marks index token ++ [.terminated] :=
  marks_noting rfl

/-- The end of a session comes in the middle of a walk that is not over. -/
private theorem Standing.ended {index : ℕ} {token : ℤ} {files : ℕ}
    (standing : session.Standing index token files) (live : session.lifecycle.stopped = false) :
    session.ended.Standing index token files := by
  cases standing with
  | waiting waiting =>
      refine .waiting { waiting with marks := ?_ }
      rw [marks_ended, waiting.marks, closing, live]
      simp [closing, Session.ended, noting, Lifecycle.terminate]
  | resting found idle still lawful =>
      refine .resting found idle still ?_
      rw [live] at lawful
      rw [marks_ended]
      cases lawful with
      | going within => exact .cut within

private theorem OnCourse.ended (onCourse : OnCourse session)
    (live : session.lifecycle.stopped = false) :
    Goes nobody session session.ended := by
  have closed : session.ended.closing = [.terminated] := rfl
  have open' : session.closing = [] := by
    rw [closing, live]
    rfl
  refine ⟨⟨onCourse.quiet, onCourse.clocked.aside rfl rfl rfl, onCourse.names, onCourse.taken,
    onCourse.alone, fun index token beyond unused => ?_, fun index token files tracks => ?_⟩,
    ⟨rfl, fun _ => rfl, Int.le_refl _, fun _ _ => id, fun index token files _ _ still => ?_⟩⟩
  · rw [marks_ended, onCourse.unborn index token beyond unused, open', closed]
    rfl
  · exact (onCourse.standing index token files tracks).ended live
  · refine ⟨rfl, still, ?_⟩
    rw [marks_ended, live]
    rfl

theorem terminate_keeps : Keeps session terminate := by
  intro onCourse
  cases stopped : session.lifecycle.stopped with
  | true =>
      rw [terminate, Action.get_bind_apply, if_pos stopped]
      exact ⟨onCourse, .refl session⟩
  | false =>
      have goes := onCourse.ended stopped
      rw [terminate, Action.get_bind_apply, if_neg (by simp [stopped])]
      exact goes.trans (log_keeps .info "lifecycle" _ none goes.onCourse)

theorem launch_keeps (keeping : Invoke.Keeps invoke) : Keeps session (launch invoke) := by
  apply Keeps.get
  split
  · exact (takeIdentifier_keeps .session).map _
  · exact (keeping _ _).recover fun failure middle => (Keeps.ofExcept _).seq fun _ _ =>
      (log_keeps _ _ _).seq fun _ _ => .fail _

theorem finishStart_keeps (identifier : Value) : Keeps session (finishStart identifier) := by
  refine (record_keeps rfl).seq fun _ _ => ?_
  split
  · exact (log_keeps _ _ _).seq fun _ _ => .fail _
  · exact (modify_keeps (.of_eq rfl)).seq fun _ _ => (log_keeps _ _ _).seq fun _ _ =>
      (record_keeps rfl).seq fun _ _ => .pure _

theorem start_keeps (keeping : Invoke.Keeps invoke) : Keeps session (start invoke) := by
  apply Keeps.get
  split
  · exact .fail _
  · split
    · exact (record_keeps rfl).seq fun _ _ => .pure _
    · exact (launch_keeps keeping).seq fun identifier _ => finishStart_keeps identifier

/-! ## The loop -/

theorem drain_keeps (keeping : Invoke.Keeps invoke) (fuel : ℕ) :
    Keeps session (drain invoke fuel) := by
  induction fuel generalizing session with
  | zero => exact .exhausted
  | succ fuel induction =>
      intro onCourse
      cases waiting : session.loop.ready with
      | nil =>
          rw [drain_succ, Action.bind_of_value (takeReady_of_nil waiting)]
          exact ⟨onCourse, .refl session⟩
      | cons next ready =>
          let taken : Session := { session with loop := { session.loop with ready } }
          have acknowledged : Keeps taken (acknowledge invoke next) :=
            (record_keeps rfl).seq fun _ _ =>
              guarded_keeps ((keeping _ _).seq fun _ _ => .pure ())
          have goes : Goes nobody session taken := onCourse.aside (.of_eq rfl)
          rw [drain_succ, Action.bind_of_value (takeReady_of_cons waiting)]
          exact goes.trans (acknowledged.seq (fun _ _ => induction) goes.onCourse)

theorem fireAll_keeps (keeping : Invoke.Keeps (run fuel))
    {choose : List ScheduledTick → Option ScheduledTick} (picks : PicksScheduled choose)
    (count : ℕ) : Keeps session (fireAll (run fuel) choose count) := by
  induction count generalizing session with
  | zero => exact .exhausted
  | succ count induction =>
      rw [fireAll_succ]
      apply Keeps.get
      split
      · exact .pure ()
      · rename_i next picked
        refine .seq ?_ fun _ _ => induction
        exact (fire_keeps keeping (picks _ next picked)).seq fun _ _ => drain_keeps keeping count

theorem advance_keeps (keeping : Invoke.Keeps (run fuel)) (count : ℕ) (seconds : Float) :
    Keeps session (advance (run fuel) count seconds) := by
  apply Keeps.get
  exact (drain_keeps keeping count).seq fun _ _ =>
    (fireAll_keeps keeping (earliestBy?_picksScheduled _) count).seq fun _ _ =>
      modify_keeps (.of_eq rfl)

/-! ## Calls -/

theorem deliver_keeps (keeping : Invoke.Keeps invoke) (responder : Responder) (answer : Answer) :
    Keeps session (deliver invoke responder answer) := by
  cases responder with
  | host index =>
      apply Keeps.get
      split
      · exact .pure ()
      · exact (keeping _ _).seq fun _ _ => .pure ()
  | exchange identifier =>
      intro onCourse
      rcases deliver_cases invoke session identifier answer with
        ⟨settled, outcome, _, same⟩ | ⟨_, same | ⟨entry, same⟩ | ⟨failure, _, same⟩⟩ <;> rw [same]
      · exact onCourse.aside (.of_eq rfl)
      · exact ⟨onCourse, .refl session⟩
      · exact onCourse.aside (.noting session rfl)
      · exact ⟨onCourse, .refl session⟩

theorem respond_keeps (keeping : Invoke.Keeps invoke) (responder : Responder) (answer : Answer) :
    Keeps session (respond invoke responder answer) :=
  (record_keeps rfl).seq fun _ _ => deliver_keeps keeping responder answer

theorem runReceiver_keeps (keeping : Invoke.Keeps (run fuel)) (receiver : Receiver)
    (params : Value) (responder : Responder) :
    Keeps session (runReceiver (run fuel) receiver params responder) := by
  cases receiver with
  | host handler => exact keeping _ _
  | indexing files delay interval draw onFinish =>
      exact (receiveIndexing_keeps keeping _ _ _ _ _).seq fun _ _ => .pure _

theorem callReceiver_keeps (keeping : Invoke.Keeps (run fuel)) (method : String) (params : Value)
    (responder : Responder) (subscription : Int) (receiver : Receiver) :
    Keeps session (callReceiver (run fuel) method params responder subscription receiver) := by
  refine (record_keeps rfl).seq fun _ _ =>
    (runReceiver_keeps keeping receiver params responder).attempt.seq fun outcome _ =>
      (record_keeps rfl).seq fun _ _ => (Keeps.ofExcept outcome).seq fun result _ => ?_
  split
  · exact respond_keeps keeping _ _
  · exact .pure ()

theorem fanOut_keeps (keeping : Invoke.Keeps (run fuel)) (method : String) (params : Value)
    (responder : Responder) (receivers : List (Int × Receiver)) :
    Keeps session (fanOut (run fuel) method params responder receivers) := by
  induction receivers generalizing session with
  | nil => exact .pure _
  | cons entry receivers induction =>
      rcases entry with ⟨subscription, receiver⟩
      refine (callReceiver_keeps keeping method params responder subscription
        receiver).attempt.seq fun result _ => ?_
      cases result with
      | ok => exact induction
      | error failure =>
          dsimp only
          split
          · exact (log_keeps _ _ _ _).seq fun _ _ => induction.seq fun _ _ => .pure _
          · exact .fail failure

theorem dispatch_keeps (keeping : Invoke.Keeps (run fuel)) (method : String) (params : Value)
    (responder : Responder) : Keeps session (dispatch (run fuel) method params responder) := by
  apply Keeps.get
  split
  · exact (log_keeps _ _ _).seq fun _ _ => .pure _
  · refine (fanOut_keeps keeping method params responder _).seq fun first _ => ?_
    cases first with
    | none => exact .pure _
    | some failure => exact .fail failure

theorem ignoreMethod_keeps (method : Value) : Keeps session (ignoreMethod method) := by
  apply Keeps.get
  split
  · exact .fail _
  · exact log_keeps _ _ _

theorem route_keeps (keeping : Invoke.Keeps (run fuel)) (method params : Value)
    (answerable : Bool) (identifier : Int) :
    Keeps session (route (run fuel) method params answerable identifier) := by
  unfold route
  dsimp only
  split
  · exact .fail _
  · exact .fail _
  · exact .get ((respond_keeps keeping _ _).seq fun _ _ => .pure _)
  · exact terminate_keeps.seq fun _ _ => (respond_keeps keeping _ _).seq fun _ _ => .pure _
  · apply Keeps.get
    split
    · refine Keeps.seq (.recover ?_ fun failure _ => ?_) fun _ _ => .pure _
      · exact (dispatch_keeps keeping _ _ _).seq fun _ _ => .pure _
      · split
        · exact deliver_keeps keeping _ _
        · exact .fail failure
    · exact (ignoreMethod_keeps _).seq fun _ _ => .pure _
  · exact (ignoreMethod_keeps _).seq fun _ _ => .pure _

theorem openExchange_keeps (method : Value) (answerable : Bool) :
    Keeps session (openExchange method answerable) :=
  (takeIdentifier_keeps _).seq fun _ _ => (modify_keeps (.of_eq rfl)).seq fun _ _ => .pure _

theorem accept_keeps (keeping : Invoke.Keeps (run fuel)) (method params : Value)
    (answerable : Bool) : Keeps session (accept (run fuel) method params answerable) := by
  refine .get ((record_keeps rfl).seq fun _ _ => ?_)
  split
  · exact .fail _
  · exact (openExchange_keeps method answerable).seq fun identifier _ =>
      (log_keeps _ _ _).seq fun _ _ =>
        (route_keeps keeping method params answerable identifier).seq fun _ _ => .pure _

theorem finishRequest_keeps (identifier : Int) (onAcknowledge : Option (Int → Program))
    (handled : Bool) : Keeps session (finishRequest identifier onAcknowledge handled) := by
  have concluded : Keeps session (conclude identifier) := by
    apply Keeps.get
    split
    · exact .pure _
    · exact (settle_keeps _ _).seq fun _ _ => .pure _
  refine concluded.seq fun outcome _ => (record_keeps rfl).seq fun _ _ => ?_
  cases onAcknowledge with
  | none => exact .pure _
  | some callback =>
      exact (record_keeps rfl).seq fun _ _ => (modify_keeps (.of_eq rfl)).seq fun _ _ => .pure _

theorem request_keeps (keeping : Invoke.Keeps (run fuel)) (method params : Value)
    (onAcknowledge : Option (Int → Program)) :
    Keeps session (request (run fuel) method params onAcknowledge) :=
  (accept_keeps keeping method params true).seq fun _ _ => finishRequest_keeps _ _ _

theorem notify_keeps (keeping : Invoke.Keeps (run fuel)) (method params : Value) :
    Keeps session (notify (run fuel) method params) :=
  (accept_keeps keeping method params false).seq fun _ _ => .pure _

theorem handleMessage_keeps (keeping : Invoke.Keeps (run fuel)) (message : Value) :
    Keeps session (handleMessage (run fuel) message) := by
  refine Keeps.seq (record_keeps rfl) fun _ _ => ?_
  split
  · exact .fail _
  · refine (Keeps.ofExcept _).seq fun isRequest _ => ?_
    split
    · refine .recover (.map ?_ _) fun failure _ => ?_
      · exact (request_keeps keeping _ _ none).seq fun report _ => .ofExcept _
      · dsimp only
        split
        · exact .pure _
        · exact Keeps.seq (record_keeps rfl) fun _ _ => .pure _
    · refine (Keeps.ofExcept _).seq fun isNotification _ => ?_
      split
      · exact Keeps.seq ((notify_keeps keeping _ _).recover fun _ _ => record_keeps rfl)
          fun _ _ => .pure _
      · exact Keeps.seq (record_keeps rfl) fun _ _ => .pure _

/-! ## Names

A name of the host never leads to a progress or a timer of a walk. -/

theorem find_keeps (name : String) (wanted : Reference → Option α) :
    Keeps session (find name wanted) := .of_eq (find_state session name wanted)

private theorem OnCourse.allows_of_find (onCourse : OnCourse session) {name : String}
    {wanted : Reference → Option α} {value : α}
    (looked : find name wanted session = (.value value, after)) :
    after = session ∧ ∃ reference, session.Allows reference ∧ wanted reference = some value := by
  rw [find, Action.get_bind_apply] at looked
  cases known : session.reference? name wanted with
  | none =>
      rw [known] at looked
      cases looked
  | some found =>
      rw [known] at looked
      cases looked
      rcases List.exists_of_findSome?_eq_some known with ⟨entry, member, under⟩
      refine ⟨rfl, entry.2, onCourse.names entry member, ?_⟩
      dsimp only at under
      split at under
      · exact under
      · cases under

theorem find_bind_keeps {name : String} {wanted : Reference → Option α}
    {next : α → Action Session β}
    (rest : ∀ reference value, session.Allows reference → wanted reference = some value →
      Keeps session (next value)) : Keeps session (find name wanted >>= next) := by
  intro onCourse
  refine (find_keeps name wanted).bind (fun value middle looked _ => ?_) onCourse
  rcases onCourse.allows_of_find looked with ⟨rfl, reference, allowed, same⟩
  exact rest reference value allowed same

theorem findProgress_bind_keeps {name : String} {next : Progress → Action Session β}
    (rest : ∀ progress : Progress, progress.token < session.identifiers.next →
      (∀ index files, ¬session.Tracks index progress.token files) →
        Keeps session (next progress)) : Keeps session (findProgress name >>= next) := by
  unfold findProgress
  rw [bind_assoc]
  refine find_bind_keeps fun reference token allowed same => ?_
  rw [bind_assoc]
  apply Keeps.get
  cases held : session.progress? token with
  | none => exact .fail _
  | some progress =>
      have known : reference = .progress progress.token := by
        rw [progress?_token held]
        cases reference <;> simp_all
      rw [known] at allowed
      exact rest progress allowed.1 fun index files tracks => by
        rcases tracks with ⟨_, _, onFinish, found⟩
        exact allowed.2 index files onFinish found

theorem findTimer_bind_keeps {name : String} {next : ℕ → Action Session β}
    (rest : ∀ index, session.Strays index → Keeps session (next index)) :
    Keeps session (findTimer name >>= next) := by
  refine find_bind_keeps fun reference index allowed same => ?_
  have known : reference = .timer index := by cases reference <;> simp_all
  rw [known] at allowed
  exact rest index allowed.strays

/-! ## Operations and programs -/

theorem registerReceiver_keeps (method : String) (receiver : Receiver) :
    Keeps session (registerReceiver method receiver) :=
  .get ((modify_keeps (.of_eq rfl)).seq fun _ _ => (record_keeps rfl).seq fun _ _ =>
    (log_keeps _ _ _).seq fun _ _ => .pure _)

theorem registerIndexing_keeps (options : IndexingOptions Program) :
    Keeps session (registerIndexing options) := by
  unfold registerIndexing
  split
  · exact .fail _
  · exact .get (registerReceiver_keeps _ _)

theorem unregister_keeps (subscription : Int) : Keeps session (unregister subscription) := by
  apply Keeps.get
  split
  · exact .pure _
  · exact (modify_keeps (.of_eq rfl)).seq fun _ _ => (record_keeps rfl).seq fun _ _ =>
      (log_keeps _ _ _).seq fun _ _ => .pure _

theorem resume_keeps (keeping : Invoke.Keeps invoke) (name : String) (keepLast : Bool) :
    Keeps session (resume invoke name keepLast) := by
  apply Keeps.get
  split
  · exact .pure _
  · split
    · exact (modify_keeps (.of_eq rfl)).seq fun _ _ => keeping _ _
    · exact keeping _ _

theorem findRequest_keeps (name : String) : Keeps session (findRequest name) := by
  refine (find_keeps _ _).seq fun found middle => .get ?_
  split
  · exact .pure _
  · exact .fail _

theorem findProgress_keeps (name : String) : Keeps session (findProgress name) := by
  have looked : Keeps session (findProgress name >>= pure) :=
    findProgress_bind_keeps fun progress _ _ => .pure progress
  rw [Action.bind_pure] at looked
  exact looked

section Operations

variable {count : ℕ}

theorem operate_request_keeps (keeping : Invoke.Keeps (run fuel)) (method params : Value)
    (onAcknowledge : Option (Int → Program)) (name : Option String) :
    Keeps session
      (operate (run fuel) count (.request method params onAcknowledge name)) := by
  refine (request_keeps keeping method params onAcknowledge).seq fun report middle => ?_
  have allowed : middle.Allows (.request report.identifier report.handled) := trivial
  cases name with
  | none => exact .pure _
  | some name => exact (bindName_keeps name allowed).seq fun _ _ => .pure _

theorem operate_dispatch_keeps (keeping : Invoke.Keeps (run fuel)) (method : String)
    (params : Value) (onAnswer : Answer → Program) :
    Keeps session (operate (run fuel) count (.dispatch method params onAnswer)) := by
  have added : Keeps session (addResponder onAnswer) :=
    .get ((modify_keeps (.of_eq rfl)).seq fun _ _ => .pure _)
  exact added.seq fun responder _ =>
    (dispatch_keeps keeping method params responder).seq fun _ _ => .pure _

theorem operate_begin_keeps (name : String) (title message percentage : Value) :
    Keeps session (operate (run fuel) count (.begin name title message percentage)) := by
  intro onCourse
  refine (begin_keeps title message percentage).bind (fun token middle began _ => ?_) onCourse
  exact (bindName_keeps name (begin_allows onCourse began)).seq fun _ _ => .pure _

theorem operate_update_keeps (name : String) (fields : List (String × Value)) :
    Keeps session (operate (run fuel) count (.update name fields)) := by
  refine findProgress_bind_keeps fun progress taken free => ?_
  split
  · exact .fail _
  · exact (update_keeps taken free fields).seq fun _ _ => .pure _

theorem operate_finish_keeps (name : String) (message : Value) :
    Keeps session (operate (run fuel) count (.finish name message)) := by
  refine findProgress_bind_keeps fun progress taken free => ?_
  exact (finish_keeps taken free message).seq fun _ _ => .pure _

theorem operate_createTimer_keeps (name : String) (interval : Float) (delay : Option Float)
    (callback : Program) :
    Keeps session
      (operate (run fuel) count (.createTimer name interval delay callback)) := by
  refine (createTimer_host_keeps interval delay callback).bind fun index middle created _ => ?_
  exact (bindName_keeps name (createTimer_host_allows created)).seq fun _ _ => .pure _

/-- The host starts and stops no timer of a walk. -/
theorem findTimer_then_keeps {name : String} {action : ℕ → Action Session Unit} {reply : Reply}
    (keeps : ∀ index, session.Strays index → Keeps session (action index)) :
    Keeps session (do action (← findTimer name); return reply) :=
  findTimer_bind_keeps fun index strays => (keeps index strays).seq fun _ _ => .pure _

theorem operate_inspectTimer_keeps (name : String) :
    Keeps session (operate (run fuel) count (.inspectTimer name)) := by
  refine findTimer_bind_keeps fun index _ => .get ?_
  split
  · exact .pure _
  · exact .fail _

end Operations

theorem operate_keeps (keeping : Invoke.Keeps (run fuel)) (count : ℕ)
    (operation : Operation Program) : Keeps session (operate (run fuel) count operation) := by
  cases operation with
  | start => exact (start_keeps keeping).map _
  | terminate => exact terminate_keeps.seq fun _ _ => .pure _
  | isClosing | describe | hasReceivers => exact .pure _
  | nextIdentifier => exact (takeIdentifier_keeps _).map _
  | request => exact operate_request_keeps keeping _ _ _ _
  | notify method params => exact (notify_keeps keeping method params).seq fun _ _ => .pure _
  | handleMessage message => exact (handleMessage_keeps keeping message).map _
  | outcome name => exact (findRequest_keeps name).map _
  | register method receiver => exact (registerReceiver_keeps _ _).map _
  | registerIndexing options => exact (registerIndexing_keeps options).map _
  | unregister subscription => exact (unregister_keeps subscription).map _
  | dispatch => exact operate_dispatch_keeps keeping _ _ _
  | respond responder answer => exact (respond_keeps keeping _ _).seq fun _ _ => .pure _
  | keepResponder name responder =>
      have allowed : session.Allows (.responder responder) := trivial
      exact (bindName_keeps name allowed).seq fun _ _ => .pure _
  | respondKept name answer =>
      exact (find_keeps _ _).seq fun responder _ =>
        (respond_keeps keeping responder answer).seq fun _ _ => .pure _
  | begin => exact operate_begin_keeps _ _ _ _
  | update => exact operate_update_keeps _ _
  | finish => exact operate_finish_keeps _ _
  | inspect name => exact (findProgress_keeps name).map _
  | createTimer => exact operate_createTimer_keeps _ _ _ _
  | startTimer => exact findTimer_then_keeps fun _ strays => startTimer_keeps strays
  | stopTimer => exact findTimer_then_keeps fun _ strays => stopTimer_keeps strays
  | inspectTimer => exact operate_inspectTimer_keeps _
  | drain => exact (drain_keeps keeping count).seq fun _ _ => .pure _
  | advance seconds => exact (advance_keeps keeping count seconds).seq fun _ _ => .pure _
  | note note => exact (record_keeps rfl).seq fun _ _ => .pure _
  | log level logger message => exact (log_keeps level logger message).seq fun _ _ => .pure _
  | readCell cell => exact .pure _
  | writeCell cell value => exact (modify_keeps (.of_eq rfl)).seq fun _ _ => .pure _
  | putAside name program => exact (modify_keeps (.of_eq rfl)).seq fun _ _ => .pure _
  | resume name keepLast => exact (resume_keeps keeping name keepLast).map _

theorem run_keeps (fuel : ℕ) : Invoke.Keeps (run fuel) := by
  induction fuel with
  | zero => exact fun _ _ => .exhausted
  | succ fuel induction =>
      intro program session
      cases program with
      | done value => exact .pure value
      | fail failure => exact .fail failure
      | call callee next => exact (induction callee session).attempt.seq fun _ _ => induction _ _
      | perform operation next =>
          exact (operate_keeps induction fuel operation).attempt.seq fun _ _ => induction _ _

theorem perform_keeps (fuel : ℕ) (operation : Operation Program) :
    Keeps session (perform fuel operation) := operate_keeps (run_keeps fuel) fuel operation

theorem OnCourse.of_new (new : session.IsNew)
    (quiet : ∀ message, (session.outbound message).IsQuiet) : OnCourse session := by
  have none : ∀ index, session.callback? index = Option.none := by
    intro index
    rw [callback?_eq, new.timers]
    rfl
  refine ⟨quiet, .of_new new, ?_, ?_, ?_, ?_, ?_⟩
  · intro entry member
    rw [new.names] at member
    cases member
  · intro index token files onFinish found
    rw [none] at found
    cases found
  · intro index other token files others onFinish onFinishOther found
    rw [none] at found
    cases found
  · intro index token _ _
    rw [marks, new.history, closing, new.lifecycle]
    rfl
  · rintro index token files ⟨_, _, onFinish, found⟩
    rw [none] at found
    cases found

end RpcSession.Session
