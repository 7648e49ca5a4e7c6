import RpcSession.Proofs.Indexing.Calls
import RpcSession.Proofs.Registry.Entries

/-!
# Calls of the indexing receiver that leave no orphan

A call of the indexing receiver either fails before it begins a progress, or begins one and has a
tick scheduled that carries it on. Registering the receiver does not look at the interval, though,
and with one that no timer takes the call fails in between: its progress stays at zero percent.
-/

namespace RpcSession.Session

variable {session before after : Session} {fuel : ℕ}

/-! ## What a call should come to -/

def countFiles (invoke : Invoke) (files : Option Int) (draw : Program) : Action Session Int :=
  match files with
  | some files => pure files
  | none => wholeNumber <$> invoke draw

/-- The peer takes the message of the progress that a call begins next, and comes back. -/
def PeerReturns (fuel : ℕ) (session : Session) : Prop :=
  ∃ value after,
    run fuel (session.outbound (Walk.opening session.identifiers.next).notification)
      session.beginningWalk = (.value value, after)

/-- The peer has been told of the next progress, and a tick of a timer for it is scheduled. -/
structure CarriedOn (before after : Session) : Prop where
  told : before.sentProgress ++ [Walk.opening before.identifiers.next] <+: after.sentProgress
  scheduled : ∃ index timer files onFinish tick, after.timer? index = some timer ∧
    timer.callback = .indexing before.identifiers.next files onFinish ∧
    timer.pending = some tick.order ∧ tick ∈ after.loop.scheduled ∧ tick.timer = index

/-- A call fails with nothing begun, or has begun a progress that is carried on. -/
def LeavesNoOrphan {α : Type} (before : Session) (result : Outcome α × Session) : Prop :=
  (∃ failure, result.1 = .failed failure) ∧ Unaltered before result.2 ∨
    (∃ value, result.1 = .value value) ∧ CarriedOn before result.2

/-! ## Calls whose files are counted -/

private theorem carriedOn_withWalk
    (told : session.sentProgress ++ [Walk.opening session.identifiers.next] <+:
      after.sentProgress) (files : Int) (delay interval : Float) (onFinish : Option Program) :
    CarriedOn session
      (after.withWalk session.identifiers.next files delay interval onFinish) where
  told := told
  scheduled := by
    refine ⟨after.timers.length, _, files, onFinish,
      ⟨after.loop.nextOrder, after.loop.now + delay, after.timers.length⟩,
      timer?_withWalk _ _ _ _ _ _, rfl, rfl, ?_, rfl⟩
    exact List.mem_append_right _ List.mem_cons_self

theorem startWalk_of_returning (live : session.lifecycle.stopped = false)
    (returns : PeerReturns fuel session) (files : Int) (delay interval : Float)
    (onFinish : Option Program) :
    ∃ told,
      session.sentProgress ++ [Walk.opening session.identifiers.next] <+: told.sentProgress ∧
      startWalk (run fuel) files delay interval onFinish session =
        if interval ≤ 0 then (.failed .nonPositiveInterval, told)
        else (.value (),
          told.withWalk session.identifiers.next files delay interval onFinish) := by
  rcases returns with ⟨value, told, heard⟩
  have began : begin (run fuel) (.string "indexing") (.string "") (.int 0) session =
      (.value session.identifiers.next, told) := by
    rw [begin_of_fit (run fuel) _ _ _ live rfl]
    exact Action.bind_of_value heard
  refine ⟨told, ?_, ?_⟩
  · rw [← sentProgress_beginningWalk]
    exact (run_changes heard).prefix_sentProgress
  · rw [startWalk, Action.bind_of_value began]
    split
    · rename_i refused
      rw [createTimer, if_pos refused]
      rfl
    · rename_i positive
      rw [Action.bind_of_value (createTimer_apply positive delay _)]
      exact startTimer_created _ rfl rfl

theorem startWalk_leavesNoOrphan_iff (live : session.lifecycle.stopped = false)
    (returns : PeerReturns fuel session) (files : Int) (delay interval : Float)
    (onFinish : Option Program) :
    LeavesNoOrphan session (startWalk (run fuel) files delay interval onFinish session) ↔
      ¬interval ≤ 0 := by
  rcases startWalk_of_returning live returns files delay interval onFinish with
    ⟨told, sent, same⟩
  rw [same]
  constructor
  · intro right refused
    rw [if_pos refused] at right
    rcases right with ⟨_, unaltered⟩ | ⟨⟨value, came⟩, _⟩
    · have longer := sent.length_le
      rw [unaltered.sent, List.length_append, List.length_singleton] at longer
      omega
    · cases came
  · intro positive
    rw [if_neg positive]
    exact .inr ⟨⟨_, rfl⟩, carriedOn_withWalk sent files delay interval onFinish⟩

private theorem startWalk_of_ended (ended : session.lifecycle.stopped = true) (files : Int)
    (delay interval : Float) (onFinish : Option Program) :
    LeavesNoOrphan session (startWalk (run fuel) files delay interval onFinish session) := by
  rcases begin_of_unfit (run fuel) (.string "indexing") (.string "") (.int 0) (.inl ended) with
    ⟨failure, declined⟩
  rw [startWalk, Action.bind_apply, declined]
  exact .inl ⟨⟨failure, rfl⟩, .noting session (by simp)⟩

/-! ## Calls of a registered receiver -/

theorem runReceiver_indexing_eq (invoke : Invoke) (files : Option Int) (delay interval : Float)
    (draw : Program) (onFinish : Option Program) (params : Value) (responder : Responder) :
    runReceiver invoke (.indexing files delay interval draw onFinish) params responder = (do
      let counted ← countFiles invoke files draw
      startWalk invoke counted delay interval onFinish
      return .null) := by
  rw [runReceiver, receiveIndexing_eq]
  cases files with
  | some files => rfl
  | none => exact Action.bind_assoc _ _ _

private theorem leavesNoOrphan_map {α β : Type} (action : Action Session α) (value : β)
    (session : Session) :
    LeavesNoOrphan before ((do let _ ← action; return value : Action Session β) session) ↔
      LeavesNoOrphan before (action session) := by
  rw [Action.bind_apply]
  cases action session with
  | mk outcome after => cases outcome <;> simp [LeavesNoOrphan]

private theorem mem_receivers_registerReceiver {method : String} {receiver : Receiver}
    {subscription : Int} {start registered : Session}
    (came : registerReceiver method receiver start = (.value subscription, registered)) :
    subscription = start.registry.next ∧
      (subscription, receiver) ∈ registered.registry.receivers method := by
  cases came
  refine ⟨rfl, ?_⟩
  change _ ∈ Registry.table (Registry.addReceiver method _ start.registry.tables) method
  rw [Registry.table_addReceiver, if_pos rfl]
  exact List.mem_append_right _ (List.mem_singleton_self _)

variable {options : IndexingOptions Program} {start registered : Session} {subscription : ℤ}

theorem receiver_of_accepted
    (accepted : registerIndexing options start = (.value subscription, registered)) :
    (subscription, Receiver.indexing options.files
      (options.delay.getD start.configuration.progressDelay)
      (options.interval.getD start.configuration.progressInterval) (options.draw subscription)
      options.onFinish) ∈ registered.registry.receivers referencesMethod := by
  have came : registerReceiver referencesMethod
      (.indexing options.files (options.delay.getD start.configuration.progressDelay)
        (options.interval.getD start.configuration.progressInterval)
        (options.draw start.registry.next) options.onFinish) start =
          (.value subscription, registered) := by
    rw [registerIndexing] at accepted
    split at accepted
    · cases accepted
    · exact accepted
  rcases mem_receivers_registerReceiver came with ⟨rfl, member⟩
  exact member

/-- Every accepted registration is for a receiver whose calls leave no orphan if a timer takes its
interval. If none does, only those calls leave no orphan that are on a terminated session or whose
number of files fails to be drawn. -/
theorem accepted_indexing_leaves_no_orphan_iff
    (accepted : registerIndexing options start = (.value subscription, registered)) :
    let interval := options.interval.getD start.configuration.progressInterval
    let delay := options.delay.getD start.configuration.progressDelay
    let draw := options.draw subscription
    let receiver := Receiver.indexing options.files delay interval draw options.onFinish
    (subscription, receiver) ∈ registered.registry.receivers referencesMethod ∧
      ∀ fuel params responder before counted called,
        countFiles (run fuel) options.files draw before = (counted, called) →
        counted ≠ .exhausted →
        (called.lifecycle.stopped = false → PeerReturns fuel called) →
        (LeavesNoOrphan called (runReceiver (run fuel) receiver params responder before) ↔
          ¬interval ≤ 0 ∨ called.lifecycle.stopped = true ∨
            ∃ failure, counted = .failed failure) := by
  intro interval delay draw receiver
  refine ⟨receiver_of_accepted accepted,
    fun fuel params responder before counted called counts known returns => ?_⟩
  rw [runReceiver_indexing_eq, Action.bind_apply, counts]
  cases counted with
  | exhausted => exact absurd rfl known
  | failed failure => simpa [LeavesNoOrphan] using Unaltered.refl called
  | value files =>
      rw [leavesNoOrphan_map]
      cases stopped : called.lifecycle.stopped with
      | true => simpa using startWalk_of_ended stopped files delay interval options.onFinish
      | false =>
          rw [startWalk_leavesNoOrphan_iff stopped (returns stopped)]
          simp

/-- The peer terminates the session when it is told of the progress. A tick is scheduled even so. -/
theorem accepted_indexing_leaves_no_orphan_of_terminating_peer :
    let options : IndexingOptions Program :=
      { files := some 2, delay := none, interval := none, draw := fun _ => .done .null,
        onFinish := none }
    let start : Session :=
      { outbound := fun _ => .perform .terminate fun _ => .done .null }
    let registered := (registerIndexing options start).2
    let receiver := Receiver.indexing (some 2) 0.2 0.1 (.done .null) none
    let result := runReceiver (run 3) receiver .null (.host 0) registered
    registerIndexing options start = (.value 1, registered) ∧
      countFiles (run 3) (some 2) (.done .null) registered = (.value 2, registered) ∧
      (registered.lifecycle.stopped = false → PeerReturns 3 registered) ∧ ¬(0.1 : Float) ≤ 0 ∧
      (1, receiver) ∈ registered.registry.receivers referencesMethod ∧
      LeavesNoOrphan registered result := by
  intro options start registered receiver result
  have accepted : registerIndexing options start = (.value 1, registered) := by
    with_unfolding_all rfl
  have counts : countFiles (run 3) (some 2) (.done .null) registered = (.value 2, registered) :=
    rfl
  have returns : registered.lifecycle.stopped = false → PeerReturns 3 registered := fun _ =>
    ⟨.null, _, by with_unfolding_all rfl⟩
  have positive : ¬(0.1 : Float) ≤ 0 := by decide +kernel
  have settled := accepted_indexing_leaves_no_orphan_iff accepted
  exact ⟨accepted, counts, returns, positive, settled.1,
    (settled.2 3 .null (.host 0) registered _ registered counts (by simp) returns).mpr
      (.inl positive)⟩

/-- With an interval of zero, the call fails when its progress is begun. -/
theorem accepted_indexing_leaves_orphan_of_zero_interval :
    let options : IndexingOptions Program :=
      { files := some 1, delay := none, interval := some 0, draw := fun _ => .done .null,
        onFinish := none }
    let registered := (registerIndexing options {}).2
    let receiver := Receiver.indexing (some 1) 0.2 0 (.done .null) none
    let result := runReceiver (run 2) receiver .null (.host 0) registered
    (registerIndexing options {}).1 = .value 1 ∧ registered.lifecycle.stopped = false ∧
      PeerReturns 2 registered ∧ ¬LeavesNoOrphan registered result ∧
      result.1 = .failed .nonPositiveInterval ∧
      result.2.sentProgress = [Walk.opening registered.identifiers.next] ∧
      result.2.identifiers.next = registered.identifiers.next + 1 ∧
      result.2.timers = [] := by
  intro options registered receiver result
  have failed : result.1 = .failed .nonPositiveInterval := by with_unfolding_all rfl
  have told : result.2.sentProgress = [Walk.opening registered.identifiers.next] := by
    with_unfolding_all rfl
  have begun : ¬LeavesNoOrphan registered result := by
    rintro (⟨_, unaltered⟩ | ⟨⟨value, came⟩, _⟩)
    · have same := told.symm.trans unaltered.sent
      cases same
    · cases failed.symm.trans came
  exact ⟨rfl, rfl, ⟨.null, _, by with_unfolding_all rfl⟩, begun, failed, told,
    by with_unfolding_all rfl, by with_unfolding_all rfl⟩

end RpcSession.Session
