import RpcSession.Proofs.ProgressStream

/-!
# What the peer knows of a progress

As long as a session is not terminated, a progress is as the peer was last told: every change of it
is sent at once, and a change that is refused or ignored changes nothing.
-/

namespace RpcSession.Session

variable {since : Int} {session after : Session}

def lastSent? (session : Session) (token : Int) : Option Progress :=
  (session.sentProgress.filter (·.token == token)).getLast?

/-- The value of the last message that carries a token. -/
def lastValue? (session : Session) (token : Int) : Option Value :=
  (session.messages.filter (Message.token? · == some token)).getLast?.bind
    (Message.param? · "value")

theorem lastSent?_of_sent {told : Progress}
    (sent : after.sentProgress = session.sentProgress ++ [told]) (token : Int) :
    after.lastSent? token = if told.token = token then some told else session.lastSent? token := by
  rw [lastSent?, sent, List.filter_append]
  by_cases same : told.token = token
  · simp [same]
  · simp [same, lastSent?]

theorem lastValue?_eq (session : Session) (token : Int) :
    session.lastValue? token = (session.lastSent? token).map (·.snapshot) := by
  have value : ∀ progress : Progress,
      Message.param? progress.notification "value" = some progress.snapshot := fun _ => rfl
  simp only [lastValue?, lastSent?, messages, List.filter_map, List.getLast?_map, Function.comp_def,
    Progress.token?_notification, Option.some_beq_some]
  cases List.getLast? _ with
  | none => rfl
  | some progress => exact value progress

/-! ## The invariant

As long as a session lives, it holds of every progress what the peer was last told. -/

/-- The session holds of every progress what the peer was last told. -/
def UpToDate (session : Session) : Prop :=
  ∀ token progress, session.progress? token = some progress →
    session.lastSent? token = some progress

namespace UpToDate

private theorem begins (upToDate : UpToDate session) {progress : Progress}
    (progresses : after.progresses = progress :: session.progresses)
    (sent : after.sentProgress = session.sentProgress ++ [progress]) : UpToDate after := by
  intro token held known
  rw [progress?_of_begun progresses] at known
  rw [lastSent?_of_sent sent]
  split at known
  · rename_i same
    rw [if_pos same, known]
  · rename_i different
    rw [if_neg different]
    exact upToDate token held known

private theorem continues (upToDate : UpToDate session) {latter : Progress}
    (progresses : after.progresses = (session.updating latter).progresses)
    (sent : after.sentProgress = session.sentProgress ++ [latter]) : UpToDate after := by
  intro token progress known
  rw [progress?, progresses, ← progress?, progress?_updating] at known
  rcases Option.map_eq_some_iff.mp known with ⟨other, existing, same⟩
  rw [lastSent?_of_sent sent]
  split at same
  · rename_i own
    rw [if_pos own.symm, same]
  · rename_i different
    rw [if_neg fun own => different own.symm, ← same]
    exact upToDate token other existing

theorem change (upToDate : UpToDate session) (live : session.lifecycle.stopped = false)
    (change : Change since session after) : UpToDate after := by
  rcases change.progress with
    ⟨progresses, sent, _, _⟩ | ⟨progress, _, _, progresses, sent, _, _⟩ |
    ⟨former, latter, _, _, progresses, sent, _, _⟩
  · intro token progress known
    rw [progress?, progresses, ← progress?] at known
    rw [lastSent?, sent, ← lastSent?]
    exact upToDate token progress known
  · exact upToDate.begins progresses sent
  · rcases sent with ⟨stopped, _⟩ | sent
    · rw [live] at stopped
      cases stopped
    · exact upToDate.continues progresses sent

end UpToDate

private theorem Change.live (change : Change since session after)
    (live : after.lifecycle.stopped = false) : session.lifecycle.stopped = false := by
  rcases change.records with ⟨recent, records⟩
  rw [← Bool.not_eq_true] at live ⊢
  exact fun stopped => live (records.stopped.mpr (.inl stopped))

theorem Reachable.upToDate (reachable : Reachable session)
    (live : session.lifecycle.stopped = false) : UpToDate session := by
  induction reachable with
  | new new =>
      intro token progress known
      simp [progress?, new.progresses] at known
  | step _ change induction =>
      have before := change.live live
      exact (induction before).change before change

/-! ## Handles -/

private theorem Change.progress?_isSome {token : Int} (change : Change since session after)
    (known : (session.progress? token).isSome = true) :
    (after.progress? token).isSome = true := by
  rcases change.progress with
    ⟨progresses, _, _, _⟩ | ⟨progress, _, _, progresses, _, _, _⟩ |
    ⟨former, latter, _, _, progresses, _, _, _⟩
  · rwa [progress?, progresses]
  · rw [progress?_of_begun progresses]
    split
    · rfl
    · exact known
  · rwa [progress?, progresses, ← progress?, progress?_updating, Option.isSome_map]

theorem Changes.progress?_isSome {token : Int} (changes : Changes since session after)
    (known : (session.progress? token).isSome = true) :
    (after.progress? token).isSome = true := by
  induction changes with
  | refl => exact known
  | tail _ change induction => exact change.progress?_isSome induction

private theorem begin_held {fuel : Nat} {title message percentage : Value} {token : Int}
    (came : begin (run fuel) title message percentage session = (.value token, after)) :
    (after.progress? token).isSome = true := by
  rcases begin_changes came with ⟨progress, rfl, _, since, changes⟩
  apply changes.progress?_isSome
  rw [progress?_of_begun rfl, if_pos rfl]
  rfl

theorem inspect_eq {fuel : Nat} {name : String} {progress : Progress}
    (came :
      operate (run fuel) fuel (.inspect name) session = (.value (.progress progress), after)) :
    session.progress? progress.token = some progress := by
  rw [operate, ← bind_pure_comp] at came
  rcases Action.value_of_bind came with ⟨found, middle, looked, returned⟩
  cases returned
  exact (findProgress_held looked).2

/-! ## The snapshots of handles -/

/-- Whoever looks at a progress of a session that is not terminated sees what the last message
with its token says: host code that asks for it, at whatever moment, and whatever became of the
changes before. Every progress whose begin came back stays one that can be looked at. -/
theorem snapshot_eq_last_value (reachable : Reachable session)
    (live : session.lifecycle.stage ≠ .terminated) :
    (∀ token progress, session.progress? token = some progress →
      progress.token = token ∧ session.lastValue? token = some progress.snapshot) ∧
    (∀ fuel name progress after,
      operate (run fuel) fuel (.inspect name) session = (.value (.progress progress), after) →
        session.lastValue? progress.token = some progress.snapshot) ∧
    (∀ fuel title message percentage before token begun since,
      begin (run fuel) title message percentage before = (.value token, begun) →
        Changes since begun session → ∃ progress, session.progress? token = some progress) := by
  have running : session.lifecycle.stopped = false := by
    rw [← Bool.not_eq_true]
    exact fun stopped => live (session.lifecycle.stage_eq_terminated.mpr stopped)
  have agrees : ∀ token progress, session.progress? token = some progress →
      session.lastValue? token = some progress.snapshot := by
    intro token progress known
    rw [lastValue?_eq, reachable.upToDate running token progress known]
    rfl
  refine ⟨?_, ?_, ?_⟩
  · intro token progress known
    exact ⟨progress?_token known, agrees token progress known⟩
  · intro fuel name progress after came
    exact agrees progress.token progress (inspect_eq came)
  · intro fuel title message percentage before token begun since came changes
    exact Option.isSome_iff_exists.mp (changes.progress?_isSome (begin_held came))

/-- The peer's side fails on every report, after it took the message. A report that failed so, one
that was refused for its percentage and one of nothing are behind the session. -/
theorem snapshot_eq_last_value_of_failing_peer :
    let peer : Value → Program := fun message =>
      match Message.fact? message "kind" with
      | some (.string "report") => .fail (.host .key [])
      | _ => .done .null
    let session := ({ outbound := peer } : Session).after
      [(2, .begin "work" (.string "Work") .null .null),
        (2, .update "work" [("percentage", .int 50), ("message", .string "half")]),
        (2, .update "work" [("message", .string "more"), ("percentage", .int 101)]),
        (2, .update "work" [("title", .string "Other")])]
    let progress : Progress := ⟨1, .reported, .string "Work", .string "half", some 50⟩
    Reachable session ∧ session.lifecycle.stage ≠ .terminated ∧
      session.progress? 1 = some progress ∧ session.lastValue? 1 = some progress.snapshot := by
  intro peer session progress
  have new : ({ outbound := peer } : Session).IsNew := isNew_given
  have reachable : Reachable session := (Reachable.new new).after _
  have live : session.lifecycle.stage ≠ .terminated := by decide +kernel
  have known : session.progress? 1 = some progress := by with_unfolding_all rfl
  exact ⟨reachable, live, known, ((snapshot_eq_last_value reachable live).1 1 progress known).2⟩

end RpcSession.Session
