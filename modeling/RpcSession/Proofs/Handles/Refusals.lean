import RpcSession.Proofs.Handles.Answers

/-!
# Calls on handles that are refused

A call on a handle that fails before its peer is called is one of four that are refused for what
they ask, and it leaves the session as it was. A call that fails in any other way failed after its
peer had been told.
-/

namespace RpcSession

/-! ## Percentages -/

inductive Value.IsPercentage : Value → Prop
  | null : IsPercentage .null
  | int (number : Int) (atLeast : 0 ≤ number) (atMost : number ≤ 100) : IsPercentage (.int number)

theorem Percentage.ofValue?_cases (value : Value) :
    (value.IsPercentage ∧ ∃ given, ofValue? value = .ok given) ∨
      (¬value.IsPercentage ∧ ofValue? value = .error (.invalidPercentage value)) := by
  cases value with
  | null => exact .inl ⟨.null, none, rfl⟩
  | int number =>
      by_cases inRange : 0 ≤ number ∧ number ≤ 100
      · exact .inl ⟨.int number inRange.1 inRange.2, _, by rw [ofValue?, dif_pos inRange]⟩
      · refine .inr ⟨?_, by rw [ofValue?, dif_neg inRange]⟩
        rintro ⟨⟩
        exact inRange ⟨‹_›, ‹_›⟩
  | _ => exact .inr ⟨nofun, rfl⟩

namespace Progress

variable {progress : Progress} {fields : List (String × Value)}

private theorem update_of_unfit {given : Value} (asked : fields.lookup "percentage" = some given)
    (unfit : ¬given.IsPercentage) : progress.update fields = .error (.invalidPercentage given) := by
  rcases Percentage.ofValue?_cases given with ⟨fit, _⟩ | ⟨_, invalid⟩
  · exact absurd fit unfit
  · rw [update, asked]
    dsimp only
    rw [invalid]
    rfl

private theorem update_failed {failure : Failure}
    (failed : progress.update fields = .error failure) :
    ∃ given, fields.lookup "percentage" = some given ∧ ¬given.IsPercentage ∧
      failure = .invalidPercentage given := by
  rw [update] at failed
  cases asked : fields.lookup "percentage" with
  | none =>
      rw [asked] at failed
      cases failed
  | some given =>
      rw [asked] at failed
      dsimp only at failed
      rcases Percentage.ofValue?_cases given with ⟨_, percentage, valid⟩ | ⟨unfit, invalid⟩
      · rw [valid] at failed
        cases failed
      · rw [invalid] at failed
        cases failed
        exact ⟨given, rfl, unfit, rfl⟩

private theorem isMutable_of_percentage {given : Value}
    (asked : fields.lookup "percentage" = some given) :
    fields.any (isMutable ·.1) = true := by
  rcases List.lookup_eq_some_iff.mp asked with ⟨before, after, rfl, _⟩
  simp [isMutable, mutableFields]

end Progress

def Mutation.name : Mutation → String
  | .update _ => "update"
  | .finish _ => "finish"

/-- Whether no field of a call has the name under which the handle itself is passed. -/
def HandleCall.isPlain : HandleCall → Bool
  | .mutate (.update fields) => !fields.any (·.1 == "self")
  | _ => true

namespace Session

variable {session middle after : Session} {handle : String} {fuel : Nat} {failure : Failure}
  {progress : Progress}

/-! ## Refusals -/

/-- The calls on a handle that are refused, and how each of them fails. -/
inductive Refused (session : Session) (handle : String) : HandleCall → Failure → Prop
  | unfitBegin (title message percentage : Value) (unfit : ¬percentage.IsPercentage) :
      Refused session handle (.begin title message percentage) (.invalidPercentage percentage)
  | lateBegin (title message percentage : Value) (fit : percentage.IsPercentage)
      (stopped : session.lifecycle.stage = .terminated) :
      Refused session handle (.begin title message percentage)
        (.peer (.sessionTerminated
          (.string ("Session terminated; progress " ++ title.literal ++ " rejected"))))
  | unfitUpdate (progress : Progress) (fields : List (String × Value)) (given : Value)
      (held : session.progressUnder handle = some progress) (going : progress.isEnded = false)
      (asked : fields.lookup "percentage" = some given) (unfit : ¬given.IsPercentage) :
      Refused session handle (.mutate (.update fields)) (.invalidPercentage given)
  | lateMutation (progress : Progress) (mutation : Mutation)
      (held : session.progressUnder handle = some progress) (ended : progress.isEnded = true)
      (strict : session.configuration.strictProgress = true) :
      Refused session handle (.mutate mutation)
        (.peer (.invalidMutation (.int progress.token) mutation.name))

private theorem Unaltered.progressUnder (unaltered : Unaltered session after) (handle : String) :
    after.progressUnder handle = session.progressUnder handle := by
  rw [unaltered.same]
  rfl

/-! ## Telling the peer -/

def HasTold (session after : Session) : Prop :=
  ∃ told, session.sentProgress ++ [told] <+: after.sentProgress

private theorem HasTold.sent_ne (told : HasTold session after) :
    after.sentProgress ≠ session.sentProgress := by
  intro same
  rcases told with ⟨progress, within⟩
  have longer := within.length_le
  rw [same, List.length_append, List.length_singleton] at longer
  omega

theorem HasTold.of_sent (same : middle.sentProgress = session.sentProgress)
    (told : HasTold middle after) : HasTold session after := by
  rw [HasTold, ← same]
  exact told

theorem HasTold.announcing (entry : LogEntry) (progress : Progress)
    (same : middle.sentProgress = session.sentProgress) :
    HasTold session (middle.announcing entry progress) := by
  refine ⟨progress, ?_⟩
  simp [Session.announcing, sentProgress_noting, same]

theorem HasTold.call_failed {α : Type} {program : Program} {given : α}
    (told : HasTold session middle)
    (failed : (do let _ ← run fuel program; return given : Action Session α) middle =
      (.failed failure, after)) : HasTold session after := by
  rcases told with ⟨progress, within⟩
  rcases Action.failed_of_bind failed with failed | ⟨_, _, _, failed⟩
  · exact ⟨progress, within.trans (run_changes failed).prefix_sentProgress⟩
  · cases failed

private theorem emit_failed (failed : emit (run fuel) progress session = (.failed failure, after)) :
    HasTold session after := by
  cases stopped : session.lifecycle.stopped with
  | true =>
      rw [emit_of_stopped session (run fuel) progress stopped] at failed
      cases failed
  | false =>
      rw [emit_of_live session (run fuel) progress stopped] at failed
      exact (HasTold.announcing _ progress rfl).call_failed failed

theorem setProgress_emit_failed
    (failed : (do setProgress progress; emit (run fuel) progress : Action Session Unit) session =
      (.failed failure, after)) : HasTold session after := by
  have told : HasTold (session.updating progress) after := emit_failed failed
  exact told.of_sent rfl

/-! ## Beginnings -/

theorem begin_refused (fuel : Nat) {title message percentage : Value}
    (refused : Refused session handle (.begin title message percentage) failure) :
    begin (run fuel) title message percentage session =
      (.failed failure,
        session.noting (.progressAsked percentage (!session.lifecycle.stopped))) := by
  rw [begin, Action.get_bind_apply, Action.bind_of_value (record_apply _ _), isTerminated]
  rcases Percentage.ofValue?_cases percentage with ⟨fit, given, valid⟩ | ⟨unfit, invalid⟩
  · cases refused with
    | unfitBegin _ _ _ unfit => exact absurd fit unfit
    | lateBegin _ _ _ _ ended =>
        rw [valid, Action.ofExcept_ok_bind,
          (session.lifecycle.stage_eq_terminated).mp ended, if_pos rfl]
        rfl
  · cases refused with
    | unfitBegin =>
        rw [invalid]
        rfl
    | lateBegin _ _ _ fit => exact absurd fit unfit

private theorem begin_failed {title message percentage : Value}
    (failed : begin (run fuel) title message percentage session = (.failed failure, after)) :
    Refused session handle (.begin title message percentage) failure ∨ HasTold session after := by
  rcases Percentage.ofValue?_cases percentage with ⟨fit, given, valid⟩ | ⟨unfit, _⟩
  · cases stopped : session.lifecycle.stopped with
    | true =>
        have refused : Refused session handle (.begin title message percentage) _ :=
          .lateBegin title message percentage fit
            ((session.lifecycle.stage_eq_terminated).mpr stopped)
        rw [begin_refused fuel refused] at failed
        cases failed
        exact .inl refused
    | false =>
        rw [begin_of_fit (run fuel) title message percentage stopped valid] at failed
        refine .inr ((HasTold.announcing _ _ ?_).call_failed failed)
        simp [beginning, numbering, noting, sentProgress]
  · have refused : Refused session handle (.begin title message percentage) _ :=
      .unfitBegin title message percentage unfit
    rw [begin_refused fuel refused] at failed
    cases failed
    exact .inl refused

/-! ## Changes -/

theorem update_of_going_eq (invoke : Invoke) (session : Session) (going : progress.isEnded = false)
    (fields : List (String × Value)) :
    ∃ middle, Unaltered session middle ∧
      update invoke progress fields session = mergeFields invoke progress fields middle := by
  rcases update_going_cases invoke session going fields with same | ⟨entry, same⟩
  · exact ⟨session, .refl session, same⟩
  · exact ⟨session.noting (.logged entry), .noting session (by simp), same⟩

private theorem mergeFields_refused (invoke : Invoke) (session : Session)
    {fields : List (String × Value)}
    {given : Value} (asked : fields.lookup "percentage" = some given)
    (unfit : ¬given.IsPercentage) :
    mergeFields invoke progress fields session = (.failed (.invalidPercentage given), session) := by
  rw [mergeFields, if_pos (Progress.isMutable_of_percentage asked),
    Progress.update_of_unfit asked unfit]
  rfl

private theorem mergeFields_failed {fields : List (String × Value)}
    (failed : mergeFields (run fuel) progress fields session = (.failed failure, after)) :
    (∃ given, fields.lookup "percentage" = some given ∧ ¬given.IsPercentage ∧
      failure = .invalidPercentage given) ∨ HasTold session after := by
  rcases mergeFields_cases (run fuel) progress fields with
    ⟨_, same⟩ | ⟨_, ⟨reason, result, same⟩ | ⟨updated, _, same⟩⟩ <;> rw [same] at failed
  · cases failed
  · cases failed
    exact .inl (Progress.update_failed result)
  · exact .inr (setProgress_emit_failed failed)

theorem reject_cases (session : Session) (progress : Progress) (operation : String) :
    session.configuration.strictProgress = true ∧ reject progress operation session =
        (.failed (.peer (.invalidMutation (.int progress.token) operation)), session) ∨
      session.configuration.strictProgress = false ∧
        ∃ after, reject progress operation session = (.value (), after) := by
  rw [reject, Action.get_bind_apply]
  cases session.configuration.strictProgress with
  | true => exact .inl ⟨rfl, rfl⟩
  | false => exact .inr ⟨rfl, _, rfl⟩

def mutate (invoke : Invoke) (progress : Progress) : Mutation → Action Session Unit
  | .update fields => update invoke progress fields
  | .finish message => finish invoke progress message

theorem mutate_of_ended (invoke : Invoke) (ended : progress.isEnded = true) (mutation : Mutation) :
    mutate invoke progress mutation = reject progress mutation.name := by
  cases mutation with
  | update fields => exact update_of_ended invoke ended fields
  | finish message =>
      rw [mutate, finish, ended, if_pos rfl]
      rfl

private theorem mutate_refused (fuel : Nat) {mutation : Mutation}
    (held : session.progressUnder handle = some progress)
    (refused : Refused session handle (.mutate mutation) failure) :
    ∃ after, Unaltered session after ∧
      mutate (run fuel) progress mutation session = (.failed failure, after) := by
  cases refused with
  | unfitUpdate known fields given heldToo going asked unfit =>
      cases held.symm.trans heldToo
      rcases update_of_going_eq (run fuel) session going fields with ⟨middle, unaltered, same⟩
      exact ⟨middle, unaltered, same.trans (mergeFields_refused _ middle asked unfit)⟩
  | lateMutation known _ heldToo ended strict =>
      cases held.symm.trans heldToo
      rw [mutate_of_ended _ ended]
      rcases reject_cases session progress mutation.name with ⟨_, rejected⟩ | ⟨lenient, _⟩
      · exact ⟨session, .refl session, rejected⟩
      · rw [strict] at lenient
        cases lenient

private theorem mutate_failed {mutation : Mutation}
    (held : session.progressUnder handle = some progress)
    (failed : mutate (run fuel) progress mutation session = (.failed failure, after)) :
    Refused session handle (.mutate mutation) failure ∨ HasTold session after := by
  cases ended : progress.isEnded with
  | true =>
      rw [mutate_of_ended _ ended] at failed
      rcases reject_cases session progress mutation.name with
        ⟨strict, rejected⟩ | ⟨_, ignored, accepted⟩
      · rw [rejected] at failed
        cases failed
        exact .inl (.lateMutation progress mutation held ended strict)
      · rw [accepted] at failed
        cases failed
  | false =>
      cases mutation with
      | update fields =>
          rcases update_of_going_eq (run fuel) session ended fields with ⟨middle, unaltered, same⟩
          rw [mutate, same] at failed
          rcases mergeFields_failed failed with ⟨given, asked, unfit, rfl⟩ | told
          · exact .inl (.unfitUpdate progress fields given held ended asked unfit)
          · exact .inr (.of_sent unaltered.sent told)
      | finish message =>
          rw [mutate, finish, ended, if_neg (by simp)] at failed
          exact .inr (setProgress_emit_failed failed)

/-! ## Calls -/

theorem perform_mutate (fuel : Nat) {mutation : Mutation}
    (held : session.progressUnder handle = some progress)
    (plain : (HandleCall.mutate mutation).isPlain = true) :
    perform fuel ((HandleCall.mutate mutation).operation handle) session =
      (do mutate (run fuel) progress mutation; return Reply.done : Action Session Reply)
        session := by
  have found : findProgress handle session = (.value progress, session) := by
    rw [findProgress_apply, held]
  cases mutation with
  | update fields =>
      change (findProgress handle >>= _) session = _
      have unambiguous : fields.any (·.1 == "self") = false := by
        rwa [HandleCall.isPlain, Bool.not_eq_eq_eq_not] at plain
      rw [Action.bind_of_value found, unambiguous]
      rfl
  | finish message =>
      change (findProgress handle >>= _) session = _
      rw [Action.bind_of_value found]
      rfl

private theorem call_refused (fuel : Nat) {call : HandleCall} (plain : call.isPlain = true)
    (refused : Refused session handle call failure) :
    ∃ after, Unaltered session after ∧
      perform fuel (call.operation handle) session = (.failed failure, after) := by
  cases call with
  | begin title message percentage =>
      refine ⟨session.noting (.progressAsked percentage (!session.lifecycle.stopped)),
        .noting session (by simp), ?_⟩
      change (begin (run fuel) title message percentage >>= _) session = _
      rw [Action.bind_apply, begin_refused fuel refused]
  | mutate mutation =>
      have held : ∃ progress, session.progressUnder handle = some progress := by
        cases refused with
        | unfitUpdate progress _ _ held | lateMutation progress _ held => exact ⟨progress, held⟩
      rcases held with ⟨progress, held⟩
      rcases mutate_refused fuel held refused with ⟨after, unaltered, failed⟩
      refine ⟨after, unaltered, ?_⟩
      rw [perform_mutate fuel held plain, Action.bind_apply, failed]

private theorem call_failed {call : HandleCall} (plain : call.isPlain = true)
    (known : ∀ mutation, call = .mutate mutation → ∃ progress,
      session.progressUnder handle = some progress)
    (failed : perform fuel (call.operation handle) session = (.failed failure, after)) :
    Refused session handle call failure ∨ HasTold session after := by
  cases call with
  | begin title message percentage =>
      rcases Action.failed_of_bind failed with failed | ⟨_, _, _, named⟩
      · exact begin_failed failed
      · cases named
  | mutate mutation =>
      rcases known mutation rfl with ⟨progress, held⟩
      rw [perform_mutate fuel held plain] at failed
      rcases Action.failed_of_bind failed with failed | ⟨_, _, _, replied⟩
      · exact mutate_failed held failed
      · cases replied

/-- Calls that begin, update or finish a progress fail before their peer is called exactly if they
are refused for what they ask, and then the counter, every progress and what every handle has are
as before. -/
theorem progress_refusals_atomic (fuel : Nat) {call : HandleCall} (plain : call.isPlain = true)
    (known : ∀ mutation, call = .mutate mutation → ∃ progress,
      session.progressUnder handle = some progress) :
    (∀ failure, (∃ after,
        perform fuel (call.operation handle) session = (.failed failure, after) ∧
          after.sentProgress = session.sentProgress) ↔
      Refused session handle call failure) ∧
    (∀ failure after, perform fuel (call.operation handle) session = (.failed failure, after) →
      after.sentProgress = session.sentProgress →
        after.identifiers = session.identifiers ∧ after.progresses = session.progresses ∧
          (∀ other, after.progressUnder other = session.progressUnder other) ∧
          after = { session with history := after.history }) := by
  have refused_of_untold {failure : Failure} {after : Session}
      (failed : perform fuel (call.operation handle) session = (.failed failure, after))
      (untold : after.sentProgress = session.sentProgress) :
      Refused session handle call failure :=
    (call_failed plain known failed).resolve_right fun told => told.sent_ne untold
  refine ⟨fun failure => ⟨?_, fun refused => ?_⟩, fun failure after failed untold => ?_⟩
  · rintro ⟨after, failed, untold⟩
    exact refused_of_untold failed untold
  · rcases call_refused fuel plain refused with ⟨after, unaltered, failed⟩
    exact ⟨after, failed, unaltered.sent⟩
  · rcases call_refused fuel plain (refused_of_untold failed untold) with
      ⟨same, unaltered, failedSo⟩
    cases failed.symm.trans failedSo
    exact ⟨by rw [unaltered.same], by rw [unaltered.same], unaltered.progressUnder,
      unaltered.same⟩

/-- An update that asks for too much of a percentage, beside a message that would be fine. -/
theorem progress_refusals_atomic_of_unfit_update :
    let session := ({} : Session).after [(2, .begin "work" (.string "Work") .null (.int 5))]
    let progress : Progress := ⟨1, .opened, .string "Work", .null, some 5⟩
    let call := HandleCall.mutate
      (.update [("message", .string "more"), ("percentage", .int 101), ("title", .null)])
    let failure := Failure.invalidPercentage (.int 101)
    let after := (perform 2 (call.operation "work") session).2
    call.isPlain = true ∧ session.progressUnder "work" = some progress ∧
      perform 2 (call.operation "work") session = (.failed failure, after) ∧
      after.sentProgress = session.sentProgress ∧
      Refused session "work" call failure ∧ after.progresses = session.progresses := by
  intro session progress call failure after
  have plain : call.isPlain = true := by decide
  have held : session.progressUnder "work" = some progress := by with_unfolding_all rfl
  have failed : perform 2 (call.operation "work") session = (.failed failure, after) := by
    with_unfolding_all rfl
  have untold : after.sentProgress = session.sentProgress := by with_unfolding_all rfl
  have atomic := progress_refusals_atomic 2 plain fun _ _ => ⟨progress, held⟩
  exact ⟨plain, held, failed, untold, (atomic.1 failure).mp ⟨after, failed, untold⟩,
    (atomic.2 failure after failed untold).2.1⟩

end Session

end RpcSession
