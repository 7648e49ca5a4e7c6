import Mathlib.Data.List.Forall2
import RpcSession.Proofs.Handles.Answers

/-!
# The course of a handle

What calls on one handle come to, one after the other, is a course that depends on nothing else but
the token under which the handle begins, and on that only in so far as it is named.
-/

namespace RpcSession

/-! ## One call after the other

A call that does not begin a progress knows of no token but that of the progress, and as long as a
handle has none, its calls know of no token at all. -/

def HandleCall.course (strict : Bool) (handle : String) (token : Int) :
    Option Progress → List HandleCall → List (Outcome Reply × Option Progress)
  | _, [] => []
  | held, call :: calls =>
      let answer := call.answer strict handle token held
      answer :: course strict handle token (answer.2.or held) calls

private theorem HandleCall.token_of_answer {strict : Bool} {handle : String} {token : Int}
    {held : Option Progress} (own : ∀ progress, held = some progress → progress.token = token)
    {call : HandleCall} {changed : Progress}
    (told : (call.answer strict handle token held).2 = some changed) : changed.token = token := by
  cases call with
  | begin title message percentage =>
      unfold answer at told
      dsimp only at told
      cases valid : Percentage.ofValue? percentage with
      | ok given =>
          rw [valid] at told
          cases told
          rfl
      | error failure =>
          rw [valid] at told
          cases told
  | mutate mutation =>
      cases held with
      | some progress => rw [Progress.token_of_answer told, own progress rfl]
      | none => cases told

theorem HandleCall.answer_of_mutates {call : HandleCall} (mutates : call.isBegin = false)
    {strict : Bool} {handle : String} {held : Option Progress} (token other : Int) :
    call.answer strict handle other held = call.answer strict handle token held := by
  cases call with
  | begin title message percentage => cases mutates
  | mutate mutation => rfl

theorem HandleCall.answer_of_untold {strict : Bool} {handle : String} {token : Int}
    {call : HandleCall} (untold : (call.answer strict handle token none).2 = none) (other : Int) :
    call.answer strict handle other none = call.answer strict handle token none := by
  cases call with
  | begin title message percentage =>
      unfold answer at untold ⊢
      dsimp only at untold ⊢
      cases valid : Percentage.ofValue? percentage with
      | ok given =>
          rw [valid] at untold
          cases untold
      | error failure => rfl
  | mutate mutation => rfl

/-! ## Other tokens -/

def Progress.under (progress : Progress) (token : Int) : Progress :=
  { progress with token }

/-- Whether two replies are the same but for the tokens in them. -/
inductive SameReply (token other : Int) : Outcome Reply → Outcome Reply → Prop
  | begun : SameReply token other (.value (.number token)) (.value (.number other))
  | done : SameReply token other (.value .done) (.value .done)
  | rejected (operation : String) :
      SameReply token other (.failed (.peer (.invalidMutation (.int token) operation)))
        (.failed (.peer (.invalidMutation (.int other) operation)))
  | failed (failure : Failure) (plain : ∀ error, failure ≠ .peer error) :
      SameReply token other (.failed failure) (.failed failure)

theorem Percentage.plain_of_error {given : Value} {failure : Failure}
    (invalid : Percentage.ofValue? given = .error failure) (error : PeerError) :
    failure ≠ .peer error := by
  unfold ofValue? at invalid
  split at invalid
  · cases invalid
  · split at invalid <;> cases invalid
    exact nofun
  · cases invalid
    exact nofun

namespace Progress

private theorem update_under (progress : Progress) (other : Int) (fields : List (String × Value)) :
    (progress.under other).update fields = (progress.update fields).map (·.under other) := by
  unfold update
  cases fields.lookup "percentage" with
  | none => rfl
  | some given =>
      dsimp only
      cases Percentage.ofValue? given <;> rfl

private theorem plain_of_update {progress : Progress} {fields : List (String × Value)}
    {failure : Failure} (invalid : progress.update fields = .error failure) (error : PeerError) :
    failure ≠ .peer error := by
  unfold update at invalid
  cases given : fields.lookup "percentage" with
  | none =>
      rw [given] at invalid
      cases invalid
  | some value =>
      rw [given] at invalid
      dsimp only at invalid
      cases result : Percentage.ofValue? value with
      | ok percentage =>
          rw [result] at invalid
          cases invalid
      | error cause =>
          rw [result] at invalid
          cases invalid
          exact Percentage.plain_of_error result error

private theorem rejection_under (progress : Progress) (other : Int) (strict : Bool)
    (operation : String) :
    SameReply progress.token other (progress.rejection strict operation)
      ((progress.under other).rejection strict operation) := by
  cases strict with
  | true => exact .rejected operation
  | false => exact .done

end Progress

structure SameAnswer (token other : Int) (first second : Outcome Reply × Option Progress) :
    Prop where
  reply : SameReply token other first.1 second.1
  told : first.2.map (·.under other) = second.2

private theorem Progress.answer_under (progress : Progress) (other : Int) (strict : Bool)
    (mutation : Mutation) :
    SameAnswer progress.token other (progress.answer strict mutation)
      ((progress.under other).answer strict mutation) := by
  have rejected (operation : String) : SameAnswer progress.token other
      (progress.rejection strict operation, none)
      ((progress.under other).rejection strict operation, none) :=
    ⟨progress.rejection_under other strict operation, rfl⟩
  have stage : (progress.under other).isEnded = progress.isEnded := rfl
  cases mutation with
  | update fields =>
      unfold answer
      dsimp only
      rw [stage]
      split
      · exact ⟨.failed _ nofun, rfl⟩
      · split
        · exact rejected "update"
        · split
          · rw [update_under]
            cases result : progress.update fields with
            | ok updated => exact ⟨.done, rfl⟩
            | error failure => exact ⟨.failed failure (plain_of_update result), rfl⟩
          · exact ⟨.done, rfl⟩
  | finish message =>
      unfold answer
      dsimp only
      rw [stage]
      split
      · exact rejected "finish"
      · exact ⟨.done, rfl⟩

private theorem HandleCall.answer_under (strict : Bool) (handle : String) (token other : Int)
    {held : Option Progress} (own : ∀ progress, held = some progress → progress.token = token)
    (call : HandleCall) :
    SameAnswer token other (call.answer strict handle token held)
      (call.answer strict handle other (held.map (·.under other))) := by
  cases call with
  | begin title message percentage =>
      unfold answer
      dsimp only
      cases valid : Percentage.ofValue? percentage with
      | ok given => exact ⟨.begun, rfl⟩
      | error failure => exact ⟨.failed failure (Percentage.plain_of_error valid), rfl⟩
  | mutate mutation =>
      cases held with
      | none => exact ⟨.failed _ nofun, rfl⟩
      | some progress =>
          cases own progress rfl
          exact progress.answer_under other strict mutation

/-- The token of a handle has no influence on its course. -/
theorem HandleCall.course_under (strict : Bool) (handle : String) (token other : Int)
    {held : Option Progress} (own : ∀ progress, held = some progress → progress.token = token)
    (calls : List HandleCall) :
    List.Forall₂ (SameAnswer token other) (course strict handle token held calls)
      (course strict handle other (held.map (·.under other)) calls) := by
  induction calls generalizing held with
  | nil => exact .nil
  | cons call calls rest =>
      have same := answer_under strict handle token other own call
      have later : ((call.answer strict handle token held).2.or held).map (·.under other) =
          (call.answer strict handle other (held.map (·.under other))).2.or
            (held.map (·.under other)) := by
        rw [Option.map_or, same.told]
      refine .cons same ?_
      rw [← later]
      apply rest
      intro progress latest
      rcases Option.or_eq_some_iff.mp latest with told | ⟨_, kept⟩
      · exact token_of_answer own told
      · exact own progress kept

theorem told_under {token other : Int} {first second : List (Outcome Reply × Option Progress)}
    (same : List.Forall₂ (SameAnswer token other) first second) :
    (first.filterMap (·.2)).map (·.under other) = second.filterMap (·.2) := by
  induction same with
  | nil => rfl
  | @cons answer answerToo _ _ answers _ rest =>
      rw [List.filterMap_cons, List.filterMap_cons, ← answers.told]
      cases answer.2 with
      | none => exact rest
      | some progress => exact congrArg (progress.under other :: ·) rest

end RpcSession
