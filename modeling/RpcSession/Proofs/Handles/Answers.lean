import RpcSession.Proofs.QuietPeer

/-!
# Calls on handles

Host code keeps a progress under the name of a handle. What a call on a handle replies and what its
peer is told of it depend on nothing but the progress of that handle and on whether the session is
strict.
-/

namespace RpcSession

inductive Mutation where
  | update (fields : List (String × Value))
  | finish (message : Value)

inductive HandleCall where
  | begin (title message percentage : Value)
  | mutate (mutation : Mutation)

namespace HandleCall

def operation (handle : String) : HandleCall → Operation Program
  | .begin title message percentage => .begin handle title message percentage
  | .mutate (.update fields) => .update handle fields
  | .mutate (.finish message) => .finish handle message

def isBegin : HandleCall → Bool
  | .begin _ _ _ => true
  | .mutate _ => false

end HandleCall

namespace Progress

def rejection (progress : Progress) (strict : Bool) (operation : String) : Outcome Reply :=
  if strict then .failed (.peer (.invalidMutation (.int progress.token) operation))
  else .value .done

def answer (progress : Progress) (strict : Bool) : Mutation → Outcome Reply × Option Progress
  | .update fields =>
      if fields.any (·.1 == "self") then (.failed .ambiguousProgress, none)
      else if progress.isEnded then (progress.rejection strict "update", none)
      else if fields.any (isMutable ·.1) then
        match progress.update fields with
        | .ok updated => (.value .done, some updated)
        | .error failure => (.failed failure, none)
      else (.value .done, none)
  | .finish message =>
      if progress.isEnded then (progress.rejection strict "finish", none)
      else (.value .done, some (progress.finish message))

theorem token_of_answer {progress changed : Progress} {strict : Bool} {mutation : Mutation}
    (told : (progress.answer strict mutation).2 = some changed) :
    changed.token = progress.token := by
  cases mutation with
  | update fields =>
      unfold answer at told
      dsimp only at told
      split at told
      · cases told
      · split at told
        · cases told
        · rename_i going
          split at told
          · cases result : progress.update fields with
            | ok updated =>
                rw [result] at told
                cases told
                exact (follows_update (by simpa using going) result).token
            | error failure =>
                rw [result] at told
                cases told
          · cases told
  | finish message =>
      unfold answer at told
      dsimp only at told
      split at told
      · cases told
      · cases told
        rfl

end Progress

/-- The reply to a call on a handle, and what its peer is told, if the handle has the progress that
is held. One that begins has the token. -/
def HandleCall.answer (strict : Bool) (handle : String) (token : Int) (held : Option Progress) :
    HandleCall → Outcome Reply × Option Progress
  | .begin title message percentage =>
      match Percentage.ofValue? percentage with
      | .ok given => (.value (.number token), some ⟨token, .opened, title, message, given⟩)
      | .error failure => (.failed failure, none)
  | .mutate mutation =>
      match held with
      | some progress => progress.answer strict mutation
      | none => (.failed (.unknownName handle), none)

namespace Session

variable {session after : Session} {handle : String} {fuel : Nat}

def Reference.progress? : Reference → Option Int
  | .progress token => some token
  | _ => none

def tokenUnder (session : Session) (handle : String) : Option Int :=
  session.reference? handle Reference.progress?

def progressUnder (session : Session) (handle : String) : Option Progress :=
  (session.tokenUnder handle).bind session.progress?

def answer (session : Session) (handle : String) (call : HandleCall) :
    Outcome Reply × Option Progress :=
  call.answer session.configuration.strictProgress handle session.identifiers.next
    (session.progressUnder handle)

/-- What telling the peer of a progress changes, if it is told of one. -/
structure TellsPeer (told : Option Progress) (session after : Session) : Prop where
  configuration : after.configuration = session.configuration
  outbound : after.outbound = session.outbound
  lifecycle : after.lifecycle = session.lifecycle
  held : ∀ token, after.progress? token =
    if told.any (·.token == token) then told else session.progress? token
  sent : after.sentProgress = session.sentProgress ++ told.toList

namespace TellsPeer

theorem undisturbed {middle : Session} {told : Option Progress}
    (tells : TellsPeer told session middle)
    (undisturbed : Undisturbed middle after) : TellsPeer told session after := by
  have sent := undisturbed.sentProgress.trans tells.sent
  rcases undisturbed with ⟨cells, queues, recent, rfl, remarks⟩
  exact ⟨tells.configuration, tells.outbound, tells.lifecycle, tells.held, sent⟩

private theorem telling {progress former : Progress}
    (held : session.progress? progress.token = some former) :
    TellsPeer (some progress) session (session.telling progress) where
  configuration := rfl
  outbound := rfl
  lifecycle := rfl
  held token := by
    rw [progress?_telling]
    by_cases own : token = progress.token
    · subst own
      rw [held]
      simp
    · have other : ¬progress.token = token := Ne.symm own
      simp [own, other]
  sent := by
    simp [Session.telling, announcing, noting, sentProgress, updating]

private theorem beginning (session : Session) (percentage : Value) (entry : LogEntry)
    (progress : Progress) :
    TellsPeer (some progress) session ((session.beginning percentage progress).announcing entry
      progress) where
  configuration := rfl
  outbound := rfl
  lifecycle := rfl
  held token := by
    have begun : ((session.beginning percentage progress).announcing entry progress).progresses =
        progress :: session.progresses := rfl
    rw [progress?_of_begun begun]
    simp
  sent := by
    simp [announcing, Session.beginning, numbering, noting, sentProgress]

end TellsPeer

/-! ## Single calls

In a live session, a call begins a progress under the name of its handle, or at most changes the
one that is there. -/

structure Replies (told : Option Progress) (session after : Session) : Prop
    extends TellsPeer told session after where
  names : after.names = session.names
  identifiers : after.identifiers = session.identifiers

theorem findProgress_apply (session : Session) (handle : String) :
    findProgress handle session =
      (match session.progressUnder handle with
        | some progress => .value progress
        | none => .failed (.unknownName handle), session) := by
  change (find handle Reference.progress? >>= _) session = _
  rw [Action.bind_apply, find, Action.get_bind_apply, progressUnder, tokenUnder]
  cases session.reference? handle Reference.progress? with
  | none => rfl
  | some token =>
      dsimp only [Option.bind_some]
      change (Action.get >>= _) session = _
      rw [Action.get_bind_apply]
      cases session.progress? token <;> rfl

namespace Replies

theorem refl (session : Session) : Replies none session session :=
  ⟨⟨rfl, rfl, rfl, fun _ => rfl, (List.append_nil _).symm⟩, rfl, rfl⟩

theorem noting (session : Session) {event : Event} (silent : ∀ progress, event ≠ .sent progress) :
    Replies none session (session.noting event) := by
  refine ⟨⟨rfl, rfl, rfl, fun _ => rfl, ?_⟩, rfl, rfl⟩
  rw [sentProgress_noting]
  cases event with
  | sent progress => exact absurd rfl (silent progress)
  | _ => rfl

private theorem undisturbed {middle : Session} {told : Option Progress}
    (replies : Replies told session middle) (undisturbed : Undisturbed middle after) :
    Replies told session after := by
  refine ⟨replies.toTellsPeer.undisturbed undisturbed, ?_, ?_⟩
  · rcases undisturbed with ⟨_, _, _, rfl, _⟩
    exact replies.names
  · rcases undisturbed with ⟨_, _, _, rfl, _⟩
    exact replies.identifiers

theorem trans {middle : Session} {told : Option Progress} (first : Replies none session middle)
    (second : Replies told middle after) : Replies told session after where
  configuration := second.configuration.trans first.configuration
  outbound := second.outbound.trans first.outbound
  lifecycle := second.lifecycle.trans first.lifecycle
  held token := by
    rw [second.held, first.held]
    rfl
  sent := by
    rw [second.sent, first.sent, Option.toList_none, List.append_nil]
  names := second.names.trans first.names
  identifiers := second.identifiers.trans first.identifiers

end Replies

theorem reject_replies (session : Session) (progress : Progress) (operation : String) :
    ∃ after, Replies none session after ∧
      (do reject progress operation; return Reply.done : Action Session Reply) session =
        (progress.rejection session.configuration.strictProgress operation, after) := by
  rw [Action.bind_apply, reject, Action.get_bind_apply, Progress.rejection]
  cases session.configuration.strictProgress with
  | true => exact ⟨session, .refl session, rfl⟩
  | false =>
      refine ⟨_, .noting session ?_, rfl⟩
      exact nofun

theorem setProgress_emit_replies (records : session.RecordsMessages fuel)
    (live : session.lifecycle.stopped = false) {progress former : Progress}
    (held : session.progress? progress.token = some former) :
    ∃ after, Replies (some progress) session after ∧
      (do setProgress progress; emit (run fuel) progress : Action Session Unit) session =
        (.value (), after) := by
  rcases setProgress_emit_of_records records live progress with ⟨told, undisturbed, same⟩
  exact ⟨told, .undisturbed ⟨.telling held, rfl, rfl⟩ undisturbed, same⟩

private theorem mergeFields_replies (records : session.RecordsMessages fuel)
    (live : session.lifecycle.stopped = false) {progress : Progress}
    (held : session.progress? progress.token = some progress) (going : progress.isEnded = false)
    {fields : List (String × Value)} (plain : fields.any (·.1 == "self") = false) (strict : Bool) :
    let answer := progress.answer strict (.update fields)
    ∃ after, Replies answer.2 session after ∧
      (do mergeFields (run fuel) progress fields; return Reply.done : Action Session Reply)
        session = (answer.1, after) := by
  intro answer
  rcases mergeFields_cases (run fuel) progress fields with
    ⟨any, same⟩ | ⟨any, ⟨failure, result, same⟩ | ⟨updated, result, same⟩⟩ <;> rw [same]
  · have nothing : answer = (.value .done, none) := by
      simp only [answer, Progress.answer, plain, going, any, Bool.false_eq_true, if_false]
    rw [nothing]
    exact ⟨session, .refl session, rfl⟩
  · have failed : answer = (.failed failure, none) := by
      simp only [answer, Progress.answer, plain, going, any, result, Bool.false_eq_true,
        if_false, if_true]
    rw [failed]
    exact ⟨session, .refl session, rfl⟩
  · have told : answer = (.value .done, some updated) := by
      simp only [answer, Progress.answer, plain, going, any, result, Bool.false_eq_true,
        if_false, if_true]
    have heldToo : session.progress? updated.token = some progress := by
      rw [(Progress.follows_update going result).token]
      exact held
    rcases setProgress_emit_replies records live heldToo with ⟨after, telling, came⟩
    rw [told]
    exact ⟨after, telling, Action.bind_of_value came⟩

private theorem update_replies (records : session.RecordsMessages fuel)
    (live : session.lifecycle.stopped = false) {progress : Progress}
    (held : session.progress? progress.token = some progress) {fields : List (String × Value)}
    (plain : fields.any (·.1 == "self") = false) :
    let answer := progress.answer session.configuration.strictProgress (.update fields)
    ∃ after, Replies answer.2 session after ∧
      (do update (run fuel) progress fields; return Reply.done : Action Session Reply) session =
        (answer.1, after) := by
  intro answer
  cases ended : progress.isEnded with
  | true =>
      have rejected : answer = (progress.rejection session.configuration.strictProgress "update",
          none) := by
        simp only [answer, Progress.answer, plain, ended, if_true, Bool.false_eq_true, if_false]
      rw [rejected, update_of_ended _ ended]
      exact reject_replies session progress "update"
  | false =>
      rcases update_going_cases (run fuel) session ended fields with same | ⟨entry, same⟩ <;>
        rw [Action.bind_apply, same, ← Action.bind_apply]
      · exact mergeFields_replies records live held ended plain _
      · have noted : Replies none session (session.noting (.logged entry)) :=
          .noting session (by simp)
        rcases mergeFields_replies (records.congr noted.outbound) live held ended plain _ with
          ⟨after, replies, came⟩
        exact ⟨after, noted.trans replies, came⟩

private theorem finish_replies (records : session.RecordsMessages fuel)
    (live : session.lifecycle.stopped = false) {progress : Progress}
    (held : session.progress? progress.token = some progress) (message : Value) :
    let answer := progress.answer session.configuration.strictProgress (.finish message)
    ∃ after, Replies answer.2 session after ∧
      (do finish (run fuel) progress message; return Reply.done : Action Session Reply) session =
        (answer.1, after) := by
  intro answer
  cases ended : progress.isEnded with
  | true =>
      have rejected : answer = (progress.rejection session.configuration.strictProgress "finish",
          none) := by
        simp only [answer, Progress.answer, ended, if_true]
      rw [rejected, finish, ended, if_pos rfl]
      exact reject_replies session progress "finish"
  | false =>
      have told : answer = (.value .done, some (progress.finish message)) := by
        simp only [answer, Progress.answer, ended, Bool.false_eq_true, if_false]
      have heldToo : session.progress? (progress.finish message).token = some progress := held
      rcases setProgress_emit_replies records live heldToo with
        ⟨after, replies, same⟩
      rw [told, finish, ended, if_neg (by simp)]
      exact ⟨after, replies, Action.bind_of_value same⟩

/-- What a call on a handle does in a live session: it begins a progress under the name of the
handle, or at most changes the one that is there. -/
inductive ServedCall (session : Session) (handle : String) (call : HandleCall) (after : Session) :
    Prop
  | kept (replies : Replies (session.answer handle call).2 session after)
      (own : ∀ changed, (session.answer handle call).2 = some changed →
        session.tokenUnder handle = some changed.token)
  | begun (progress : Progress) (told : (session.answer handle call).2 = some progress)
      (token : progress.token = session.identifiers.next)
      (tells : TellsPeer (some progress) session after)
      (names : after.names = (handle, .progress session.identifiers.next) :: session.names)
      (next : after.identifiers.next = session.identifiers.next + 1)
      (begins : call.isBegin = true)

private theorem begin_served (records : session.RecordsMessages fuel)
    (live : session.lifecycle.stopped = false) (handle : String)
    (title message percentage : Value) :
    let call := HandleCall.begin title message percentage
    ∃ after, ServedCall session handle call after ∧
      perform fuel (call.operation handle) session = ((session.answer handle call).1, after) := by
  intro call
  change ∃ after, _ ∧ (do
    let token ← begin (run fuel) title message percentage
    bindName handle (.progress token)
    return Reply.number token : Action Session Reply) session = _
  cases valid : Percentage.ofValue? percentage with
  | error failure =>
      have refused : session.answer handle call = (.failed failure, none) := by
        simp only [answer, call, HandleCall.answer, valid]
      have asked : begin (run fuel) title message percentage session =
          (.failed failure, session.noting (.progressAsked percentage true)) := by
        rw [begin, Action.get_bind_apply, Action.bind_of_value (record_apply _ _), isTerminated,
          live, valid]
        rfl
      refine ⟨_, .kept ?_ ?_, by rw [Action.bind_apply, asked, refused]⟩
      · rw [refused]
        exact .noting session (by simp)
      · simp [refused]
  | ok given =>
      let progress : Progress := ⟨session.identifiers.next, .opened, title, message, given⟩
      have opened :
          session.answer handle call = (.value (.number progress.token), some progress) := by
        simp only [answer, call, HandleCall.answer, valid, progress]
      rcases begin_of_records records live valid with ⟨told, undisturbed, same⟩
      have tells := (TellsPeer.beginning session percentage _ progress).undisturbed undisturbed
      refine ⟨{ told with names := (handle, .progress progress.token) :: told.names }, ?_, ?_⟩
      · rcases undisturbed with ⟨cells, queues, recent, rfl, remarks⟩
        exact .begun progress (by rw [opened]) rfl
          ⟨tells.configuration, tells.outbound, tells.lifecycle, tells.held, tells.sent⟩ rfl rfl rfl
      · rw [Action.bind_of_value same, opened]
        rfl

private theorem mutate_served_unknown (under : session.progressUnder handle = none)
    (mutation : Mutation) :
    let call := HandleCall.mutate mutation
    ServedCall session handle call session ∧
      perform fuel (call.operation handle) session =
        ((session.answer handle call).1, session) := by
  intro call
  have unknown : session.answer handle call = (.failed (.unknownName handle), none) := by
    simp only [answer, call, HandleCall.answer, under]
  have lost : findProgress handle session = (.failed (.unknownName handle), session) := by
    rw [findProgress_apply, under]
  rw [unknown]
  refine ⟨.kept ?_ ?_, ?_⟩
  · rw [unknown]
    exact .refl session
  · rw [unknown]
    exact nofun
  · cases mutation with
    | update fields =>
        change (findProgress handle >>= _) session = _
        rw [Action.bind_apply, lost]
    | finish message =>
        change (findProgress handle >>= _) session = _
        rw [Action.bind_apply, lost]

private theorem mutate_replies (records : session.RecordsMessages fuel)
    (live : session.lifecycle.stopped = false) {progress : Progress}
    (under : session.progressUnder handle = some progress)
    (held : session.progress? progress.token = some progress) (mutation : Mutation) :
    let answer := progress.answer session.configuration.strictProgress mutation
    ∃ after, Replies answer.2 session after ∧
      perform fuel ((HandleCall.mutate mutation).operation handle) session =
        (answer.1, after) := by
  intro answer
  have found : findProgress handle session = (.value progress, session) := by
    rw [findProgress_apply, under]
  cases mutation with
  | update fields =>
      change ∃ after, _ ∧ (findProgress handle >>= _) session = _
      rw [Action.bind_of_value found]
      cases ambiguous : fields.any (·.1 == "self") with
      | true =>
          have refused : answer = (.failed .ambiguousProgress, none) := by
            simp only [answer, Progress.answer, ambiguous, if_true]
          rw [refused]
          exact ⟨session, .refl session, rfl⟩
      | false => exact update_replies records live held ambiguous
  | finish message =>
      change ∃ after, _ ∧ (findProgress handle >>= _) session = _
      rw [Action.bind_of_value found]
      exact finish_replies records live held message

private theorem mutate_served (records : session.RecordsMessages fuel)
    (live : session.lifecycle.stopped = false) (handle : String) (mutation : Mutation) :
    let call := HandleCall.mutate mutation
    ∃ after, ServedCall session handle call after ∧
      perform fuel (call.operation handle) session = ((session.answer handle call).1, after) := by
  intro call
  cases under : session.progressUnder handle with
  | none => exact ⟨session, mutate_served_unknown under mutation⟩
  | some progress =>
      have known : session.answer handle call =
          progress.answer session.configuration.strictProgress mutation := by
        simp only [answer, call, HandleCall.answer, under]
      rcases Option.bind_eq_some_iff.mp under with ⟨token, named, held⟩
      have same := progress?_token held
      subst same
      rcases mutate_replies records live under held mutation with ⟨after, replies, performed⟩
      rw [← known] at replies performed
      refine ⟨after, .kept replies fun changed told => ?_, performed⟩
      rw [known] at told
      rw [named, Progress.token_of_answer told]

theorem call_served (records : session.RecordsMessages fuel)
    (live : session.lifecycle.stopped = false) (handle : String) (call : HandleCall) :
    ∃ after, ServedCall session handle call after ∧
      perform fuel (call.operation handle) session = ((session.answer handle call).1, after) := by
  cases call with
  | begin title message percentage =>
      exact begin_served records live handle title message percentage
  | mutate mutation => exact mutate_served records live handle mutation

end Session

end RpcSession
