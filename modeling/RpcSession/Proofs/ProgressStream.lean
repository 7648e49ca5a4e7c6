import RpcSession.Proofs.Movement.Run

/-!
# The stream of a progress

What the peer is told of one progress is its begin, then reports, then its end, as far as the
stream has come. It is told so under the token and the title that the progress was begun with.
-/

namespace RpcSession

/-! ## Reading messages -/

namespace Message

def param? (message : Value) (name : String) : Option Value :=
  (message.member? "params").bind (·.member? name)

def token? (message : Value) : Option Int :=
  match param? message "token" with
  | some (.int token) => some token
  | _ => none

def fact? (message : Value) (name : String) : Option Value :=
  (param? message "value").bind (·.member? name)

end Message

namespace Progress

@[simp] theorem token?_notification (progress : Progress) :
    Message.token? progress.notification = some progress.token := rfl

@[simp] theorem fact?_kind (progress : Progress) :
    Message.fact? progress.notification "kind" = some (.string progress.stage.name) := by
  rcases progress with ⟨token, stage, title, message, percentage⟩
  cases percentage <;> rfl

@[simp] theorem fact?_id (progress : Progress) :
    Message.fact? progress.notification "id" = some (.int progress.token) := by
  rcases progress with ⟨token, stage, title, message, percentage⟩
  cases percentage <;> rfl

@[simp] theorem fact?_title (progress : Progress) :
    Message.fact? progress.notification "title" = some progress.title := by
  rcases progress with ⟨token, stage, title, message, percentage⟩
  cases percentage <;> rfl

@[simp] theorem fact?_percentage (progress : Progress) :
    Message.fact? progress.notification "percentage" =
      progress.percentage.map fun percentage => .int percentage.val := by
  rcases progress with ⟨token, stage, title, message, percentage⟩
  cases percentage <;> rfl

end Progress

namespace Session

variable {since : Int} {session after : Session}

def messages (session : Session) : List Value :=
  session.sentProgress.map (·.notification)

def begunTitles (session : Session) : List (Int × Value) :=
  session.history.filterMap fun
    | .begun token title => some (token, title)
    | _ => none

def stages (session : Session) (token : Int) : List Progress.Stage :=
  (session.sentProgress.filter (·.token == token)).map (·.stage)

/-! ## What a change does to progresses -/

/-- The three ways in which a change can touch the progresses of a session, and the fourth of not
touching them. -/
inductive ProgressChange (session after : Session) : Prop
  | aside (progresses : after.progresses = session.progresses)
      (sent : after.sentProgress = session.sentProgress)
      (begun : after.begunTitles = session.begunTitles)
      (next : session.identifiers.next ≤ after.identifiers.next)
  | begun (progress : Progress) (token : progress.token = session.identifiers.next)
      (stage : progress.stage = .opened)
      (progresses : after.progresses = progress :: session.progresses)
      (sent : after.sentProgress = session.sentProgress ++ [progress])
      (begun : after.begunTitles = (progress.token, progress.title) :: session.begunTitles)
      (next : after.identifiers.next = session.identifiers.next + 1)
  | changed (former latter : Progress) (held : session.progress? former.token = some former)
      (follows : former.Follows latter)
      (progresses : after.progresses = (session.updating latter).progresses)
      (sent : session.lifecycle.stopped = true ∧ after.sentProgress = session.sentProgress ∨
        after.sentProgress = session.sentProgress ++ [latter])
      (begun : after.begunTitles = session.begunTitles)
      (next : after.identifiers.next = session.identifiers.next)

theorem sentProgress_noting (session : Session) (event : Event) :
    (session.noting event).sentProgress = session.sentProgress ++ match event with
      | .sent progress => [progress]
      | _ => [] := by
  cases event <;> simp [sentProgress, noting]

theorem Changes.prefix_sentProgress (changes : Changes since session after) :
    session.sentProgress <+: after.sentProgress := by
  rcases changes.history_suffix with ⟨recent, history⟩
  have suffix : session.history <:+ after.history := ⟨recent, history.symm⟩
  exact (List.reverse_prefix.mpr suffix).filterMap _

theorem Change.progress (change : Change since session after) : ProgressChange session after := by
  have next : session.identifiers.next ≤ after.identifiers.next :=
    (Changes.single change).next_le
  cases change with
  | remarked event remark =>
      cases event <;> first
        | exact absurd remark Bool.false_ne_true
        | exact .aside rfl (by simp [sentProgress_noting]) rfl next
  | named | remembered | settled | timerCreated | tickScheduled | timePassed =>
      exact .aside rfl rfl rfl next
  | numbered | launched | unlaunched | initialized | terminated | started | refused | called |
    returned | concluded | registered | unregistered | declined | timerStopped | indexed |
    acknowledgementDue | acknowledged | opened =>
      exact .aside rfl (by simp [sentProgress, noting, numbering, initializing, opening, owing,
        subscribing, unsubscribing, stopping]) rfl next
  | tickReturned index timer outcome =>
      rcases session.returning_cases index timer outcome with same | same | ⟨entry, same⟩ <;>
        rw [same] at next ⊢ <;>
        exact .aside rfl (by simp [sentProgress, noting, scheduling, stopping]) rfl next
  | answered responder answer =>
      unfold answering
      split
      · exact .aside rfl (by simp [sentProgress, noting, settling]) rfl (Int.le_refl _)
      · exact .aside rfl (by simp [sentProgress, noting]) rfl (Int.le_refl _)
  | begun percentage entry progress live token stage =>
      exact .begun progress token stage rfl
        (by simp [sentProgress, announcing, beginning, noting, numbering]) rfl rfl
  | reported former latter entry live held follows =>
      exact .changed former latter held follows rfl
        (.inr (by simp [sentProgress, announcing, updating, noting])) rfl rfl
  | kept former latter stopped held follows =>
      exact .changed former latter held follows rfl (.inl ⟨stopped, rfl⟩) rfl rfl
  | fired tick =>
      unfold firing
      split
      · exact .aside rfl rfl rfl (Int.le_refl _)
      · exact .aside rfl (by simp [sentProgress, noting, clearing]) rfl (Int.le_refl _)

/-! ## The invariant of progresses

A progress that has not ended may be told of again, as long as that is not a begin. A new one stands
first, so it is found under its token, and under others what was found before. -/

/-- The stages of a progress that was told of, of which one may have ended. -/
inductive Stream : Bool → List Progress.Stage → Prop
  | going {isEnded : Bool} (reports : Nat) :
      Stream isEnded (.opened :: List.replicate reports .reported)
  | ended (reports : Nat) :
      Stream true (.opened :: List.replicate reports .reported ++ [.ended])

/-- What the session holds of its progresses goes with what the peer was told of them. -/
structure StreamsAgree (session : Session) : Prop where
  /-- A token that no progress has was not told. -/
  unknown : ∀ token, session.progress? token = none → session.stages token = []
  known : ∀ token progress, session.progress? token = some progress →
    Stream progress.isEnded (session.stages token)
  begun : ∀ token progress, session.progress? token = some progress →
    (token, progress.title) ∈ session.begunTitles
  told : ∀ progress ∈ session.sentProgress,
    (progress.token, progress.title) ∈ session.begunTitles
  taken : ∀ token ∈ session.begunTitles.map (·.1), token < session.identifiers.next
  once : (session.begunTitles.map (·.1)).Nodup

theorem stages_of_sent {told : Progress}
    (sent : after.sentProgress = session.sentProgress ++ [told]) (token : Int) :
    after.stages token =
      session.stages token ++ if told.token = token then [told.stage] else [] := by
  rw [stages, sent, List.filter_append, List.map_append, stages]
  by_cases same : told.token = token <;> simp [same]

theorem progress?_of_begun {progress : Progress}
    (progresses : after.progresses = progress :: session.progresses) (token : Int) :
    after.progress? token =
      if progress.token = token then some progress else session.progress? token := by
  by_cases same : progress.token = token
  · rw [if_pos same, progress?, progresses, List.find?_cons_of_pos (by simpa using same)]
  · rw [if_neg same, progress?, progresses, List.find?_cons_of_neg (by simpa using same),
      progress?]

theorem progress?_updating (session : Session) (progress : Progress) (token : Int) :
    (session.updating progress).progress? token =
      (session.progress? token).map fun held =>
        if token = progress.token then progress else held := by
  unfold progress? updating
  dsimp only
  have same : (fun other : Progress => other.token == token) ∘
      (fun other : Progress => if other.token == progress.token then progress else other) =
      fun other => other.token == token := by
    funext other
    simp only [Function.comp_apply]
    split
    · rename_i equal
      rw [beq_iff_eq.mp equal]
    · rfl
  rw [List.find?_map, same]
  cases found : session.progresses.find? (·.token == token) with
  | none => rfl
  | some other =>
      have number : other.token = token := by simpa using List.find?_some found
      simp only [Option.map_some, number, beq_iff_eq]

private theorem Stream.keep {told : List Progress.Stage} {former : Progress} (isEnded : Bool)
    (stream : Stream former.isEnded told) (live : former.isEnded = false) :
    Stream isEnded told := by
  rw [live] at stream
  cases stream with
  | going reports => exact .going reports

private theorem Stream.append {told : List Progress.Stage} {former latter : Progress}
    (stream : Stream former.isEnded told) (follows : former.Follows latter) :
    Stream latter.isEnded (told ++ [latter.stage]) := by
  rw [follows.live] at stream
  cases stream with
  | going reports =>
      rcases follows.stage with reported | ended
      · rw [reported, List.cons_append, ← List.replicate_succ']
        exact .going (reports + 1)
      · rw [ended, Progress.isEnded, ended]
        exact .ended reports

namespace StreamsAgree

private theorem unused (agree : StreamsAgree session) :
    session.progress? session.identifiers.next = none := by
  cases held : session.progress? session.identifiers.next with
  | none => rfl
  | some progress =>
      have begun := agree.begun _ _ held
      have taken := agree.taken _ (List.mem_map_of_mem begun)
      exact absurd taken (Int.lt_irrefl _)

theorem told_of_sent (agree : StreamsAgree session) {latest : Progress}
    (sent : after.sentProgress = session.sentProgress ∨
      after.sentProgress = session.sentProgress ++ [latest])
    (grown : session.begunTitles ⊆ after.begunTitles)
    (title : (latest.token, latest.title) ∈ after.begunTitles) :
    ∀ progress ∈ after.sentProgress, (progress.token, progress.title) ∈ after.begunTitles := by
  intro progress member
  rcases sent with kept | sent
  · rw [kept] at member
    exact grown (agree.told progress member)
  · rw [sent] at member
    rcases List.mem_append.mp member with earlier | last
    · exact grown (agree.told progress earlier)
    · rw [List.mem_singleton.mp last]
      exact title

private theorem tokens_of_begun (agree : StreamsAgree session) {progress : Progress}
    (token : progress.token = session.identifiers.next)
    (begun : after.begunTitles = (progress.token, progress.title) :: session.begunTitles)
    (next : after.identifiers.next = session.identifiers.next + 1) :
    (∀ token ∈ after.begunTitles.map (·.1), token < after.identifiers.next) ∧
      (after.begunTitles.map (·.1)).Nodup := by
  rw [begun, next, List.map_cons]
  constructor
  · intro other member
    rcases List.mem_cons.mp member with same | earlier
    · rw [same]
      omega
    · have taken := agree.taken other earlier
      omega
  · refine List.nodup_cons.mpr ⟨fun member => ?_, agree.once⟩
    have taken := agree.taken _ member
    omega

private theorem begins (agree : StreamsAgree session) {progress : Progress}
    (token : progress.token = session.identifiers.next) (stage : progress.stage = .opened)
    (progresses : after.progresses = progress :: session.progresses)
    (sent : after.sentProgress = session.sentProgress ++ [progress])
    (begun : after.begunTitles = (progress.token, progress.title) :: session.begunTitles)
    (next : after.identifiers.next = session.identifiers.next + 1) : StreamsAgree after := by
  have held := progress?_of_begun progresses
  have told := stages_of_sent sent
  have grown : session.begunTitles ⊆ after.begunTitles := by
    rw [begun]
    exact List.subset_cons_self _ _
  have title : (progress.token, progress.title) ∈ after.begunTitles := by
    rw [begun]
    exact List.mem_cons_self
  rcases agree.tokens_of_begun token begun next with ⟨taken, once⟩
  refine ⟨?_, ?_, ?_, agree.told_of_sent (.inr sent) grown title, taken, once⟩
  · intro other unknown
    rw [held] at unknown
    split at unknown
    · cases unknown
    · rename_i different
      rw [told, agree.unknown other unknown, if_neg different]
      rfl
  · intro other found known
    rw [held] at known
    split at known
    · rename_i same
      cases known
      rw [told, if_pos same, ← same, token, agree.unknown _ agree.unused, stage]
      exact .going 0
    · rename_i different
      rw [told, if_neg different, List.append_nil]
      exact agree.known other found known
  · intro other found known
    rw [held] at known
    split at known
    · rename_i same
      cases known
      rwa [← same]
    · exact grown (agree.begun other found known)

section

variable {former latter : Progress}

theorem exists_of_changed (progresses : after.progresses = (session.updating latter).progresses)
    {token : Int} {progress : Progress} (known : after.progress? token = some progress) :
    ∃ other, session.progress? token = some other ∧
      progress = if token = latter.token then latter else other := by
  rw [progress?, progresses, ← progress?, progress?_updating] at known
  rcases Option.map_eq_some_iff.mp known with ⟨other, existing, same⟩
  exact ⟨other, existing, same.symm⟩

theorem stages_of_changed (sent : after.sentProgress = session.sentProgress ∨
      after.sentProgress = session.sentProgress ++ [latter]) (token : Int) :
    after.stages token = session.stages token ∨
      token = latter.token ∧ after.stages token = session.stages token ++ [latter.stage] := by
  rcases sent with kept | sent
  · rw [stages, kept, stages]
    exact .inl rfl
  · rw [stages_of_sent sent]
    by_cases same : latter.token = token
    · rw [if_pos same]
      exact .inr ⟨same.symm, rfl⟩
    · rw [if_neg same, List.append_nil]
      exact .inl rfl

/-- Only the stream of the changed progress can grow, and only by its new stage. -/
private theorem known_of_changed (agree : StreamsAgree session)
    (held : session.progress? former.token = some former) (follows : former.Follows latter)
    (progresses : after.progresses = (session.updating latter).progresses)
    (sent : after.sentProgress = session.sentProgress ∨
      after.sentProgress = session.sentProgress ++ [latter]) :
    ∀ token progress, after.progress? token = some progress →
      Stream progress.isEnded (after.stages token) := by
  intro token progress known
  rcases exists_of_changed progresses known with ⟨other, existing, rfl⟩
  rcases stages_of_changed sent token with same | ⟨own, same⟩ <;> rw [same]
  · split
    · rename_i own
      rw [own, follows.token] at existing ⊢
      cases held.symm.trans existing
      exact (agree.known _ _ held).keep latter.isEnded follows.live
    · exact agree.known token other existing
  · rw [if_pos own]
    rw [own, follows.token] at existing ⊢
    cases held.symm.trans existing
    exact (agree.known _ _ held).append follows

private theorem continues (agree : StreamsAgree session)
    (held : session.progress? former.token = some former) (follows : former.Follows latter)
    (progresses : after.progresses = (session.updating latter).progresses)
    (sent : after.sentProgress = session.sentProgress ∨
      after.sentProgress = session.sentProgress ++ [latter])
    (begun : after.begunTitles = session.begunTitles)
    (next : after.identifiers.next = session.identifiers.next) : StreamsAgree after := by
  have title : (latter.token, latter.title) ∈ after.begunTitles := by
    rw [follows.token, follows.title, begun]
    exact agree.begun _ _ held
  have grown : session.begunTitles ⊆ after.begunTitles := begun.symm ▸ List.Subset.refl _
  refine ⟨?_, agree.known_of_changed held follows progresses sent, ?_,
    agree.told_of_sent sent grown title, ?_, ?_⟩
  · intro token unknown
    rw [progress?, progresses, ← progress?, progress?_updating, Option.map_eq_none_iff] at unknown
    rcases stages_of_changed sent token with same | ⟨own, _⟩
    · rw [same]
      exact agree.unknown token unknown
    · rw [own, follows.token, held] at unknown
      cases unknown
  · intro token progress known
    rcases exists_of_changed progresses known with ⟨other, existing, rfl⟩
    split
    · rename_i own
      rwa [own]
    · exact grown (agree.begun token other existing)
  · rw [begun, next]
    exact agree.taken
  · rw [begun]
    exact agree.once

end

theorem change (agree : StreamsAgree session) (change : Change since session after) :
    StreamsAgree after := by
  rcases change.progress with
    ⟨progresses, sent, begun, next⟩ | ⟨progress, token, stage, progresses, sent, begun, next⟩ |
    ⟨former, latter, held, follows, progresses, sent, begun, next⟩
  · have held : after.progress? = session.progress? := by
      funext token
      rw [progress?, progresses, progress?]
    have told : after.stages = session.stages := by
      funext token
      rw [stages, sent, stages]
    constructor
    · rw [held, told]
      exact agree.unknown
    · rw [held, told]
      exact agree.known
    · rw [held, begun]
      exact agree.begun
    · rw [sent, begun]
      exact agree.told
    · intro token member
      rw [begun] at member
      exact Int.lt_of_lt_of_le (agree.taken token member) next
    · rw [begun]
      exact agree.once
  · exact agree.begins token stage progresses sent begun next
  · exact agree.continues held follows progresses (sent.imp_left And.right) begun next

theorem of_new (new : session.IsNew) : StreamsAgree session := by
  have quiet : session.sentProgress = [] := by simp [sentProgress, new.history]
  have unbegun : session.begunTitles = [] := by simp [begunTitles, new.history]
  constructor
  · intro token _
    simp [stages, quiet]
  · intro token progress known
    simp [progress?, new.progresses] at known
  · intro token progress known
    simp [progress?, new.progresses] at known
  · intro progress member
    simp [quiet] at member
  · intro token member
    simp [unbegun] at member
  · simp [unbegun]

end StreamsAgree

/-! ## The stream of every progress -/

private theorem Stream.within {isEnded : Bool} {told : List Progress.Stage}
    (stream : Stream isEnded told) :
    ∃ reports, told <+: .opened :: List.replicate reports .reported ++ [.ended] := by
  cases stream with
  | going reports => exact ⟨reports, List.prefix_append _ _⟩
  | ended reports => exact ⟨reports, List.prefix_refl _⟩

private theorem StreamsAgree.stages_prefix (agree : StreamsAgree session) (token : Int) :
    ∃ reports, session.stages token <+:
      .opened :: List.replicate reports .reported ++ [.ended] := by
  cases held : session.progress? token with
  | none =>
      rw [agree.unknown token held]
      exact ⟨0, List.nil_prefix⟩
  | some progress => exact (agree.known token progress held).within

theorem kinds_eq (session : Session) (token : Int) :
    (session.messages.filter (Message.token? · == some token)).map (Message.fact? · "kind") =
      (session.stages token).map fun stage => some (.string stage.name) := by
  simp [messages, stages, List.filter_map, Function.comp_def]

private theorem begunTitles_suffix (changes : Changes since session after) :
    session.begunTitles <:+ after.begunTitles := by
  induction changes with
  | refl => exact List.suffix_refl _
  | tail _ change induction =>
      rcases change.records with ⟨recent, records⟩
      refine induction.trans ?_
      rw [begunTitles, begunTitles, records.history, List.filterMap_append]
      exact List.suffix_append _ _

theorem begin_changes {fuel : Nat} {title message percentage : Value} {token : Int}
    (came : begin (run fuel) title message percentage session = (.value token, after)) :
    ∃ progress : Progress, progress.token = token ∧ progress.title = title ∧
      ∃ since, Changes since
        ((session.beginning percentage progress).announcing (progressEntry progress) progress)
        after := by
  rcases begin_cases session (run fuel) title message percentage with
    ⟨_, failure, declined⟩ | ⟨given, _, _, begun⟩
  · rw [declined] at came
    cases came
  · rw [begun] at came
    rcases Action.value_of_bind came with ⟨reply, middle, called, returned⟩
    cases returned
    exact ⟨_, rfl, rfl, _, run_changes called⟩

private theorem begin_titles {fuel : Nat} {title message percentage : Value} {token : Int}
    (came : begin (run fuel) title message percentage session = (.value token, after)) :
    (token, title) ∈ after.begunTitles := by
  rcases begin_changes came with ⟨progress, rfl, rfl, since, changes⟩
  exact (begunTitles_suffix changes).subset List.mem_cons_self

/-- The kinds of the messages about a progress, with some number of reports. -/
def streamOf (reports : Nat) : List (Option Value) :=
  (["begin"] ++ List.replicate reports "report" ++ ["end"]).map fun kind => some (.string kind)

/-- Whatever is done to a session from its beginning, the messages that carry a token are its
begin, then reports, then its end, or the first few of these. -/
theorem progress_streams_lawful {start : Session} (new : start.IsNew)
    (operations : List (Nat × Operation Program)) :
    let session := start.after operations
    (∀ token, ∃ reports,
      (session.messages.filter (Message.token? · == some token)).map (Message.fact? · "kind") <+:
        streamOf reports) ∧
    (∀ message ∈ session.messages, ∃ token title,
      (token, title) ∈ session.begunTitles ∧
      Message.token? message = some token ∧
      Message.fact? message "id" = some (.int token) ∧
      Message.fact? message "title" = some title ∧
      (Message.fact? message "percentage" = none ∨
        ∃ number : Int, 0 ≤ number ∧ number ≤ 100 ∧
          Message.fact? message "percentage" = some (.int number))) ∧
    (session.begunTitles.map (·.1)).Nodup ∧
    (∀ fuel title message percentage before token after,
      begin (run fuel) title message percentage before = (.value token, after) →
        (token, title) ∈ after.begunTitles) := by
  have agree := after_preserves (StreamsAgree.of_new new)
    (fun _ _ agree change => agree.change change) operations
  refine ⟨?_, ?_, agree.once, fun _ _ _ _ _ _ _ came => begin_titles came⟩
  · intro token
    rcases agree.stages_prefix token with ⟨reports, stages⟩
    refine ⟨reports, ?_⟩
    rw [kinds_eq]
    have kinds := stages.map fun stage => some (Value.string stage.name)
    simpa [streamOf, Progress.Stage.name] using kinds
  · intro message member
    rcases List.mem_map.mp member with ⟨progress, sent, rfl⟩
    refine ⟨progress.token, progress.title, agree.told progress sent, by simp, by simp, by simp, ?_⟩
    rw [Progress.fact?_percentage]
    cases progress.percentage with
    | none => exact .inl rfl
    | some percentage => exact .inr ⟨percentage.val, by omega, by omega, rfl⟩

theorem progress_streams_lawful_of_one :
    let session := ({} : Session).after
      [(2, .begin "work" (.string "Work") .null .null),
        (2, .update "work" [("percentage", .int 50)]), (2, .finish "work" .null),
        (2, .update "work" [("percentage", .int 60)])]
    session.stages 1 = [.opened, .reported, .ended] ∧
      ∃ reports, (session.messages.filter (Message.token? · == some 1)).map
        (Message.fact? · "kind") <+: streamOf reports :=
  ⟨by decide +kernel, (progress_streams_lawful isNew_default _).1 1⟩

end Session

end RpcSession
