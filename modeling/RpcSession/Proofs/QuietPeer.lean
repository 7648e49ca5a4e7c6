import RpcSession.Proofs.ProgressStream

/-!
# Quiet peers

A peer is quiet if what it does with a message neither fails nor does anything to the server: all
that it may change is the memory of the host. Telling such a peer of a progress is one step, after
which the code that told it goes on, unless all is cut short there.
-/

namespace RpcSession

/-- Whether a session differs from another one by the memory of the host and by remarks only. -/
def Session.Undisturbed (session after : Session) : Prop :=
  ∃ cells queues recent,
    after = { session with cells, queues, history := recent ++ session.history } ∧
      ∀ event ∈ recent, event.isRemark = true

/-- A program that neither fails nor does anything to the server, wherever it is run. -/
structure Program.IsQuiet (program : Program) : Prop where
  undisturbed (fuel : Nat) (session : Session) :
    session.Undisturbed (Session.run fuel program session).2
  unfailing (fuel : Nat) (session : Session) (failure : Failure) :
    (Session.run fuel program session).1 ≠ .failed failure

namespace Session

variable {session after : Session} {progress : Progress}

theorem Undisturbed.unchanged (undisturbed : Undisturbed session after) :
    after.outbound = session.outbound ∧ after.lifecycle = session.lifecycle ∧
      after.timers = session.timers ∧ after.progresses = session.progresses := by
  rcases undisturbed with ⟨_, _, _, rfl, _⟩
  exact ⟨rfl, rfl, rfl, rfl⟩

theorem Undisturbed.sentProgress (undisturbed : Undisturbed session after) :
    after.sentProgress = session.sentProgress := by
  rcases undisturbed with ⟨_, _, recent, rfl, remarks⟩
  rw [Session.sentProgress, List.reverse_append, List.filterMap_append, ← Session.sentProgress,
    List.filterMap_eq_nil_iff.mpr, List.append_nil]
  intro event member
  have remark := remarks event (List.mem_reverse.mp member)
  cases event <;> first | rfl | cases remark

structure Unaltered (session after : Session) : Prop where
  same : after = { session with history := after.history }
  sent : after.sentProgress = session.sentProgress

namespace Unaltered

theorem refl (session : Session) : Unaltered session session := ⟨rfl, rfl⟩

theorem noting (session : Session) {event : Event} (silent : ∀ progress, event ≠ .sent progress) :
    Unaltered session (session.noting event) := by
  refine ⟨rfl, ?_⟩
  rw [sentProgress_noting]
  cases event with
  | sent progress => exact absurd rfl (silent progress)
  | _ => exact List.append_nil _

end Unaltered

theorem isQuiet_done (value : Value) : (Program.done value).IsQuiet where
  undisturbed fuel session := by
    refine ⟨session.cells, session.queues, [], ?_, by simp⟩
    cases fuel <;> rfl
  unfailing fuel session failure := by cases fuel <;> exact nofun

def telling (session : Session) (progress : Progress) : Session :=
  (session.updating progress).announcing (progressEntry progress) progress

@[simp] theorem outbound_telling (session : Session) (progress : Progress) :
    (session.telling progress).outbound = session.outbound := rfl

@[simp] theorem timer?_telling (session : Session) (progress : Progress) (index : Nat) :
    (session.telling progress).timer? index = session.timer? index := rfl

theorem progress?_telling (session : Session) (progress : Progress) (token : Int) :
    (session.telling progress).progress? token =
      (session.progress? token).map fun held =>
        if token = progress.token then progress else held :=
  progress?_updating session progress token

theorem emit_of_quiet (fuel : Nat) (quiet : ∀ message, (session.outbound message).IsQuiet)
    (live : session.lifecycle.stopped = false) (progress : Progress) :
    ∃ after, Undisturbed (session.announcing (progressEntry progress) progress) after ∧
      (emit (run fuel) progress session = (.value (), after) ∨
        emit (run fuel) progress session = (.exhausted, after)) := by
  have heard := quiet progress.notification
  have undisturbed :=
    heard.undisturbed fuel (session.announcing (progressEntry progress) progress)
  have unfailing := heard.unfailing fuel (session.announcing (progressEntry progress) progress)
  rw [emit_of_live session (run fuel) progress live, Action.bind_apply]
  generalize run fuel (session.outbound progress.notification) _ = result at undisturbed unfailing
  rcases result with ⟨outcome, after⟩
  refine ⟨after, undisturbed, ?_⟩
  cases outcome with
  | value value => exact .inl rfl
  | failed failure => exact absurd rfl (unfailing failure)
  | exhausted => exact .inr rfl

theorem setProgress_emit_of_quiet (fuel : Nat)
    (quiet : ∀ message, (session.outbound message).IsQuiet)
    (live : session.lifecycle.stopped = false) (progress : Progress) :
    ∃ told, Undisturbed (session.telling progress) told ∧
      ((do setProgress progress; emit (run fuel) progress : Action Session Unit) session =
          (.value (), told) ∨
        (do setProgress progress; emit (run fuel) progress : Action Session Unit) session =
          (.exhausted, told)) := by
  have quietToo : ∀ message, ((session.updating progress).outbound message).IsQuiet := quiet
  exact emit_of_quiet fuel quietToo live progress

theorem begin_of_quiet (fuel : Nat) (quiet : ∀ message, (session.outbound message).IsQuiet)
    (title message percentage : Value) :
    ((session.lifecycle.stopped = true ∨ (Percentage.ofValue? percentage).isOk = false) ∧
      ∃ failure, begin (run fuel) title message percentage session = (.failed failure,
        session.noting (.progressAsked percentage (!session.lifecycle.stopped)))) ∨
    ∃ progress after, session.lifecycle.stopped = false ∧
      progress = ⟨session.identifiers.next, .opened, title, message, progress.percentage⟩ ∧
      Percentage.ofValue? percentage = .ok progress.percentage ∧
      Undisturbed ((session.beginning percentage progress).announcing (progressEntry progress)
        progress) after ∧
      (begin (run fuel) title message percentage session =
          (.value session.identifiers.next, after) ∨
        begin (run fuel) title message percentage session = (.exhausted, after)) := by
  rcases begin_cases session (run fuel) title message percentage with
    declined | ⟨given, live, valid, told⟩
  · exact .inl declined
  · let progress : Progress :=
      { token := session.identifiers.next, title, message, percentage := given }
    have heard := quiet progress.notification
    let begun := (session.beginning percentage progress).announcing (progressEntry progress)
      progress
    have undisturbed := heard.undisturbed fuel begun
    have unfailing := heard.unfailing fuel begun
    rw [told, Action.bind_apply]
    generalize run fuel (session.outbound progress.notification) begun = result
      at undisturbed unfailing
    rcases result with ⟨outcome, after⟩
    refine .inr ⟨progress, after, live, rfl, valid, undisturbed, ?_⟩
    cases outcome with
    | value value => exact .inl rfl
    | failed failure => exact absurd rfl (unfailing failure)
    | exhausted => exact .inr rfl

/-! ## Peers that record

A peer that records comes back, so on a live session a progress begins exactly if its percentage
is fit. -/

/-- Whether the peer just records its messages: what it does with them is quiet and comes back with
some fuel. -/
structure RecordsMessages (session : Session) (fuel : Nat) : Prop where
  quiet (message : Value) : (session.outbound message).IsQuiet
  returning (message : Value) (state : Session) :
    (run fuel (session.outbound message) state).1 ≠ .exhausted

variable {fuel : Nat}

theorem RecordsMessages.congr (records : session.RecordsMessages fuel)
    (same : after.outbound = session.outbound) : after.RecordsMessages fuel := by
  constructor
  · rw [same]
    exact records.quiet
  · rw [same]
    exact records.returning

theorem exhausted_of_bind_pure {α β : Type} {action : Action Session α} {value : β}
    (cut : (action >>= fun _ => pure value) session = (.exhausted, after)) :
    (action session).1 = .exhausted := by
  rw [Action.bind_apply] at cut
  generalize action session = result at cut ⊢
  rcases result with ⟨outcome, middle⟩
  cases outcome <;> cases cut
  rfl

theorem setProgress_emit_of_records (records : session.RecordsMessages fuel)
    (live : session.lifecycle.stopped = false) (progress : Progress) :
    ∃ told, Undisturbed (session.telling progress) told ∧
      (do setProgress progress; emit (run fuel) progress : Action Session Unit) session =
        (.value (), told) := by
  rcases setProgress_emit_of_quiet fuel records.quiet live progress with
    ⟨told, undisturbed, same | cut⟩
  · exact ⟨told, undisturbed, same⟩
  · change emit (run fuel) progress (session.updating progress) = _ at cut
    rw [emit_of_live (session.updating progress) (run fuel) progress live] at cut
    exact absurd (exhausted_of_bind_pure cut) (records.returning progress.notification _)

theorem not_recordsMessages_of_cut (live : session.lifecycle.stopped = false)
    (cut : (do setProgress progress; emit (run fuel) progress : Action Session Unit) session =
      (.exhausted, after)) : ¬session.RecordsMessages fuel := by
  intro records
  rcases setProgress_emit_of_records records live progress with ⟨told, _, same⟩
  cases cut.symm.trans same

theorem begin_of_records (records : session.RecordsMessages fuel)
    (live : session.lifecycle.stopped = false) {title message percentage : Value}
    {given : Option Percentage} (valid : Percentage.ofValue? percentage = .ok given) :
    let progress : Progress := ⟨session.identifiers.next, .opened, title, message, given⟩
    ∃ told, Undisturbed ((session.beginning percentage progress).announcing
        (progressEntry progress) progress) told ∧
      begin (run fuel) title message percentage session =
        (.value session.identifiers.next, told) := by
  intro progress
  have begun := begin_of_fit (run fuel) title message percentage live valid
  rcases begin_of_quiet fuel records.quiet title message percentage with
    ⟨unfit, _⟩ | ⟨other, told, _, shape, fit, undisturbed, same | cut⟩
  · simp [live, valid, Except.isOk, Except.toBool] at unfit
  · cases valid.symm.trans fit
    exact ⟨told, by rw [shape] at undisturbed; exact undisturbed, same⟩
  · rw [begun] at cut
    exact absurd (exhausted_of_bind_pure cut) (records.returning progress.notification _)

end Session

end RpcSession
