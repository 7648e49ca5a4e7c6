import RpcSession.Proofs.Dispatch

/-!
# Results as answers

What a receiver of an exchange returned, unless it is null, is given to the exchange as an answer
before anything else happens. Other code cannot come between the two: what a receiver does itself
is over when it returns, and code that was entered after the exchange was opened records no
returns of it.
-/

namespace RpcSession.Session

variable {since identifier : Int} {start history recent : List Event}
variable {session before middle after : Session} {invoke : Invoke}

def Event.isResult (identifier : Int) : Event → Bool
  | .returned _ responder (.ok value) => responder == .exchange identifier && !value.isNull
  | _ => false

/-- From some moment on the results of the receivers of an exchange are at once answers to it. -/
def ResultsAnswered (identifier : Int) (start history : List Event) : Prop :=
  ∀ subscription value earlier, start <:+ earlier →
    .returned subscription (.exchange identifier) (.ok value) :: earlier <:+ history →
    value.isNull = false →
    .answered (.exchange identifier) { result := value } ::
      .returned subscription (.exchange identifier) (.ok value) :: earlier <:+ history

namespace ResultsAnswered

theorem refl (history : List Event) : ResultsAnswered identifier history history := by
  intro subscription value earlier started suffix
  have longer := started.length_le
  have shorter := suffix.length_le
  rw [List.length_cons] at shorter
  omega

theorem cons {event : Event} (answered : ResultsAnswered identifier start history)
    (other : event.isResult identifier = false) :
    ResultsAnswered identifier start (event :: history) := by
  intro subscription value earlier started suffix given
  rcases List.suffix_cons_iff.mp suffix with same | older
  · cases same
    simp [Event.isResult, given] at other
  · exact (answered subscription value earlier started older given).trans (List.suffix_cons _ _)

theorem append (answered : ResultsAnswered identifier start history)
    (others : ∀ event ∈ recent, event.isResult identifier = false) :
    ResultsAnswered identifier start (recent ++ history) := by
  induction recent with
  | nil => exact answered
  | cons event recent induction =>
      have rest := induction fun other member => others other (List.mem_cons_of_mem _ member)
      exact rest.cons (others event List.mem_cons_self)

private theorem result (answered : ResultsAnswered identifier start history) (subscription : Int)
    (value : Value) :
    ResultsAnswered identifier start (.answered (.exchange identifier) { result := value } ::
      .returned subscription (.exchange identifier) (.ok value) :: history) := by
  intro other returned earlier started suffix given
  rcases List.suffix_cons_iff.mp suffix with same | suffix
  · cases same
  · rcases List.suffix_cons_iff.mp suffix with same | older
    · cases same
      exact List.suffix_refl _
    · have before := answered other returned earlier started older given
      exact before.trans ((List.suffix_cons _ _).trans (List.suffix_cons _ _))

theorem changes (answered : ResultsAnswered identifier start session.history)
    (changes : Changes since session after) (earlier : identifier < since) :
    ResultsAnswered identifier start after.history := by
  induction changes with
  | refl => exact answered
  | tail before change induction =>
      rcases change.records with ⟨recent, records⟩
      rw [records.history]
      apply induction.append
      intro event member
      have fits := records.fits event member
      cases event with
      | returned subscription responder outcome =>
          have other : responder ≠ .exchange identifier := by
            intro own
            have later := fits identifier own
            omega
          cases outcome <;> simp [Event.isResult, other]
      | _ => rfl

end ResultsAnswered

/-! ## Fan-outs

A receiver that returns something answers with it in the same breath: the answer is the next thing
that is recorded, and delivering it to an exchange runs nothing. -/

theorem Event.isResult_of_remark {event : Event} (remark : event.isRemark = true) :
    event.isResult identifier = false := by
  cases event with
  | returned => cases remark
  | _ => rfl

variable {method : String} {params : Value}

theorem Served.resultsAnswered (moving : Invoke.Moves invoke) {entry : Int × Receiver}
    {outcome : Outcome Unit} (taken : identifier < before.identifiers.next)
    (served : Served invoke method params (.exchange identifier) entry before outcome after)
    (answered : ResultsAnswered identifier start before.history) :
    ResultsAnswered identifier start after.history := by
  have ran : Changes before.identifiers.next
      (before.noting (.called entry.1 method params (.exchange identifier)))
      (runCalled invoke method params (.exchange identifier) entry before).2 :=
    runReceiver_moves moving entry.2 params (.exchange identifier) (Int.le_refl _)
  have called : ResultsAnswered identifier start
      (before.noting (.called entry.1 method params (.exchange identifier))).history :=
    answered.cons rfl
  have inside := called.changes ran taken
  cases served with
  | exhausted came => rwa [came] at inside
  | failed came =>
      rw [came] at inside
      exact inside.cons rfl
  | silent came =>
      rw [came] at inside
      exact inside.cons (Bool.and_false _)
  | @answered middle _ value _ came given responded =>
      rw [came] at inside
      rcases deliver_history invoke ((middle.noting
        (.returned entry.1 (.exchange identifier) (.ok value))).noting
          (.answered (.exchange identifier) { result := value })) identifier { result := value }
        with ⟨recent, grown, remarks⟩
      rw [← respond_apply, responded] at grown
      rw [grown]
      exact (inside.result entry.1 value).append fun event member =>
        Event.isResult_of_remark (remarks event member)

variable {receivers : List (Int × Receiver)} {results : List (Option Failure)}

private theorem Serving.resultsAnswered (moving : Invoke.Moves invoke)
    (taken : identifier < before.identifiers.next)
    (serving : Serving invoke method params (.exchange identifier) receivers before results after)
    (answered : ResultsAnswered identifier start before.history) :
    identifier < after.identifiers.next ∧ ResultsAnswered identifier start after.history := by
  have own : Responder.IsSince identifier (.exchange identifier) := isSince_exchange (Int.le_refl _)
  induction serving with
  | none => exact ⟨taken, answered⟩
  | succeeded served rest induction =>
      have later : identifier < _ :=
        Int.lt_of_lt_of_le taken (served.changes moving own (Int.le_of_lt taken)).next_le
      exact induction later (served.resultsAnswered moving taken answered)
  | failed logged ordinary served rest induction =>
      have later : identifier < _ :=
        Int.lt_of_lt_of_le taken (served.changes moving own (Int.le_of_lt taken)).next_le
      exact induction later ((served.resultsAnswered moving taken answered).cons rfl)

private theorem FannedOut.resultsAnswered (moving : Invoke.Moves invoke) {α : Type}
    {conclude : List (Option Failure) → Outcome α} {result : Outcome α × Session}
    (taken : identifier < before.identifiers.next)
    (fannedOut : FannedOut invoke method params (.exchange identifier) conclude receivers before
      result)
    (answered : ResultsAnswered identifier start before.history) :
    ResultsAnswered identifier start result.2.history := by
  cases fannedOut with
  | finished serving => exact (serving.resultsAnswered moving taken answered).2
  | aborted split serving served abort =>
      rcases serving.resultsAnswered moving taken answered with ⟨later, between⟩
      exact served.resultsAnswered moving later between
  | exhausted split serving served =>
      rcases serving.resultsAnswered moving taken answered with ⟨later, between⟩
      exact served.resultsAnswered moving later between

/-! ## Requests -/

end RpcSession.Session
