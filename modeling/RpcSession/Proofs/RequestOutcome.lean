import RpcSession.Proofs.Exchange.Results

/-!
# Outcomes of requests

A request that comes back has an outcome: its first answer, or else the first failure of its
receivers, or else null. Nothing that happens afterwards changes it.
-/

namespace RpcSession.Session

variable {since identifier : Int} {session after : Session} {outcome : Except Failure Value}

/-! ## Outcomes stay -/

private theorem outcome?_settling {settled : Int} (other : settled ≠ identifier)
    (given : Except Failure Value) :
    (session.settling settled given).outcome? identifier = session.outcome? identifier := by
  rw [outcome?_eq, reception?_settling, outcome?_eq]
  have same : (fun reception => if identifier = settled then .settled given else reception) =
      (id : Reception → Reception) := by
    funext reception
    rw [if_neg other.symm]
    rfl
  rw [same, Option.map_id, id]

theorem Change.outcome?_stable (change : Change since session after)
    (taken : identifier < session.identifiers.next)
    (known : session.outcome? identifier = some outcome) :
    after.outcome? identifier = some outcome := by
  cases change.exchange with
  | opened method answerable =>
      have other : ¬session.identifiers.next = identifier := by omega
      rw [← known, outcome?_eq, outcome?_eq]
      simp [reception?, exchange?, opening, other]
  | settled settled given own waiting =>
      rw [outcome?_settling _ given, known]
      intro same
      rw [same, known] at waiting
      cases waiting
  | answered responder answer =>
      unfold answering
      split
      · rename_i settled given settles
        rcases settlement?_waiting settles with ⟨_, waiting⟩
        rw [outcome?_settling _ given]
        · exact known
        · intro same
          rw [same, known] at waiting
          cases waiting
      · exact known
  | aside recent exchanges =>
      rw [outcome?_eq, reception?, exchange?, exchanges, ← exchange?, ← reception?, ← outcome?_eq]
      exact known

private theorem Changes.outcome?_stable (changes : Changes since session after)
    (taken : identifier < session.identifiers.next)
    (known : session.outcome? identifier = some outcome) :
    after.outcome? identifier = some outcome := by
  induction changes with
  | refl => exact known
  | tail before change induction =>
      exact change.outcome?_stable (Int.lt_of_lt_of_le taken (Changes.next_le before)) induction

/-! ## Every conclusion is lawful

Every request that came back did so with its lawful outcome, and still has it. -/

def ExchangesTaken (session : Session) : Prop :=
  ∀ exchange ∈ session.exchanges, exchange.identifier < session.identifiers.next

private theorem ExchangesTaken.settling (taken : ExchangesTaken session) (settled : Int)
    (given : Except Failure Value) : ExchangesTaken (session.settling settled given) := by
  intro exchange member
  rcases List.mem_map.mp member with ⟨former, held, rfl⟩
  have earlier := taken former held
  split <;> exact earlier

theorem ExchangesTaken.change (taken : ExchangesTaken session)
    (change : Change since session after) : ExchangesTaken after := by
  cases change.exchange with
  | opened method answerable =>
      intro exchange member
      rcases List.mem_cons.mp member with rfl | earlier
      · exact Int.lt_succ _
      · exact Int.lt_of_lt_of_le (taken exchange earlier) (Int.le_of_lt (Int.lt_succ _))
  | settled settled given => exact taken.settling settled given
  | answered responder answer =>
      unfold answering
      split
      · exact taken.settling _ _
      · exact taken
  | aside recent exchanges next =>
      intro exchange member
      rw [exchanges] at member
      exact Int.lt_of_lt_of_le (taken exchange member) next

private theorem ExchangesTaken.of_outcome (taken : ExchangesTaken session)
    (known : session.outcome? identifier = some outcome) :
    identifier < session.identifiers.next := by
  unfold outcome? at known
  cases found : session.exchange? identifier with
  | none => simp [found] at known
  | some exchange =>
      have number : exchange.identifier = identifier := by simpa using List.find?_some found
      rw [← number]
      exact taken exchange (List.mem_of_find?_eq_some found)

structure OutcomesLawful (session : Session) : Prop where
  taken : ExchangesTaken session
  lawful : ∀ later identifier outcome earlier,
    session.history = later ++ .concluded identifier outcome :: earlier →
      outcome = lawfulOutcome identifier earlier ∧ session.outcome? identifier = some outcome

namespace OutcomesLawful

theorem of_new (new : session.IsNew) : OutcomesLawful session := by
  constructor
  · simp [ExchangesTaken, new.exchanges]
  · intro later identifier outcome earlier history
    simp [new.history] at history

theorem change (outcomes : OutcomesLawful session) (change : Change since session after) :
    OutcomesLawful after := by
  refine ⟨outcomes.taken.change change, ?_⟩
  intro later identifier outcome earlier history
  rcases change.records with ⟨recent, records⟩
  have before : outcome = lawfulOutcome identifier earlier ∧
      session.outcome? identifier = some outcome := by
    rcases records.lone rfl history with ⟨between, _, older⟩ | ⟨_, whole, member⟩
    · exact outcomes.lawful between identifier outcome earlier older
    · rcases records.fits _ member with ⟨_, known, lawful⟩
      rw [whole]
      exact ⟨lawful, known⟩
  rcases before with ⟨lawful, known⟩
  exact ⟨lawful, change.outcome?_stable (outcomes.taken.of_outcome known) known⟩

end OutcomesLawful

/-! ## The law of outcomes -/

end RpcSession.Session
