import RpcSession.Session.Run

/-!
# Views of the history

The history of a session says everything that happened, latest first. These views pick from it
what the laws of a session are about: what became of one exchange, which identifiers were taken,
and what the peer was told.
-/

namespace RpcSession.Session

/-! ## Every event with what came before it -/

/-- Whether every event of a history is lawful after the events before it. -/
def Throughout (lawful : Event → List Event → Prop) (history : List Event) : Prop :=
  ∀ event earlier, event :: earlier <:+ history → lawful event earlier

namespace Throughout

variable {lawful : Event → List Event → Prop} {event : Event} {recent history : List Event}

theorem nil : Throughout lawful [] := by
  intro event earlier suffix
  cases List.suffix_nil.mp suffix

theorem cons_iff :
    Throughout lawful (event :: history) ↔ lawful event history ∧ Throughout lawful history := by
  constructor
  · intro lawfully
    refine ⟨lawfully event history (List.suffix_refl _), fun other earlier suffix => ?_⟩
    exact lawfully other earlier (suffix.trans (List.suffix_cons _ _))
  · rintro ⟨now, before⟩ other earlier suffix
    rcases List.suffix_cons_iff.mp suffix with same | older
    · cases same
      exact now
    · exact before other earlier older

theorem append (lawfully : Throughout lawful history)
    (others : ∀ event ∈ recent, ∀ earlier, lawful event earlier) :
    Throughout lawful (recent ++ history) := by
  induction recent with
  | nil => exact lawfully
  | cons event recent induction =>
      refine cons_iff.mpr ⟨others event List.mem_cons_self _, ?_⟩
      exact induction fun other member => others other (List.mem_cons_of_mem _ member)

theorem of_suffix {earlier : List Event} (lawfully : Throughout lawful history)
    (suffix : earlier <:+ history) : Throughout lawful earlier :=
  fun event before within => lawfully event before (within.trans suffix)

theorem imp {other : Event → List Event → Prop} (lawfully : Throughout lawful history)
    (weaker : ∀ event earlier, lawful event earlier → other event earlier) :
    Throughout other history :=
  fun event earlier suffix => weaker event earlier (lawfully event earlier suffix)

end Throughout

/-! ## Identifiers -/

namespace Event

def isNumbered : Event → Bool
  | .numbered _ _ => true
  | _ => false

def isNumberedByHost : Event → Bool
  | .numbered .host _ => true
  | _ => false

def numbers (identifier : Int) : Event → Bool
  | .numbered _ other => other == identifier
  | _ => false

end Event

/-! ## Exchanges

What became of an exchange is what happened since its identifier was taken: the answers that were
given to it, and the receivers that were called and that came back, in order. -/

def eventsSince (identifier : Int) (history : List Event) : List Event :=
  (history.takeWhile (!·.numbers identifier)).reverse

theorem eventsSince_cons (identifier : Int) (event : Event) (history : List Event) :
    eventsSince identifier (event :: history) =
      if event.numbers identifier then [] else eventsSince identifier history ++ [event] := by
  cases numbers : event.numbers identifier <;> simp [eventsSince, numbers]

namespace Event

/-- The outcome that an event gives an exchange as an answer to it. The end of a producer gives
none. -/
def settlement? (identifier : Int) : Event → Option (Except Failure Value)
  | .answered responder answer =>
      if responder = .exchange identifier then (Answer.outcome answer).toOption else none
  | _ => none

def isOfReceiver (identifier : Int) : Event → Bool
  | .called _ _ _ responder | .returned _ responder _ => responder == .exchange identifier
  | _ => false

def call? : Event → Option Int
  | .called subscription _ _ _ => some subscription
  | _ => none

def return? : Event → Option (Int × Except Failure Value)
  | .returned subscription _ outcome => some (subscription, outcome)
  | _ => none

end Event

def settlements (identifier : Int) (history : List Event) : List (Except Failure Value) :=
  (eventsSince identifier history).filterMap (Event.settlement? identifier)

def receiverEvents (identifier : Int) (history : List Event) : List Event :=
  (eventsSince identifier history).filter (Event.isOfReceiver identifier)

def calls (identifier : Int) (history : List Event) : List Int :=
  (receiverEvents identifier history).filterMap Event.call?

def returns (identifier : Int) (history : List Event) : List (Int × Except Failure Value) :=
  (receiverEvents identifier history).filterMap Event.return?

def failure? : Except Failure Value → Option Failure
  | .ok _ => none
  | .error failure => some failure

def failures (identifier : Int) (history : List Event) : List Failure :=
  (returns identifier history).filterMap (failure? ·.2)

/-- The outcome that the law of answers gives a request: its first answer, or else the first
failure of a receiver, or else null. -/
def lawfulOutcome (identifier : Int) (history : List Event) : Except Failure Value :=
  match (settlements identifier history).head?, (failures identifier history).head? with
  | some outcome, _ => outcome
  | none, some failure => .error failure
  | none, none => .ok .null

theorem settlements_cons (identifier : Int) (event : Event) (history : List Event) :
    settlements identifier (event :: history) =
      if event.numbers identifier then []
      else settlements identifier history ++ (event.settlement? identifier).toList := by
  unfold settlements
  rw [eventsSince_cons]
  split
  · rfl
  · rw [List.filterMap_append]
    cases settled : event.settlement? identifier <;> simp [settled]

theorem receiverEvents_cons (identifier : Int) (event : Event) (history : List Event) :
    receiverEvents identifier (event :: history) =
      if event.numbers identifier then []
      else receiverEvents identifier history ++
        if event.isOfReceiver identifier then [event] else [] := by
  unfold receiverEvents
  rw [eventsSince_cons]
  split
  · rfl
  · rw [List.filter_append]
    cases own : event.isOfReceiver identifier <;> simp [own]

def Event.IsAsideFrom (identifier : Int) (event : Event) : Prop :=
  event.numbers identifier = false ∧ event.settlement? identifier = none ∧
    event.isOfReceiver identifier = false

structure Alike (identifier : Int) (first second : List Event) : Prop where
  settlements : settlements identifier first = settlements identifier second
  receiverEvents : receiverEvents identifier first = receiverEvents identifier second

namespace Alike

variable {identifier : Int} {first second : List Event}

theorem refl (history : List Event) : Alike identifier history history := ⟨rfl, rfl⟩

theorem cons {event : Event} (aside : event.IsAsideFrom identifier)
    (alike : Alike identifier first second) : Alike identifier (event :: first) second := by
  rcases aside with ⟨other, silent, unrelated⟩
  constructor
  · rw [settlements_cons, other, silent, alike.settlements]
    simp
  · rw [receiverEvents_cons, other, unrelated, alike.receiverEvents]
    simp

theorem calls (alike : Alike identifier first second) :
    calls identifier first = calls identifier second := by
  rw [Session.calls, alike.receiverEvents, Session.calls]

theorem returns (alike : Alike identifier first second) :
    returns identifier first = returns identifier second := by
  rw [Session.returns, alike.receiverEvents, Session.returns]

theorem failures (alike : Alike identifier first second) :
    failures identifier first = failures identifier second := by
  rw [Session.failures, alike.returns, Session.failures]

theorem lawfulOutcome (alike : Alike identifier first second) :
    lawfulOutcome identifier first = lawfulOutcome identifier second := by
  rw [Session.lawfulOutcome, alike.settlements, alike.failures, Session.lawfulOutcome]

end Alike

end RpcSession.Session
