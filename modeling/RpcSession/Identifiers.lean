/-!
# Identifiers

Requests, notifications and progress tokens of a session are numbered from one counter, so no two
of them ever have the same number.
-/

namespace RpcSession

structure Identifiers where
  next : Int := 1
  deriving DecidableEq, Repr, Inhabited

namespace Identifiers

def take (identifiers : Identifiers) : Int × Identifiers :=
  (identifiers.next, ⟨identifiers.next + 1⟩)

@[simp] theorem take_fst (identifiers : Identifiers) : identifiers.take.1 = identifiers.next := rfl

theorem next_lt_next_take (identifiers : Identifiers) :
    identifiers.next < identifiers.take.2.next := by
  simp only [take]
  omega

inductive Query where
  | take
  | peek
  deriving DecidableEq, Repr

def answers (identifiers : Identifiers) : List Query → List Int
  | [] => []
  | .peek :: queries => identifiers.next :: answers identifiers queries
  | .take :: queries => identifiers.next :: answers identifiers.take.2 queries

example : answers ⟨5⟩ [.take, .peek, .take] = [5, 6, 6] := rfl

end Identifiers

end RpcSession
