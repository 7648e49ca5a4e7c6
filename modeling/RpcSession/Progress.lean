import RpcSession.Message

/-!
# Progress

A progress is one unit of observable work. Each of its changes is told to the peer with everything
that is known of it then: its stage, its token, its title, a message, and a percentage if there is
one. Once it has ended it does not change any more.
-/

namespace RpcSession

inductive Progress.Stage where
  | opened
  | reported
  | ended
  deriving DecidableEq, Repr

namespace Progress.Stage

def name : Stage → String
  | opened => "begin"
  | reported => "report"
  | ended => "end"

end Progress.Stage

/-- A whole number of hundredths. -/
abbrev Percentage := Fin 101

instance Percentage.neZero : @NeZero Nat Zero.ofOfNat0 101 := ⟨Nat.succ_ne_zero 100⟩

structure Progress where
  token : Int
  stage : Progress.Stage := .opened
  title : Value
  message : Value := .string ""
  percentage : Option Percentage := none
  deriving Inhabited

/-- The percentage that a value gives; only null and whole numbers in range do. -/
def Percentage.ofValue? : Value → Except Failure (Option Percentage)
  | .null => .ok none
  | .int number =>
      if inRange : 0 ≤ number ∧ number ≤ 100 then .ok (some ⟨number.toNat, by omega⟩)
      else .error (.invalidPercentage (.int number))
  | given => .error (.invalidPercentage given)

namespace Progress

def isEnded (progress : Progress) : Bool :=
  progress.stage == .ended

def snapshot (progress : Progress) : Value :=
  let facts := [("kind", .string progress.stage.name), ("id", .int progress.token),
    ("title", progress.title), ("message", progress.message)]
  .object (match progress.percentage with
    | none => facts
    | some percentage => facts ++ [("percentage", .int percentage.val)])

def notification (progress : Progress) : Value :=
  Message.notification (.string Message.progressMethod)
    (.object [("token", .int progress.token), ("value", progress.snapshot)])

/-! ## Changes -/

def mutableFields : List String := ["message", "percentage"]

def isMutable (name : String) : Bool := mutableFields.contains name

/-- The fields of an update that it may not change, in ascending order. -/
def readOnlyFields (fields : List (String × Value)) : List String :=
  ((fields.map (·.1)).filter (!isMutable ·)).mergeSort (· ≤ ·)

/-- A progress after an update of its message, its percentage or both. -/
def update (progress : Progress) (fields : List (String × Value)) : Except Failure Progress := do
  let percentage ← match fields.lookup "percentage" with
    | some given => Percentage.ofValue? given
    | none => .ok progress.percentage
  return { progress with
    stage := .reported
    message := (fields.lookup "message").getD progress.message
    percentage }

def finish (progress : Progress) (message : Value) : Progress :=
  { progress with stage := .ended, message }

def literal (progress : Progress) : String :=
  "ProgressHandle(token=" ++ toString progress.token ++ ", kind=" ++
    Text.quoted progress.stage.name ++ ", title=" ++ progress.title.literal ++ ")"

example :
    ((⟨3, .opened, .null, .null, none⟩ : Progress).update [("percentage", .int 7)]).map
      (·.percentage) = .ok (some 7) := by
  rfl

end Progress

end RpcSession
