import RpcSession.Decimal.Exact

/-!
# Dynamic values

Everything that peers and hosts exchange is a value: the values of JSON with whole numbers of any
size, whose objects keep the order of their members, and objects of the host itself, of which
only the type and two texts are known.
-/

namespace RpcSession

inductive Value where
  | null
  | bool (truth : Bool)
  | int (number : Int)
  | float (number : Float)
  | string (text : String)
  | array (items : List Value)
  | object (members : List (String × Value))
  /-- An object of the host: its type, the text that displays it and the text that denotes it. -/
  | foreign (type display literal : String)
  deriving Inhabited

namespace Value

def isNull : Value → Bool
  | null => true
  | _ => false

def members? : Value → Option (List (String × Value))
  | object members => some members
  | _ => none

def member? (value : Value) (name : String) : Option Value :=
  value.members?.bind (·.lookup name)

/-- Whether a value counts as true: all do but nothing, zero and the empty. -/
def isTruthy : Value → Bool
  | null => false
  | bool truth => truth
  | int number => number != 0
  | float number => number != 0
  | string text => text != ""
  | array items => !items.isEmpty
  | object members => !members.isEmpty
  | foreign _ _ _ => true

/-! ## Equality

Numbers are equal when they stand for the same number, whole or not, and the truth values count
as zero and one. Objects are equal whatever the order of their members. -/

/-- The number that a value stands for, if any: a numerator over a positive denominator. -/
def ratio? : Value → Option (Int × Nat)
  | bool truth => some (truth.toInt, 1)
  | int number => some (number, 1)
  | float number =>
      match Decimal.Exact.ofFloat number with
      | .finite negative significand exponent =>
          let (numerator, denominator) := Decimal.unscale significand 1 (-exponent)
          some (if negative then -numerator else numerator, denominator)
      | _ => none
  | _ => none

mutual

def same : Value → Value → Bool
  | null, null => true
  | string left, string right => left == right
  | array left, array right => sameItems left right
  | object left, object right => left.length == right.length && sameMembers left right
  | foreign leftType leftDisplay leftLiteral, foreign rightType rightDisplay rightLiteral =>
      leftType == rightType && leftDisplay == rightDisplay && leftLiteral == rightLiteral
  | float left, float right => left == right
  | left, right =>
      match left.ratio?, right.ratio? with
      | some (leftNumerator, leftDenominator), some (rightNumerator, rightDenominator) =>
          leftNumerator * rightDenominator == rightNumerator * leftDenominator
      | _, _ => false

def sameItems : List Value → List Value → Bool
  | [], [] => true
  | left :: lefts, right :: rights => left.same right && sameItems lefts rights
  | _, _ => false

def sameMembers : List (String × Value) → List (String × Value) → Bool
  | [], _ => true
  | (name, left) :: lefts, rights =>
      (match rights.lookup name with
        | some right => left.same right
        | none => false) && sameMembers lefts rights

end

example : (int 1).same (bool true) = true := by rfl

example :
    (object [("a", null), ("b", int 2)]).same (object [("b", int 2), ("a", null)]) = true := by
  rfl

end Value

end RpcSession
