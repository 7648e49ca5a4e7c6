import RpcSession.Program
import RpcSession.Random.MersenneTwister

/-!
# Drawing numbers of files

A program that draws a number whenever it is run has to know how many it has drawn; it keeps that
count in a cell of its subscription.
-/

namespace RpcSession.Draw

def fewest : Nat := 15

def most : Nat := 60

/-- A program that ends with a number which depends on how often it has been run before. -/
def counted (number : (drawn : Nat) → (Int → Program) → Program) (subscription : Int) :
    Program :=
  let cell := "draws of " ++ toString subscription
  .ask (.readCell cell) fun reply =>
    let drawn := match reply with
      | .value (.int count) => count.toNat
      | _ => 0
    number drawn fun result =>
      .andThen (.writeCell cell (.int (drawn + 1 : Nat))) (.done (.int result))

def seeded (seed : Int) : (subscription : Int) → Program :=
  counted fun drawn next =>
    next ((Random.MersenneTwister.ofSeed seed).nthBetween fewest most drawn)

end RpcSession.Draw
