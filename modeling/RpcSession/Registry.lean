/-!
# Registry of receivers

A registry maps method names to the ordered receivers that answer them. It keeps one table per
method that has receivers, in the order in which the methods came to have some, and beside it the
method of every subscription.
-/

namespace RpcSession

structure Registry (ρ : Type) where
  tables : List (String × List (Int × ρ)) := []
  owners : List (Int × String) := []
  next : Int := 1

namespace Registry

variable {ρ : Type}

def addReceiver (method : String) (entry : Int × ρ) :
    List (String × List (Int × ρ)) → List (String × List (Int × ρ))
  | [] => [(method, [entry])]
  | (name, table) :: tables =>
      if name = method then (name, table ++ [entry]) :: tables
      else (name, table) :: addReceiver method entry tables

/-- The tables without a receiver; a table left empty is dropped. -/
def dropReceiver (method : String) (subscription : Int) :
    List (String × List (Int × ρ)) → List (String × List (Int × ρ))
  | [] => []
  | (name, table) :: tables =>
      if name = method then
        match table.filter (·.1 != subscription) with
        | [] => tables
        | rest => (name, rest) :: tables
      else (name, table) :: dropReceiver method subscription tables

def register (registry : Registry ρ) (method : String) (receiver : ρ) : Int × Registry ρ :=
  (registry.next,
    { tables := addReceiver method (registry.next, receiver) registry.tables
      owners := registry.owners ++ [(registry.next, method)]
      next := registry.next + 1 })

/-- The method that a subscription was for, and the registry without it. -/
def unregister? (registry : Registry ρ) (subscription : Int) : Option (String × Registry ρ) :=
  (registry.owners.lookup subscription).map fun method =>
    (method,
      { registry with
        tables := dropReceiver method subscription registry.tables
        owners := registry.owners.filter (·.1 != subscription) })

def size (registry : Registry ρ) : Nat := registry.owners.length

def methods (registry : Registry ρ) : List String := registry.tables.map (·.1)

def receivers (registry : Registry ρ) (method : String) : List (Int × ρ) :=
  (registry.tables.lookup method).getD []

def hasReceivers (registry : Registry ρ) (method : String) : Bool :=
  !(registry.receivers method).isEmpty

example :
    let registry := (({} : Registry String).register "a" "first").2
    let registry := (registry.register "b" "second").2
    let registry := (registry.register "a" "third").2
    registry.receivers "a" = [(1, "first"), (3, "third")] ∧ registry.methods = ["a", "b"] := by
  decide +kernel

end Registry

end RpcSession
