import Mathlib.Data.List.Nodup
import RpcSession.Registry

/-!
# Entries of a registry

A registry stands for one list of entries, in the order of their registration. Registering appends
an entry, unregistering deletes one, and every question to the registry is one to the list. The
tables by method are in step with the owners of the subscriptions, and none of them is empty.
-/

namespace RpcSession.Registry

variable {ρ : Type}

/-! ## Tables

A table that is left empty is dropped, so a method has a table exactly while it has receivers. -/

section Tables

variable {method name : String} {subscription : Int} {entry : Int × ρ}
variable {tables : List (String × List (Int × ρ))}

def names (tables : List (String × List (Int × ρ))) : List String := tables.map (·.1)

def table (tables : List (String × List (Int × ρ))) (method : String) : List (Int × ρ) :=
  (tables.lookup method).getD []

theorem table_cons (head : String × List (Int × ρ)) (tables : List (String × List (Int × ρ)))
    (method : String) :
    table (head :: tables) method = if head.1 = method then head.2 else table tables method := by
  rcases head with ⟨name, entries⟩
  by_cases same : name = method
  · simp [table, same]
  · have different : (method == name) = false := by simpa using fun equal => same equal.symm
    simp [table, same, List.lookup_cons, different]

theorem table_of_not_mem (absent : method ∉ names tables) : table tables method = [] := by
  induction tables with
  | nil => rfl
  | cons head tables induction =>
      have apart : head.1 ≠ method ∧ method ∉ names tables := by
        simpa [names, eq_comm] using absent
      rw [table_cons, if_neg apart.1]
      exact induction apart.2

theorem mem_names_iff (filled : ∀ table ∈ tables, table.2 ≠ []) :
    method ∈ names tables ↔ table tables method ≠ [] := by
  constructor
  · intro member
    induction tables with
    | nil => simp [names] at member
    | cons head tables induction =>
        rcases List.forall_mem_cons.mp filled with ⟨first, rest⟩
        rw [table_cons]
        split
        · exact first
        · rename_i different
          rcases List.mem_cons.mp member with same | later
          · exact absurd same.symm different
          · exact induction rest later
  · intro some
    by_contra absent
    exact some (table_of_not_mem absent)

theorem table_addReceiver (method : String) (entry : Int × ρ)
    (tables : List (String × List (Int × ρ))) (name : String) :
    table (addReceiver method entry tables) name =
      table tables name ++ if method = name then [entry] else [] := by
  induction tables with
  | nil =>
      rw [addReceiver, table_cons]
      rfl
  | cons head tables induction =>
      rcases head with ⟨other, entries⟩
      by_cases named : other = method
      · subst named
        rw [addReceiver, if_pos rfl, table_cons, table_cons]
        by_cases same : other = name <;> simp [same]
      · rw [addReceiver, if_neg named, table_cons, table_cons, induction]
        by_cases same : other = name
        · have different : method ≠ name := by rw [← same]; exact Ne.symm named
          simp [same, different]
        · simp [same]

theorem names_addReceiver (method : String) (entry : Int × ρ)
    (tables : List (String × List (Int × ρ))) :
    names (addReceiver method entry tables) =
      if method ∈ names tables then names tables else names tables ++ [method] := by
  induction tables with
  | nil => rfl
  | cons head tables induction =>
      rcases head with ⟨other, entries⟩
      by_cases named : other = method
      · simp [addReceiver, named, names]
      · have step : names (addReceiver method entry ((other, entries) :: tables)) =
            other :: names (addReceiver method entry tables) := by
          rw [addReceiver, if_neg named]
          rfl
        have same : method ∈ names ((other, entries) :: tables) ↔ method ∈ names tables := by
          simp [names, Ne.symm named]
        rw [step, induction]
        by_cases known : method ∈ names tables
        · rw [if_pos known, if_pos (same.mpr known)]
          rfl
        · rw [if_neg known, if_neg (fun member => known (same.mp member))]
          rfl

private theorem filled_addReceiver (filled : ∀ table ∈ tables, table.2 ≠ []) :
    ∀ table ∈ addReceiver method entry tables, table.2 ≠ [] := by
  induction tables with
  | nil => simp [addReceiver]
  | cons head tables induction =>
      rcases head with ⟨other, entries⟩
      rcases List.forall_mem_cons.mp filled with ⟨first, rest⟩
      by_cases named : other = method
      · rw [addReceiver, if_pos named]
        exact List.forall_mem_cons.mpr ⟨by simp, rest⟩
      · rw [addReceiver, if_neg named]
        exact List.forall_mem_cons.mpr ⟨first, induction rest⟩

private theorem table_dropReceiver (distinct : (names tables).Nodup) (method : String)
    (subscription : Int) (name : String) :
    table (dropReceiver method subscription tables) name =
      if method = name then (table tables name).filter (·.1 != subscription)
      else table tables name := by
  induction tables with
  | nil => simp [dropReceiver, table]
  | cons head tables induction =>
      rcases head with ⟨other, entries⟩
      rcases List.nodup_cons.mp distinct with ⟨single, rest⟩
      by_cases named : other = method
      · subst named
        rw [dropReceiver, if_pos rfl, table_cons]
        by_cases same : other = name
        · subst same
          rw [if_pos rfl, if_pos rfl]
          cases left : entries.filter (·.1 != subscription) with
          | nil => exact table_of_not_mem single
          | cons => exact (table_cons _ _ _).trans (if_pos rfl)
        · rw [if_neg same, if_neg same]
          cases entries.filter (·.1 != subscription) with
          | nil => rfl
          | cons => exact (table_cons _ _ _).trans (if_neg same)
      · rw [dropReceiver, if_neg named, table_cons, table_cons, induction rest]
        by_cases same : other = name
        · have different : method ≠ name := by rw [← same]; exact Ne.symm named
          simp [same, different]
        · simp [same]

theorem names_dropReceiver_sublist (method : String) (subscription : Int)
    (tables : List (String × List (Int × ρ))) :
    (names (dropReceiver method subscription tables)).Sublist (names tables) := by
  induction tables with
  | nil => exact List.Sublist.refl _
  | cons head tables induction =>
      rcases head with ⟨other, entries⟩
      by_cases named : other = method
      · rw [dropReceiver, if_pos named]
        cases entries.filter (·.1 != subscription) with
        | nil => exact List.sublist_cons_self _ _
        | cons => exact List.Sublist.refl _
      · rw [dropReceiver, if_neg named]
        exact induction.cons_cons other

private theorem filled_dropReceiver (filled : ∀ table ∈ tables, table.2 ≠ []) :
    ∀ table ∈ dropReceiver method subscription tables, table.2 ≠ [] := by
  induction tables with
  | nil => simp [dropReceiver]
  | cons head tables induction =>
      rcases head with ⟨other, entries⟩
      rcases List.forall_mem_cons.mp filled with ⟨first, rest⟩
      by_cases named : other = method
      · rw [dropReceiver, if_pos named]
        cases left : entries.filter (·.1 != subscription) with
        | nil => exact rest
        | cons => exact List.forall_mem_cons.mpr ⟨List.cons_ne_nil _ _, rest⟩
      · rw [dropReceiver, if_neg named]
        exact List.forall_mem_cons.mpr ⟨first, induction rest⟩

end Tables

/-! ## Entries -/

structure Entry (ρ : Type) where
  subscription : Int
  method : String
  receiver : ρ

def receiversFor (method : String) (entries : List (Entry ρ)) : List (Int × ρ) :=
  (entries.filter (·.method == method)).map fun entry => (entry.subscription, entry.receiver)

def without (subscription : Int) (entries : List (Entry ρ)) : List (Entry ρ) :=
  entries.filter (·.subscription != subscription)

variable {entries : List (Entry ρ)}

theorem receiversFor_append (method : String) (entries more : List (Entry ρ)) :
    receiversFor method (entries ++ more) =
      receiversFor method entries ++ receiversFor method more := by
  simp [receiversFor]

private theorem receiversFor_without (method : String) (subscription : Int)
    (entries : List (Entry ρ)) :
    receiversFor method (without subscription entries) =
      (receiversFor method entries).filter (·.1 != subscription) := by
  simp only [receiversFor, without, List.filter_map, List.filter_filter]
  congr 1
  apply List.filter_congr
  intro entry _
  exact Bool.and_comm _ _

theorem receiversFor_ne_nil_iff (method : String) (entries : List (Entry ρ)) :
    receiversFor method entries ≠ [] ↔ ∃ entry ∈ entries, entry.method = method := by
  simp [receiversFor]

theorem lookup_owners (subscription : Int) (entries : List (Entry ρ)) :
    (entries.map fun entry => (entry.subscription, entry.method)).lookup subscription =
      (entries.find? (·.subscription == subscription)).map (·.method) := by
  induction entries with
  | nil => rfl
  | cons entry entries induction =>
      rw [List.map_cons, List.lookup_cons, List.find?_cons, induction, BEq.comm]
      cases entry.subscription == subscription <;> rfl

/-- A registry and the list of entries that it stands for. -/
structure Represents (registry : Registry ρ) (entries : List (Entry ρ)) : Prop where
  owners : registry.owners = entries.map fun entry => (entry.subscription, entry.method)
  receivers : ∀ method, registry.receivers method = receiversFor method entries
  distinct : registry.methods.Nodup
  filled : ∀ table ∈ registry.tables, table.2 ≠ []
  increasing : entries.Pairwise (·.subscription < ·.subscription)
  bounded : ∀ entry ∈ entries, entry.subscription < registry.next

theorem represents_empty : Represents ({} : Registry ρ) [] := by
  constructor <;> simp [methods, receivers, receiversFor]

namespace Represents

variable {registry : Registry ρ} (represents : Represents registry entries)

include represents

/-! ## Questions -/

theorem size_eq : registry.size = entries.length := by
  rw [size, represents.owners, List.length_map]

theorem hasReceivers_iff (method : String) :
    registry.hasReceivers method = true ↔ ∃ entry ∈ entries, entry.method = method := by
  rw [← receiversFor_ne_nil_iff, hasReceivers, represents.receivers]
  simp

theorem mem_methods_iff (method : String) :
    method ∈ registry.methods ↔ ∃ entry ∈ entries, entry.method = method := by
  rw [← receiversFor_ne_nil_iff, ← represents.receivers]
  exact mem_names_iff represents.filled

theorem receivers_increasing (method : String) :
    (registry.receivers method).Pairwise (·.1 < ·.1) := by
  rw [represents.receivers, receiversFor, List.pairwise_map]
  exact represents.increasing.filter _

private theorem eq_of_subscription {first second : Entry ρ} (one : first ∈ entries)
    (other : second ∈ entries) (same : first.subscription = second.subscription) :
    first = second := by
  have distinct : (entries.map (·.subscription)).Nodup :=
    List.pairwise_map.mpr (represents.increasing.imp Int.ne_of_lt)
  exact List.inj_on_of_nodup_map distinct one other same

/-! ## Registering and unregistering -/

theorem register (method : String) (receiver : ρ) :
    Represents (registry.register method receiver).2
      (entries ++ [⟨registry.next, method, receiver⟩]) := by
  constructor
  · simp [Registry.register, represents.owners]
  · intro name
    have added := table_addReceiver method (registry.next, receiver) registry.tables name
    change table _ name = _
    rw [Registry.register, added, receiversFor_append, ← represents.receivers]
    by_cases same : method = name <;> simp [receiversFor, same, Registry.receivers, table]
  · have distinct := represents.distinct
    change (names (addReceiver _ _ _)).Nodup
    rw [names_addReceiver]
    split
    · exact distinct
    · rename_i unknown
      exact List.nodup_append.mpr ⟨distinct, List.nodup_singleton _, by
        intro known member other single
        rw [List.mem_singleton.mp single]
        exact fun same => unknown (same ▸ member)⟩
  · exact filled_addReceiver represents.filled
  · apply List.pairwise_append.mpr
    exact ⟨represents.increasing, List.pairwise_singleton _ _, by
      intro entry member new single
      rw [List.mem_singleton.mp single]
      exact represents.bounded entry member⟩
  · intro entry member
    change entry.subscription < registry.next + 1
    rcases List.mem_append.mp member with old | new
    · have bound := represents.bounded entry old
      omega
    · rw [List.mem_singleton.mp new]
      exact Int.lt_succ _

theorem unregister?_eq_none_iff (subscription : Int) :
    registry.unregister? subscription = none ↔
      ∀ entry ∈ entries, entry.subscription ≠ subscription := by
  rw [unregister?, represents.owners, lookup_owners]
  simp

theorem unregister {subscription : Int} {method : String} {after : Registry ρ}
    (found : registry.unregister? subscription = some (method, after)) :
    Represents after (without subscription entries) := by
  rw [unregister?, represents.owners, lookup_owners] at found
  cases held : entries.find? (·.subscription == subscription) with
  | none => simp [held] at found
  | some owner =>
      have member := List.mem_of_find?_eq_some held
      have number : owner.subscription = subscription := by simpa using List.find?_some held
      rw [held] at found
      cases found
      constructor
      · simp [without, List.filter_map, Function.comp_def]
      · intro name
        have dropped := table_dropReceiver represents.distinct owner.method subscription name
        change table _ name = _
        rw [dropped, receiversFor_without, ← represents.receivers]
        change _ = (table registry.tables name).filter _
        split
        · rfl
        · rename_i different
          symm
          apply List.filter_eq_self.mpr
          intro entry entered
          -- The subscription belongs to an entry of another method.
          have stored : entry ∈ receiversFor name entries := by
            rw [← represents.receivers]
            exact entered
          rcases List.mem_map.mp stored with ⟨origin, kept, rfl⟩
          rcases List.mem_filter.mp kept with ⟨inside, named⟩
          have apart : origin.subscription ≠ subscription := by
            intro same
            have equal := represents.eq_of_subscription inside member (same.trans number.symm)
            rw [equal] at named
            exact different (by simpa using named)
          simpa using apart
      · exact represents.distinct.sublist (names_dropReceiver_sublist _ _ _)
      · exact filled_dropReceiver represents.filled
      · exact represents.increasing.filter _
      · intro entry entered
        exact represents.bounded entry (List.mem_of_mem_filter entered)

end Represents

/-! ## Order of the methods -/

theorem methods_register (registry : Registry ρ) (method : String) (receiver : ρ) :
    (registry.register method receiver).2.methods =
      if method ∈ registry.methods then registry.methods else registry.methods ++ [method] :=
  names_addReceiver ..

theorem methods_unregister_sublist {registry after : Registry ρ} {subscription : Int}
    {method : String} (found : registry.unregister? subscription = some (method, after)) :
    after.methods.Sublist registry.methods := by
  rcases Option.map_eq_some_iff.mp found with ⟨owner, _, same⟩
  cases same
  exact names_dropReceiver_sublist ..

end RpcSession.Registry
