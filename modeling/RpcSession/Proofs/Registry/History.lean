import RpcSession.Proofs.Movement.Run
import RpcSession.Proofs.Registry.Entries

/-!
# Registrations of a session

The history of a session says which receivers were registered and which subscriptions removed,
whoever did it and when. It comes to one list of entries, and at every moment the registry stands
for that list. Its methods stand in the order in which they last came to have a receiver.
-/

namespace RpcSession.Session

open Registry (Entry Represents receiversFor without)

variable {since : Int} {session after : Session}

/-! ## Views -/

namespace Event

def isOfRegistry : Event → Bool
  | .registered _ _ _ | .unregistered _ => true
  | _ => false

def registration? : Event → Option Int
  | .registered subscription _ _ => some subscription
  | _ => none

def removal? : Event → Option Int
  | .unregistered subscription => some subscription
  | _ => none

end Event

/-- The entries that the registrations and removals so far come to. -/
def entries : List Event → List (Entry Receiver)
  | [] => []
  | .registered subscription method receiver :: earlier =>
      entries earlier ++ [⟨subscription, method, receiver⟩]
  | .unregistered subscription :: earlier => without subscription (entries earlier)
  | _ :: earlier => entries earlier

def registrations (history : List Event) : List Int := history.filterMap Event.registration?

def removals (history : List Event) : List Int := history.filterMap Event.removal?

def hasEntry (method : String) (history : List Event) : Bool :=
  (entries history).any (·.method == method)

/-- The moment at which a method last went from no entry to one. -/
def appearance (method : String) : List Event → Nat
  | [] => 0
  | event :: earlier =>
      if hasEntry method (event :: earlier) && !hasEntry method earlier then earlier.length + 1
      else appearance method earlier

theorem hasEntry_iff (method : String) (history : List Event) :
    hasEntry method history = true ↔ ∃ entry ∈ entries history, entry.method = method := by
  simp [hasEntry]

theorem entries_append {recent history : List Event}
    (others : ∀ event ∈ recent, event.isOfRegistry = false) :
    entries (recent ++ history) = entries history := by
  induction recent with
  | nil => rfl
  | cons event recent induction =>
      rcases List.forall_mem_cons.mp others with ⟨other, rest⟩
      rw [List.cons_append, ← induction rest]
      cases event with
      | registered | unregistered => cases other
      | _ => rfl

theorem registrations_append {recent history : List Event}
    (others : ∀ event ∈ recent, event.isOfRegistry = false) :
    registrations (recent ++ history) = registrations history := by
  have none : recent.filterMap Event.registration? = [] := by
    apply List.filterMap_eq_nil_iff.mpr
    intro event member
    have other := others event member
    cases event <;> simp_all [Event.isOfRegistry, Event.registration?]
  rw [registrations, List.filterMap_append, none]
  rfl

theorem removals_append {recent history : List Event}
    (others : ∀ event ∈ recent, event.isOfRegistry = false) :
    removals (recent ++ history) = removals history := by
  have none : recent.filterMap Event.removal? = [] := by
    apply List.filterMap_eq_nil_iff.mpr
    intro event member
    have other := others event member
    cases event <;> simp_all [Event.isOfRegistry, Event.removal?]
  rw [removals, List.filterMap_append, none]
  rfl

private theorem appearance_le (method : String) (history : List Event) :
    appearance method history ≤ history.length := by
  induction history with
  | nil => exact Nat.le_refl 0
  | cons event earlier induction =>
      rw [appearance]
      split
      · exact Nat.le_refl _
      · exact Nat.le_succ_of_le induction

theorem appearance_cons_of_hasEntry {method : String} {history : List Event}
    (known : hasEntry method history = true) (event : Event) :
    appearance method (event :: history) = appearance method history := by
  simp [appearance, known]

theorem appearance_append {method : String} {recent history : List Event}
    (others : ∀ event ∈ recent, event.isOfRegistry = false)
    (known : hasEntry method history = true) :
    appearance method (recent ++ history) = appearance method history := by
  induction recent with
  | nil => rfl
  | cons event recent induction =>
      rcases List.forall_mem_cons.mp others with ⟨_, rest⟩
      have still : hasEntry method (recent ++ history) = true := by
        rw [hasEntry, entries_append rest]
        exact known
      rw [List.cons_append, appearance_cons_of_hasEntry still, induction rest]

/-! ## What changes do to the registry -/

inductive RegistryChange (session after : Session) : Prop
  | aside (recent : List Event) (registry : after.registry = session.registry)
      (history : after.history = recent ++ session.history)
      (others : ∀ event ∈ recent, event.isOfRegistry = false)
  | registered (method receiver) (same : after = session.subscribing method receiver)
  | unregistered (subscription method registry)
      (found : session.registry.unregister? subscription = some (method, registry))
      (same : after = session.unsubscribing subscription registry)

private theorem Change.registry (change : Change since session after) :
    RegistryChange session after := by
  cases change with
  | registered method receiver => exact .registered method receiver rfl
  | unregistered subscription method registry found =>
      exact .unregistered subscription method registry found rfl
  | remarked event remark =>
      refine .aside [event] rfl rfl ?_
      cases event <;> simp_all [Event.isRemark, Event.isOfRegistry]
  | named | remembered | settled | kept | timerCreated | tickScheduled | timePassed =>
      exact .aside [] rfl rfl (by simp)
  | numbered | launched | unlaunched | started | terminated | refused | called | returned |
    concluded | declined | timerStopped | indexed | acknowledgementDue | acknowledged =>
      exact .aside [_] rfl rfl (by simp [Event.isOfRegistry])
  | initialized => exact .aside [_, _, _] rfl rfl (by simp [Event.isOfRegistry])
  | tickReturned index timer outcome =>
      rcases session.returning_cases index timer outcome with same | same | ⟨entry, same⟩ <;>
        rw [same]
      · exact .aside [_] rfl rfl (by simp [Event.isOfRegistry])
      · exact .aside [_] rfl rfl (by simp [Event.isOfRegistry])
      · exact .aside [_, _, _] rfl rfl (by simp [Event.isOfRegistry])
  | opened => exact .aside [_, _] rfl rfl (by simp [Event.isOfRegistry])
  | begun => exact .aside [_, _, _, _, _] rfl rfl (by simp [Event.isOfRegistry])
  | reported => exact .aside [_, _] rfl rfl (by simp [Event.isOfRegistry])
  | answered responder answer =>
      unfold answering
      split <;> exact .aside [_] rfl rfl (by simp [Event.isOfRegistry])
  | fired tick =>
      unfold firing
      split
      · exact .aside [] rfl rfl (by simp)
      · exact .aside [_] rfl rfl (by simp [Event.isOfRegistry])

/-! ## The registry and the history

At every moment the registry of a session is what its history says. -/

structure Registered (session : Session) : Prop where
  represents : Represents session.registry (entries session.history)
  ordered : session.registry.methods.Pairwise fun first second =>
    appearance first session.history < appearance second session.history
  given : ∀ subscription ∈ registrations session.history, subscription < session.registry.next
  once : (registrations session.history).Nodup
  gone : ∀ subscription ∈ removals session.history, subscription < session.registry.next ∧
    ∀ entry ∈ entries session.history, entry.subscription ≠ subscription
  removedOnce : (removals session.history).Nodup

namespace Registered

theorem of_new (new : session.IsNew) : Registered session := by
  constructor <;> rw [new.history] <;> try rw [new.registry]
  · exact Registry.represents_empty
  · exact List.Pairwise.nil
  all_goals simp [registrations, removals]

theorem hasEntry_of_mem_methods (registered : Registered session) {method : String}
    (member : method ∈ session.registry.methods) : hasEntry method session.history = true :=
  (hasEntry_iff _ _).mpr ((registered.represents.mem_methods_iff method).mp member)

private theorem appearance_of_first {method : String} (receiver : Receiver)
    (absent : hasEntry method session.history = false) :
    appearance method (session.subscribing method receiver).history =
      session.history.length + 1 := by
  have present : hasEntry method (session.subscribing method receiver).history = true := by
    simp [hasEntry, entries, Session.subscribing, noting]
  have latest : (session.subscribing method receiver).history =
    .registered session.registry.next method receiver :: session.history := rfl
  rw [latest] at present ⊢
  simp [appearance, present, absent]

private theorem ordered_subscribing (registered : Registered session) (method : String)
    (receiver : Receiver) :
    (session.subscribing method receiver).registry.methods.Pairwise fun first second =>
      appearance first (session.subscribing method receiver).history <
        appearance second (session.subscribing method receiver).history := by
  have same (name : String) (member : name ∈ session.registry.methods) :
      appearance name (session.subscribing method receiver).history =
        appearance name session.history :=
    appearance_cons_of_hasEntry (registered.hasEntry_of_mem_methods member) _
  have earlier : session.registry.methods.Pairwise fun first second =>
      appearance first (session.subscribing method receiver).history <
        appearance second (session.subscribing method receiver).history := by
    apply registered.ordered.imp_of_mem
    intro first second one other less
    rw [same first one, same second other]
    exact less
  change (session.registry.register method receiver).2.methods.Pairwise _
  rw [Registry.methods_register]
  split
  · exact earlier
  · rename_i unknown
    refine List.pairwise_append.mpr ⟨earlier, List.pairwise_singleton _ _, ?_⟩
    intro name member new single
    have absent : hasEntry method session.history = false := by
      rw [← Bool.not_eq_true, hasEntry_iff, ← registered.represents.mem_methods_iff]
      exact unknown
    rw [List.mem_singleton.mp single, same name member, appearance_of_first receiver absent]
    exact Nat.lt_succ_of_le (appearance_le name session.history)

private theorem subscribing (registered : Registered session) (method : String)
    (receiver : Receiver) :
    Registered (session.subscribing method receiver) := by
  constructor
  · exact registered.represents.register method receiver
  · exact registered.ordered_subscribing method receiver
  · intro subscription member
    change subscription < session.registry.next + 1
    rcases List.mem_cons.mp member with same | old
    · omega
    · have bound := registered.given subscription old
      omega
  · apply List.nodup_cons.mpr
    exact ⟨fun member => absurd (registered.given _ member) (Int.lt_irrefl _), registered.once⟩
  · intro subscription member
    rcases registered.gone subscription member with ⟨below, absent⟩
    refine ⟨Int.lt_add_one_of_le (Int.le_of_lt below), ?_⟩
    intro entry held
    rcases List.mem_append.mp held with old | new
    · exact absent entry old
    · rw [List.mem_singleton.mp new]
      exact Int.ne_of_gt below
  · exact registered.removedOnce

private theorem unsubscribing (registered : Registered session) {subscription : Int}
    {method : String} {registry : Registry Receiver}
    (found : session.registry.unregister? subscription = some (method, registry)) :
    Registered (session.unsubscribing subscription registry) := by
  have held : ∃ entry ∈ entries session.history, entry.subscription = subscription := by
    by_contra absent
    have none := (registered.represents.unregister?_eq_none_iff subscription).mpr
      fun entry member same => absent ⟨entry, member, same⟩
    rw [none] at found
    cases found
  rcases held with ⟨owner, member, number⟩
  have below := registered.represents.bounded owner member
  rw [number] at below
  have bound : (session.unsubscribing subscription registry).registry.next =
      session.registry.next := by
    rcases Option.map_eq_some_iff.mp found with ⟨_, _, same⟩
    cases same
    rfl
  constructor
  · exact registered.represents.unregister found
  · apply (registered.ordered.sublist (Registry.methods_unregister_sublist found)).imp_of_mem
    intro first second one other less
    have sublist := (Registry.methods_unregister_sublist found).subset
    rw [Session.unsubscribing, noting,
      appearance_cons_of_hasEntry (registered.hasEntry_of_mem_methods (sublist one)),
      appearance_cons_of_hasEntry (registered.hasEntry_of_mem_methods (sublist other))]
    exact less
  · intro given member
    rw [bound]
    exact registered.given given member
  · exact registered.once
  · intro removed member
    rcases List.mem_cons.mp member with same | old
    · subst same
      refine ⟨bound.symm ▸ below, ?_⟩
      intro entry kept
      simpa using (List.mem_filter.mp kept).2
    · rcases registered.gone removed old with ⟨earlier, absent⟩
      refine ⟨bound.symm ▸ earlier, ?_⟩
      intro entry kept
      exact absent entry (List.mem_of_mem_filter kept)
  · apply List.nodup_cons.mpr
    refine ⟨?_, registered.removedOnce⟩
    intro again
    exact (registered.gone subscription again).2 owner member number

theorem change (registered : Registered session) (change : Change since session after) :
    Registered after := by
  cases change.registry with
  | registered method receiver same =>
      rw [same]
      exact registered.subscribing method receiver
  | unregistered subscription method registry found same =>
      rw [same]
      exact registered.unsubscribing found
  | aside recent registry history others =>
      constructor
      · rw [registry, history, entries_append others]
        exact registered.represents
      · rw [registry, history]
        apply registered.ordered.imp_of_mem
        intro first second one other less
        rw [appearance_append others (registered.hasEntry_of_mem_methods one),
          appearance_append others (registered.hasEntry_of_mem_methods other)]
        exact less
      · rw [registry, history, registrations_append others]
        exact registered.given
      · rw [history, registrations_append others]
        exact registered.once
      · rw [registry, history, removals_append others, entries_append others]
        exact registered.gone
      · rw [history, removals_append others]
        exact registered.removedOnce

end Registered

theorem Reachable.registered (reachable : Reachable session) : Registered session :=
  reachable.preserves (fun _ => Registered.of_new) fun _ _ _ registered change =>
    registered.change change

end RpcSession.Session
