import RpcSession.Proofs.Dispatch
import RpcSession.Proofs.RequestFailure

/-!
# The registry as one list

At every moment of a run the registry of a session behaves as the list of entries that its history
comes to. What a call of a method does, to receivers and to its caller, follows from that list.
-/

namespace RpcSession.Session

open Registry (Entry Represents receiversFor without)

variable {session : Session} {invoke : Invoke} {name : String} {params : Value}
variable {listed : List (Entry Receiver)} {identifier : Int} {answerable strict : Bool}

/-! ## Calls of methods -/

/-- What the entries of a registry say of a call of a method: whether it reaches receivers, which
ones at most, and whether it is refused as unknown. -/
structure CallFollows {α : Type} (listed : List (Entry Receiver)) (strict : Bool)
    (identifier : Int) (name : String) (result : Outcome α × Session) : Prop where
  reached : calls identifier result.2.history ≠ [] ↔
    (name ≠ "initialize" ∧ name ≠ "exit") ∧ ∃ entry ∈ listed, entry.method = name
  ordered : calls identifier result.2.history <+: (receiversFor name listed).map (·.1)
  unknown : (result.1 = .failed (.peer (.unknownMethod (.string name))) ∧
      calls identifier result.2.history = []) ↔
    strict = true ∧ (name ≠ "initialize" ∧ name ≠ "exit") ∧
      ∀ entry ∈ listed, entry.method ≠ name

theorem CallFollows.transfer {α β : Type} {result : Outcome α × Session}
    {other : Outcome β × Session} (follows : CallFollows listed strict identifier name result)
    (failed : ∀ failure, other.1 = .failed failure ↔ result.1 = .failed failure)
    (alike : Alike identifier other.2.history result.2.history) :
    CallFollows listed strict identifier name other := by
  constructor
  · rw [alike.calls]
    exact follows.reached
  · rw [alike.calls]
    exact follows.ordered
  · rw [alike.calls, failed]
    exact follows.unknown

theorem refusesMethod_iff (represents : Represents session.registry listed) (name : String) :
    session.refusesMethod name = true ↔
      session.configuration.strictMethods = true ∧ (name ≠ "initialize" ∧ name ≠ "exit") ∧
        ∀ entry ∈ listed, entry.method ≠ name := by
  have lacks : session.registry.hasReceivers name = false ↔
      ∀ entry ∈ listed, entry.method ≠ name := by
    rw [← Bool.not_eq_true, represents.hasReceivers_iff]
    simp
  rw [refusesMethod, ← lacks]
  simp [and_assoc]

private theorem route_follows_dispatched (moving : Invoke.Moves invoke)
    (represents : Represents session.registry listed)
    (receiving : Receiving answerable identifier [] session) (params : Value)
    (custom : name ≠ "initialize" ∧ name ≠ "exit")
    (held : session.registry.hasReceivers name = true) :
    CallFollows listed session.configuration.strictMethods identifier name
      (route invoke (.string name) params answerable identifier session) := by
  rcases route_end moving receiving params custom held with
    ⟨shared, recent, outcome, trace, received, _⟩
  have some : session.registry.receivers name ≠ [] := by
    simpa [Registry.hasReceivers] using held
  have present := (represents.hasReceivers_iff name).mp held
  have called : calls identifier
      (route invoke (.string name) params answerable identifier session).2.history =
        recent.filterMap Event.call? := by
    rw [calls, received]
  constructor
  · rw [called]
    exact ⟨fun _ => ⟨custom, present⟩, fun _ => trace.calls_ne_nil some⟩
  · rw [called, ← represents.receivers]
    exact trace.calls_prefix
  · rw [called]
    constructor
    · rintro ⟨_, none⟩
      exact absurd none (trace.calls_ne_nil some)
    · rintro ⟨_, _, none⟩
      rcases present with ⟨entry, member, named⟩
      exact absurd named (none entry member)

private theorem route_follows_aside (represents : Represents session.registry listed)
    (receiving : Receiving answerable identifier [] session) (params : Value)
    (aside : ¬session.IsDispatched (.string name)) :
    CallFollows listed session.configuration.strictMethods identifier name
      (route invoke (.string name) params answerable identifier session) := by
  have result := route_aside_result invoke params answerable identifier aside
  have after := receiving.moves (route_aside_moves invoke params answerable identifier aside)
  have nobody : calls identifier
      (route invoke (.string name) params answerable identifier session).2.history = [] := by
    rw [calls, after.received]
    rfl
  constructor
  · rw [nobody]
    constructor
    · intro some
      exact absurd rfl some
    · rintro ⟨custom, held⟩
      exact absurd ⟨name, rfl, custom, (represents.hasReceivers_iff name).mpr held⟩ aside
  · rw [nobody]
    exact List.nil_prefix
  · rw [nobody, ← refusesMethod_iff represents name]
    split at result
    · rename_i unknown
      simp [result, unknown]
    · rename_i known
      rcases result with ⟨handled, came⟩
      simp [came, known]

theorem route_follows (moving : Invoke.Moves invoke)
    (represents : Represents session.registry listed)
    (receiving : Receiving answerable identifier [] session) (name : String) (params : Value) :
    CallFollows listed session.configuration.strictMethods identifier name
      (route invoke (.string name) params answerable identifier session) := by
  by_cases dispatched : session.IsDispatched (.string name)
  · rcases dispatched with ⟨other, same, custom, held⟩
    cases same
    exact route_follows_dispatched moving represents receiving params custom held
  · exact route_follows_aside represents receiving params dispatched

private theorem request_follows (moving : Invoke.Moves invoke)
    (represents : Represents session.registry listed)
    (live : session.lifecycle.stopped = false) (name : String) (params : Value)
    (onAcknowledge : Option (Int → Program)) :
    CallFollows listed session.configuration.strictMethods session.identifiers.next name
      (request invoke (.string name) params onAcknowledge session) := by
  have receiving := dispatching_receiving session (.string name) true
  have same : Represents (session.dispatching (.string name) true).registry listed := represents
  have follows : CallFollows listed session.configuration.strictMethods session.identifiers.next
      name (route invoke (.string name) params true session.identifiers.next
        (session.dispatching (.string name) true)) :=
    route_follows moving same receiving name params
  rw [request_of_live invoke _ params onAcknowledge live, Action.bind_apply]
  cases came : route invoke (.string name) params true session.identifiers.next
      (session.dispatching (.string name) true) with
  | mk outcome middle =>
      rw [came] at follows
      cases outcome with
      | failed failure => exact follows.transfer (fun _ => by simp) (.refl _)
      | exhausted => exact follows.transfer (fun _ => by simp) (.refl _)
      | value handled =>
          have routed := route_routed moving receiving came
          rcases finishRequest_finished routed onAcknowledge handled with
            ⟨report, after, same, finished⟩
          dsimp only
          rw [same]
          exact follows.transfer (fun _ => by simp) finished.alike

private theorem notify_follows (moving : Invoke.Moves invoke)
    (represents : Represents session.registry listed)
    (live : session.lifecycle.stopped = false) (name : String) (params : Value) :
    CallFollows listed session.configuration.strictMethods session.identifiers.next name
      (notify invoke (.string name) params session) := by
  have receiving := dispatching_receiving session (.string name) false
  have same : Represents (session.dispatching (.string name) false).registry listed := represents
  have follows : CallFollows listed session.configuration.strictMethods session.identifiers.next
      name (route invoke (.string name) params false session.identifiers.next
        (session.dispatching (.string name) false)) :=
    route_follows moving same receiving name params
  rw [notify, Action.bind_apply, accept_of_live invoke _ params false live, Action.bind_apply]
  cases came : route invoke (.string name) params false session.identifiers.next
      (session.dispatching (.string name) false) with
  | mk outcome middle =>
      rw [came] at follows
      cases outcome <;> exact follows.transfer (fun _ => by simp) (.refl _)

/-! ## The law of the registry -/

/-- A session whose registry is one list of entries, to which registering appends an entry under
a new subscription and from which unregistering deletes one. -/
structure RegistryFollows (fuel : Nat) (listed : List (Entry Receiver)) (session : Session) :
    Prop where
  size : session.registry.size = listed.length
  hasReceivers : ∀ method,
    session.registry.hasReceivers method = true ↔ ∃ entry ∈ listed, entry.method = method
  methods : ∀ method,
    method ∈ session.registry.methods ↔ ∃ entry ∈ listed, entry.method = method
  distinct : session.registry.methods.Nodup
  ordered : session.registry.methods.Pairwise fun first second =>
    appearance first session.history < appearance second session.history
  once : (registrations session.history).Nodup ∧ (removals session.history).Nodup
  register : ∀ method receiver,
    let result := registerReceiver method receiver session
    ∃ subscription, result.1 = .value subscription ∧
      subscription ∉ registrations session.history ∧
      registrations result.2.history = subscription :: registrations session.history ∧
      entries result.2.history = listed ++ [⟨subscription, method, receiver⟩]
  unregister : ∀ subscription,
    let result := Session.unregister subscription session
    let present := listed.any (·.subscription == subscription)
    result.1 = .value present ∧
      removals result.2.history =
        (if present then [subscription] else []) ++ removals session.history ∧
      entries result.2.history = without subscription listed
  dispatch : ∀ method params responder,
    let receivers := receiversFor method listed
    let result := Session.dispatch (run fuel) method params responder session
    (receivers = [] → ∃ logged, result = (.value 0, session.noting (.logged logged))) ∧
    (receivers ≠ [] →
      FannedOut (run fuel) method params responder (tally receivers) receivers session result)
  runs : ∀ method params responder subscription handler before,
    runCalled (run fuel) method params responder (subscription, .host handler) before =
      run fuel (handler params responder)
        (before.noting (.called subscription method params responder))
  call : session.lifecycle.stopped = false → ∀ name params onAcknowledge,
    let strict := session.configuration.strictMethods
    CallFollows listed strict session.identifiers.next name
      (request (run fuel) (.string name) params onAcknowledge session) ∧
    CallFollows listed strict session.identifiers.next name
      (notify (run fuel) (.string name) params session)

private theorem Registered.unregister_follows (registered : Registered session)
    (subscription : Int) :
    let result := unregister subscription session
    let present := (entries session.history).any (·.subscription == subscription)
    result.1 = .value present ∧
      removals result.2.history =
        (if present then [subscription] else []) ++ removals session.history ∧
      entries result.2.history = without subscription (entries session.history) := by
  intro result present
  have absent := registered.represents.unregister?_eq_none_iff subscription
  cases found : session.registry.unregister? subscription with
  | none =>
      have apart := absent.mp found
      have none : present = false := by
        simpa [present] using apart
      have same : result = (.value false, session) := unregister_apply_of_none found
      rw [same, none]
      refine ⟨rfl, rfl, ?_⟩
      exact (List.filter_eq_self.mpr fun entry member => by simpa using apart entry member).symm
  | some removed =>
      rcases removed with ⟨method, registry⟩
      have held : present = true := by
        by_contra gone
        have apart := absent.mpr (by simpa [present] using gone)
        rw [apart] at found
        cases found
      rcases unregister_apply_of_some found with ⟨logged, applied⟩
      have same : result = (.value true,
          (session.unsubscribing subscription registry).noting (.logged logged)) := applied
      rw [same, held]
      exact ⟨rfl, rfl, rfl⟩

/-- At every moment of every run the registry behaves as the list of entries that the
registrations and removals so far come to. -/
theorem registry_follows_entries (reachable : Reachable session) (fuel : Nat) :
    RegistryFollows fuel (entries session.history) session := by
  have registered := reachable.registered
  have represents := registered.represents
  constructor
  · exact represents.size_eq
  · exact represents.hasReceivers_iff
  · exact represents.mem_methods_iff
  · exact represents.distinct
  · exact registered.ordered
  · exact ⟨registered.once, registered.removedOnce⟩
  · intro method receiver result
    rcases registerReceiver_apply session method receiver with ⟨logged, applied⟩
    have same : result = (.value session.registry.next,
        (session.subscribing method receiver).noting (.logged logged)) := applied
    rw [same]
    have fresh : session.registry.next ∉ registrations session.history := fun given =>
      absurd (registered.given _ given) (Int.lt_irrefl _)
    exact ⟨session.registry.next, rfl, fresh, rfl, rfl⟩
  · exact registered.unregister_follows
  · exact dispatch_follows represents (run fuel)
  · exact runCalled_host (run fuel)
  · intro live name params onAcknowledge strict
    exact ⟨request_follows (run_moves fuel) represents live name params onAcknowledge,
      notify_follows (run_moves fuel) represents live name params⟩

/-- Of two receivers of a method the older one is removed. The method keeps its place among the
methods, and a call of it reaches the younger one, which answers. -/
theorem registry_follows_entries_of_removal :
    let session := ({} : Session).after
      [(1, .register "a" fun _ _ => .done (.int 5)), (1, .register "b" fun _ _ => .done (.int 6)),
        (1, .register "a" fun _ _ => .done (.int 7)), (1, .unregister 1)]
    let requested := request (run 2) (.string "a") .null none session
    RegistryFollows 2 (entries session.history) session ∧
      (entries session.history).map (fun entry => (entry.subscription, entry.method)) =
        [(2, "b"), (3, "a")] ∧
      session.registry.methods = ["a", "b"] ∧
      calls session.identifiers.next (notify (run 2) (.string "a") .null session).2.history =
        [3] ∧
      returns session.identifiers.next requested.2.history = [(3, .ok (.int 7))] ∧
      requested.2.outcome? session.identifiers.next = some (.ok (.int 7)) := by
  intro session requested
  have reachable : Reachable session := (Reachable.new isNew_default).after _
  have follows := registry_follows_entries reachable 2
  have listed : (entries session.history).map (fun entry => (entry.subscription, entry.method)) =
      [(2, "b"), (3, "a")] := by decide +kernel
  -- Outcomes hold values with no decidable equality, so the request is run and not decided.
  have returned : returns session.identifiers.next requested.2.history = [(3, .ok (.int 7))] := by
    with_unfolding_all rfl
  have answered : requested.2.outcome? session.identifiers.next = some (.ok (.int 7)) := by
    with_unfolding_all rfl
  exact ⟨follows, listed, by decide +kernel, by decide +kernel, returned, answered⟩

end RpcSession.Session
