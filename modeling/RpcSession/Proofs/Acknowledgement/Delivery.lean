import RpcSession.Proofs.Acknowledgement.Queue
import RpcSession.Proofs.Likeness.Kept
import RpcSession.Proofs.RequestOutcome

/-!
# Delivery of acknowledgements

A request that wants to be acknowledged is owed that when it comes back, once and under its own
identifier, and not if it fails. Requests nested in it come back first, and have greater
identifiers.
-/

namespace RpcSession.Session

variable {session before after : Session} {recent base : List Event} {bound identifier : Int}
variable {fuel : Nat} {method params : Value} {onAcknowledge : Option (Int → Program)}

/-! ## What comes due from some moment on -/

/-- A session whose history goes on from a base, with nothing due since then below a bound that the
counter has reached. -/
structure OwesFrom (bound : Int) (base : List Event) (session : Session) : Prop where
  next : bound ≤ session.identifiers.next
  owed : ∃ recent, session.history = recent ++ base ∧ ∀ identifier ∈ dues recent, bound ≤ identifier

theorem OwesFrom.refl (session : Session) :
    OwesFrom session.identifiers.next session.history session :=
  ⟨Int.le_refl _, [], rfl, fun _ member => by cases member⟩

theorem OwesFrom.recording (owes : OwesFrom bound base session) (recent : List Event)
    (grown : after.history = recent ++ session.history)
    (due : ∀ identifier ∈ dues recent, bound ≤ identifier)
    (next : session.identifiers.next ≤ after.identifiers.next) : OwesFrom bound base after := by
  rcases owes.owed with ⟨older, history, bounded⟩
  refine ⟨Int.le_trans owes.next next, recent ++ older, ?_, ?_⟩
  · rw [grown, history, List.append_assoc]
  · intro identifier member
    rw [dues_append, List.mem_append] at member
    rcases member with earlier | now
    · exact bounded identifier earlier
    · exact due identifier now

theorem OwesFrom.silent (owes : OwesFrom bound base session) (recent : List Event)
    (grown : after.history = recent ++ session.history) (silent : dues recent = [])
    (next : session.identifiers.next ≤ after.identifiers.next) : OwesFrom bound base after :=
  owes.recording recent grown (by simp [silent]) next

theorem dues_of_free {event : Event} (free : event.isBound = false) : dues [event] = [] := by
  cases event <;> first | rfl | cases free

theorem next_le_numbering (session : Session) (use : IdentifierUse) :
    session.identifiers.next ≤ (session.numbering use).identifiers.next :=
  Int.le_of_lt session.identifiers.next_lt_next_take

theorem isKept_owesFrom (bound : Int) (base : List Event) : IsKept (OwesFrom bound base) where
  agreeing owes agrees :=
    owes.silent [] agrees.history rfl agrees.next_le
  noting owes event free := owes.silent [event] rfl (dues_of_free free) (Int.le_refl _)
  numbering {session} owes use _ :=
    owes.silent [.numbered use _] rfl rfl (next_le_numbering session use)
  naming owes _ _ _ := ⟨owes.next, owes.owed⟩
  restarting owes _ := owes.silent [.started _] rfl rfl (Int.le_refl _)
  starting {session} owes _ _ entry :=
    owes.silent [.started _, .logged entry, .launcherReturned _, .numbered .session _]
      rfl rfl (next_le_numbering session .session)
  launching owes _ identifier entry :=
    owes.silent [.started identifier, .logged entry, .launcherReturned identifier]
      rfl rfl (Int.le_refl _)
  finishing {session _ _ _ _ _} owes _ routed onAcknowledge := by
    refine finishRequest_kept ?_ ?_ ?_ routed onAcknowledge
    · intro first second owes agrees
      exact owes.silent [] agrees.history rfl agrees.next_le
    · intro middle outcome owes
      exact owes.silent [.concluded _ outcome] rfl rfl (Int.le_refl _)
    · intro middle later
      refine later.recording [.acknowledgementDue _] rfl ?_ (Int.le_refl _)
      intro identifier member
      cases List.mem_singleton.mp member
      exact owes.next

theorem route_owesFrom (session : Session) (fuel : Nat) (method params : Value)
    (answerable : Bool) :
    OwesFrom (session.identifiers.next + 1) (session.dispatching method answerable).history
      (route (run fuel) method params answerable session.identifiers.next
        (session.dispatching method answerable)).2 :=
  ((isKept_owesFrom _ _).leads fuel answerable method params _ trivial).kept
    (.refl (session.dispatching method answerable))

/-! ## What is due -/

/-- What is due is due to a request that has just been concluded. Requests that came in meanwhile
have greater identifiers, and those due before it came in have smaller ones. -/
def LawfulDue (event : Event) (earlier : List Event) : Prop :=
  ∀ identifier, event = .acknowledgementDue identifier →
    ∃ outcome inside method before,
      earlier = .concluded identifier outcome ::
        inside ++ .numbered .request identifier :: .arrived method true true :: before ∧
      (∀ other ∈ dues inside, identifier < other) ∧ ∀ other ∈ dues before, other < identifier

structure Owing (session : Session) : Prop where
  taken : ∀ identifier ∈ dues session.history, identifier < session.identifiers.next
  lawful : Throughout LawfulDue session.history

theorem Owing.silent (owing : Owing session) (recent : List Event)
    (grown : after.history = recent ++ session.history) (silent : dues recent = [])
    (next : session.identifiers.next ≤ after.identifiers.next) : Owing after := by
  constructor
  · intro identifier member
    rw [grown, dues_append, silent, List.append_nil] at member
    exact Int.lt_of_lt_of_le (owing.taken identifier member) next
  · rw [grown]
    apply owing.lawful.append
    rintro event member earlier identifier rfl
    have listed := mem_dues.mpr member
    rw [silent] at listed
    cases listed

private theorem Owing.owed (owing : Owing session) (taken : identifier < session.identifiers.next)
    (lawful : LawfulDue (.acknowledgementDue identifier) session.history)
    (grown : after.history = .acknowledgementDue identifier :: session.history)
    (next : session.identifiers.next ≤ after.identifiers.next) : Owing after := by
  constructor
  · intro other member
    rw [grown, dues_cons, List.mem_append] at member
    rcases member with earlier | now
    · exact Int.lt_of_lt_of_le (owing.taken other earlier) next
    · cases List.mem_singleton.mp now
      exact Int.lt_of_lt_of_le taken next
  · rw [grown]
    exact Throughout.cons_iff.mpr ⟨lawful, owing.lawful⟩

/-- What a request that was entered with `session` has recorded when it comes back: its number, what
happened inside it, its conclusion and, if it wants to be acknowledged, that this is due. -/
structure CameBack (method : Value) (onAcknowledge : Option (Int → Program)) (session : Session)
    (report : RequestReport) (inside : List Event) (before after : Session) : Prop where
  number : report.identifier = session.identifiers.next
  history : before.history =
    inside ++ .numbered .request report.identifier :: .arrived method true true :: session.history
  inside : ∀ other ∈ dues inside, report.identifier < other
  taken : report.identifier < before.identifiers.next
  identifiers : after.identifiers = before.identifiers
  ended : after.history =
    (if onAcknowledge.isSome then [.acknowledgementDue report.identifier] else []) ++
      .concluded report.identifier report.outcome :: before.history

theorem finishRequest_cameBack {handled : Bool}
    (came : route (run fuel) method params true session.identifiers.next
      (session.dispatching method true) = (.value handled, before))
    (onAcknowledge : Option (Int → Program)) :
    let result := finishRequest session.identifiers.next onAcknowledge handled before
    ∃ report inside, result.1 = .value report ∧
      CameBack method onAcknowledge session report inside before result.2 := by
  intro result
  have way := route_owesFrom session fuel method params true
  rw [came] at way
  rcases way.owed with ⟨recent, grown, later⟩
  rcases dispatching_history session method true with ⟨entry, entered⟩
  rcases finishRequest_routed (route_routed (run_moves fuel)
    (dispatching_receiving session method true) came) onAcknowledge handled with
    ⟨concluded, origin, _, same⟩
  have kept : concluded.history = before.history ∧
      concluded.identifiers = before.identifiers := by
    rcases origin with rfl | ⟨_, rfl⟩ <;> exact ⟨rfl, rfl⟩
  have steps : result = _ := same
  rw [steps]
  refine ⟨_, recent ++ [.logged entry], rfl, rfl, ?_, ?_, ?_, ?_, ?_⟩
  · have older : before.history = recent ++ (session.dispatching method true).history := grown
    simp [older, entered]
  · intro other member
    rw [dues_append] at member
    exact later other member
  · exact Int.lt_of_lt_of_le (Int.lt_succ _) way.next
  · cases onAcknowledge <;> exact kept.2
  · cases onAcknowledge with
    | none => exact congrArg (_ :: ·) kept.1
    | some callback => exact congrArg (_ :: _ :: ·) kept.1

private theorem Owing.cameBack {report : RequestReport} {inside : List Event}
    (owing : Owing session) (routed : Owing before)
    (back : CameBack method onAcknowledge session report inside before after) : Owing after := by
  have next := Int.le_of_eq (congrArg Identifiers.next back.identifiers.symm)
  have ended := back.ended
  cases onAcknowledge with
  | none => exact routed.silent [.concluded _ report.outcome] ended rfl next
  | some callback =>
      have concluded : Owing (before.noting (.concluded report.identifier report.outcome)) :=
        routed.silent [.concluded _ report.outcome] rfl rfl (Int.le_refl _)
      refine concluded.owed back.taken ?_ ended next
      rintro identifier same
      cases same
      refine ⟨report.outcome, inside, method, session.history, ?_, back.inside, ?_⟩
      · exact congrArg (_ :: ·) back.history
      · rw [back.number]
        exact owing.taken

theorem isKept_owing : IsKept Owing where
  agreeing owing agrees :=
    owing.silent [] agrees.history rfl agrees.next_le
  noting owing event free :=
    owing.silent [event] rfl (dues_of_free free) (Int.le_refl _)
  numbering {session} owing use _ :=
    owing.silent [.numbered use _] rfl rfl (next_le_numbering session use)
  naming owing _ _ _ := ⟨owing.taken, owing.lawful⟩
  restarting owing _ := owing.silent [.started _] rfl rfl (Int.le_refl _)
  starting {session} owing _ _ entry :=
    owing.silent [.started _, .logged entry, .launcherReturned _, .numbered .session _]
      rfl rfl (next_le_numbering session .session)
  launching owing _ identifier entry :=
    owing.silent [.started identifier, .logged entry, .launcherReturned identifier]
      rfl rfl (Int.le_refl _)
  finishing {session before method params fuel handled} owing came routed onAcknowledge := by
    rcases finishRequest_cameBack came onAcknowledge with ⟨report, inside, _, back⟩
    exact owing.cameBack routed back

theorem Owing.of_new {start : Session} (new : start.IsNew) : Owing start := by
  constructor
  · simp [new.history, dues]
  · rw [new.history]
    exact .nil

private theorem dues_nodup {history : List Event} (lawful : Throughout LawfulDue history) :
    (dues history).Nodup := by
  induction history with
  | nil => exact List.nodup_nil
  | cons event history induction =>
      rcases Throughout.cons_iff.mp lawful with ⟨now, before⟩
      rw [dues_cons]
      cases due : event.due? with
      | none => simpa using induction before
      | some identifier =>
          have same : event = .acknowledgementDue identifier := by
            cases event <;> simp_all [Event.due?]
          rcases now identifier same with ⟨outcome, inside, method, earlier, split, later, sooner⟩
          refine List.nodup_append.mpr ⟨induction before, by simp, ?_⟩
          intro other member number single
          cases List.mem_singleton.mp single
          have listed : other ∈ dues earlier ∨ other ∈ dues inside := by
            rw [split] at member
            simpa [dues_append, dues_cons, Event.due?] using member
          rcases listed with old | young
          · have less := sooner other old
            omega
          · have less := later other young
            omega

/-! ## Single requests

A request that came in but does not come back, or wants no acknowledgement, leaves due only what
was requested inside it. -/

/-- How a request goes about its acknowledgement. If it comes back and wants one, that is due at the
end of the call and waits behind all others; else nothing comes due under its identifier, then or
later. -/
structure RequestOwes (fuel : Nat) (before : Session) : Prop where
  returned (method params : Value) (callback : Int → Program) (report : RequestReport)
    (after : Session)
    (came : request (run fuel) method params (some callback) before = (.value report, after)) :
    (∃ inside, after.history = .acknowledgementDue report.identifier ::
        .concluded report.identifier report.outcome :: inside ++ before.history ∧
      ∀ identifier ∈ dues inside, report.identifier < identifier) ∧
    (∃ ready, after.loop.ready = ready ++ [⟨report.identifier, callback⟩]) ∧
    after.outcome? report.identifier = some report.outcome
  unowed (method params : Value) (onAcknowledge : Option (Int → Program))
    (without : onAcknowledge = none ∨ ∀ report : RequestReport,
      (request (run fuel) method params onAcknowledge before).1 ≠ .value report)
    (live : before.lifecycle.stopped = false) :
    let after := (request (run fuel) method params onAcknowledge before).2
    (∀ fuel program,
      OwesFrom (before.identifiers.next + 1) before.history (run fuel program after).2) ∧
    ∀ operations, OwesFrom (before.identifiers.next + 1) before.history (after.after operations)
  refused (method params : Value) (onAcknowledge : Option (Int → Program))
    (stopped : before.lifecycle.stopped = true) :
    (request (run fuel) method params onAcknowledge before).2.history =
      .arrived method true false :: before.history

private theorem request_cameBack {report : RequestReport}
    (came : request (run fuel) method params onAcknowledge session = (.value report, after)) :
    ∃ inside before, CameBack method onAcknowledge session report inside before after := by
  cases stopped : session.lifecycle.stopped with
  | true =>
      rw [request_of_stopped (run fuel) method params onAcknowledge stopped] at came
      cases came
  | false =>
      rw [request_of_live (run fuel) method params onAcknowledge stopped] at came
      rcases Action.value_of_bind came with ⟨handled, before, went, rest⟩
      rcases finishRequest_cameBack went onAcknowledge with ⟨other, inside, value, back⟩
      rw [rest] at value back
      cases value
      exact ⟨inside, before, back⟩

private theorem request_owesFrom (live : session.lifecycle.stopped = false)
    (without : onAcknowledge = none ∨ ∀ report : RequestReport,
      (request (run fuel) method params onAcknowledge session).1 ≠ .value report) :
    OwesFrom (session.identifiers.next + 1) session.history
      (request (run fuel) method params onAcknowledge session).2 := by
  rw [request_of_live (run fuel) method params onAcknowledge live] at without ⊢
  have way := route_owesFrom session fuel method params true
  rcases dispatching_history session method true with ⟨entry, entered⟩
  have routed : OwesFrom (session.identifiers.next + 1) session.history
      (route (run fuel) method params true session.identifiers.next
        (session.dispatching method true)).2 := by
    rcases way.owed with ⟨recent, grown, bounded⟩
    refine ⟨way.next, recent ++ [.logged entry, .numbered .request session.identifiers.next,
      .arrived method true true], by simp [grown, entered], ?_⟩
    intro identifier member
    rw [dues_append] at member
    exact bounded identifier member
  rw [Action.bind_apply] at without ⊢
  cases went : route (run fuel) method params true session.identifiers.next
      (session.dispatching method true) with
  | mk outcome before =>
      rw [went] at routed without
      cases outcome with
      | failed failure => exact routed
      | exhausted => exact routed
      | value handled =>
          rcases finishRequest_cameBack went onAcknowledge with ⟨report, inside, value, back⟩
          rcases without with rfl | unended
          · exact routed.silent [.concluded _ report.outcome] back.ended rfl
              (Int.le_of_eq (congrArg Identifiers.next back.identifiers.symm))
          · exact absurd value (unended report)

private theorem requestOwes (fuel : Nat) (before : Session) : RequestOwes fuel before := by
  constructor
  · intro method params callback report after came
    rcases request_cameBack came with ⟨inside, middle, back⟩
    rcases request_finished (run_moves fuel) came with ⟨handled, routed, _, finished⟩
    refine ⟨⟨inside ++ [.numbered .request report.identifier, .arrived method true true], ?_, ?_⟩,
      ⟨routed.loop.ready, ?_⟩, ?_⟩
    · rw [back.ended, back.history]
      simp
    · intro identifier member
      rw [dues_append] at member
      exact back.inside identifier member
    · rw [finished.number]
      exact finished.scheduled callback rfl
    · rw [finished.number]
      exact finished.done
  · intro method params onAcknowledge without live after
    have owes := request_owesFrom live without
    exact ⟨fun fuel program => (isKept_owesFrom _ _).run fuel program owes,
      (isKept_owesFrom _ _).after owes⟩
  · intro method params onAcknowledge stopped
    rw [request_of_stopped (run fuel) method params onAcknowledge stopped]
    rfl

/-! ## The law of acknowledgements -/

private theorem concluded_of_due {history : List Event} (lawful : Throughout LawfulDue history)
    (due : .acknowledgementDue identifier ∈ history) :
    ∃ outcome before,
      .acknowledgementDue identifier :: .concluded identifier outcome :: before <:+ history := by
  rcases List.append_of_mem due with ⟨later, earlier, rfl⟩
  have suffix : .acknowledgementDue identifier :: earlier <:+
      later ++ .acknowledgementDue identifier :: earlier := List.suffix_append _ _
  rcases lawful _ _ suffix identifier rfl with ⟨outcome, inside, method, before, same, _, _⟩
  rw [same] at suffix ⊢
  exact ⟨outcome, _, suffix⟩

/-- What is acknowledged came due before, at the end of a request that was concluded by then. -/
def AcknowledgedLate (event : Event) (earlier : List Event) : Prop :=
  ∀ identifier, event = .acknowledged identifier →
    ∃ outcome before, .acknowledgementDue identifier :: .concluded identifier outcome :: before <:+
      earlier

/-- Every request that comes back is acknowledged once, with its outcome known, if it wants that:
acknowledgements are run in the order in which their requests came back, and a drain of the queue
that comes back leaves none waiting. A request that fails is never acknowledged. -/
theorem acknowledgements_delivered {start : Session} (new : start.IsNew)
    (operations : List (Nat × Operation Program)) :
    let session := start.after operations
    dues session.history = acknowledgements session.history ++ session.waiting ∧
    (dues session.history).Nodup ∧
    (∀ identifier ∈ dues session.history,
      ∃ outcome, session.outcome? identifier = some outcome) ∧
    Throughout LawfulDue session.history ∧
    Throughout AcknowledgedLate session.history ∧
    (∀ fuel before, RequestOwes fuel before) ∧
    (∀ fuel program before, ∃ recent,
      (run fuel program before).2.history = recent ++ before.history ∧
        Conserves before (run fuel program before).2 recent) ∧
    ∀ deep fuel before after, drain (run deep) fuel before = (.value (), after) →
      after.loop.ready = [] ∧ (∃ served, Delivered (run deep) before served after) ∧
      ∃ recent, after.history = recent ++ before.history ∧
        acknowledgements recent = before.waiting ++ dues recent := by
  intro session
  have queued := after_preserves (Queued.of_new new) (fun _ _ queued change => queued.change change)
    operations
  have owing := isKept_owing.after (Owing.of_new new) operations
  have outcomes := after_preserves (OutcomesLawful.of_new new)
    (fun _ _ outcomes change => outcomes.change change) operations
  refine ⟨queued.conserved, dues_nodup owing.lawful, ?_, owing.lawful, ?_, requestOwes, ?_, ?_⟩
  · intro identifier member
    rcases concluded_of_due owing.lawful (mem_dues.mp member) with ⟨outcome, before, later, same⟩
    have split : session.history =
        (later ++ [.acknowledgementDue identifier]) ++ .concluded identifier outcome :: before := by
      rw [← same, List.append_assoc]
      rfl
    exact ⟨outcome, (outcomes.lawful _ _ _ _ split).2⟩
  · rintro event earlier suffix identifier rfl
    have due := queued.owed _ _ suffix identifier rfl
    exact concluded_of_due (owing.lawful.of_suffix ((List.suffix_cons _ _).trans suffix)) due
  · intro fuel program before
    exact Changes.conserves (run_moves fuel program before.identifiers.next before (Int.le_refl _))
  · intro deep fuel before after came
    rcases drain_delivered came with ⟨served, delivered⟩
    have idle := delivered.idle_after
    have changes : Changes before.identifiers.next before (drain (run deep) fuel before).2 :=
      drain_moves (run_moves deep) fuel (Int.le_refl _)
    rw [came] at changes
    rcases changes.conserves with ⟨recent, grown, come, taken, kept, due, acknowledged⟩
    refine ⟨idle, ⟨served, delivered⟩, recent, grown, ?_⟩
    have all : after.loop.ready = [] := idle
    rw [all, List.append_nil] at kept
    rw [acknowledged, due, ← kept, List.map_append]
    rfl

/-- A request whose receiver fails is acknowledged, although the session is terminated meanwhile. -/
theorem acknowledgements_delivered_of_failure :
    let session := ({} : Session).after
      [(3, .register "m" fun _ _ => .fail (.host .key [])),
        (3, .request (.string "m") .null (some fun _ => .done .null) none), (3, .terminate),
        (3, .drain)]
    acknowledgements session.history = [1] ∧
      ∃ outcome, session.outcome? 1 = some outcome := by
  intro session
  have law := acknowledgements_delivered isNew_default
    [(3, .register "m" fun _ _ => .fail (.host .key [])),
      (3, .request (.string "m") .null (some fun _ => .done .null) none), (3, .terminate),
      (3, .drain)]
  have due : dues session.history = [1] := by decide +kernel
  have none : session.waiting = [] := by decide +kernel
  have conserved : dues session.history =
      acknowledgements session.history ++ session.waiting := law.1
  rw [due, none, List.append_nil] at conserved
  refine ⟨conserved.symm, law.2.2.1 1 ?_⟩
  exact List.mem_of_mem_head? (by rw [due]; rfl)

end RpcSession.Session
