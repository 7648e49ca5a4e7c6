import RpcSession.Proofs.Handles.Course

/-!
# Handles apart from each other

However the calls on several handles are interleaved, each handle is served as if no call had been
made on another one: its calls reply the same, the peer is told the same of its progress, and the
progress is the same in the end, but for the token.
-/

namespace RpcSession

namespace Session

/-! ## Calls one after the other -/

variable {session after : Session} {fuel : Nat} {handle other : String} {token : Int}
  {calls : List (String × HandleCall)}

/-- What the calls on handles reply, made one after the other, with the handle of each. -/
def repliesTo (fuel : Nat) (session : Session) :
    List (String × HandleCall) → List (String × Outcome Reply)
  | [] => []
  | (handle, call) :: calls =>
      let (reply, after) := perform fuel (call.operation handle) session
      (handle, reply) :: repliesTo fuel after calls

def calling (fuel : Nat) (session : Session) (calls : List (String × HandleCall)) : Session :=
  session.after (calls.map fun (handle, call) => (fuel, call.operation handle))

def ofHandle {α : Type} (handle : String) (items : List (String × α)) : List α :=
  items.filterMap fun (other, item) => if other = handle then some item else none

def toldUnder (session : Session) (token : Int) : List Progress :=
  session.sentProgress.filter (·.token == token)

theorem ofHandle_cons {α : Type} (handle other : String) (item : α) (items : List (String × α)) :
    ofHandle handle ((other, item) :: items) =
      if other = handle then item :: ofHandle handle items else ofHandle handle items := by
  unfold ofHandle
  by_cases own : other = handle <;> simp [own]

private theorem ofHandle_filter {α : Type} (handle : String) (items : List (String × α)) :
    ofHandle handle (items.filter (·.1 == handle)) = ofHandle handle items := by
  induction items with
  | nil => rfl
  | cons item items rest =>
      rcases item with ⟨other, item⟩
      rw [List.filter_cons, ofHandle_cons]
      by_cases own : other = handle
      · simp [own, ofHandle_cons, rest]
      · simp [own, rest]

namespace TellsPeer

variable {told : Option Progress} (tells : TellsPeer told session after)

include tells

theorem aside (foreign : ∀ progress, told = some progress → progress.token ≠ token) :
    after.toldUnder token = session.toldUnder token ∧
      after.progress? token = session.progress? token := by
  rw [Session.toldUnder, tells.sent, List.filter_append, tells.held]
  cases told with
  | none => exact ⟨List.append_nil _, rfl⟩
  | some progress => simp [foreign progress rfl, Session.toldUnder]

theorem toldUnder (own : ∀ progress, told = some progress → progress.token = token) :
    after.toldUnder token = session.toldUnder token ++ told.toList := by
  rw [Session.toldUnder, tells.sent, List.filter_append]
  cases told with
  | none => rfl
  | some progress => simp [own progress rfl, Session.toldUnder]

end TellsPeer

/-! ## Handles that are kept apart

A call that begins no progress leaves the names as they are and tells at most of its own. A
progress that begins gets a token that no name and no message has had. -/

/-- Every name of a progress is of one that the session holds, and of none that another name is of;
its token and all that the peer was told of have been taken. -/
structure KeptApart (fuel : Nat) (session : Session) : Prop where
  records : session.RecordsMessages fuel
  live : session.lifecycle.stopped = false
  taken : ∀ handle token, session.tokenUnder handle = some token →
    token < session.identifiers.next
  held : ∀ handle token, session.tokenUnder handle = some token →
    (session.progress? token).isSome = true
  alone : ∀ handle other token, session.tokenUnder handle = some token →
    session.tokenUnder other = some token → handle = other
  told : ∀ progress ∈ session.sentProgress, progress.token < session.identifiers.next

theorem ServedCall.configuration {call : HandleCall}
    (served : ServedCall session handle call after) :
    after.configuration = session.configuration := by
  rcases served with ⟨replies, _⟩ | ⟨_, _, _, tells, _, _, _⟩
  · exact replies.configuration
  · exact tells.configuration

theorem tokenUnder_of_names (names : after.names = session.names) (handle : String) :
    after.tokenUnder handle = session.tokenUnder handle := by
  rw [tokenUnder, reference?, names, ← reference?, ← tokenUnder]

theorem tokenUnder_of_begun (names : after.names = (other, .progress token) :: session.names)
    (handle : String) :
    after.tokenUnder handle = if other = handle then some token else session.tokenUnder handle := by
  rw [tokenUnder, reference?, names, List.findSome?_cons, ← reference?, ← tokenUnder]
  by_cases own : other = handle <;> simp [own, Reference.progress?]

namespace KeptApart

theorem of_new {start : Session} (new : start.IsNew) (records : start.RecordsMessages fuel) :
    KeptApart fuel start where
  records := records
  live := by rw [new.lifecycle]
  taken handle token named := by simp [tokenUnder, reference?, new.names] at named
  held handle token named := by simp [tokenUnder, reference?, new.names] at named
  alone handle other token named := by simp [tokenUnder, reference?, new.names] at named
  told progress member := by simp [sentProgress, new.history] at member

variable (apart : KeptApart fuel session)

include apart

private theorem replied {changed : Option Progress} (replies : Replies changed session after)
    (own : ∀ progress, changed = some progress →
      session.tokenUnder handle = some progress.token) : KeptApart fuel after := by
  have under := tokenUnder_of_names replies.names
  constructor
  · exact apart.records.congr replies.outbound
  · rw [replies.lifecycle]
    exact apart.live
  · intro other token named
    rw [under] at named
    rw [replies.identifiers]
    exact apart.taken other token named
  · intro other token named
    rw [under] at named
    rw [replies.held]
    split
    · rename_i told
      exact Option.isSome_of_any told
    · exact apart.held other token named
  · intro one other token named namedToo
    rw [under] at named namedToo
    exact apart.alone one other token named namedToo
  · intro progress member
    rw [replies.identifiers]
    rw [replies.sent] at member
    rcases List.mem_append.mp member with before | now
    · exact apart.told progress before
    · exact apart.taken handle progress.token (own progress (Option.mem_toList.mp now))

private theorem begun {progress : Progress} (tells : TellsPeer (some progress) session after)
    (token : progress.token = session.identifiers.next)
    (names : after.names = (handle, .progress session.identifiers.next) :: session.names)
    (next : after.identifiers.next = session.identifiers.next + 1) : KeptApart fuel after := by
  have under := tokenUnder_of_begun names
  constructor
  · exact apart.records.congr tells.outbound
  · rw [tells.lifecycle]
    exact apart.live
  · intro other token named
    rw [under] at named
    rw [next]
    split at named
    · cases named
      exact Int.lt_add_one_of_le (Int.le_refl _)
    · exact Int.lt_add_one_of_le (Int.le_of_lt (apart.taken other token named))
  · intro other label named
    rw [under] at named
    rw [tells.held]
    split at named
    · cases named
      simp [token]
    · split
      · rfl
      · exact apart.held other label named
  · intro one other label named namedToo
    rw [under] at named namedToo
    split at named <;> split at namedToo
    · simp_all
    · cases named
      exact absurd (apart.taken other _ namedToo) (Int.lt_irrefl _)
    · cases namedToo
      exact absurd (apart.taken one _ named) (Int.lt_irrefl _)
    · exact apart.alone one other label named namedToo
  · intro member within
    rw [next]
    rw [tells.sent] at within
    rcases List.mem_append.mp within with before | now
    · exact Int.lt_add_one_of_le (Int.le_of_lt (apart.told member before))
    · cases Option.mem_toList.mp now
      rw [token]
      exact Int.lt_add_one_of_le (Int.le_refl _)

theorem served {call : HandleCall} (served : ServedCall session handle call after) :
    KeptApart fuel after := by
  cases served with
  | kept replies own => exact apart.replied replies own
  | begun progress _ token tells names next _ => exact apart.begun tells token names next

theorem toldUnder_next : session.toldUnder session.identifiers.next = [] := by
  rw [toldUnder, List.filter_eq_nil_iff]
  intro progress member
  have less := apart.told progress member
  simp only [beq_iff_eq]
  omega

theorem foreign {call : HandleCall} (served : ServedCall session other call after)
    (foreign : other ≠ handle) :
    after.tokenUnder handle = session.tokenUnder handle ∧
      ∀ token, session.tokenUnder handle = some token →
        after.toldUnder token = session.toldUnder token ∧
          after.progress? token = session.progress? token := by
  rcases served with ⟨replies, own⟩ | ⟨progress, _, token, tells, names, _, _⟩
  · refine ⟨tokenUnder_of_names replies.names handle, fun token named => ?_⟩
    have different (changed : Progress) (told : (session.answer other call).2 = some changed) :
        changed.token ≠ token := by
      rintro rfl
      exact foreign (apart.alone other handle _ (own changed told) named)
    exact replies.toTellsPeer.aside different
  · refine ⟨?_, fun label named => ?_⟩
    · rw [tokenUnder_of_begun names, if_neg foreign]
    · refine tells.aside fun changed told => ?_
      cases told
      rw [token]
      exact (Int.ne_of_lt (apart.taken handle label named)).symm

end KeptApart

private theorem ServedCall.own {call : HandleCall} (served : ServedCall session handle call after)
    (begun : call.isBegin = false) (named : session.tokenUnder handle = some token) :
    after.tokenUnder handle = some token ∧
      after.toldUnder token = session.toldUnder token ++ (session.answer handle call).2.toList ∧
      after.progressUnder handle =
        (session.answer handle call).2.or (session.progressUnder handle) := by
  rcases served with ⟨replies, own⟩ | ⟨_, _, _, _, _, _, begins⟩
  · have under := (tokenUnder_of_names replies.names handle).trans named
    have same (changed : Progress) (told : (session.answer handle call).2 = some changed) :
        changed.token = token := Option.some.inj ((own changed told).symm.trans named)
    refine ⟨under, replies.toTellsPeer.toldUnder same, ?_⟩
    rw [progressUnder, under, progressUnder, named, Option.bind_some, replies.held]
    cases told : (session.answer handle call).2 with
    | none => rfl
    | some changed => simp [same changed told]
  · rw [begun] at begins
    cases begins

/-! ## Runs

The calls of a run are taken one by one, from the first: it is made on another handle, or on the
handle itself, which goes its course from there on. -/

theorem callings_cons {reply : Outcome Reply} (handle : String) (call : HandleCall)
    (calls : List (String × HandleCall))
    (performed : perform fuel (call.operation handle) session = (reply, after)) :
    repliesTo fuel session ((handle, call) :: calls) =
        (handle, reply) :: repliesTo fuel after calls ∧
      session.calling fuel ((handle, call) :: calls) = after.calling fuel calls := by
  constructor
  · rw [repliesTo, performed]
  · change (perform fuel (call.operation handle) session).2.calling fuel calls = _
    rw [performed]

/-- What calls come to for one handle, given what it was answered. -/
structure Came (handle : String) (token : Int) (answers : List (Outcome Reply × Option Progress))
    (fuel : Nat) (session : Session) (calls : List (String × HandleCall)) : Prop where
  replies : ofHandle handle (repliesTo fuel session calls) = answers.map (·.1)
  told : (session.calling fuel calls).toldUnder token =
    session.toldUnder token ++ answers.filterMap (·.2)
  held : (session.calling fuel calls).progressUnder handle =
    (answers.filterMap (·.2)).getLast?.or (session.progressUnder handle)

namespace Came

variable {answers : List (Outcome Reply × Option Progress)} {call : HandleCall}
  {reply : Outcome Reply}

theorem nil (handle : String) (token : Int) (fuel : Nat) (session : Session) :
    Came handle token [] fuel session [] :=
  ⟨rfl, (List.append_nil _).symm, rfl⟩

theorem foreign (came : Came handle token answers fuel after calls) (foreign : other ≠ handle)
    (performed : perform fuel (call.operation other) session = (reply, after))
    (told : after.toldUnder token = session.toldUnder token)
    (held : after.progressUnder handle = session.progressUnder handle) :
    Came handle token answers fuel session ((other, call) :: calls) := by
  rcases callings_cons other call calls performed with ⟨replies, calling⟩
  constructor
  · rw [replies, ofHandle_cons, if_neg foreign, came.replies]
  · rw [calling, came.told, told]
  · rw [calling, came.held, held]

theorem own {answer : Outcome Reply × Option Progress}
    (came : Came handle token answers fuel after calls)
    (performed : perform fuel (call.operation handle) session = (answer.1, after))
    (told : after.toldUnder token = session.toldUnder token ++ answer.2.toList)
    (held : after.progressUnder handle = answer.2.or (session.progressUnder handle)) :
    Came handle token (answer :: answers) fuel session ((handle, call) :: calls) := by
  rcases callings_cons handle call calls performed with ⟨replies, calling⟩
  constructor
  · rw [replies, ofHandle_cons, if_pos rfl, came.replies, List.map_cons]
  · rw [calling, came.told, told, List.append_assoc, List.filterMap_cons]
    cases answer.2 <;> rfl
  · rw [calling, came.held, held, List.filterMap_cons]
    cases answer.2 with
    | none => rfl
    | some progress =>
        dsimp only
        rw [List.getLast?_cons, Option.some_or, Option.some_or]
        cases (answers.filterMap (·.2)).getLast? <;> rfl

end Came

private theorem KeptApart.came_of_begun (apart : KeptApart fuel session)
    (named : session.tokenUnder handle = some token)
    (begun : ∀ call ∈ ofHandle handle calls, call.isBegin = false) :
    Came handle token
      (HandleCall.course session.configuration.strictProgress handle token
        (session.progressUnder handle) (ofHandle handle calls)) fuel session calls := by
  induction calls generalizing session with
  | nil => exact .nil handle token fuel session
  | cons first calls rest =>
      rcases first with ⟨other, call⟩
      rcases call_served apart.records apart.live other call with ⟨after, served, performed⟩
      rw [ofHandle_cons] at begun ⊢
      by_cases own : other = handle
      · subst own
        rw [if_pos rfl] at begun ⊢
        have mutates := begun call List.mem_cons_self
        rcases served.own mutates named with ⟨namedToo, told, held⟩
        have came := rest (apart.served served) namedToo fun call member =>
          begun call (List.mem_cons_of_mem _ member)
        rw [served.configuration, held] at came
        rw [answer, HandleCall.answer_of_mutates mutates token] at performed told held came
        exact came.own performed told held
      · rw [if_neg own] at begun ⊢
        rcases apart.foreign served own with ⟨under, aside⟩
        rcases aside token named with ⟨told, held⟩
        have heldToo : after.progressUnder handle = session.progressUnder handle := by
          rw [progressUnder, under, named, Option.bind_some, held, progressUnder, named,
            Option.bind_some]
        have came := rest (apart.served served) (under.trans named) begun
        rw [served.configuration, heldToo] at came
        exact came.foreign own performed told heldToo

private theorem ServedCall.first {call : HandleCall} (apart : KeptApart fuel session)
    (served : ServedCall session handle call after) (named : session.tokenUnder handle = none) :
    ((session.answer handle call).2 = none ∧ after.tokenUnder handle = none ∧
      ∀ token, after.toldUnder token = session.toldUnder token) ∨
    ∃ progress, (session.answer handle call).2 = some progress ∧
      after.tokenUnder handle = some session.identifiers.next ∧
      after.progressUnder handle = some progress ∧
      after.toldUnder session.identifiers.next = [progress] := by
  rcases served with ⟨replies, own⟩ | ⟨progress, told, token, tells, names, _, _⟩
  · have untold : (session.answer handle call).2 = none := by
      refine Option.eq_none_iff_forall_ne_some.mpr fun changed told => ?_
      rw [own changed told] at named
      cases named
    rw [untold] at replies
    refine .inl ⟨untold, (tokenUnder_of_names replies.names handle).trans named, fun token => ?_⟩
    have aside : ∀ progress, none = some progress → Progress.token progress ≠ token := nofun
    exact (replies.toTellsPeer.aside aside).1
  · have under : after.tokenUnder handle = some session.identifiers.next := by
      rw [tokenUnder_of_begun names, if_pos rfl]
    refine .inr ⟨progress, told, under, ?_, ?_⟩
    · rw [progressUnder, under, Option.bind_some, tells.held]
      simp [token]
    · rw [tells.toldUnder (by simpa using token), apart.toldUnder_next]
      rfl

private theorem ServedCall.sent {call : HandleCall}
    (served : ServedCall session handle call after) :
    after.sentProgress = session.sentProgress ++ (session.answer handle call).2.toList := by
  rcases served with ⟨replies, _⟩ | ⟨progress, told, _, tells, _, _, _⟩
  · exact replies.sent
  · rw [told]
    exact tells.sent

private theorem progressUnder_of_unnamed (named : session.tokenUnder handle = none) :
    session.progressUnder handle = none := by
  rw [progressUnder, named]
  rfl

private theorem ServedCall.untold {call : HandleCall}
    (served : ServedCall session handle call after)
    (untold : after.toldUnder token = []) : session.toldUnder token = [] := by
  rw [toldUnder, served.sent, List.filter_append] at untold
  exact (List.append_eq_nil_iff.mp untold).1

private theorem Came.of_untold {call : HandleCall} {strict : Bool} {before : List HandleCall}
    (came : Came handle token (HandleCall.course strict handle token none before) fuel after calls)
    (performed : perform fuel (call.operation handle) session =
      ((call.answer strict handle session.identifiers.next none).1, after))
    (untold : (call.answer strict handle session.identifiers.next none).2 = none)
    (aside : after.toldUnder token = session.toldUnder token)
    (nothing : session.progressUnder handle = none) (still : after.progressUnder handle = none) :
    Came handle token (HandleCall.course strict handle token none (call :: before)) fuel session
      ((handle, call) :: calls) := by
  rw [← HandleCall.answer_of_untold untold token] at performed untold
  rw [HandleCall.course, untold]
  refine came.own performed ?_ ?_
  · rw [untold, aside]
    exact (List.append_nil _).symm
  · rw [untold, nothing]
    exact still

/-- A handle that has no progress yet goes its course with the token under which it begins. -/
private theorem KeptApart.came (apart : KeptApart fuel session)
    (named : session.tokenUnder handle = none)
    (once : ∀ call ∈ (ofHandle handle calls).tail, call.isBegin = false) :
    ∃ token, Came handle token
        (HandleCall.course session.configuration.strictProgress handle token none
          (ofHandle handle calls)) fuel session calls ∧ session.toldUnder token = [] := by
  induction calls generalizing session with
  | nil => exact ⟨session.identifiers.next, .nil _ _ _ _, apart.toldUnder_next⟩
  | cons first calls rest =>
      rcases first with ⟨other, call⟩
      rcases call_served apart.records apart.live other call with ⟨after, served, performed⟩
      have nothing := progressUnder_of_unnamed named
      have apartToo := apart.served served
      rw [ofHandle_cons] at once ⊢
      by_cases own : other = handle
      · subst own
        rw [if_pos rfl] at once ⊢
        rw [answer, nothing] at performed
        rcases served.first apart named with
          ⟨untold, namedToo, aside⟩ | ⟨progress, told, namedToo, held, first⟩
        · rw [answer, nothing] at untold
          rcases rest apartToo namedToo fun call member => once call (List.mem_of_mem_tail member)
            with ⟨token, came, before⟩
          rw [served.configuration] at came
          have nothingToo := progressUnder_of_unnamed namedToo
          exact ⟨token, came.of_untold performed untold (aside token) nothing nothingToo,
            (aside token).symm.trans before⟩
        · rw [answer, nothing] at told
          have came := apartToo.came_of_begun namedToo once
          rw [served.configuration, held] at came
          refine ⟨_, ?_, apart.toldUnder_next⟩
          rw [HandleCall.course, told]
          refine came.own performed ?_ ?_
          · rw [told, first, apart.toldUnder_next]
            rfl
          · rw [told, held]
            rfl
      · rw [if_neg own] at once ⊢
        have under := (apart.foreign served own).1.trans named
        rcases rest apartToo under once with ⟨token, came, before⟩
        have earlier := served.untold before
        rw [served.configuration] at came
        exact ⟨token, came.foreign own performed (before.trans earlier.symm)
          ((progressUnder_of_unnamed under).trans nothing.symm), earlier⟩

private theorem KeptApart.calling (apart : KeptApart fuel session) :
    KeptApart fuel (session.calling fuel calls) := by
  induction calls generalizing session with
  | nil => exact apart
  | cons first calls rest =>
      rcases first with ⟨handle, call⟩
      rcases call_served apart.records apart.live handle call with ⟨after, served, performed⟩
      rw [(callings_cons handle call _ performed).2]
      exact rest (apart.served served)

theorem KeptApart.tokenUnder_eq (apart : KeptApart fuel session) (handle : String) :
    session.tokenUnder handle = (session.progressUnder handle).map (·.token) := by
  rw [progressUnder]
  cases named : session.tokenUnder handle with
  | none => rfl
  | some token =>
      rcases Option.isSome_iff_exists.mp (apart.held handle token named) with ⟨progress, held⟩
      rw [Option.bind_some, held, Option.map_some, progress?_token held]

/-- What has become of a handle that has begun under one token in one session and under another
one in another session: the peers have been sent the same and the progresses are the same, but for
the token. -/
structure SameButToken (handle : String) (token other : Int) (first second : Session) : Prop where
  named : first.tokenUnder handle = none ∧ second.tokenUnder handle = none ∨
    first.tokenUnder handle = some token ∧ second.tokenUnder handle = some other
  messages : ∃ told : List Progress,
    first.messages.filter (Message.token? · == some token) = told.map (·.notification) ∧
    second.messages.filter (Message.token? · == some other) =
      told.map fun progress => (progress.under other).notification
  held : (first.progressUnder handle).map (·.under other) = second.progressUnder handle

private theorem messages_under (session : Session) (token : Int) :
    session.messages.filter (Message.token? · == some token) =
      (session.toldUnder token).map (·.notification) := by
  simp [messages, toldUnder, List.filter_map, Function.comp_def]

private theorem Came.sameButToken {first second : Session} {other : Int} {fuelToo : Nat}
    {own : List (String × HandleCall)} {answers others : List (Outcome Reply × Option Progress)}
    (came : Came handle token answers fuel first calls)
    (cameToo : Came handle other others fuelToo second own)
    (same : List.Forall₂ (SameAnswer token other) answers others)
    (apart : KeptApart fuel first) (apartToo : KeptApart fuelToo second)
    (before : first.toldUnder token = [] ∧ second.toldUnder other = [])
    (unnamed : first.progressUnder handle = none ∧ second.progressUnder handle = none) :
    SameButToken handle token other (first.calling fuel calls) (second.calling fuelToo own) := by
  have told := came.told
  have toldToo := cameToo.told
  have held := came.held
  have heldToo := cameToo.held
  rw [before.1, List.nil_append] at told
  rw [before.2, List.nil_append, ← told_under same] at toldToo
  rw [unnamed.1, Option.or_none] at held
  rw [unnamed.2, Option.or_none, ← told_under same, List.getLast?_map, ← held] at heldToo
  refine ⟨?_, ⟨_, messages_under _ token, ?_⟩, heldToo.symm⟩
  · rw [apart.calling.tokenUnder_eq, apartToo.calling.tokenUnder_eq, heldToo]
    cases latest : (first.calling fuel calls).progressUnder handle with
    | none => exact .inl ⟨rfl, rfl⟩
    | some progress =>
        rw [latest] at held
        have member := List.mem_of_getLast? held.symm
        rw [← told, toldUnder] at member
        have label := (List.mem_filter.mp member).2
        exact .inr ⟨congrArg some (beq_iff_eq.mp label), rfl⟩
  · rw [messages_under, toldToo, told, List.map_map]
    rfl

/-- Of the calls on several handles, interleaved in any way, those on one handle reply what they
reply when they are made alone in a new session, and the peer is told the same of its progress,
which is the same in the end, but for the token. Both peers just record what they are sent, and a
handle is begun no more than once, before it is used. -/
theorem handles_independent {start alone : Session} {fuelToo : Nat} (new : start.IsNew)
    (newToo : alone.IsNew) (records : start.RecordsMessages fuel)
    (recordsToo : alone.RecordsMessages fuelToo)
    (strict : alone.configuration.strictProgress = start.configuration.strictProgress)
    (once : ∀ call ∈ (ofHandle handle calls).tail, call.isBegin = false) :
    let own := calls.filter (·.1 == handle)
    ∃ token other,
      List.Forall₂ (SameReply token other) (ofHandle handle (repliesTo fuel start calls))
        (ofHandle handle (repliesTo fuelToo alone own)) ∧
      SameButToken handle token other (start.calling fuel calls) (alone.calling fuelToo own) := by
  intro own
  have apart := KeptApart.of_new new records
  have apartToo := KeptApart.of_new newToo recordsToo
  have unnamed {session : Session} (new : session.IsNew) : session.tokenUnder handle = none := by
    simp [tokenUnder, reference?, new.names]
  have nothing {session : Session} (new : session.IsNew) :
      session.progressUnder handle = none := by
    rw [progressUnder, unnamed new]
    rfl
  have same : ofHandle handle own = ofHandle handle calls := ofHandle_filter handle calls
  rcases apart.came (unnamed new) once with ⟨token, came, before⟩
  rcases apartToo.came (unnamed newToo) (same ▸ once) with ⟨other, cameToo, beforeToo⟩
  rw [same, strict] at cameToo
  have unheld : ∀ progress, none = some progress → Progress.token progress = token := by simp
  have alike : List.Forall₂ (SameAnswer token other)
      (HandleCall.course start.configuration.strictProgress handle token none
        (ofHandle handle calls))
      (HandleCall.course start.configuration.strictProgress handle other none
        (ofHandle handle calls)) :=
    HandleCall.course_under _ handle token other unheld _
  refine ⟨token, other, ?_, came.sameButToken cameToo alike apart apartToo ⟨before, beforeToo⟩
    ⟨nothing new, nothing newToo⟩⟩
  rw [came.replies, cameToo.replies, List.forall₂_map_left_iff, List.forall₂_map_right_iff]
  exact alike.imp fun _ _ answers => answers.reply

private theorem recordsMessages_default (configuration : Configuration) :
    ({ configuration } : Session).RecordsMessages 1 :=
  ⟨fun _ => isQuiet_done .null, fun _ _ => nofun⟩

/-- In a strict session, the second of two handles is used after its end, while the first one is
refused a percentage. Its second change is rejected under its own token. -/
theorem handles_independent_of_rejection :
    let start : Session := { configuration := { strictProgress := true } }
    let calls : List (String × HandleCall) := [
      ("first", .begin (.string "One") (.string "") .null),
      ("second", .begin (.string "Two") (.string "") (.int 5)),
      ("first", .mutate (.update [("percentage", .int 101)])),
      ("second", .mutate (.finish (.string "done"))),
      ("first", .mutate (.update [("message", .string "more"), ("title", .null)])),
      ("second", .mutate (.update [("percentage", .int 6)]))]
    let own := calls.filter (·.1 == "second")
    start.IsNew ∧ start.RecordsMessages 1 ∧
      (∀ call ∈ (ofHandle "second" calls).tail, call.isBegin = false) ∧
      (start.calling 1 calls).tokenUnder "second" = some 2 ∧
      (start.calling 1 own).tokenUnder "second" = some 1 ∧
      ∃ token other,
        List.Forall₂ (SameReply token other) (ofHandle "second" (repliesTo 1 start calls))
          (ofHandle "second" (repliesTo 1 start own)) ∧
        SameButToken "second" token other (start.calling 1 calls) (start.calling 1 own) := by
  intro start calls own
  have new : start.IsNew := isNew_given
  have records := recordsMessages_default { strictProgress := true }
  have once : ∀ call ∈ (ofHandle "second" calls).tail, call.isBegin = false := by decide
  exact ⟨new, records, once, by decide +kernel, by decide +kernel,
    handles_independent new new records records rfl once⟩

end Session

end RpcSession
