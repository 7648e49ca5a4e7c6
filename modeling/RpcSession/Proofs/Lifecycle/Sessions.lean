import RpcSession.Proofs.Lifecycle.History

/-!
# One session, and none after the end

A session is started once and has one identifier, unless a launcher comes back with another one
after a start succeeded while it ran. After its end no session is started, unless a launcher that
was running then comes back with an identifier.
-/

namespace RpcSession.Session

variable {session : Session}

theorem mem_starts_iff (identifier : Value) (history : List Event) :
    identifier ∈ starts history ↔ .started identifier ∈ history := by
  rw [starts, List.mem_filterMap]
  constructor
  · rintro ⟨event, member, start⟩
    cases event <;> simp_all [Event.start?]
  · intro member
    exact ⟨_, member, rfl⟩

private theorem started_suffix {identifier : Value} {history : List Event}
    (given : identifier ∈ starts history) :
    ∃ earlier, .started identifier :: earlier <:+ history := by
  rcases List.append_of_mem ((mem_starts_iff identifier history).mp given) with
    ⟨later, earlier, history⟩
  exact ⟨earlier, later, history.symm⟩

private theorem start_history {invoke : Invoke} {identifier : Value} {after : Session}
    (came : start invoke session = (.value identifier, after)) :
    ∃ earlier, after.history = .started identifier :: earlier := by
  rw [start, Action.get_bind_apply] at came
  split at came
  · cases came
  · split at came
    · cases came
      exact ⟨_, rfl⟩
    · rcases Action.value_of_bind came with ⟨given, middle, _, finished⟩
      cases missing : given.isNull with
      | true =>
          rcases finishStart_of_null middle missing with ⟨entry, applied⟩
          rw [applied] at finished
          cases finished
      | false =>
          rcases finishStart_of_given middle missing with ⟨entry, applied⟩
          rw [applied] at finished
          cases finished
          exact ⟨_, rfl⟩

/-! ## One session -/

/-- All that starts gave in a history is the one identifier of the one session that there is. -/
structure OneSession (history : List Event) : Prop where
  /-- No more than one launcher gave the session its identifier. -/
  launched : (launches history).length ≤ 1
  same : ∀ first ∈ starts history, ∀ second ∈ starts history, first = second
  /-- From the first start that came back on, the session has the identifier that it gave. -/
  held : ∀ earlier, earlier <:+ history → ∀ identifier ∈ starts earlier,
    (lifecycleOf earlier).started = true ∧ (lifecycleOf earlier).session = identifier
  kept : ∀ earlier, earlier <:+ history → (lifecycleOf earlier).started = true →
    (lifecycleOf history).started = true ∧
      (lifecycleOf history).session = (lifecycleOf earlier).session

private theorem Led.oneSession {launcher : Option Program} {history : List Event}
    (led : Led launcher history) (alone : isOvertaken history = false) : OneSession history := by
  have held : ∀ earlier, earlier <:+ history → ∀ identifier ∈ starts earlier,
      (lifecycleOf earlier).started = true ∧ (lifecycleOf earlier).session = identifier := by
    intro earlier suffix identifier given
    rcases started_suffix given with ⟨former, within⟩
    rcases led.returned _ former (within.trans suffix) identifier rfl with ⟨running, session⟩
    have kept := session_of_suffix ((List.suffix_cons _ _).trans within)
      (isOvertaken_eq_false_of_suffix suffix alone) running
    exact ⟨kept.1, kept.2.trans session⟩
  constructor
  · exact (length_launches_le_one_iff history).mpr alone
  · intro first given second givenToo
    rw [← (held history (List.suffix_refl _) first given).2]
    exact (held history (List.suffix_refl _) second givenToo).2
  · exact held
  · exact fun earlier suffix => session_of_suffix suffix alone

/-- There is one session with one identifier exactly if no launcher is overtaken by a start, and so
always with the default launcher. The lifecycle is at every moment what the history says, and what
a start gives is noted in it. -/
theorem one_session_unless_overtaken (reachable : Reachable session) :
    session.lifecycle = lifecycleOf session.history ∧
    (∀ fuel identifier after, start (run fuel) session = (.value identifier, after) →
      ∃ earlier, after.history = .started identifier :: earlier) ∧
    (OneSession session.history ↔ isOvertaken session.history = false) ∧
    (session.launcher = none → OneSession session.history) := by
  rcases reachable.led with ⟨lifecycle, led⟩
  refine ⟨lifecycle, fun fuel identifier after => start_history, ⟨?_, led.oneSession⟩, ?_⟩
  · exact fun one => (length_launches_le_one_iff _).mp one.launched
  · intro byDefault
    apply led.oneSession
    rw [isOvertaken_eq_false_iff]
    exact fun launch earlier suffix launched =>
      (led.byDefault byDefault launch earlier suffix launched).1

/-- The first launch fails and the second one gives seven, which the third start gives again. -/
theorem one_session_unless_overtaken_of_retry :
    let launcher : Program := .ask (.readCell "tried") fun
      | .value .null => .andThen (.writeCell "tried" (.bool true)) (.fail (.host .key []))
      | _ => .done (.int 7)
    let session := ({ launcher := some launcher } : Session).after
      [(4, .start), (4, .start), (4, .start)]
    Reachable session ∧ starts session.history = [.int 7, .int 7] ∧
      OneSession session.history := by
  intro launcher session
  have new : ({ launcher := some launcher } : Session).IsNew := isNew_given
  have reachable : Reachable session := (Reachable.new new).after _
  exact ⟨reachable, by with_unfolding_all rfl,
    (one_session_unless_overtaken reachable).2.2.1.mpr (by decide +kernel)⟩

/-- A launcher that starts the session itself before it comes back with seven. The start inside
gives five, the one outside seven, and the session changes its identifier. -/
theorem sessions_differ_of_nested_start :
    let launcher : Program := .ask (.readCell "nested") fun
      | .value .null =>
          .andThen (.writeCell "nested" (.bool true)) (.andThen .start (.done (.int 7)))
      | _ => .done (.int 5)
    let session := ({ launcher := some launcher } : Session).after [(9, .start)]
    Reachable session ∧ launches session.history = [.int 7, .int 5] ∧
      starts session.history = [.int 7, .int 5] ∧ session.lifecycle.session = .int 7 := by
  intro launcher session
  have new : ({ launcher := some launcher } : Session).IsNew := isNew_given
  refine ⟨(Reachable.new new).after _, ?_, ?_, ?_⟩ <;> with_unfolding_all rfl

/-! ## After the end

After the end, starts give nothing if launchers do not come back with anything, and the other way
round. -/

private theorem terminated_ne_launch {identifier : Value} :
    Event.terminated.launch? ≠ some identifier := nofun

theorem Led.starts_eq_nil {launcher : Option Program} {history later earlier : List Event}
    (led : Led launcher history) (split : history = later ++ .terminated :: earlier)
    (none : launches later = []) : starts later = [] := by
  rw [List.eq_nil_iff_forall_not_mem]
  intro identifier given
  rcases List.append_of_mem ((mem_starts_iff identifier later).mp given) with
    ⟨last, between, rfl⟩
  have suffix : .started identifier :: (between ++ .terminated :: earlier) <:+ history :=
    ⟨last, by simp [split]⟩
  have stopped : (lifecycleOf (between ++ .terminated :: earlier)).stopped = true := by
    simp [stopped_lifecycleOf]
  rcases led.late _ _ suffix identifier rfl stopped with ⟨entry, launch, rest, same, launched⟩
  -- The launch stands behind the start, so it cannot be as early as the end.
  have member : launch ∈ last ++ .started identifier :: between := by
    cases between with
    | nil => cases same
    | cons first between =>
        cases between with
        | nil =>
            cases same
            exact absurd launched terminated_ne_launch
        | cons second between =>
            cases same
            simp
  have silent := List.filterMap_eq_nil_iff.mp none launch member
  rw [launched] at silent
  cases silent

theorem Led.launches_eq_nil {launcher : Option Program} {history later earlier : List Event}
    (led : Led launcher history) (split : history = later ++ .terminated :: earlier)
    (none : starts later = []) : launches later = [] := by
  rw [launches, List.filterMap_eq_nil_iff]
  intro launch member
  cases launched : launch.launch? with
  | none => rfl
  | some identifier =>
      rcases List.append_of_mem member with ⟨last, between, rfl⟩
      have suffix : launch :: (between ++ .terminated :: earlier) <:+ history :=
        ⟨last, by simp [split]⟩
      rcases led.answered launch _ suffix identifier launched with ⟨entry, before, answered⟩
      have same : (before ++ [.started identifier, .logged entry]) ++
          launch :: (between ++ .terminated :: earlier) =
          last ++ launch :: (between ++ .terminated :: earlier) := by
        simpa [split] using answered
      have given : identifier ∈ starts (last ++ launch :: between) := by
        rw [mem_starts_iff, ← List.append_cancel_right same]
        simp
      rw [none] at given
      cases given

/-- From its end on a session stays as it was, and no start gives an identifier, exactly if no
launcher that was running then comes back with one. So it always is with the default launcher.
Starts that begin after the end fail at once. The lifecycle is at every moment what the history
says, so it also says what the session was like at its end. -/
theorem ended_session_stays_unless (reachable : Reachable session) :
    session.lifecycle = lifecycleOf session.history ∧
    (∀ later earlier, session.history = later ++ .terminated :: earlier →
      (launches later = [] ↔
        session.lifecycle = (lifecycleOf earlier).terminate ∧ starts later = [])) ∧
    (session.launcher = none → ∀ later earlier,
      session.history = later ++ .terminated :: earlier → launches later = []) ∧
    (∀ fuel, session.lifecycle.stage = .terminated → ∃ message,
      start (run fuel) session = (.failed (.peer (.sessionTerminated message)), session)) := by
  rcases reachable.led with ⟨lifecycle, led⟩
  refine ⟨lifecycle, ?_, ?_, ?_⟩
  · intro later earlier split
    constructor
    · intro none
      refine ⟨?_, led.starts_eq_nil split none⟩
      rw [lifecycle, split, lifecycleOf_append_of_ended none]
    · exact fun stays => led.launches_eq_nil split stays.2
  · intro byDefault later earlier split
    rw [launches, List.filterMap_eq_nil_iff]
    intro launch member
    rcases List.append_of_mem member with ⟨last, between, rfl⟩
    have suffix : launch :: (between ++ .terminated :: earlier) <:+ session.history :=
      ⟨last, by simp [split]⟩
    cases launched : launch.launch? with
    | none => rfl
    | some identifier =>
        have fresh := led.byDefault byDefault launch _ suffix (by rw [launched]; rfl)
        have stopped : (lifecycleOf (between ++ .terminated :: earlier)).stopped = true := by
          simp [stopped_lifecycleOf]
        rw [fresh.2] at stopped
        cases stopped
  · intro fuel ended
    exact (refuses_of_stopped (run fuel) (session.lifecycle.stage_eq_terminated.mp ended)).start

/-- A launcher that ends the session and then comes back with nothing. -/
theorem ended_session_stays_unless_of_nothing :
    let launcher : Program := .andThen .terminate (.done .null)
    let session := ({ launcher := some launcher } : Session).after [(4, .start)]
    let later := session.history.take 3
    let earlier := session.history.drop 4
    Reachable session ∧ session.history = later ++ .terminated :: earlier ∧
      launches later = [] ∧
      session.lifecycle = (lifecycleOf earlier).terminate ∧ starts later = [] := by
  intro launcher session later earlier
  have new : ({ launcher := some launcher } : Session).IsNew := isNew_given
  have reachable : Reachable session := (Reachable.new new).after _
  have split : session.history = later ++ .terminated :: earlier := by with_unfolding_all rfl
  have none : launches later = [] := by with_unfolding_all rfl
  exact ⟨reachable, split, none,
    ((ended_session_stays_unless reachable).2.1 later earlier split).mp none⟩

/-- A launcher that ends the session and then comes back with seven. The start that called it gives
seven, and the session has been started after its end. -/
theorem session_starts_after_end_of_late_launcher :
    let launcher : Program := .andThen .terminate (.done (.int 7))
    let session := ({ launcher := some launcher } : Session).after [(4, .start)]
    let later := session.history.take 4
    let earlier := session.history.drop 5
    Reachable session ∧ session.history = later ++ .terminated :: earlier ∧
      starts later = [.int 7] ∧ (lifecycleOf earlier).started = false ∧
      session.lifecycle.started = true ∧ session.lifecycle.session = .int 7 := by
  intro launcher session later earlier
  have new : ({ launcher := some launcher } : Session).IsNew := isNew_given
  refine ⟨(Reachable.new new).after _, ?_, ?_, ?_, ?_, ?_⟩ <;> with_unfolding_all rfl

end RpcSession.Session
