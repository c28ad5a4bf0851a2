import RmwOpendds.WaitReports

/-! What a failing `rmw_wait` leaves behind. Everything but the events is checked
before the wait; a guard condition that cannot be reset, or an event without an
entity, makes the call fail when the loops before it have already nulled the
inactive entries and taken the triggers of the active guard conditions. -/

namespace RmwOpendds.Wait

open Library

/-- A call that fails has changed no trigger and replaced no entry; the loops do
nothing else to an array than replace entries by null. -/
def TracelessFailure (a : Arrays) (triggers : ℕ → Bool) (result : Option WaitResult) : Prop :=
  ∀ r, result = some r → r.ret ≠ .ok → r.ret ≠ .timeout → r.triggers = triggers ∧ r.arrays = a

def QuietGuard (active : List Condition) (triggers : ℕ → Bool) (entry : Option ℕ) : Prop :=
  ∃ g, entry = some g ∧ .guard g ∈ active ∧ triggers g = false

structure FailsInTime (dds : Dds) (a : Arrays) (triggers : ℕ → Bool)
    (active : List Condition) : Prop where
  atGuard : (∃ entry ∈ guardsOf a, GuardFails dds active entry) →
    (∀ entry ∈ a.subscriptions.getD [], ReaderActive active entry) ∧
      ∀ entry ∈ passed (GuardFails dds active) (guardsOf a), QuietGuard active triggers entry
  atEvent : (∀ entry ∈ guardsOf a, ¬ GuardFails dds active entry) →
    EventsFail (eventsOf a) →
      (∀ entry ∈ a.subscriptions.getD [], ReaderActive active entry) ∧
      (∀ entry ∈ guardsOf a, QuietGuard active triggers entry) ∧
      (∀ entry ∈ a.services.getD [], ReaderActive active entry) ∧
      (∀ entry ∈ a.clients.getD [], ReaderActive active entry) ∧
      ∀ entry ∈ passed EventStops (eventsOf a), EventReady dds.getStatusChanges entry

section Unchanged

variable {dds : Dds} {active : List Condition} {triggers : ℕ → Bool}

theorem keepReader_eq_iff {entry : Option Waitable} (valid : ValidReader entry) :
    keepReader active entry = entry ↔ ReaderActive active entry := by
  obtain ⟨id, rfl⟩ := valid
  by_cases h : ReaderActive active (some ⟨some id⟩) <;> simp [keepReader, h]

theorem readers_eq_iff {array : Option (List (Option Waitable))}
    (valid : ∀ entry ∈ array.getD [], ValidReader entry) :
    array.map (·.map (keepReader active)) = array ↔
      ∀ entry ∈ array.getD [], ReaderActive active entry := by
  cases array with
  | none => simp
  | some entries =>
    have same : entries.map (keepReader active) = entries ↔
        ∀ entry ∈ entries, keepReader active entry = entry := by
      conv_lhs => rhs; rw [← List.map_id entries]
      exact List.map_inj_left
    rw [Option.map_some, Option.some_inj, same]
    exact forall₂_congr fun entry member => keepReader_eq_iff (valid entry member)

theorem resetTriggers_eq_iff {guards : List (Option ℕ)} :
    resetTriggers active guards triggers = triggers ↔
      ∀ g, some g ∈ guards → .guard g ∈ active → triggers g = false := by
  rw [funext_iff]
  refine forall_congr' fun g => ?_
  by_cases h : some g ∈ guards ∧ .guard g ∈ active
  · rw [resetTriggers, if_pos h]
    exact ⟨fun same _ _ => same.symm, fun quiet => (quiet h.1 h.2).symm⟩
  · rw [resetTriggers, if_neg h]
    exact iff_of_true rfl fun member act => absurd ⟨member, act⟩ h

theorem guards_eq_iff (dds : Dds) (active : List Condition) (triggers : ℕ → Bool)
    (array : Option (List (Option ℕ))) :
    (array.map (rewriteUntil (GuardFails dds active) (keepGuard active)) = array ∧
      resetTriggers active (passed (GuardFails dds active) (array.getD [])) triggers = triggers) ↔
      ∀ entry ∈ passed (GuardFails dds active) (array.getD []),
        QuietGuard active triggers entry := by
  rw [map_rewriteUntil_eq_self_iff, resetTriggers_eq_iff]
  constructor
  · rintro ⟨kept, quiet⟩ entry member
    cases entry with
    | none =>
      have fails : GuardFails dds active none := by simp [GuardFails]
      exact absurd fails (not_fails_of_mem_passed member)
    | some g =>
      have act : .guard g ∈ active := by
        simpa [keepGuard, GuardActive] using kept _ member
      exact ⟨g, rfl, act, quiet g member act⟩
  · intro quiet
    refine ⟨fun entry member => ?_, fun g member _ => ?_⟩
    · obtain ⟨g, rfl, act, -⟩ := quiet entry member
      simp [keepGuard, GuardActive, act]
    · obtain ⟨g', same, -, low⟩ := quiet (some g) member
      exact Option.some.inj same ▸ low

theorem events_eq_iff {statusChanges : ℕ → StatusMask} {array : Option (List (Option RmwEvent))} :
    (array.map fun _ => rewriteUntil EventStops (keepEvent statusChanges) (array.getD [])) =
        array ↔
      ∀ entry ∈ passed EventStops (array.getD []), EventReady statusChanges entry := by
  have same : (array.map fun _ =>
      rewriteUntil EventStops (keepEvent statusChanges) (array.getD [])) =
        array.map (rewriteUntil EventStops (keepEvent statusChanges)) := by
    cases array <;> rfl
  rw [same, map_rewriteUntil_eq_self_iff]
  refine forall₂_congr fun entry member => ?_
  by_cases ready : EventReady statusChanges entry
  · simp [keepEvent, ready]
  · -- the loop gets past an entry that is not null, so that nulling it changes it
    have alive : entry ≠ none := by
      rintro rfl
      exact not_fails_of_mem_passed member (by simp [EventStops])
    simp [keepEvent, ready, alive.symm]

end Unchanged

theorem arrays_eq_iff {x y : Arrays} :
    x = y ↔ x.subscriptions = y.subscriptions ∧ x.guardConditions = y.guardConditions ∧
      x.services = y.services ∧ x.clients = y.clients ∧ x.events = y.events := by
  cases x
  cases y
  exact Arrays.mk.injEq .. ▸ Iff.rfl

theorem Resets.unique {dds : Dds} {a : Arrays} {waitSet : Option (RmwHandle WaitSetInfo)}
    {waitTimeout : Option RmwTime} {w w' : Waited} (resets : Resets dds a waitSet waitTimeout w)
    (resets' : Resets dds a waitSet waitTimeout w') : w' = w := by
  obtain ⟨attached, time, status, active⟩ := w
  obtain ⟨attached', time', status', active'⟩ := w'
  obtain ⟨info, held, opened, all⟩ := resets.attached
  have all' := resets'.attachAll_eq opened
  obtain ⟨-, rfl, answer, -⟩ := resets
  obtain ⟨-, rfl, answer', -⟩ := resets'
  rw [all] at all'
  cases all'
  rw [answer] at answer'
  cases answer'
  rfl

section Failing

variable {dds : Dds} {active : List Condition} {a : Arrays} {triggers : ℕ → Bool}

theorem failsInTime_of_guardFails (fails : ∃ entry ∈ guardsOf a, GuardFails dds active entry) :
    FailsInTime dds a triggers active ↔
      (∀ entry ∈ a.subscriptions.getD [], ReaderActive active entry) ∧
        ∀ entry ∈ passed (GuardFails dds active) (guardsOf a),
          QuietGuard active triggers entry := by
  refine ⟨fun inTime => inTime.atGuard fails, fun spared => ⟨fun _ => spared, fun pass => ?_⟩⟩
  obtain ⟨entry, member, failed⟩ := fails
  exact absurd failed (pass entry member)

theorem failsInTime_of_guardsPass (pass : ∀ entry ∈ guardsOf a, ¬ GuardFails dds active entry) :
    FailsInTime dds a triggers active ↔ (EventsFail (eventsOf a) →
      (∀ entry ∈ a.subscriptions.getD [], ReaderActive active entry) ∧
      (∀ entry ∈ guardsOf a, QuietGuard active triggers entry) ∧
      (∀ entry ∈ a.services.getD [], ReaderActive active entry) ∧
      (∀ entry ∈ a.clients.getD [], ReaderActive active entry) ∧
      ∀ entry ∈ passed EventStops (eventsOf a), EventReady dds.getStatusChanges entry) := by
  refine ⟨fun inTime => inTime.atEvent pass, fun spared => ⟨fun fails => ?_, fun _ => spared⟩⟩
  obtain ⟨entry, member, failed⟩ := fails
  exact absurd failed (pass entry member)

variable {w : Waited} {result : Reset → WaitResult}

theorem traceless_of_failure (leaves : ∀ loops, Leaves w loops (result loops)) {loops : Reset}
    {code : RmwRet} {text : String} (failed : loops.failure = some (code, text))
    (error : code = .error ∨ code = .invalidArgument) :
    TracelessFailure a triggers (some (result loops)) ↔
      loops.triggers = triggers ∧ loops.arrays = a := by
  have left := leaves loops
  have wrong : (result loops).ret = .error ∨ (result loops).ret = .invalidArgument :=
    left.failed _ _ failed ▸ error
  rw [← left.triggers, ← left.arrays]
  constructor
  · intro traceless
    refine traceless _ rfl ?_ ?_
    all_goals
      obtain code | code := wrong
      all_goals
        rw [code]
        nofun
  · rintro unchanged r returned - -
    exact Option.some.inj returned ▸ unchanged

theorem traceless_of_guardFails (leaves : ∀ loops, Leaves w loops (result loops))
    (readers : ReadersValid a) (fails : ∃ entry ∈ guardsOf a, GuardFails dds w.active entry) :
    TracelessFailure a triggers ((reset dds w.active a triggers).map result) ↔
      FailsInTime dds a triggers w.active := by
  obtain ⟨text, stopped⟩ := reset_of_guardFails triggers readers fails
  have guards := guards_eq_iff dds w.active triggers a.guardConditions
  rw [stopped, Option.map_some, traceless_of_failure leaves rfl (.inl rfl),
    failsInTime_of_guardFails fails, arrays_eq_iff]
  simp only [readers_eq_iff readers.subscriptions, and_true]
  unfold guardsOf
  rw [← guards]
  tauto

theorem traceless_of_guardsPass (leaves : ∀ loops, Leaves w loops (result loops))
    (readers : ReadersValid a) (pass : ∀ entry ∈ guardsOf a, ¬ GuardFails dds w.active entry) :
    TracelessFailure a triggers ((reset dds w.active a triggers).map result) ↔
      FailsInTime dds a triggers w.active := by
  rw [reset_of_guardsPass triggers readers pass, failsInTime_of_guardsPass pass]
  obtain ⟨fine, done⟩ | ⟨fails, ret, text, code, failed⟩ | ⟨-, alive, lost⟩ :=
    eventLoop_spec dds (eventsOf a)
  · -- nothing fails, so that the call returns one of the two codes
    rw [done]
    refine iff_of_true (fun r returned ok late => ?_) fun fails => ?_
    · obtain rfl := Option.some.inj returned
      rw [(leaves _).finished rfl] at ok late
      by_cases timedOut : w.status = .timeout
      · exact absurd (if_pos timedOut) late
      · exact absurd (if_neg timedOut) ok
    · obtain ⟨ev, first⟩ := fails
      exact absurd (by simpa using List.find?_some first) (fine _ (List.mem_of_find?_eq_some first))
  · have guards := guards_eq_iff dds w.active triggers a.guardConditions
    rw [map_rewriteUntil_of_forall pass] at guards
    rw [failed, Option.map_some, Option.map_some, traceless_of_failure leaves rfl code,
      arrays_eq_iff]
    simp only [readers_eq_iff readers.subscriptions, readers_eq_iff readers.services,
      readers_eq_iff readers.clients, fails, true_imp_iff]
    unfold guardsOf eventsOf at *
    rw [events_eq_iff]
    rw [passed_eq_self pass] at guards
    rw [← guards]
    tauto
  · -- the call gets to a null entry
    rw [lost, Option.map_none, Option.map_none]
    refine iff_of_true (fun r returned => ?_) fun fails => absurd fails alive
    cases returned

end Failing

/-- A call fails without a trace exactly if it fails before the loops, or if the
loops in front of the one that fails have nothing to change: the subscriptions are
all active, and so on up to the entry that it fails on. -/
theorem traceless_failure_iff (dds : Dds) (a : Arrays)
    (waitSet : Option (RmwHandle WaitSetInfo)) (waitTimeout : Option RmwTime)
    (triggers : ℕ → Bool) :
    TracelessFailure a triggers (wait dds a waitSet waitTimeout triggers) ↔
      ∀ w, Resets dds a waitSet waitTimeout w → FailsInTime dds a triggers w.active := by
  obtain ⟨r, failed, -, arrays, after, never⟩ | ⟨w, result, resets, left, leaves⟩ :=
    wait_split dds a waitSet waitTimeout triggers
  · refine iff_of_true (fun r' returned _ _ => ?_) fun w resets => absurd resets (never w)
    rw [failed] at returned
    exact Option.some.inj returned ▸ ⟨after, arrays⟩
  have once : (∀ w, Resets dds a waitSet waitTimeout w → FailsInTime dds a triggers w.active) ↔
      FailsInTime dds a triggers w.active :=
    ⟨fun h => h w resets, fun h w' resets' => resets.unique resets' ▸ h⟩
  obtain ⟨info, held, -, attached⟩ := resets.attached
  have readers : ReadersValid a := readersValid_of_attachAll (congrArg Prod.snd attached)
  rw [once, left]
  by_cases fails : ∃ entry ∈ guardsOf a, GuardFails dds w.active entry
  · exact traceless_of_guardFails leaves readers fails
  · have pass : ∀ entry ∈ guardsOf a, ¬ GuardFails dds w.active entry := by simpa using fails
    exact traceless_of_guardsPass leaves readers pass

/-- An event without data fails a call that has taken the trigger of an active
guard condition. -/
theorem failing_wait_takes_trigger :
    ¬ ∀ dds a waitSet waitTimeout triggers,
      TracelessFailure a triggers (wait dds a waitSet waitTimeout triggers) := by
  intro claim
  have traceless := claim (answering .ok [.guard 3])
    ⟨none, some [some 3], none, none, some [some ⟨none, .livelinessChanged⟩]⟩ (handleOf []) none
    fun _ => true
  have kept := congrFun (traceless _ rfl (by decide) (by decide)).1 3
  exact absurd kept (by decide)

end RmwOpendds.Wait
