import RmwOpendds.Library.EarlyExit
import RmwOpendds.WaitWoken

/-! What `rmw_wait` reports. The attach phase has looked at every entry but the
events, so that behind it only a guard condition that cannot be reset or an event
without an entity stops the loops; a call that returns without an error has gone
through all of them. -/

namespace RmwOpendds.Wait

open Library

instance (entry : Option Waitable) : Decidable (ValidReader entry) :=
  match entry with
  | none => .isFalse nofun
  | some ⟨none⟩ => .isFalse nofun
  | some ⟨some id⟩ => .isTrue ⟨id, rfl⟩

def ReaderActive (active : List Condition) (entry : Option Waitable) : Prop :=
  ∃ id, entry = some ⟨some id⟩ ∧ .read id ∈ active

instance (active : List Condition) (entry : Option Waitable) :
    Decidable (ReaderActive active entry) :=
  match entry with
  | none => .isFalse nofun
  | some ⟨none⟩ => .isFalse nofun
  | some ⟨some id⟩ => decidable_of_iff (.read id ∈ active) (by simp [ReaderActive])

def GuardActive (active : List Condition) (entry : Option ℕ) : Prop :=
  ∃ g, entry = some g ∧ .guard g ∈ active

instance (active : List Condition) (entry : Option ℕ) : Decidable (GuardActive active entry) :=
  match entry with
  | none => .isFalse nofun
  | some g => decidable_of_iff (.guard g ∈ active) (by simp [GuardActive])

def keepReader (active : List Condition) (entry : Option Waitable) : Option Waitable :=
  if ReaderActive active entry then entry else none

def keepGuard (active : List Condition) (entry : Option ℕ) : Option ℕ :=
  if GuardActive active entry then entry else none

def resetTriggers (active : List Condition) (guards : List (Option ℕ)) (triggers : ℕ → Bool) :
    ℕ → Bool :=
  fun g => if some g ∈ guards ∧ .guard g ∈ active then false else triggers g

def GuardFails (dds : Dds) (active : List Condition) (entry : Option ℕ) : Prop :=
  ∀ g, entry = some g → .guard g ∈ active ∧ dds.setTriggerValue g ≠ .ok

instance (dds : Dds) (active : List Condition) (entry : Option ℕ) :
    Decidable (GuardFails dds active entry) :=
  match entry with
  | none => .isTrue nofun
  | some g => decidable_of_iff (.guard g ∈ active ∧ dds.setTriggerValue g ≠ .ok)
      (by simp [GuardFails])

/-- The event loop gets no further than a null entry, which it dereferences, or an event
without data or entity, at which it returns. -/
def EventStops (entry : Option RmwEvent) : Prop :=
  ¬ ∃ ev entity, entry = some ev ∧ ev.data = some ⟨some entity⟩

instance (entry : Option RmwEvent) : Decidable (EventStops entry) :=
  match entry with
  | none => .isTrue (by simp [EventStops])
  | some ⟨none, _⟩ => .isTrue (by simp [EventStops])
  | some ⟨some ⟨none⟩, _⟩ => .isTrue (by simp [EventStops])
  | some ⟨some ⟨some _⟩, _⟩ => .isFalse (by simp [EventStops])

def EventsFail (entries : List (Option RmwEvent)) : Prop :=
  ∃ ev, entries.find? (fun entry => EventStops entry) = some (some ev)

section Loops

theorem resetReaders_valid (infoNull : String) (active : List Condition)
    {entries : List (Option Waitable)} (valid : ∀ entry ∈ entries, ValidReader entry) :
    resetReaders infoNull active entries = (entries.map (keepReader active), none) := by
  induction entries with
  | nil => rfl
  | cons entry entries ih =>
    obtain ⟨id, rfl⟩ := valid entry List.mem_cons_self
    have rest := ih fun x hx => valid x (List.mem_cons_of_mem _ hx)
    simp [resetReaders, readCondition, rest, keepReader, ReaderActive]

@[simp] theorem resetTriggers_nil (active : List Condition) (triggers : ℕ → Bool) :
    resetTriggers active [] triggers = triggers := by
  funext g
  simp [resetTriggers]

theorem resetTriggers_active {active : List Condition} {g : ℕ} (member : .guard g ∈ active)
    (guards : List (Option ℕ)) (triggers : ℕ → Bool) :
    resetTriggers active (some g :: guards) triggers =
      resetTriggers active guards (Function.update triggers g false) := by
  funext h
  by_cases same : h = g
  · simp [resetTriggers, same, member]
  · simp [resetTriggers, same]

theorem resetTriggers_inactive {active : List Condition} {g : ℕ} (absent : .guard g ∉ active)
    (guards : List (Option ℕ)) (triggers : ℕ → Bool) :
    resetTriggers active (some g :: guards) triggers = resetTriggers active guards triggers := by
  funext h
  by_cases same : h = g
  · simp [resetTriggers, same, absent]
  · simp [resetTriggers, same]

theorem resetGuards_spec (dds : Dds) (active : List Condition) (entries : List (Option ℕ))
    (triggers : ℕ → Bool) :
    (resetGuards dds active entries triggers).1 =
        rewriteUntil (GuardFails dds active) (keepGuard active) entries ∧
      (resetGuards dds active entries triggers).2.1 =
        resetTriggers active (passed (GuardFails dds active) entries) triggers ∧
      ((resetGuards dds active entries triggers).2.2 = none ↔
        ∀ entry ∈ entries, ¬ GuardFails dds active entry) := by
  induction entries generalizing triggers with
  | nil => simp [resetGuards, rewriteUntil, passed]
  | cons entry entries ih =>
    cases entry with
    | none =>
      have fails : GuardFails dds active none := nofun
      simp [resetGuards, rewriteUntil, passed_cons_of_fails fails, fails]
    | some g =>
      by_cases member : .guard g ∈ active
      · by_cases set : dds.setTriggerValue g = .ok
        · have passes : ¬ GuardFails dds active (some g) := by simp [GuardFails, set]
          obtain ⟨arrays, after, done⟩ := ih (Function.update triggers g false)
          have kept : keepGuard active (some g) = some g := by simp [keepGuard, GuardActive, member]
          rw [rewriteUntil, if_neg passes, passed_cons_of_not_fails passes,
            resetTriggers_active member, ← arrays, ← after, kept]
          simp [resetGuards, setGuard, member, set, passes, done]
        · have fails : GuardFails dds active (some g) := by simp [GuardFails, member, set]
          simp [resetGuards, setGuard, member, set, rewriteUntil, passed_cons_of_fails fails, fails]
      · have passes : ¬ GuardFails dds active (some g) := by simp [GuardFails, member]
        obtain ⟨arrays, after, done⟩ := ih triggers
        have nulled : keepGuard active (some g) = none := by simp [keepGuard, GuardActive, member]
        rw [rewriteUntil, if_neg passes, passed_cons_of_not_fails passes,
          resetTriggers_inactive member, ← arrays, ← after, nulled]
        simp [resetGuards, member, passes, done]

theorem eventLoop_spec (dds : Dds) (entries : List (Option RmwEvent)) :
    ((∀ entry ∈ entries, ¬ EventStops entry) ∧
      eventLoop dds entries = some (entries.map (keepEvent dds.getStatusChanges), none)) ∨
    (EventsFail entries ∧ ∃ ret text, (ret = .error ∨ ret = .invalidArgument) ∧
      eventLoop dds entries =
        some (rewriteUntil EventStops (keepEvent dds.getStatusChanges) entries,
          some (ret, text))) ∨
    ((∃ entry ∈ entries, EventStops entry) ∧ ¬ EventsFail entries ∧
      eventLoop dds entries = none) := by
  induction entries with
  | nil => simp [eventLoop]
  | cons entry entries ih =>
    rcases entry with _ | ⟨_ | ⟨_ | entity⟩, eventType⟩
    · have stops : EventStops none := by simp [EventStops]
      exact .inr (.inr ⟨⟨none, List.mem_cons_self, stops⟩, by simp [EventsFail, stops], rfl⟩)
    · have stops : EventStops (some ⟨none, eventType⟩) := by simp [EventStops]
      refine .inr (.inl ⟨⟨⟨none, eventType⟩, by simp [stops]⟩, .invalidArgument,
        "ev->data argument is null", .inr rfl, ?_⟩)
      rw [rewriteUntil, if_pos stops]
      rfl
    · have stops : EventStops (some ⟨some ⟨none⟩, eventType⟩) := by simp [EventStops]
      refine .inr (.inl ⟨⟨⟨some ⟨none⟩, eventType⟩, by simp [stops]⟩, .error,
        "Event entity is null", .inl rfl, ?_⟩)
      rw [rewriteUntil, if_pos stops]
      rfl
    · have passes : ¬ EventStops (some ⟨some ⟨some entity⟩, eventType⟩) := by simp [EventStops]
      have same : EventsFail (some ⟨some ⟨some entity⟩, eventType⟩ :: entries) ↔
          EventsFail entries := by
        simp [EventsFail, passes]
      have one : eventLoop dds (some ⟨some ⟨some entity⟩, eventType⟩ :: entries) =
          (eventLoop dds entries).map fun left =>
            (keepEvent dds.getStatusChanges (some ⟨some ⟨some entity⟩, eventType⟩) :: left.1,
              left.2) := by
        simp [eventLoop, keepEvent, EventReady]
      rw [same, one]
      obtain ⟨fine, done⟩ | ⟨fails, ret, text, code, failed⟩ | ⟨⟨other, member, stops⟩, alive, lost⟩
        := ih
      · exact .inl ⟨List.forall_mem_cons.mpr ⟨passes, fine⟩, by rw [done]; rfl⟩
      · refine .inr (.inl ⟨fails, ret, text, code, ?_⟩)
        rw [failed, rewriteUntil, if_neg passes]
        rfl
      · exact .inr (.inr ⟨⟨other, List.mem_cons_of_mem _ member, stops⟩, alive, by rw [lost]; rfl⟩)

end Loops

/-- What the attach phase has made sure of when the loops start. -/
structure ReadersValid (a : Arrays) : Prop where
  subscriptions : ∀ entry ∈ a.subscriptions.getD [], ValidReader entry
  services : ∀ entry ∈ a.services.getD [], ValidReader entry
  clients : ∀ entry ∈ a.clients.getD [], ValidReader entry

def guardsOf (a : Arrays) : List (Option ℕ) := a.guardConditions.getD []

def eventsOf (a : Arrays) : List (Option RmwEvent) := a.events.getD []

section Reset

variable {dds : Dds} {active : List Condition} {a : Arrays} (triggers : ℕ → Bool)

theorem map_guards (a : Arrays) (f : List (Option ℕ) → List (Option ℕ)) :
    (a.guardConditions.map fun _ => f (a.guardConditions.getD [])) = a.guardConditions.map f := by
  cases a.guardConditions <;> rfl

theorem reset_of_guardFails (readers : ReadersValid a)
    (fails : ∃ entry ∈ guardsOf a, GuardFails dds active entry) :
    ∃ text, reset dds active a triggers = some
      { arrays :=
          { a with
            subscriptions := a.subscriptions.map (·.map (keepReader active))
            guardConditions :=
              a.guardConditions.map (rewriteUntil (GuardFails dds active) (keepGuard active)) }
        triggers := resetTriggers active (passed (GuardFails dds active) (guardsOf a)) triggers
        failure := some (.error, text) } := by
  obtain ⟨arrays, after, done⟩ := resetGuards_spec dds active (guardsOf a) triggers
  have stopped : (resetGuards dds active (guardsOf a) triggers).2.2 ≠ none := by
    obtain ⟨entry, member, failed⟩ := fails
    exact fun none => done.mp none entry member failed
  obtain ⟨text, error⟩ := Option.ne_none_iff_exists'.mp stopped
  rw [← after]
  unfold guardsOf at arrays error ⊢
  simp only [reset, overArray_eq _ (resetReaders_valid _ active readers.subscriptions), error,
    arrays, map_guards]
  exact ⟨text, rfl⟩

theorem reset_of_guardsPass (readers : ReadersValid a)
    (pass : ∀ entry ∈ guardsOf a, ¬ GuardFails dds active entry) :
    reset dds active a triggers = (eventLoop dds (eventsOf a)).map fun (events, failure) =>
      { arrays :=
          { subscriptions := a.subscriptions.map (·.map (keepReader active))
            guardConditions := a.guardConditions.map (·.map (keepGuard active))
            services := a.services.map (·.map (keepReader active))
            clients := a.clients.map (·.map (keepReader active))
            events := a.events.map fun _ => events }
        triggers := resetTriggers active (guardsOf a) triggers
        failure } := by
  obtain ⟨guards, after, done⟩ := resetGuards_spec dds active (guardsOf a) triggers
  rw [rewriteUntil_of_forall pass] at guards
  rw [passed_eq_self pass] at after
  have passed := done.mpr pass
  rw [← after]
  unfold guardsOf at guards passed ⊢
  have events : handleActiveEventConditions dds a.events =
      (eventLoop dds (eventsOf a)).map fun (events, failure) =>
        (a.events.map fun _ => events, failure) := by
    cases h : a.events with
    | none => simp [eventsOf, h, handleActiveEventConditions, eventLoop]
    | some evs => simp [eventsOf, h, handleActiveEventConditions]
  simp only [reset, overArray_eq _ (resetReaders_valid _ active readers.subscriptions), passed,
    overArray_eq _ (resetReaders_valid _ active readers.services),
    overArray_eq _ (resetReaders_valid _ active readers.clients), guards, events, map_guards,
    Option.map_map]
  rfl

end Reset

structure Resets (dds : Dds) (a : Arrays) (waitSet : Option (RmwHandle WaitSetInfo))
    (waitTimeout : Option RmwTime) (w : Waited) : Prop where
  attached : ∃ info held, openWaitSet waitSet = .ok (info, held) ∧
    attachAll dds 0 (wanted a) held = (w.attached, none)
  timeout : w.timeout = timeout waitTimeout
  answer : dds.wait w.attached w.timeout = (w.status, w.active)
  returned : w.status = .ok ∨ w.status = .timeout

/-- A call opens its wait set in one way. -/
theorem Resets.attachAll_eq {dds : Dds} {a : Arrays} {waitSet : Option (RmwHandle WaitSetInfo)}
    {waitTimeout : Option RmwTime} {w : Waited} (resets : Resets dds a waitSet waitTimeout w)
    {info : WaitSetInfo} {held : List Condition} (opened : openWaitSet waitSet = .ok (info, held)) :
    attachAll dds 0 (wanted a) held = (w.attached, none) := by
  obtain ⟨info', held', opened', attached⟩ := resets.attached
  rw [opened] at opened'
  cases opened'
  exact attached

theorem ok_of_attachAll {dds : Dds} {n : ℕ} {wants : List (Except String Condition)}
    {held : List Condition} (done : (attachAll dds n wants held).2 = none) :
    ∀ want ∈ wants, ∃ c, want = .ok c := by
  induction wants generalizing n held with
  | nil => nofun
  | cons want wants ih =>
    cases want with
    | error text => cases done
    | ok c =>
      rw [attachAll] at done
      split at done
      · cases done
      · exact List.forall_mem_cons.mpr ⟨⟨c, rfl⟩, ih done⟩

theorem validReader_of_ok {infoNull : String} {entry : Option Waitable} {c : Condition}
    (ok : readCondition infoNull entry = .ok c) : ValidReader entry := by
  match entry with
  | none => cases ok
  | some ⟨none⟩ => cases ok
  | some ⟨some id⟩ => exact ⟨id, rfl⟩

theorem readersValid_of_attachAll {dds : Dds} {a : Arrays} {held : List Condition}
    (done : (attachAll dds 0 (wanted a) held).2 = none) : ReadersValid a := by
  have ok := ok_of_attachAll done
  refine ⟨fun entry member => ?_, fun entry member => ?_, fun entry member => ?_⟩
  · obtain ⟨c, fine⟩ := ok (readCondition "subscriber info is null" entry) (by
      simp only [wanted, List.mem_append]
      exact .inl (.inl (.inl (List.mem_map_of_mem member))))
    exact validReader_of_ok fine
  · obtain ⟨c, fine⟩ := ok (readCondition "service info is null" entry) (by
      simp only [wanted, List.mem_append]
      exact .inl (.inr (List.mem_map_of_mem member)))
    exact validReader_of_ok fine
  · obtain ⟨c, fine⟩ := ok (readCondition "client info is null" entry) (by
      simp only [wanted, List.mem_append]
      exact .inr (List.mem_map_of_mem member))
    exact validReader_of_ok fine

structure Leaves (w : Waited) (loops : Reset) (r : WaitResult) : Prop where
  waited : r.waited = some w
  arrays : r.arrays = loops.arrays
  triggers : r.triggers = loops.triggers
  failed : ∀ ret text, loops.failure = some (ret, text) → r.ret = ret
  finished : loops.failure = none → r.ret = if w.status = .timeout then .timeout else .ok

/-- A call on any wait set: it fails before the loops and touches nothing, or it
leaves what the loops leave. -/
theorem wait_split (dds : Dds) (a : Arrays) (waitSet : Option (RmwHandle WaitSetInfo))
    (waitTimeout : Option RmwTime) (triggers : ℕ → Bool) :
    (∃ r, wait dds a waitSet waitTimeout triggers = some r ∧
      r.ret = .error ∧ r.arrays = a ∧ r.triggers = triggers ∧
      ∀ w, ¬ Resets dds a waitSet waitTimeout w) ∨
    ∃ w result, Resets dds a waitSet waitTimeout w ∧
      wait dds a waitSet waitTimeout triggers = (reset dds w.active a triggers).map result ∧
      ∀ loops, Leaves w loops (result loops) := by
  simp only [wait]
  split
  · rename_i text failed
    refine .inl ⟨_, rfl, rfl, rfl, rfl, fun w resets => ?_⟩
    obtain ⟨info, held, opened, -⟩ := resets.attached
    rw [failed] at opened
    cases opened
  · rename_i info held opened
    split
    · rename_i text failed
      refine .inl ⟨_, rfl, rfl, rfl, rfl, fun w resets => ?_⟩
      rw [resets.attachAll_eq opened] at failed
      cases failed
    · rename_i done
      set attached := (attachAll dds 0 (wanted a) held).1 with attached_eq
      have all : attachAll dds 0 (wanted a) held = (attached, none) := Prod.ext rfl done
      split
      · rename_i broken
        change (dds.wait attached (timeout waitTimeout)).1 ≠ .ok ∧
          (dds.wait attached (timeout waitTimeout)).1 ≠ .timeout at broken
        refine .inl ⟨_, rfl, rfl, rfl, rfl, fun w resets => ?_⟩
        have same : attached = w.attached := congrArg Prod.fst (resets.attachAll_eq opened)
        have answer := resets.answer
        rw [resets.timeout, ← same] at answer
        rw [answer] at broken
        exact broken.elim resets.returned.elim
      · rename_i returned
        let answer := dds.wait attached (timeout waitTimeout)
        have status : answer.1 = .ok ∨ answer.1 = .timeout := or_iff_not_and_not.mpr returned
        refine .inr ⟨⟨attached, timeout waitTimeout, answer.1, answer.2⟩, _,
          ⟨⟨info, held, opened, all⟩, rfl, rfl, status⟩, rfl, fun loops => ?_⟩
        obtain ⟨arrays, triggers, _ | ⟨ret, text⟩⟩ := loops
        · refine ⟨rfl, rfl, rfl, fun _ _ failed => ?_, fun _ => rfl⟩
          cases failed
        · refine ⟨rfl, rfl, rfl, fun ret' text' same => ?_, fun finished => ?_⟩
          · cases same
            rfl
          · cases finished

structure Reports (dds : Dds) (a : Arrays) (triggers : ℕ → Bool) (active : List Condition)
    (r : WaitResult) : Prop where
  subscriptions : r.arrays.subscriptions = a.subscriptions.map (·.map (keepReader active))
  services : r.arrays.services = a.services.map (·.map (keepReader active))
  clients : r.arrays.clients = a.clients.map (·.map (keepReader active))
  guardConditions : r.arrays.guardConditions = a.guardConditions.map (·.map (keepGuard active))
  events : r.arrays.events = a.events.map (·.map (keepEvent dds.getStatusChanges))
  cleared : ∀ g, some g ∈ guardsOf a → .guard g ∈ active → r.triggers g = false
  others : ∀ g, ¬ (some g ∈ guardsOf a ∧ .guard g ∈ active) → r.triggers g = triggers g

/-- Whatever the arrays, the wait set and DDS are: a wait that ends without an
error keeps the active entries of all five arrays and nulls the others, and resets
the active guard conditions of the array and no others. -/
theorem wait_reports (dds : Dds) (a : Arrays) (waitSet : Option (RmwHandle WaitSetInfo))
    (waitTimeout : Option RmwTime) (triggers : ℕ → Bool) (r : WaitResult)
    (returned : wait dds a waitSet waitTimeout triggers = some r)
    (fine : r.ret = .ok ∨ r.ret = .timeout) :
    ∃ w, r.waited = some w ∧ dds.wait w.attached w.timeout = (w.status, w.active) ∧
      Reports dds a triggers w.active r := by
  obtain ⟨r', failed, error, -⟩ | ⟨w, result, resets, left, leaves⟩ :=
    wait_split dds a waitSet waitTimeout triggers
  · rw [failed] at returned
    obtain rfl := Option.some.inj returned
    simp [error] at fine
  rw [left] at returned
  obtain ⟨loops, reached, rfl⟩ := Option.map_eq_some_iff.mp returned
  obtain ⟨waited, arrays, after, failed, -⟩ := leaves loops
  obtain ⟨info, held, -, attached⟩ := resets.attached
  have readers : ReadersValid a := readersValid_of_attachAll (congrArg Prod.snd attached)
  have pass : ∀ entry ∈ guardsOf a, ¬ GuardFails dds w.active entry := by
    intro entry member fails
    obtain ⟨text, stopped⟩ := reset_of_guardFails triggers readers ⟨entry, member, fails⟩
    rw [stopped] at reached
    obtain rfl := Option.some.inj reached
    simp [failed _ _ rfl] at fine
  rw [reset_of_guardsPass triggers readers pass] at reached
  obtain ⟨-, done⟩ | ⟨-, ret, text, code, wrong⟩ | ⟨-, -, lost⟩ := eventLoop_spec dds (eventsOf a)
  · rw [done] at reached
    obtain rfl := Option.some.inj reached
    change _ = resetTriggers w.active (guardsOf a) triggers at after
    refine ⟨w, waited, resets.answer, ?_⟩
    exact
      { subscriptions := congrArg Arrays.subscriptions arrays
        services := congrArg Arrays.services arrays
        clients := congrArg Arrays.clients arrays
        guardConditions := congrArg Arrays.guardConditions arrays
        events := by
          rw [congrArg Arrays.events arrays, eventsOf]
          cases a.events <;> rfl
        cleared := fun g member active => by
          rw [after, resetTriggers, if_pos ⟨member, active⟩]
        others := fun g untouched => by
          rw [after, resetTriggers, if_neg untouched] }
  · rw [wrong] at reached
    obtain rfl := Option.some.inj reached
    rw [failed _ _ rfl] at fine
    obtain rfl | rfl := code <;> simp at fine
  · rw [lost] at reached
    cases reached

def answering (status : ReturnCode) (active : List Condition) : Dds :=
  { silent with wait := fun _ _ => (status, active) }

def mixedArrays : Arrays :=
  ⟨some [some ⟨some 1⟩], some [some 3, some 4, some 3], none, none, some [some livelinessEvent]⟩

theorem wait_reports_guard :
    ∃ r w, wait (answering .ok [.guard 3]) mixedArrays (handleOf []) none (fun _ => true) =
        some r ∧ r.waited = some w ∧ w.active = [.guard 3] ∧
      Reports (answering .ok [.guard 3]) mixedArrays (fun _ => true) w.active r := by
  have returned : (wait (answering .ok [.guard 3]) mixedArrays (handleOf []) none
      fun _ => true).map (·.ret) = some .ok := by decide
  obtain ⟨r, returned, ok⟩ := Option.map_eq_some_iff.mp returned
  obtain ⟨w, waited, answer, reports⟩ := wait_reports (answering .ok [.guard 3]) mixedArrays
    (handleOf []) none (fun _ => true) r returned (.inl ok)
  exact ⟨r, w, returned, waited, (congrArg Prod.snd answer).symm, reports⟩

end RmwOpendds.Wait
