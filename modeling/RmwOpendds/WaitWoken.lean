import Mathlib.Data.List.Basic
import RmwOpendds.Library.Machine
import RmwOpendds.Wait

/-! What wakes `rmw_wait`. The attach loops cover the subscriptions, the guard
conditions, the services and the clients; nothing attaches a condition for an
event, so that an event neither ends the wait nor keeps it from reporting a
timeout. -/

namespace RmwOpendds.Wait

open Library

def ValidReader (entry : Option Waitable) : Prop := ∃ id, entry = some ⟨some id⟩

/-- An event as `rmw_event_init` leaves it: of a supported type, on an entity. -/
def ValidEvent (ev : RmwEvent) : Prop :=
  (∃ entity, ev.data = some ⟨some entity⟩) ∧ isEventSupported ev.eventType

structure Valid (a : Arrays) : Prop where
  subscriptions : ∀ entry ∈ a.subscriptions.getD [], ValidReader entry
  guardConditions : ∀ entry ∈ a.guardConditions.getD [], ∃ g, entry = some g
  services : ∀ entry ∈ a.services.getD [], ValidReader entry
  clients : ∀ entry ∈ a.clients.getD [], ValidReader entry
  events : ∀ entry ∈ a.events.getD [], ∃ ev, entry = some ev ∧ ValidEvent ev

def NoEvents (a : Arrays) : Prop := a.events.getD [] = []

/-- The entities when the DDS wait is called, and which conditions became true
before it returned. -/
structure Moment where
  triggered : Condition → Bool
  became : Condition → Bool
  statusChanges : ℕ → StatusMask

/-- What is assumed of the DDS wait: it returns at once with the attached
conditions that are true if there is one, and times out with an empty sequence
only if none became true. -/
structure Lawful (dds : Dds) (now : Moment) : Prop where
  atOnce : ∀ attached t, (∃ c ∈ attached, now.triggered c) →
    (dds.wait attached t).1 = .ok ∧
      ∀ c, c ∈ (dds.wait attached t).2 ↔ c ∈ attached ∧ now.triggered c
  timeout : ∀ attached t, (dds.wait attached t).1 = .timeout →
    (dds.wait attached t).2 = [] ∧ ∀ c ∈ attached, ¬ now.became c

def EventReady (statusChanges : ℕ → StatusMask) (entry : Option RmwEvent) : Prop :=
  ∃ ev entity, entry = some ev ∧ ev.data = some ⟨some entity⟩ ∧
    eventActive (statusChanges entity) ev.eventType

def Ready (a : Arrays) (now : Moment) : Prop :=
  (∃ c, .ok c ∈ wanted a ∧ now.triggered c) ∨
    ∃ entry ∈ a.events.getD [], EventReady now.statusChanges entry

/-- Every entity of the five arrays has a condition among the attached ones. -/
def Represented (a : Arrays) (attached : List Condition) : Prop :=
  (∀ c, .ok c ∈ wanted a → c ∈ attached) ∧
    ∀ ev entity, some ev ∈ a.events.getD [] → ev.data = some ⟨some entity⟩ →
      .status entity ∈ attached

structure AllNull (a : Arrays) : Prop where
  subscriptions : ∀ entry ∈ a.subscriptions.getD [], entry = none
  guardConditions : ∀ entry ∈ a.guardConditions.getD [], entry = none
  services : ∀ entry ∈ a.services.getD [], entry = none
  clients : ∀ entry ∈ a.clients.getD [], entry = none
  events : ∀ entry ∈ a.events.getD [], entry = none

structure Woken (a : Arrays) (now : Moment) (r : WaitResult) : Prop where
  represented : ∀ w, r.waited = some w → Represented a w.attached
  notBlocked : ∀ w, r.waited = some w → Ready a now → w.status ≠ .timeout
  timeout : r.ret = .timeout → AllNull r.arrays

section Attach

variable (dds : Dds)

theorem mem_attach {attached : List Condition} {c d : Condition} :
    d ∈ attach attached c ↔ d ∈ attached ∨ d = c := by
  unfold attach
  split
  · rename_i present
    exact ⟨.inl, fun h => h.elim id fun same => same ▸ present⟩
  · simp

theorem mem_of_mem_attachAll {n : ℕ} {wants : List (Except String Condition)}
    {held : List Condition} {c : Condition} (h : c ∈ (attachAll dds n wants held).1) :
    c ∈ held ∨ .ok c ∈ wants := by
  induction wants generalizing n held with
  | nil => exact .inl h
  | cons want wants ih =>
    cases want with
    | error text => exact .inl h
    | ok d =>
      rw [attachAll] at h
      split at h
      · exact .inl h
      · obtain old | later := ih h
        · obtain old | rfl := mem_attach.mp old
          · exact .inl old
          · exact .inr List.mem_cons_self
        · exact .inr (List.mem_cons_of_mem _ later)

theorem mem_attachAll {n : ℕ} {wants : List (Except String Condition)} {held : List Condition}
    (done : (attachAll dds n wants held).2 = none) {c : Condition} :
    c ∈ (attachAll dds n wants held).1 ↔ c ∈ held ∨ .ok c ∈ wants := by
  refine ⟨mem_of_mem_attachAll dds, ?_⟩
  induction wants generalizing n held with
  | nil => simp [attachAll]
  | cons want wants ih =>
    cases want with
    | error text => cases done
    | ok d =>
      rw [attachAll] at done ⊢
      split at done
      · cases done
      · rintro (old | member)
        · exact ih done (.inl (mem_attach.mpr (.inl old)))
        · obtain same | later := List.mem_cons.mp member
          · exact ih done (.inl (mem_attach.mpr (.inr (Except.ok.inj same))))
          · exact ih done (.inr later)

theorem status_not_wanted (a : Arrays) (n : ℕ) :
    .ok (.status n) ∉ wanted a := by
  have reader : ∀ text entry, readCondition text entry ≠ .ok (.status n) := by
    intro text entry
    unfold readCondition
    split
    · exact nofun
    · split <;> exact nofun
  have guard : ∀ text entry, guardCondition text entry ≠ .ok (.status n) := by
    intro text entry
    unfold guardCondition
    split <;> exact nofun
  simp [wanted, reader, guard]

end Attach

section Reset

variable {active : List Condition}

theorem resetReaders_nil (infoNull : String) {entries : List (Option Waitable)}
    (valid : ∀ entry ∈ entries, ValidReader entry) :
    resetReaders infoNull [] entries = (entries.map fun _ => none, none) := by
  induction entries with
  | nil => rfl
  | cons entry entries ih =>
    obtain ⟨id, rfl⟩ := valid entry List.mem_cons_self
    have rest := ih fun x hx => valid x (List.mem_cons_of_mem _ hx)
    simp [resetReaders, readCondition, rest]

theorem resetGuards_nil (dds : Dds) (triggers : ℕ → Bool) {entries : List (Option ℕ)}
    (valid : ∀ entry ∈ entries, ∃ g, entry = some g) :
    resetGuards dds [] entries triggers = (entries.map fun _ => none, triggers, none) := by
  induction entries with
  | nil => rfl
  | cons entry entries ih =>
    obtain ⟨g, rfl⟩ := valid entry List.mem_cons_self
    have rest := ih fun x hx => valid x (List.mem_cons_of_mem _ hx)
    simp [resetGuards, rest]

instance (statusChanges : ℕ → StatusMask) (entry : Option RmwEvent) :
    Decidable (EventReady statusChanges entry) :=
  match entry with
  | none => .isFalse (by simp [EventReady])
  | some ⟨none, _⟩ => .isFalse (by simp [EventReady])
  | some ⟨some ⟨none⟩, _⟩ => .isFalse (by simp [EventReady])
  | some ⟨some ⟨some entity⟩, eventType⟩ =>
    decidable_of_iff (eventActive (statusChanges entity) eventType) (by simp [EventReady])

def keepEvent (statusChanges : ℕ → StatusMask) (entry : Option RmwEvent) : Option RmwEvent :=
  if EventReady statusChanges entry then entry else none

theorem eventLoop_valid (dds : Dds) {entries : List (Option RmwEvent)}
    (valid : ∀ entry ∈ entries, ∃ ev, entry = some ev ∧ ValidEvent ev) :
    eventLoop dds entries = some (entries.map (keepEvent dds.getStatusChanges), none) := by
  induction entries with
  | nil => rfl
  | cons entry entries ih =>
    have rest := ih fun x hx => valid x (List.mem_cons_of_mem _ hx)
    obtain ⟨ev, rfl, ⟨entity, data⟩, -⟩ := valid entry List.mem_cons_self
    simp [eventLoop, data, rest, keepEvent, EventReady]

theorem handleActiveEventConditions_valid (dds : Dds) {array : Option (List (Option RmwEvent))}
    (valid : ∀ entry ∈ array.getD [], ∃ ev, entry = some ev ∧ ValidEvent ev) :
    handleActiveEventConditions dds array =
      some (array.map (·.map (keepEvent dds.getStatusChanges)), none) := by
  cases array with
  | none => rfl
  | some entries =>
    rw [Option.getD_some] at valid
    simp [handleActiveEventConditions, eventLoop_valid dds valid]

theorem overArray_eq {α γ : Type} {loop : List α → List α × Option γ} {f : α → α}
    (array : Option (List α)) (law : loop (array.getD []) = ((array.getD []).map f, none)) :
    overArray loop array = (array.map (·.map f), none) := by
  cases array with
  | none => rfl
  | some entries =>
    rw [Option.getD_some] at law
    simp [overArray, law]

theorem reset_nil (dds : Dds) {a : Arrays} (valid : Valid a) (triggers : ℕ → Bool) :
    reset dds [] a triggers = some
      { arrays :=
          { subscriptions := a.subscriptions.map (·.map fun _ => none)
            guardConditions := a.guardConditions.map (·.map fun _ => none)
            services := a.services.map (·.map fun _ => none)
            clients := a.clients.map (·.map fun _ => none)
            events := a.events.map (·.map (keepEvent dds.getStatusChanges)) }
        triggers := triggers
        failure := none } := by
  have guards : a.guardConditions.map
      (fun _ => (a.guardConditions.getD []).map fun _ => (none : Option ℕ)) =
      a.guardConditions.map (·.map fun _ => none) := by
    cases a.guardConditions <;> rfl
  simp only [reset, overArray_eq _ (resetReaders_nil _ valid.subscriptions),
    resetGuards_nil dds triggers valid.guardConditions,
    overArray_eq _ (resetReaders_nil _ valid.services),
    overArray_eq _ (resetReaders_nil _ valid.clients),
    handleActiveEventConditions_valid dds valid.events, Option.map_some, guards]

theorem reset_valid (dds : Dds) (active : List Condition) {a : Arrays} (valid : Valid a)
    (triggers : ℕ → Bool) :
    ∃ r, reset dds active a triggers = some r ∧
      ∀ ret text, r.failure = some (ret, text) → ret = .error := by
  unfold reset
  have events := handleActiveEventConditions_valid dds valid.events
  dsimp only
  split
  · simp
  · split
    · simp
    · split
      · simp
      · split
        · simp
        · simp [events]

end Reset

/-- A wait set as `create_wait_set` makes it, with the given conditions attached. -/
def handleOf (held : List Condition) : Option (RmwHandle WaitSetInfo) :=
  some ⟨.opendds, some ⟨some held, some [], some []⟩⟩

section Call

variable (dds : Dds) (a : Arrays) (held : List Condition) (waitTimeout : Option RmwTime)
  (triggers : ℕ → Bool)

/-- A call that returns either fails to attach, or waits on what it attached; in the
second case it fails, or it returns what the loops left. -/
theorem wait_cases {r : WaitResult}
    (returned : wait dds a (handleOf held) waitTimeout triggers = some r) :
    let attached := (attachAll dds 0 (wanted a) held).1
    let answer := dds.wait attached (timeout waitTimeout)
    r.attached = (clean dds ⟨some held, some [], some []⟩ attached).1 ∧
    (((attachAll dds 0 (wanted a) held).2 ≠ none ∧ r.waited = none ∧ r.ret = .error) ∨
      (attachAll dds 0 (wanted a) held).2 = none ∧
        r.waited = some ⟨attached, timeout waitTimeout, answer.1, answer.2⟩ ∧
        (r.ret = .error ∨ ∃ loops, reset dds answer.2 a triggers = some loops ∧
          ((∃ text, loops.failure = some (r.ret, text)) ∨
            (answer.1 = .ok ∨ answer.1 = .timeout) ∧ loops.failure = none ∧
              r.ret = (if answer.1 = .timeout then .timeout else .ok) ∧
              r.arrays = loops.arrays))) := by
  simp only [wait, handleOf, openWaitSet, ne_eq, not_true_eq_false, if_false] at returned
  split at returned
  · rename_i text failed
    obtain rfl := Option.some.inj returned
    exact ⟨rfl, .inl ⟨failed ▸ nofun, rfl, rfl⟩⟩
  · rename_i done
    split at returned
    · obtain rfl := Option.some.inj returned
      exact ⟨rfl, .inr ⟨done, rfl, .inl rfl⟩⟩
    · rename_i answered
      have status := or_iff_not_and_not.mpr answered
      obtain ⟨loops, reached, rfl⟩ := Option.map_eq_some_iff.mp returned
      split
      · rename_i failed
        exact ⟨rfl, .inr ⟨done, rfl, .inr ⟨loops, reached, .inl ⟨_, failed⟩⟩⟩⟩
      · rename_i finished
        exact ⟨rfl, .inr ⟨done, rfl, .inr ⟨loops, reached, .inr ⟨status, finished, rfl, rfl⟩⟩⟩⟩

variable {dds a held waitTimeout triggers}

theorem wait_returns (valid : Valid a) :
    ∃ r, wait dds a (handleOf held) waitTimeout triggers = some r := by
  simp only [wait, handleOf, openWaitSet, ne_eq, not_true_eq_false, if_false]
  split
  · exact ⟨_, rfl⟩
  · split
    · exact ⟨_, rfl⟩
    · obtain ⟨loops, reached, -⟩ := reset_valid dds
        (dds.wait (attachAll dds 0 (wanted a) held).1 (timeout waitTimeout)).2 valid triggers
      exact ⟨_, Option.map_eq_some_iff.mpr ⟨loops, reached, rfl⟩⟩

variable {r : WaitResult}

theorem waited_eq_some (returned : wait dds a (handleOf held) waitTimeout triggers = some r)
    {w : Waited} (waited : r.waited = some w) :
    (attachAll dds 0 (wanted a) held).2 = none ∧
      w.attached = (attachAll dds 0 (wanted a) held).1 ∧
      w.status = (dds.wait w.attached (timeout waitTimeout)).1 := by
  obtain ⟨-, ⟨-, never, -⟩ | ⟨done, called, -⟩⟩ :=
    wait_cases dds a held waitTimeout triggers returned
  · rw [waited] at never
    cases never
  · rw [waited] at called
    obtain rfl := Option.some.inj called
    exact ⟨done, rfl, rfl⟩

theorem arrays_of_timeout (valid : Valid a) {now : Moment} (lawful : Lawful dds now)
    (returned : wait dds a (handleOf held) waitTimeout triggers = some r)
    (timedOut : r.ret = .timeout) :
    ∃ loops, reset dds [] a triggers = some loops ∧ r.arrays = loops.arrays := by
  obtain ⟨-, ⟨-, -, failed⟩ |
      ⟨-, -, failed | ⟨loops, reached, ⟨text, failed⟩ | ⟨-, -, ret, arrays⟩⟩⟩⟩ :=
    wait_cases dds a held waitTimeout triggers returned
  · rw [timedOut] at failed
    cases failed
  · rw [timedOut] at failed
    cases failed
  · obtain ⟨loops', again, codes⟩ := reset_valid dds
      (dds.wait (attachAll dds 0 (wanted a) held).1 (timeout waitTimeout)).2 valid triggers
    rw [again] at reached
    obtain rfl := Option.some.inj reached
    rw [timedOut] at failed
    cases codes _ _ failed
  · rw [timedOut] at ret
    split at ret
    · rename_i status
      rw [(lawful.timeout _ _ status).1] at reached
      exact ⟨loops, reached, arrays⟩
    · cases ret

end Call

structure Call where
  dds : Dds
  arrays : Arrays
  waitTimeout : Option RmwTime
  triggers : ℕ → Bool

/-- A wait set under any calls, as the conditions attached to it between them. -/
def waitSets : Machine (List Condition) Call where
  start := []
  step held call :=
    (wait call.dds call.arrays (handleOf held) call.waitTimeout call.triggers).map (·.attached)

def NoStatus (attached : List Condition) : Prop := ∀ n, .status n ∉ attached

theorem noStatus_of_reachable {held : List Condition} (reach : waitSets.Reachable held) :
    NoStatus held := by
  refine Machine.Reachable.invariant waitSets reach (fun n => List.not_mem_nil) ?_
  intro held call held' before step n member
  obtain ⟨r, returned, rfl⟩ := Option.map_eq_some_iff.mp step
  rw [(wait_cases call.dds call.arrays held call.waitTimeout call.triggers returned).1] at member
  have attached : .status n ∈ (attachAll call.dds 0 (wanted call.arrays) held).1 := by
    unfold clean at member
    split at member
    · exact List.mem_of_mem_filter member
    · exact member
  obtain old | wants := mem_of_mem_attachAll call.dds attached
  · exact before n old
  · exact status_not_wanted call.arrays n wants

theorem woken_of_noEvents {dds : Dds} {a : Arrays} {held : List Condition}
    {waitTimeout : Option RmwTime} {triggers : ℕ → Bool} {now : Moment} (valid : Valid a)
    (noEvents : NoEvents a) (lawful : Lawful dds now) {r : WaitResult}
    (returned : wait dds a (handleOf held) waitTimeout triggers = some r) : Woken a now r where
  represented w waited := by
    obtain ⟨done, attached, -⟩ := waited_eq_some returned waited
    refine ⟨fun c wants => ?_, fun ev entity member => ?_⟩
    · rw [attached, mem_attachAll dds done]
      exact .inr wants
    · rw [noEvents] at member
      cases member
  notBlocked w waited ready := by
    obtain ⟨done, attached, status⟩ := waited_eq_some returned waited
    obtain ⟨c, wants, triggered⟩ | ⟨entry, member, -⟩ := ready
    · have mine : c ∈ w.attached := by
        rw [attached, mem_attachAll dds done]
        exact .inr wants
      rw [status, (lawful.atOnce _ _ ⟨c, mine, triggered⟩).1]
      nofun
    · rw [noEvents] at member
      cases member
  timeout timedOut := by
    obtain ⟨loops, reached, arrays⟩ := arrays_of_timeout valid lawful returned timedOut
    rw [reset_nil dds valid triggers] at reached
    obtain rfl := Option.some.inj reached
    rw [arrays]
    have nulls : ∀ {α β : Type} (array : Option (List α)) (entry : Option β),
        entry ∈ (array.map (·.map fun _ => none)).getD [] → entry = none := by
      intro α β array entry member
      cases array with
      | none => cases member
      | some entries => exact (List.mem_map.mp member).choose_spec.2.symm
    refine ⟨nulls _, nulls _, nulls _, nulls _, fun entry member => ?_⟩
    unfold NoEvents at noEvents
    cases h : a.events with
    | none => simp [h] at member
    | some evs => simp_all

/-- DDS that attaches and sets what it is asked to, waits until the timeout, and
has every status bit of every entity set. -/
def silent : Dds where
  attachCondition _ _ := .ok
  wait _ _ := (.timeout, [])
  setTriggerValue _ := .ok
  getStatusChanges _ := 0xffffffff
  getConditions := .ok
  detachCondition _ := .ok

def silentMoment : Moment where
  triggered _ := false
  became _ := false
  statusChanges _ := 0xffffffff

theorem silent_lawful : Lawful silent silentMoment where
  atOnce _ _ := fun ⟨_, _, triggered⟩ => nomatch triggered
  timeout _ _ _ := ⟨rfl, fun _ _ => nofun⟩

theorem attachAll_silent (n : ℕ) {wants : List (Except String Condition)}
    (held : List Condition) (fine : ∀ want ∈ wants, ∃ c, want = .ok c) :
    (attachAll silent n wants held).2 = none := by
  induction wants generalizing n held with
  | nil => rfl
  | cons want wants ih =>
    obtain ⟨c, rfl⟩ := fine want List.mem_cons_self
    exact ih (n + 1) _ fun x hx => fine x (List.mem_cons_of_mem _ hx)

theorem wanted_of_valid {a : Arrays} (valid : Valid a) :
    ∀ want ∈ wanted a, ∃ c, want = .ok c := by
  have reader : ∀ text entry, ValidReader entry → ∃ c, readCondition text entry = .ok c := by
    rintro text _ ⟨id, rfl⟩
    exact ⟨_, rfl⟩
  intro want member
  simp only [wanted, List.mem_append, List.mem_map] at member
  obtain ((⟨x, hx, rfl⟩ | ⟨x, hx, rfl⟩) | ⟨x, hx, rfl⟩) | ⟨x, hx, rfl⟩ := member
  · exact reader _ x (valid.subscriptions x hx)
  · obtain ⟨g, rfl⟩ := valid.guardConditions x hx
    exact ⟨_, rfl⟩
  · exact reader _ x (valid.services x hx)
  · exact reader _ x (valid.clients x hx)

/-- `rmw_wait` is woken by everything it is asked to wait for, whatever the
entities and DDS do, exactly if it is asked to wait for no events. -/
theorem wait_woken_iff (a : Arrays) (valid : Valid a) (held : List Condition)
    (reach : waitSets.Reachable held) (waitTimeout : Option RmwTime) (triggers : ℕ → Bool) :
    (∀ dds now, Lawful dds now →
      ∃ r, wait dds a (handleOf held) waitTimeout triggers = some r ∧ Woken a now r) ↔
      NoEvents a := by
  constructor
  · intro woken
    by_contra someEvent
    obtain ⟨entry, member⟩ := List.exists_mem_of_ne_nil _ someEvent
    obtain ⟨ev, rfl, ⟨entity, data⟩, -⟩ := valid.events entry member
    obtain ⟨r, returned, well⟩ := woken silent silentMoment silent_lawful
    have done := attachAll_silent 0 held (wanted_of_valid valid)
    obtain ⟨-, ⟨failed, -⟩ | ⟨-, waited, -⟩⟩ :=
      wait_cases silent a held waitTimeout triggers returned
    · exact failed done
    · have attached := (well.represented _ waited).2 ev entity member data
      obtain old | wants := mem_of_mem_attachAll silent attached
      · exact noStatus_of_reachable reach entity old
      · exact status_not_wanted a entity wants
  · intro noEvents dds now lawful
    have returns : ∃ r, wait dds a (handleOf held) waitTimeout triggers = some r :=
      wait_returns valid
    obtain ⟨r, returned⟩ := returns
    exact ⟨r, returned, woken_of_noEvents valid noEvents lawful returned⟩

def prompt (triggered : List Condition) : Dds :=
  { silent with
    wait := fun attached _ =>
      let active := attached.filter (· ∈ triggered)
      (if active = [] then .timeout else .ok, active) }

def promptMoment (triggered : List Condition) : Moment where
  triggered c := c ∈ triggered
  became _ := false
  statusChanges _ := 0xffffffff

theorem prompt_lawful (triggered : List Condition) :
    Lawful (prompt triggered) (promptMoment triggered) where
  atOnce attached t := by
    rintro ⟨c, member, true⟩
    have active : c ∈ attached.filter (· ∈ triggered) := List.mem_filter.mpr ⟨member, true⟩
    exact ⟨if_neg (List.ne_nil_of_mem active), fun d => List.mem_filter⟩
  timeout attached t late := by
    refine ⟨?_, fun _ _ => nofun⟩
    by_contra some
    exact absurd ((if_neg some).symm.trans late) nofun

def oneSubscription : Arrays := ⟨some [some ⟨some 1⟩], some [some 3], none, none, none⟩

def livelinessEvent : RmwEvent := ⟨some ⟨some 1⟩, .livelinessChanged⟩

def oneEvent : Arrays := ⟨none, none, none, none, some [some livelinessEvent]⟩

/-- A subscription with data wakes the wait, and is kept; the guard condition beside it
is not. -/
theorem wait_woken_iff_oneSubscription :
    ∃ r, wait (prompt [.read 1]) oneSubscription (handleOf []) none (fun _ => false) = some r ∧
      Woken oneSubscription (promptMoment [.read 1]) r ∧
      r.ret = .ok ∧ r.arrays = ⟨some [some ⟨some 1⟩], some [none], none, none, none⟩ := by
  have valid : Valid oneSubscription :=
    { subscriptions := fun entry member => ⟨1, List.mem_singleton.mp member⟩
      guardConditions := fun entry member => ⟨3, List.mem_singleton.mp member⟩
      services := fun _ member => nomatch member
      clients := fun _ member => nomatch member
      events := fun _ member => nomatch member }
  obtain ⟨r, returned, woken⟩ :=
    (wait_woken_iff oneSubscription valid [] ⟨[], rfl⟩ none fun _ => false).mpr rfl
      (prompt [.read 1]) (promptMoment [.read 1]) (prompt_lawful _)
  have reports : (wait (prompt [.read 1]) oneSubscription (handleOf []) none fun _ => false).map
      (fun r => (r.ret, r.arrays)) =
        some (.ok, ⟨some [some ⟨some 1⟩], some [none], none, none, none⟩) := by
    decide
  rw [returned, Option.map_some, Option.some.injEq, Prod.mk.injEq] at reports
  exact ⟨r, returned, woken, reports⟩

/-- With its status bit set before the call, the event does not end the wait,
and a timeout is reported although its entry is kept. -/
theorem event_does_not_wake :
    ¬ ∀ a, Valid a → ∀ dds now, Lawful dds now →
      ∃ r, wait dds a (handleOf []) none (fun _ => false) = some r ∧ Woken a now r := by
  intro claim
  have valid : Valid oneEvent :=
    { subscriptions := fun _ member => nomatch member
      guardConditions := fun _ member => nomatch member
      services := fun _ member => nomatch member
      clients := fun _ member => nomatch member
      events := fun entry member => ⟨_, List.mem_singleton.mp member, ⟨1, rfl⟩, rfl⟩ }
  obtain ⟨r, returned, woken⟩ := claim oneEvent valid silent silentMoment silent_lawful
  obtain rfl := Option.some.inj returned
  have null := (woken.timeout rfl).events (some livelinessEvent) List.mem_cons_self
  cases null

end RmwOpendds.Wait
