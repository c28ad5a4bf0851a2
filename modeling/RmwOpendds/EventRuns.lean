import Mathlib
import RmwOpendds.Events
import RmwOpendds.Library.BitFlags
import RmwOpendds.Library.Machine
import RmwOpendds.WaitReports

/-! Events over all runs: the statuses of the entities change, events are initialised in
the callers' `rmw_event_t` objects, and any of these is taken, in any order. -/

namespace RmwOpendds.Events

open Library Wait

variable {N : Type} [AddCommGroup N]

/-- The entities, the event objects of the callers, and a history: what the successful
`rmw_take_event` calls reported of each status. -/
structure World (N : Type) where
  entities : ℕ → Entity N
  events : ℕ → RmwEvent
  reported : ℕ → EventType → List (EventInfo N)

inductive Step (N : Type) where
  /-- A status of an entity changes, for a QoS policy if it is one about QoS. -/
  | changes (entity : ℕ) (kind : EventType) (delta : N × N) (policyId : ℕ)
  | rmwPublisherEventInit (slot : Option ℕ) (publisher : RmwHandle ℕ) (eventType : EventType)
  | rmwSubscriptionEventInit (slot : Option ℕ) (subscription : RmwHandle ℕ)
      (eventType : EventType)
  | rmwTakeEvent (slot : Option ℕ) (dds : ReturnCode) (eventInfo taken : Bool)

/-- Only `LIVELINESS_CHANGED` has a second count. -/
def counts (kind : EventType) (delta : N × N) : N × N :=
  if kind = .livelinessChanged then delta else (delta.1, 0)

def Entity.change (e : Entity N) (kind : EventType) (delta : N × N) (policyId : ℕ) : Entity N :=
  { e with
    status := Function.update e.status kind ((e.status kind).add (counts kind delta))
    lastPolicyId := Function.update e.lastPolicyId kind policyId }

def Names (entities : ℕ → Entity N) (side : Side) (handle : RmwHandle ℕ) : Prop :=
  handle.implementationIdentifier = .opendds →
    ∀ entity ∈ handle.data, (entities entity).side = side

instance (entities : ℕ → Entity N) (side : Side) (handle : RmwHandle ℕ) :
    Decidable (Names entities side handle) :=
  match h : handle.data with
  | none => .isTrue (by simp [Names, h])
  | some entity => decidable_of_iff
      (handle.implementationIdentifier = .opendds → (entities entity).side = side)
      (by simp [Names, h])

namespace World

def start (side : ℕ → Side) : World N where
  entities entity := ⟨side entity, fun _ => .zero, fun _ => 0⟩
  events _ := .zero
  reported _ _ := []

def setEvent (w : World N) : Option ℕ → Option RmwEvent → World N
  | some slot, some event => { w with events := Function.update w.events slot event }
  | _, _ => w

def takenEvent (w : World N) (event : Option RmwEvent) (r : TakenEvent N) : World N :=
  { w with
    entities := r.entities
    reported :=
      match event.bind (·.data), event.map (·.eventType), r.eventInfo with
      | some entity, some kind, some info =>
        Function.update w.reported entity
          (Function.update (w.reported entity) kind (w.reported entity kind ++ [info]))
      | _, _, _ => w.reported }

def step (w : World N) : Step N → Option (World N)
  | .changes entity kind delta policyId =>
    if (w.entities entity).side.has kind then
      some { w with entities :=
        Function.update w.entities entity ((w.entities entity).change kind delta policyId) }
    else none
  | .rmwPublisherEventInit slot publisher eventType =>
    if Names w.entities .publisher publisher then
      some (w.setEvent slot
        (Events.rmwPublisherEventInit (slot.map w.events) publisher eventType).2.2)
    else none
  | .rmwSubscriptionEventInit slot subscription eventType =>
    if Names w.entities .subscription subscription then
      some (w.setEvent slot
        (Events.rmwSubscriptionEventInit (slot.map w.events) subscription eventType).2.2)
    else none
  | .rmwTakeEvent slot dds eventInfo taken =>
    (Events.rmwTakeEvent w.entities dds (slot.map w.events) eventInfo taken).map
      (w.takenEvent (slot.map w.events))

end World

def machine (side : ℕ → Side) : Machine (World N) (Step N) := ⟨World.start side, World.step⟩

def EventInfo.eventType : EventInfo N → EventType
  | livelinessLost _ _ => .livelinessLost
  | offeredDeadlineMissed _ _ => .offeredDeadlineMissed
  | offeredQosIncompatible _ _ _ => .offeredQosIncompatible
  | livelinessChanged _ _ _ _ => .livelinessChanged
  | requestedDeadlineMissed _ _ => .requestedDeadlineMissed
  | requestedQosIncompatible _ _ _ => .requestedQosIncompatible

def EventInfo.reading : EventInfo N → (N × N) × (N × N)
  | livelinessLost total change => ((total, 0), (change, 0))
  | offeredDeadlineMissed total change => ((total, 0), (change, 0))
  | offeredQosIncompatible total change _ => ((total, 0), (change, 0))
  | livelinessChanged alive notAlive aliveChange notAliveChange =>
    ((alive, notAlive), (aliveChange, notAliveChange))
  | requestedDeadlineMissed total change => ((total, 0), (change, 0))
  | requestedQosIncompatible total change _ => ((total, 0), (change, 0))

section GetStatus

variable {e : Entity N} {kind : EventType} {mask : StatusMask}

def Entity.readStatus (e : Entity N) (kind : EventType) : Entity N :=
  { e with status := Function.update e.status kind (e.status kind).read }

theorem report_of_ne_ok {dds : ReturnCode} (failed : dds ≠ .ok)
    (copy : N × N → N × N → EventInfo N) :
    e.report kind dds copy = (checkDdsRetCode dds, none, e) := by
  cases dds <;> first | exact absurd rfl failed | rfl

theorem getStatus_own (own : e.side.has kind) (masked : maskMap kind = some mask) :
    ∃ copy, (∀ dds, e.getStatus dds mask = e.report kind dds copy) ∧
      ∀ total change : N × N, (copy total change).eventType = kind ∧
        (copy total change).reading = (counts kind total, counts kind change) := by
  obtain ⟨side, status, lastPolicyId⟩ := e
  cases side with
  | publisher =>
    cases kind <;> cases own <;> cases masked
    · exact ⟨fun total change => .livelinessLost total.1 change.1, fun _ => rfl,
        fun _ _ => ⟨rfl, rfl⟩⟩
    · exact ⟨fun total change => .offeredDeadlineMissed total.1 change.1, fun _ => rfl,
        fun _ _ => ⟨rfl, rfl⟩⟩
    · exact ⟨fun total change => .offeredQosIncompatible total.1 change.1
        (ddsQosPolicyToRmwQosPolicy (lastPolicyId .offeredQosIncompatible)), fun _ => rfl,
        fun _ _ => ⟨rfl, rfl⟩⟩
  | subscription =>
    cases kind <;> cases own <;> cases masked
    · exact ⟨fun total change => .livelinessChanged total.1 total.2 change.1 change.2,
        fun _ => rfl, fun _ _ => ⟨rfl, rfl⟩⟩
    · exact ⟨fun total change => .requestedDeadlineMissed total.1 change.1, fun _ => rfl,
        fun _ _ => ⟨rfl, rfl⟩⟩
    · exact ⟨fun total change => .requestedQosIncompatible total.1 change.1
        (ddsQosPolicyToRmwQosPolicy (lastPolicyId .requestedQosIncompatible)), fun _ => rfl,
        fun _ _ => ⟨rfl, rfl⟩⟩

theorem getStatus_alien (alien : e.side.has kind = false) (masked : maskMap kind = some mask)
    (dds : ReturnCode) : e.getStatus dds mask = (.unsupported, none, e) := by
  obtain ⟨side, status, lastPolicyId⟩ := e
  cases side <;> cases kind <;> simp_all [Side.has, maskMap] <;> subst masked <;> rfl

end GetStatus

theorem counts_add (kind : EventType) (x y : N × N) :
    counts kind (x + y) = counts kind x + counts kind y := by
  cases kind <;> simp [counts]

theorem counts_counts (kind : EventType) (x : N × N) :
    counts kind (counts kind x) = counts kind x := by
  cases kind <;> rfl

theorem counts_zero (kind : EventType) : counts kind (0 : N × N) = 0 := by
  cases kind <;> rfl

structure Honest (side : Side) (kind : EventType) (m : Meter (N × N))
    (reported : List (EventInfo N)) : Prop where
  readings : m.Readings (reported.map (·.reading))
  typed : ∀ info ∈ reported, info.eventType = kind
  alien : side.has kind = false → m = .zero
  total : counts kind m.total = m.total
  unread : counts kind m.unread = m.unread

namespace Honest

variable {side : Side} {m : Meter (N × N)} {reported : List (EventInfo N)}

theorem start (side : Side) (kind : EventType) : Honest side kind (.zero : Meter (N × N)) [] where
  readings := .start
  typed := by simp
  alien _ := rfl
  total := counts_zero kind
  unread := counts_zero kind

theorem add (h : Honest side kind m reported) (own : side.has kind) (delta : N × N) :
    Honest side kind (m.add (counts kind delta)) reported where
  readings := h.readings.add _
  typed := h.typed
  alien other := by simp [own] at other
  total := by rw [Meter.add, counts_add, counts_counts, h.total]
  unread := by rw [Meter.add, counts_add, counts_counts, h.unread]

theorem read (h : Honest side kind m reported) (own : side.has kind) {info : EventInfo N}
    (typed : info.eventType = kind)
    (reading : info.reading = (counts kind m.total, counts kind m.unread)) :
    Honest side kind m.read (reported ++ [info]) where
  readings := by
    rw [List.map_append, List.map_singleton, reading, h.total, h.unread]
    exact h.readings.read
  typed := by simpa [or_imp, forall_and, typed] using h.typed
  alien other := by simp [own] at other
  total := h.total
  unread := counts_zero kind

end Honest

/-- The invariant of the runs; an event with the identifier has been initialised, for an
object and a supported type. -/
structure Sound (w : World N) : Prop where
  status : ∀ entity kind, Honest (w.entities entity).side kind ((w.entities entity).status kind)
    (w.reported entity kind)
  initialised : ∀ slot, (w.events slot).implementationIdentifier = .opendds →
    (w.events slot).data.isSome ∧ isEventSupported (w.events slot).eventType

section Steps

variable {w w' : World N}

theorem sound_start (side : ℕ → Side) : Sound (World.start side : World N) where
  status entity kind := .start (side entity) kind
  initialised slot opendds := by cases opendds

theorem Sound.update (sound : Sound w) {entity : ℕ} {kind : EventType} {after : Entity N}
    {m : Meter (N × N)} {reported : List (EventInfo N)}
    (side : after.side = (w.entities entity).side)
    (status : after.status = Function.update (w.entities entity).status kind m)
    (honest : Honest (w.entities entity).side kind m reported) :
    Sound { w with
      entities := Function.update w.entities entity after
      reported := Function.update w.reported entity
        (Function.update (w.reported entity) kind reported) } := by
  refine ⟨fun entity' kind' => ?_, sound.initialised⟩
  by_cases same : entity' = entity
  · subst same
    by_cases sameKind : kind' = kind
    · subst sameKind
      simpa [side, status] using honest
    · simpa [side, status, sameKind] using sound.status entity' kind'
  · simpa [same] using sound.status entity' kind'

theorem Sound.changes (sound : Sound w) {entity : ℕ} {kind : EventType}
    (own : (w.entities entity).side.has kind) (delta : N × N) (policyId : ℕ) :
    Sound { w with entities :=
      Function.update w.entities entity ((w.entities entity).change kind delta policyId) } := by
  have added := (sound.status entity kind).add own delta
  have next : Sound { w with
      entities := Function.update w.entities entity ((w.entities entity).change kind delta policyId)
      reported := _ } := sound.update rfl rfl added
  simpa using next

theorem initEvent_cases (event : RmwEvent) (identifier : ImplementationIdentifier)
    (data : Option ℕ) (kind : EventType) :
    (initEvent (some event) identifier data kind).2.2 = some event ∨
      data.isSome ∧ isEventSupported kind ∧
        (initEvent (some event) identifier data kind).2.2 = some ⟨.opendds, data, kind⟩ := by
  unfold initEvent
  by_cases null : identifier = .null
  · simp [null]
  · by_cases absent : data = none
    · simp [null, absent]
    · by_cases foreign : identifier = .opendds
      · subst foreign
        by_cases supported : isEventSupported kind
        · exact .inr ⟨Option.isSome_iff_ne_none.mpr absent, supported, by simp [absent, supported]⟩
        · simp [absent, supported]
      · simp [null, absent, foreign]

theorem Sound.setEvent (sound : Sound w) (slot : Option ℕ) (handle : RmwHandle ℕ)
    (kind : EventType) :
    Sound (w.setEvent slot
      (initEvent (slot.map w.events) handle.implementationIdentifier handle.data kind).2.2) := by
  cases slot with
  | none => exact sound
  | some slot =>
    obtain kept | ⟨given, supported, set⟩ :=
      initEvent_cases (w.events slot) handle.implementationIdentifier handle.data kind
    · rw [Option.map_some, kept]
      simpa [World.setEvent] using sound
    · rw [Option.map_some, set]
      refine ⟨sound.status, fun slot' opendds => ?_⟩
      simp only [World.setEvent] at opendds ⊢
      by_cases same : slot' = slot
      · subst same
        simp [given, supported]
      · rw [Function.update_of_ne same] at opendds ⊢
        exact sound.initialised slot' opendds

theorem takeEvent_cases {entities : ℕ → Entity N} {event : RmwEvent} {dds : ReturnCode}
    {eventInfo taken : Bool} {r : TakenEvent N}
    (returned : takeEvent entities dds (some event) eventInfo taken = some r) :
    (r.ret ≠ .ok ∧ r.eventInfo = none ∧ r.taken ≠ some true ∧ r.entities = entities) ∨
      ∃ entity info, event.data = some entity ∧ (entities entity).side.has event.eventType ∧
        dds = .ok ∧ info.eventType = event.eventType ∧
        info.reading = (counts event.eventType ((entities entity).status event.eventType).total,
          counts event.eventType ((entities entity).status event.eventType).unread) ∧
        r = ⟨.ok, none, some info, some true,
          Function.update entities entity ((entities entity).readStatus event.eventType)⟩ := by
  unfold takeEvent at returned
  by_cases valid : eventInfo ∧ taken ∧ event.implementationIdentifier = .opendds
  case neg =>
    left
    simp only at returned
    split at returned
    · obtain rfl := Option.some.inj returned
      simp
    · split at returned
      · obtain rfl := Option.some.inj returned
        simp
      · rw [if_pos (by simp_all)] at returned
        obtain rfl := Option.some.inj returned
        simp
  case pos =>
    obtain ⟨rfl, rfl, opendds⟩ := valid
    simp only [opendds, not_true_eq_false, if_false, ne_eq] at returned
    cases masked : maskMap event.eventType with
    | none =>
      obtain rfl : _ = r := by simpa [masked] using returned
      simp
    | some mask =>
      simp only [masked] at returned
      obtain ⟨entity, named, rfl⟩ := Option.map_eq_some_iff.mp returned
      cases own : (entities entity).side.has event.eventType with
      | false =>
        rw [getStatus_alien own masked]
        simp
      | true =>
        obtain ⟨copy, reads, copied⟩ := getStatus_own own masked
        by_cases given : dds = .ok
        · subst given
          refine .inr ⟨entity, _, named, own, rfl, (copied _ _).1, (copied _ _).2, ?_⟩
          rw [reads]
          rfl
        · rw [reads, report_of_ne_ok given]
          have failed : checkDdsRetCode dds ≠ .ok := mt checkDdsRetCode_eq_ok.mp given
          simp [failed]

theorem Sound.takenEvent (sound : Sound w) {event : RmwEvent} {dds : ReturnCode}
    {eventInfo taken : Bool} {r : TakenEvent N}
    (returned : takeEvent w.entities dds (some event) eventInfo taken = some r) :
    Sound (w.takenEvent (some event) r) := by
  obtain ⟨-, nothing, -, same⟩ | ⟨entity, info, named, own, -, typed, reading, rfl⟩ :=
    takeEvent_cases returned
  · simpa [World.takenEvent, nothing, same] using sound
  · have readOnce := (sound.status entity event.eventType).read own typed reading
    have next : Sound { w with
        entities := Function.update w.entities entity
          ((w.entities entity).readStatus event.eventType)
        reported := _ } := sound.update rfl rfl readOnce
    simpa [World.takenEvent, named] using next

theorem Sound.step (sound : Sound w) (label : Step N) (stepped : w.step label = some w') :
    Sound w' := by
  cases label with
  | changes entity kind delta policyId =>
    obtain ⟨own, rfl⟩ : (w.entities entity).side.has kind ∧ _ = w' := by
      simpa [World.step] using stepped
    exact sound.changes own delta policyId
  | rmwPublisherEventInit slot publisher eventType =>
    obtain ⟨-, rfl⟩ : Names w.entities .publisher publisher ∧ _ = w' := by
      simpa [World.step] using stepped
    exact sound.setEvent slot publisher eventType
  | rmwSubscriptionEventInit slot subscription eventType =>
    obtain ⟨-, rfl⟩ : Names w.entities .subscription subscription ∧ _ = w' := by
      simpa [World.step] using stepped
    exact sound.setEvent slot subscription eventType
  | rmwTakeEvent slot dds eventInfo taken =>
    obtain ⟨r, returned, rfl⟩ := Option.map_eq_some_iff.mp stepped
    cases slot with
    | none =>
      obtain rfl := Option.some.inj returned
      exact sound
    | some slot => exact sound.takenEvent returned

theorem sound_of_reachable {side : ℕ → Side} (reach : (machine side).Reachable w) : Sound w :=
  reach.invariant (machine side) (sound_start side) fun _ label _ sound stepped =>
    sound.step label stepped

end Steps

/-- Whatever the order of changes and calls: all changes of a status are reported once
or still unread, every report gives the total of the changes reported so far, and it is
written to the structure that belongs to the type of the event. -/
theorem status_conserved {side : ℕ → Side} {w : World N} (reach : (machine side).Reachable w)
    (entity : ℕ) (kind : EventType) :
    ((w.reported entity kind).map (·.reading.2)).sum + ((w.entities entity).status kind).unread =
        ((w.entities entity).status kind).total ∧
      (∀ earlier info later, w.reported entity kind = earlier ++ info :: later →
        info.reading.1 = ((earlier ++ [info]).map (·.reading.2)).sum) ∧
      ∀ info ∈ w.reported entity kind, info.eventType = kind := by
  have honest := (sound_of_reachable reach).status entity kind
  refine ⟨?_, fun earlier info later same => ?_, honest.typed⟩
  · simpa [Function.comp_def] using honest.readings.conserved
  · have running := honest.readings.running (earlier.map (·.reading)) info.reading
      (later.map (·.reading)) (by rw [same, List.map_append, List.map_cons])
    simpa [Function.comp_def] using running

/-- A publisher of which two liveliness changes are reported and a third is not, with an
event in slot 1 that only a subscription has. -/
def livelinessLostTwice : List (Step ℤ) :=
  [.rmwPublisherEventInit (some 0) ⟨.opendds, some 0⟩ .livelinessLost,
    .rmwPublisherEventInit (some 1) ⟨.opendds, some 0⟩ .livelinessChanged,
    .changes 0 .livelinessLost (1, 0) 0, .changes 0 .livelinessLost (1, 0) 0,
    .rmwTakeEvent (some 0) .ok true true, .changes 0 .livelinessLost (1, 0) 0]

theorem status_conserved_twice :
    ∃ w, (machine fun _ => .publisher).run livelinessLostTwice = some w ∧
      w.reported 0 .livelinessLost = [.livelinessLost 2 2] ∧
      ((w.reported 0 .livelinessLost).map (·.reading.2)).sum +
          ((w.entities 0).status .livelinessLost).unread =
        ((w.entities 0).status .livelinessLost).total := by
  have taken : ((machine fun _ => .publisher).run livelinessLostTwice).isSome := by decide
  obtain ⟨w, ran⟩ := Option.isSome_iff_exists.mp taken
  have reported : ((machine fun _ => .publisher).run livelinessLostTwice).map
      (·.reported 0 .livelinessLost) = some [.livelinessLost 2 2] := by decide
  rw [ran, Option.map_some, Option.some.injEq] at reported
  exact ⟨w, ran, reported, (status_conserved ⟨livelinessLostTwice, ran⟩ 0 .livelinessLost).1⟩

def statusKinds : List EventType :=
  [.livelinessChanged, .requestedDeadlineMissed, .requestedQosIncompatible, .livelinessLost,
    .offeredDeadlineMissed, .offeredQosIncompatible]

def statusBit (kind : EventType) : StatusMask := (maskMap kind).getD 0

/-- `get_status_changes`: the statuses that changed since their getters were called. -/
def Entity.statusChanges (e : Entity N) (others : StatusMask) : StatusMask :=
  BitFlags.collect statusBit (fun kind => (e.status kind).changes ≠ 0) (others &&& ~~~0x1866)
    statusKinds

omit [AddCommGroup N] in
theorem eventActive_statusChanges (e : Entity N) (others : StatusMask) (kind : EventType) :
    eventActive (e.statusChanges others) kind ↔
      isEventSupported kind ∧ (e.status kind).changes ≠ 0 := by
  cases masked : maskMap kind with
  | none => simp [eventActive, isEventSupported, masked]
  | some mask =>
    have listed : kind ∈ statusKinds := by cases kind <;> first | decide | cases masked
    have bit : statusBit kind = mask := by rw [statusBit, masked, Option.getD_some]
    have nonzero : statusBit kind ≠ 0 := by cases kind <;> first | decide | cases masked
    have apart : others &&& ~~~0x1866 &&& statusBit kind = 0 := by
      rw [UInt32.and_assoc]
      have outside : ~~~0x1866 &&& statusBit kind = 0 := by cases kind <;> decide
      rw [outside, UInt32.and_zero]
    have disjoint : ∀ other ∈ statusKinds, other ≠ kind →
        statusBit other &&& statusBit kind = 0 := by
      cases kind <;> decide
    have met : e.statusChanges others &&& statusBit kind ≠ 0 ↔
        decide ((e.status kind).changes ≠ 0) :=
      BitFlags.collect_and_ne_zero listed nonzero apart disjoint
    simpa [eventActive, isEventSupported, masked, ← bit] using met

def RmwEvent.forWait (event : RmwEvent) : Wait.RmwEvent :=
  ⟨event.data.map fun entity => ⟨some entity⟩, event.eventType⟩

def World.Pending (w : World N) (event : RmwEvent) : Prop :=
  ∃ entity ∈ event.data, ((w.entities entity).status event.eventType).changes ≠ 0

instance (w : World N) (event : RmwEvent) : Decidable (w.Pending event) :=
  match named : event.data with
  | none => .isFalse (by simp [World.Pending, named])
  | some entity => decidable_of_iff (((w.entities entity).status event.eventType).changes ≠ 0)
      (by simp [World.Pending, named])

def World.Owned (w : World N) (event : RmwEvent) : Prop :=
  ∃ entity ∈ event.data, (w.entities entity).side.has event.eventType

structure Consistent (w : World N) (event : RmwEvent) (dds : ReturnCode) (r : TakenEvent N) :
    Prop where
  own : w.Owned event → r.ret = checkDdsRetCode dds ∧ r.taken = some (decide (dds = .ok))
  drained : w.Owned event → dds = .ok → ¬ (w.takenEvent (some event) r).Pending event
  alien : ¬ w.Owned event → ¬ w.Pending event ∧ r.ret = .unsupported ∧ r.taken = some false ∧
    r.entities = w.entities

omit [AddCommGroup N] in
theorem eventReady_forWait {w : World N} {event : RmwEvent}
    (supported : isEventSupported event.eventType)
    (others : ℕ → StatusMask) :
    EventReady (fun entity => (w.entities entity).statusChanges (others entity))
        (some event.forWait) ↔ w.Pending event := by
  have active (entity : ℕ) := eventActive_statusChanges (w.entities entity) (others entity)
    event.eventType
  obtain ⟨identifier, data, eventType⟩ := event
  cases data with
  | none => simp [EventReady, RmwEvent.forWait, World.Pending]
  | some entity =>
    have supported : isEventSupported eventType := supported
    simpa [EventReady, RmwEvent.forWait, World.Pending, supported] using active entity

theorem take_consistent {w : World N} (sound : Sound w) {event : RmwEvent}
    (opendds : event.implementationIdentifier = .opendds) {entity : ℕ}
    (named : event.data = some entity) (supported : isEventSupported event.eventType)
    (dds : ReturnCode) :
    ∃ r, rmwTakeEvent w.entities dds (some event) true true = some r ∧
      Consistent w event dds r := by
  obtain ⟨mask, masked⟩ := Option.isSome_iff_exists.mp supported
  have returned : rmwTakeEvent w.entities dds (some event) true true =
      some ⟨((w.entities entity).getStatus dds mask).1, none,
        ((w.entities entity).getStatus dds mask).2.1,
        some (((w.entities entity).getStatus dds mask).1 = .ok),
        Function.update w.entities entity ((w.entities entity).getStatus dds mask).2.2⟩ := by
    simp [rmwTakeEvent, takeEvent, opendds, masked, named]
  refine ⟨_, returned, ?_⟩
  have owned : w.Owned event ↔ (w.entities entity).side.has event.eventType := by
    simp [World.Owned, named]
  cases own : (w.entities entity).side.has event.eventType with
  | true =>
    obtain ⟨copy, reads, -⟩ := getStatus_own own masked
    refine ⟨fun _ => ?_, fun _ given => ?_, fun other => absurd (owned.mpr own) other⟩
    · by_cases given : dds = .ok
      · subst given
        rw [reads]
        exact ⟨rfl, rfl⟩
      · rw [reads, report_of_ne_ok given]
        simp [given, checkDdsRetCode_eq_ok]
    · subst given
      rw [reads]
      simp [World.Pending, World.takenEvent, named, Entity.report, checkDdsRetCode, Meter.read]
  | false =>
    have zero := (sound.status entity event.eventType).alien own
    rw [getStatus_alien own masked]
    refine ⟨fun mine => ?_, fun mine => ?_, fun _ => ⟨?_, rfl, rfl, by simp⟩⟩
    · simp [owned, own] at mine
    · simp [owned, own] at mine
    · simp [World.Pending, named, zero, Meter.zero]

def eventInit : Side → Option RmwEvent → RmwHandle ℕ → EventType →
    RmwRet × Option String × Option RmwEvent
  | .publisher => rmwPublisherEventInit
  | .subscription => rmwSubscriptionEventInit

theorem eventInit_supported (side : Side) (event : RmwEvent) (entity : ℕ) {kind : EventType}
    (supported : isEventSupported kind) :
    eventInit side (some event) ⟨.opendds, some entity⟩ kind =
      (.ok, none, some ⟨.opendds, some entity, kind⟩) := by
  cases side <;> simp [eventInit, rmwPublisherEventInit, rmwSubscriptionEventInit, initEvent,
    supported]

/-- Among initialised events the event loop of `rmw_wait` keeps those whose status has
changed since it was last taken. An event of the wrong side is accepted when it is
initialised, as every supported type is, but it is never kept and never taken. -/
theorem events_ready {side : ℕ → Side} {w : World N} (reach : (machine side).Reachable w)
    (dds : Wait.Dds) (others : ℕ → StatusMask)
    (answers : dds.getStatusChanges =
      fun entity => (w.entities entity).statusChanges (others entity))
    (slots : List ℕ)
    (initialised : ∀ slot ∈ slots, (w.events slot).implementationIdentifier = .opendds) :
    handleActiveEventConditions dds (some (slots.map fun slot => some (w.events slot).forWait)) =
        some (some (slots.map fun slot =>
          if w.Pending (w.events slot) then some (w.events slot).forWait else none), none) ∧
      (∀ slot ∈ slots, ∀ dds', ∃ r,
        rmwTakeEvent w.entities dds' (some (w.events slot)) true true = some r ∧
          Consistent w (w.events slot) dds' r) ∧
      ∀ event entity kind, isEventSupported kind →
        eventInit (w.entities entity).side (some event) ⟨.opendds, some entity⟩ kind =
          (.ok, none, some ⟨.opendds, some entity, kind⟩) := by
  have sound := sound_of_reachable reach
  have valid : ∀ slot ∈ slots, (∃ entity, (w.events slot).data = some entity) ∧
      isEventSupported (w.events slot).eventType := fun slot member =>
    (sound.initialised slot (initialised slot member)).imp_left Option.isSome_iff_exists.mp
  refine ⟨?_, ?_, fun event entity kind => eventInit_supported _ event entity⟩
  · have fine : ∀ entry ∈ (some (slots.map fun slot => some (w.events slot).forWait)).getD [],
        ∃ ev, entry = some ev ∧ ValidEvent ev := by
      intro entry member
      obtain ⟨slot, listed, rfl⟩ := List.mem_map.mp member
      obtain ⟨⟨entity, named⟩, supported⟩ := valid slot listed
      exact ⟨_, rfl, ⟨entity, by simp [RmwEvent.forWait, named]⟩, supported⟩
    rw [handleActiveEventConditions_valid dds fine, Option.map_some, List.map_map]
    refine congrArg some (Prod.ext (congrArg some (List.map_congr_left fun slot member => ?_)) rfl)
    rw [Function.comp_apply, keepEvent, answers]
    exact if_congr (eventReady_forWait (valid slot member).2 others) rfl rfl
  · intro slot member dds'
    obtain ⟨⟨entity, named⟩, supported⟩ := valid slot member
    exact take_consistent sound (initialised slot member) named supported dds'

/-- The third change makes the first event ready; the other one never is, although it can
be initialised. -/
theorem events_ready_twice :
    ∃ w, (machine fun _ => .publisher).run livelinessLostTwice = some w ∧
      handleActiveEventConditions
          { silent with getStatusChanges := fun entity => (w.entities entity).statusChanges 0 }
          (some ([0, 1].map fun slot => some (w.events slot).forWait)) =
        some (some [some (w.events 0).forWait, none], none) ∧
      rmwPublisherEventInit (some .zero) ⟨.opendds, some 0⟩ .livelinessChanged =
        (.ok, none, some ⟨.opendds, some 0, .livelinessChanged⟩) := by
  have taken : ((machine fun _ => .publisher).run livelinessLostTwice).isSome := by decide
  obtain ⟨w, ran⟩ := Option.isSome_iff_exists.mp taken
  have facts : ((machine fun _ => .publisher).run livelinessLostTwice).map
      (fun w => ((w.events 0).implementationIdentifier, (w.events 1).implementationIdentifier,
        (w.entities 0).side, decide (w.Pending (w.events 0)), decide (w.Pending (w.events 1)))) =
        some (.opendds, .opendds, .publisher, true, false) := by decide
  simp only [ran, Option.map_some, Option.some.injEq, Prod.mk.injEq, decide_eq_true_eq,
    decide_eq_false_iff_not] at facts
  obtain ⟨first, second, side, pending, quiet⟩ := facts
  obtain ⟨kept, -, accepted⟩ := events_ready ⟨livelinessLostTwice, ran⟩
    { silent with getStatusChanges := fun entity => (w.entities entity).statusChanges 0 }
    (fun _ => 0) rfl [0, 1] (by simpa using ⟨first, second⟩)
  have inits := accepted .zero 0 .livelinessChanged rfl
  rw [side] at inits
  refine ⟨w, ran, ?_, inits⟩
  simpa [pending, quiet] using kept

end RmwOpendds.Events
