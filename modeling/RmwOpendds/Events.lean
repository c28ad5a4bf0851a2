import RmwOpendds.Library.Meter
import RmwOpendds.Wait

/-! `event.cpp`, `rmw_event.cpp`, `event_converter.cpp`, the `get_status` functions of
`DDSPublisher` and `DDSSubscriber` and `dds_qos_policy_to_rmw_qos_policy`. DDS keeps a
counter for each status of an entity, which the getter of that status reads; `N` is the
type of its counts. A null pointer is `none` or `false`. -/

namespace RmwOpendds.Events

open Library Wait

/-- `rmw_qos_policy_kind_t` -/
inductive QosPolicyKind where
  | durability | deadline | liveliness | reliability | history | lifespan | invalid
  deriving DecidableEq, Repr

/-- `dds_qos_policy_to_rmw_qos_policy`, on the policy ids of the DDS specification. -/
def ddsQosPolicyToRmwQosPolicy : ℕ → QosPolicyKind
  | 2 => .durability
  | 4 => .deadline
  | 8 => .liveliness
  | 11 => .reliability
  | 13 => .history
  | 21 => .lifespan
  | _ => .invalid

def checkDdsRetCode : ReturnCode → RmwRet
  | .ok => .ok
  | .timeout => .timeout
  | _ => .error

theorem checkDdsRetCode_eq_ok {dds : ReturnCode} : checkDdsRetCode dds = .ok ↔ dds = .ok := by
  cases dds <;> simp [checkDdsRetCode]

inductive Side where
  | publisher | subscription
  deriving DecidableEq, Repr

def Side.has : Side → EventType → Bool
  | .publisher, .livelinessLost => true
  | .publisher, .offeredDeadlineMissed => true
  | .publisher, .offeredQosIncompatible => true
  | .subscription, .livelinessChanged => true
  | .subscription, .requestedDeadlineMissed => true
  | .subscription, .requestedQosIncompatible => true
  | _, _ => false

variable {N : Type}

inductive EventInfo (N : Type) where
  | livelinessLost (totalCount totalCountChange : N)
  | offeredDeadlineMissed (totalCount totalCountChange : N)
  | offeredQosIncompatible (totalCount totalCountChange : N) (lastPolicyKind : QosPolicyKind)
  | livelinessChanged (aliveCount notAliveCount aliveCountChange notAliveCountChange : N)
  | requestedDeadlineMissed (totalCount totalCountChange : N)
  | requestedQosIncompatible (totalCount totalCountChange : N) (lastPolicyKind : QosPolicyKind)
  deriving DecidableEq, Repr

/-- A DataWriter or DataReader with its statuses. A status has one count, or two if it
is `LIVELINESS_CHANGED`; the second count of the others stays at zero. -/
structure Entity (N : Type) where
  side : Side
  status : EventType → Meter (N × N)
  lastPolicyId : EventType → ℕ

def Entity.report [AddCommGroup N] (e : Entity N) (kind : EventType) (dds : ReturnCode)
    (copy : N × N → N × N → EventInfo N) : RmwRet × Option (EventInfo N) × Entity N :=
  let m := e.status kind
  match checkDdsRetCode dds with
  | .ok => (.ok, some (copy m.total m.unread),
      { e with status := Function.update e.status kind m.read })
  | ret => (ret, none, e)

variable [AddCommGroup N]

def publisherGetStatus (e : Entity N) (dds : ReturnCode) (mask : StatusMask) :
    RmwRet × Option (EventInfo N) × Entity N :=
  if mask = 0x800 then
    e.report .livelinessLost dds fun total change => .livelinessLost total.1 change.1
  else if mask = 0x2 then
    e.report .offeredDeadlineMissed dds fun total change => .offeredDeadlineMissed total.1 change.1
  else if mask = 0x20 then
    e.report .offeredQosIncompatible dds fun total change =>
      .offeredQosIncompatible total.1 change.1
        (ddsQosPolicyToRmwQosPolicy (e.lastPolicyId .offeredQosIncompatible))
  else (.unsupported, none, e)

def subscriberGetStatus (e : Entity N) (dds : ReturnCode) (mask : StatusMask) :
    RmwRet × Option (EventInfo N) × Entity N :=
  if mask = 0x1000 then
    e.report .livelinessChanged dds fun total change =>
      .livelinessChanged total.1 total.2 change.1 change.2
  else if mask = 0x4 then
    e.report .requestedDeadlineMissed dds fun total change =>
      .requestedDeadlineMissed total.1 change.1
  else if mask = 0x40 then
    e.report .requestedQosIncompatible dds fun total change =>
      .requestedQosIncompatible total.1 change.1
        (ddsQosPolicyToRmwQosPolicy (e.lastPolicyId .requestedQosIncompatible))
  else (.unsupported, none, e)

/-- The virtual `get_status` of the object that belongs to the entity. -/
def Entity.getStatus (e : Entity N) (dds : ReturnCode) (mask : StatusMask) :
    RmwRet × Option (EventInfo N) × Entity N :=
  match e.side with
  | .publisher => publisherGetStatus e dds mask
  | .subscription => subscriberGetStatus e dds mask

/-- `rmw_event_t`; `data` names the object of an entity. -/
structure RmwEvent where
  implementationIdentifier : ImplementationIdentifier
  data : Option ℕ
  eventType : EventType
  deriving DecidableEq, Repr

def RmwEvent.zero : RmwEvent := ⟨.null, none, .invalid⟩

/-- `__rmw_init_event`, whose `identifier` is `opendds_identifier`. The addresses in the
text of a mismatch are left out. -/
def initEvent (rmwEvent : Option RmwEvent)
    (topicEndpointImplIdentifier : ImplementationIdentifier) (data : Option ℕ)
    (eventType : EventType) : RmwRet × Option String × Option RmwEvent :=
  match rmwEvent with
  | none => (.invalidArgument, some "rmw_event argument is null", none)
  | some event =>
    if topicEndpointImplIdentifier = .null then
      (.invalidArgument, some "topic_endpoint_impl_identifier argument is null", some event)
    else if data = none then (.invalidArgument, some "data argument is null", some event)
    else if topicEndpointImplIdentifier ≠ .opendds then
      (.incorrectRmwImplementation,
        some "topic endpoint implementation does not match rmw implementation", some event)
    else if ¬ isEventSupported eventType then
      (.unsupported, some ("provided event_type is not supported by " ++ openddsIdentifier),
        some event)
    else (.ok, none, some ⟨topicEndpointImplIdentifier, data, eventType⟩)

/-- The handle is dereferenced before any check. -/
def rmwPublisherEventInit (rmwEvent : Option RmwEvent) (publisher : RmwHandle ℕ)
    (eventType : EventType) : RmwRet × Option String × Option RmwEvent :=
  initEvent rmwEvent publisher.implementationIdentifier publisher.data eventType

def rmwSubscriptionEventInit (rmwEvent : Option RmwEvent) (subscription : RmwHandle ℕ)
    (eventType : EventType) : RmwRet × Option String × Option RmwEvent :=
  initEvent rmwEvent subscription.implementationIdentifier subscription.data eventType

structure TakenEvent (N : Type) where
  ret : RmwRet
  error : Option String
  eventInfo : Option (EventInfo N)
  taken : Option Bool
  entities : ℕ → Entity N

/-- `__rmw_take_event`; it dereferences the data of the event unchecked, where the
result is `none`. The number in the text about an unsupported type is left out. -/
def takeEvent (entities : ℕ → Entity N) (dds : ReturnCode) (eventHandle : Option RmwEvent)
    (eventInfo taken : Bool) : Option (TakenEvent N) :=
  match eventHandle with
  | none => some ⟨.invalidArgument, some "event_handle argument is null", none, none, entities⟩
  | some event =>
    if ¬ eventInfo then
      some ⟨.invalidArgument, some "event_info argument is null", none, none, entities⟩
    else if ¬ taken then
      some ⟨.invalidArgument, some "taken argument is null", none, none, entities⟩
    else if event.implementationIdentifier ≠ .opendds then
      some ⟨.error, some "event handle implementation does not match rmw implementation", none,
        none, entities⟩
    else
      match maskMap event.eventType with
      | none => some ⟨.unsupported, some "event not supported", none, some false, entities⟩
      | some statusKind =>
        event.data.map fun entity =>
          let (ret, info, after) := (entities entity).getStatus dds statusKind
          ⟨ret, none, info, some (ret = .ok), Function.update entities entity after⟩

def rmwTakeEvent (entities : ℕ → Entity N) (dds : ReturnCode) (eventHandle : Option RmwEvent)
    (eventInfo taken : Bool) : Option (TakenEvent N) :=
  takeEvent entities dds eventHandle eventInfo taken

end RmwOpendds.Events
