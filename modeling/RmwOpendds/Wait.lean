import Mathlib.Data.Nat.Notation
import Mathlib.Logic.Function.Basic
import RmwOpendds.Identifier
import RmwOpendds.Qos

/-! `rmw_wait`: `wait.hpp`, `wait.cpp`, the parts of `DDSGuardCondition.cpp`,
`event_converter.cpp` and `condition_error.cpp` that it uses. A loop that returns
early leaves the entries before the failure changed and those after it alone.
What DDS answers is given by `Dds`; conditions are told apart by the identity of
what they belong to, and a null pointer is `none`. The event loop dereferences its
entries unchecked; where it gets to a null one the result of the call is `none`. -/

namespace RmwOpendds.Wait

/-- `DDS::ReadCondition`, `DDS::GuardCondition`, or the status condition of an entity. -/
inductive Condition where
  | read (id : ℕ) | guard (id : ℕ) | status (entity : ℕ)
  deriving DecidableEq, Repr

abbrev StatusMask := UInt32

inductive EventType where
  | livelinessChanged | requestedDeadlineMissed | requestedQosIncompatible
  | livelinessLost | offeredDeadlineMissed | offeredQosIncompatible | invalid
  deriving DecidableEq, Repr

/-- `mask_map`, with the status kinds of the DDS specification. -/
def maskMap : EventType → Option StatusMask
  | .livelinessChanged => some 0x1000
  | .requestedDeadlineMissed => some 0x4
  | .requestedQosIncompatible => some 0x40
  | .livelinessLost => some 0x800
  | .offeredDeadlineMissed => some 0x2
  | .offeredQosIncompatible => some 0x20
  | .invalid => none

def isEventSupported (event : EventType) : Bool := (maskMap event).isSome

structure Waitable where
  readCondition : Option ℕ
  deriving DecidableEq, Repr

/-- What it uses of a `DDSEntity`: the identity of `get_entity()`. -/
structure DDSEntity where
  entity : Option ℕ
  deriving DecidableEq, Repr

structure RmwEvent where
  data : Option DDSEntity
  eventType : EventType
  deriving DecidableEq, Repr

structure Arrays where
  subscriptions : Option (List (Option Waitable))
  guardConditions : Option (List (Option ℕ))
  services : Option (List (Option Waitable))
  clients : Option (List (Option Waitable))
  events : Option (List (Option RmwEvent))
  deriving DecidableEq, Repr

/-- The answers of DDS during one call; those to `attach_condition` are counted. -/
structure Dds where
  attachCondition : ℕ → Condition → ReturnCode
  wait : List Condition → Duration → ReturnCode × List Condition
  setTriggerValue : ℕ → ReturnCode
  getStatusChanges : ℕ → StatusMask
  getConditions : ReturnCode
  detachCondition : Condition → ReturnCode

structure WaitSetInfo where
  waitSet : Option (List Condition)
  activeConditions : Option (List Condition)
  attachedConditions : Option (List Condition)
  deriving DecidableEq, Repr

def checkAttachConditionError : ReturnCode → Option String
  | .ok => none
  | .outOfResources => some "failed to attach condition to wait set: out of resources"
  | .badParameter => some "failed to attach condition to wait set: condition pointer was invalid"
  | _ => some "failed to attach condition to wait set"

/-- The checks before the wait set is used; the conditions attached to it. The
addresses in the text of a foreign wait set are left out. -/
def openWaitSet : Option (RmwHandle WaitSetInfo) → Except String (WaitSetInfo × List Condition)
  | none => .error "wait_set argument is null"
  | some handle =>
    if handle.implementationIdentifier ≠ .opendds then
      .error "wait_set implementation does not match rmw implementation"
    else
      match handle.data with
      | none => .error "wait_set_info is null"
      | some info =>
        match info.waitSet with
        | none => .error "dds_wait_set is null"
        | some attached =>
          match info.activeConditions with
          | none => .error "active_conditions is null"
          | some _ => .ok (info, attached)

/-- The destructor of `Cleaner`: what is attached after it, and its error. -/
def clean (dds : Dds) (info : WaitSetInfo) (attached : List Condition) :
    List Condition × Option String :=
  if info.attachedConditions.isSome && dds.getConditions = .ok then
    let stuck := attached.filter fun c => dds.detachCondition c ≠ .ok
    (stuck, if stuck = [] then none else some "failed to detach condition from wait set")
  else (attached, some "failed to get attached conditions")

def readCondition (infoNull : String) : Option Waitable → Except String Condition
  | none => .error infoNull
  | some info =>
    match info.readCondition with
    | none => .error "read condition is null"
    | some id => .ok (.read id)

def guardCondition (conditionNull : String) : Option ℕ → Except String Condition
  | none => .error conditionNull
  | some id => .ok (.guard id)

/-- The conditions that the four attach loops go through, one loop after another. -/
def wanted (a : Arrays) : List (Except String Condition) :=
  (a.subscriptions.getD []).map (readCondition "subscriber info is null") ++
  (a.guardConditions.getD []).map (guardCondition "guard condition is null") ++
  (a.services.getD []).map (readCondition "service info is null") ++
  (a.clients.getD []).map (readCondition "client info is null")

/-- Attaching what is attached already has no effect. -/
def attach (attached : List Condition) (c : Condition) : List Condition :=
  if c ∈ attached then attached else attached ++ [c]

def attachAll (dds : Dds) :
    ℕ → List (Except String Condition) → List Condition → List Condition × Option String
  | _, [], attached => (attached, none)
  | _, .error text :: _, attached => (attached, some text)
  | n, .ok c :: rest, attached =>
    match checkAttachConditionError (dds.attachCondition n c) with
    | some text => (attached, some text)
    | none => attachAll dds (n + 1) rest (attach attached c)

def durationInfinite : Duration := ⟨0x7fffffff, 0x7fffffff⟩

def timeout : Option RmwTime → Duration
  | none => durationInfinite
  | some t => ⟨t.sec.toUInt32.toInt32, t.nsec.toUInt32⟩

def resetReaders (infoNull : String) (active : List Condition) :
    List (Option Waitable) → List (Option Waitable) × Option String
  | [] => ([], none)
  | entry :: rest =>
    match readCondition infoNull entry with
    | .error text => (entry :: rest, some text)
    | .ok c =>
      let (rest', error) := resetReaders infoNull active rest
      ((if c ∈ active then entry else none) :: rest', error)

def setGuard (dds : Dds) (triggers : ℕ → Bool) (g : ℕ) (value : Bool) :
    (ℕ → Bool) × Option String :=
  if dds.setTriggerValue g = .ok then (Function.update triggers g value, none)
  else (triggers, some "DDSGuardCondition::set failed")

def resetGuards (dds : Dds) (active : List Condition) :
    List (Option ℕ) → (ℕ → Bool) → List (Option ℕ) × (ℕ → Bool) × Option String
  | [], triggers => ([], triggers, none)
  | none :: rest, triggers => (none :: rest, triggers, some "guard_condition is null")
  | some g :: rest, triggers =>
    if .guard g ∈ active then
      match setGuard dds triggers g false with
      | (triggers', some text) => (some g :: rest, triggers', some text)
      | (triggers', none) =>
        let (rest', after, error) := resetGuards dds active rest triggers'
        (some g :: rest', after, error)
    else
      let (rest', after, error) := resetGuards dds active rest triggers
      (none :: rest', after, error)

def eventActive (statusChanges : StatusMask) (event : EventType) : Bool :=
  match maskMap event with
  | none => false
  | some kind => statusChanges &&& kind ≠ 0

def eventLoop (dds : Dds) :
    List (Option RmwEvent) → Option (List (Option RmwEvent) × Option (RmwRet × String))
  | [] => some ([], none)
  | none :: _ => none
  | some ev :: rest =>
    match ev.data with
    | none => some (some ev :: rest, some (.invalidArgument, "ev->data argument is null"))
    | some data =>
      match data.entity with
      | none => some (some ev :: rest, some (.error, "Event entity is null"))
      | some entity =>
        let active := eventActive (dds.getStatusChanges entity) ev.eventType
        (eventLoop dds rest).map fun (rest', error) =>
          ((if active then some ev else none) :: rest', error)

def handleActiveEventConditions (dds : Dds) : Option (List (Option RmwEvent)) →
    Option (Option (List (Option RmwEvent)) × Option (RmwRet × String))
  | none => some (none, none)
  | some events => (eventLoop dds events).map fun (events', error) => (some events', error)

def overArray {α γ : Type} (loop : List α → List α × Option γ) :
    Option (List α) → Option (List α) × Option γ
  | none => (none, none)
  | some entries => ((loop entries).1, (loop entries).2)

structure Reset where
  arrays : Arrays
  triggers : ℕ → Bool
  failure : Option (RmwRet × String)

/-- What follows the DDS wait, up to the first failure. -/
def reset (dds : Dds) (active : List Condition) (a : Arrays) (triggers : ℕ → Bool) :
    Option Reset :=
  match overArray (resetReaders "subscriber info is null" active) a.subscriptions with
  | (subscriptions, some text) => some ⟨{ a with subscriptions }, triggers, some (.error, text)⟩
  | (subscriptions, none) =>
    let guards := resetGuards dds active (a.guardConditions.getD []) triggers
    let triggers := guards.2.1
    let a' := { a with subscriptions, guardConditions := a.guardConditions.map fun _ => guards.1 }
    match guards.2.2 with
    | some text => some ⟨a', triggers, some (.error, text)⟩
    | none =>
      match overArray (resetReaders "service info is null" active) a.services with
      | (services, some text) => some ⟨{ a' with services }, triggers, some (.error, text)⟩
      | (services, none) =>
        match overArray (resetReaders "client info is null" active) a.clients with
        | (clients, some text) =>
          some ⟨{ a' with services, clients }, triggers, some (.error, text)⟩
        | (clients, none) =>
          (handleActiveEventConditions dds a.events).map fun (events, failure) =>
            ⟨{ a' with services, clients, events }, triggers, failure⟩

structure Waited where
  attached : List Condition
  timeout : Duration
  status : ReturnCode
  active : List Condition
  deriving DecidableEq, Repr

/-- A call of `wait` when it has returned; `attached` is what the `Cleaner` left. -/
structure WaitResult where
  ret : RmwRet
  error : Option String
  arrays : Arrays
  triggers : ℕ → Bool
  waited : Option Waited
  attached : List Condition
  cleanerError : Option String

def wait (dds : Dds) (a : Arrays) (waitSet : Option (RmwHandle WaitSetInfo))
    (waitTimeout : Option RmwTime) (triggers : ℕ → Bool) : Option WaitResult :=
  match openWaitSet waitSet with
  | .error text =>
    some ⟨.error, some text, a, triggers, none,
      ((waitSet.bind (·.data)).bind (·.waitSet)).getD [], none⟩
  | .ok (info, held) =>
    let (attached, failed) := attachAll dds 0 (wanted a) held
    let (left, cleanerError) := clean dds info attached
    match failed with
    | some text => some ⟨.error, some text, a, triggers, none, left, cleanerError⟩
    | none =>
      let (status, active) := dds.wait attached (timeout waitTimeout)
      let waited := some ⟨attached, timeout waitTimeout, status, active⟩
      if status ≠ .ok ∧ status ≠ .timeout then
        some ⟨.error, some "failed to wait on wait set", a, triggers, waited, left, cleanerError⟩
      else
        (reset dds active a triggers).map fun r =>
          match r.failure with
          | some (ret, text) => ⟨ret, some text, r.arrays, r.triggers, waited, left, cleanerError⟩
          | none =>
            ⟨if status = .timeout then .timeout else .ok, none, r.arrays, r.triggers, waited, left,
              cleanerError⟩

end RmwOpendds.Wait
