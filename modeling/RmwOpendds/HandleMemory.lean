import RmwOpendds.ReturnCodes
import RmwOpendds.RmwAllocateFree
import RmwOpendds.WaitSets

/-! The memory behind wait sets and guard conditions: `wait_set.cpp`,
`rmw_guard_condition.cpp` and `DDSGuardCondition`, with every allocation and constructor
that may fail and every destructor that may throw. -/

namespace RmwOpendds.HandleMemory

open Library Memory Wait

/-- A pointer member; memory from `rmw_allocate` holds none. -/
inductive Pointer where
  | uninitialised
  | holds (address : Option ℕ)
  deriving DecidableEq, Repr

structure InfoBlock where
  waitSet : Pointer
  activeConditions : Pointer
  attachedConditions : Pointer
  deriving DecidableEq, Repr

/-- What stands in a block: an rmw handle, an object with members, or an object of DDS
of which only the construction is followed. -/
inductive Contents where
  | rmwWaitSet (implementationIdentifier : ImplementationIdentifier) (data : Pointer)
  | waitSetInfo (info : InfoBlock)
  | rmwGuardCondition (implementationIdentifier : ImplementationIdentifier) (data : Pointer)
  | ddsGuardCondition (gc : Pointer)
  | object (constructed : Bool)
  deriving DecidableEq, Repr

def Pointer.read : Pointer → Program Contents (Option ℕ)
  | .uninitialised => throw .indeterminate
  | .holds address => pure address

/-- Placement new on a block; the text is that of the exception. -/
def construct (a : ℕ) (outcome : Except String Unit) : Program Contents (Except String Unit) := do
  match outcome with
  | .ok () => do
    store a (.object true)
    return .ok ()
  | .error text => return .error text

/-- A destructor, which needs an object. What it throws is caught around the call. -/
def destruct (a : ℕ) : Program Contents PUnit := do
  match ← load a with
  | .object true => store a (.object false)
  | _ => throw .indeterminate

/-- `if (p) { p->~T(); rmw_free(p); }` -/
def destroyObject : Option ℕ → Program Contents PUnit
  | none => pure ⟨⟩
  | some a => do
    destruct a
    free a

section WaitSet

def loadWaitSet (a : ℕ) : Program Contents (ImplementationIdentifier × Pointer) := do
  match ← load a with
  | .rmwWaitSet implementationIdentifier data => pure (implementationIdentifier, data)
  | _ => throw .indeterminate

def loadInfo (a : ℕ) : Program Contents InfoBlock := do
  match ← load a with
  | .waitSetInfo info => pure info
  | _ => throw .indeterminate

/-- The `fail` block of `create_wait_set`. -/
def fail (text : String) (waitSet waitSetInfo : Option ℕ) :
    Program Contents (Except String ℕ) := do
  match waitSetInfo with
  | none => pure ⟨⟩
  | some i => do
    let info ← loadInfo i
    destroyObject (← info.activeConditions.read)
    destroyObject (← info.attachedConditions.read)
    destroyObject (← info.waitSet.read)
  match waitSet with
  | none => pure ⟨⟩
  | some w => do
    let (_, data) ← loadWaitSet w
    match ← data.read with
    | none => pure ⟨⟩
    | some data => free data
    free w
  return .error text

def allocateMember (i : ℕ) (allocated : Bool) (assign : InfoBlock → Pointer → InfoBlock) :
    Program Contents (Option ℕ) := do
  let a ← tryAllocate allocated (.object false)
  store i (.waitSetInfo (assign (← loadInfo i) (.holds a)))
  return a

/-- `create_wait_set` once there is an info block. With either size the two sequences are
constructed in this order. -/
def fillInfo (w i : ℕ) (o : WaitSetCreation) : Program Contents (Except String ℕ) := do
  match ← allocateMember i o.waitSetAllocated (fun b p => { b with waitSet := p }) with
  | none => fail "failed to allocate wait set" (some w) (some i)
  | some dds =>
    match ← construct dds o.waitSetConstructed with
    | .error text => fail text (some w) (some i)
    | .ok () =>
      match ← allocateMember i o.activeAllocated (fun b p => { b with activeConditions := p }) with
      | none => fail "failed to allocate active_conditions sequence" (some w) (some i)
      | some active =>
        match ← allocateMember i o.attachedAllocated
            (fun b p => { b with attachedConditions := p }) with
        | none => fail "failed to allocate attached_conditions sequence" (some w) (some i)
        | some attached =>
          match ← construct active o.activeConstructed with
          | .error text => fail text (some w) (some i)
          | .ok () =>
            match ← construct attached o.attachedConstructed with
            | .error text => fail text (some w) (some i)
            | .ok () => return .ok w

def createWaitSet (implementationIdentifier : ImplementationIdentifier) (o : WaitSetCreation) :
    Program Contents (Except String ℕ) := do
  match ← tryAllocate o.handleAllocated (.rmwWaitSet .null .uninitialised) with
  | none => fail "failed to allocate wait set" none none
  | some w =>
    let info ← tryAllocate o.infoAllocated
      (.waitSetInfo ⟨.uninitialised, .uninitialised, .uninitialised⟩)
    store w (.rmwWaitSet implementationIdentifier (.holds info))
    match info with
    | none => fail "failed to allocate wait set" (some w) none
    | some i => fillInfo w i o

/-- What the destructors throw, as the text that the macro around each of them sets. -/
structure WaitSetDestruction where
  active : Except String Unit
  attached : Except String Unit
  waitSet : Except String Unit

def WaitSetDestruction.thrown (d : WaitSetDestruction) : Option String :=
  [d.active, d.attached, d.waitSet].foldl (fun last outcome =>
    match outcome with
    | .ok () => last
    | .error text => some text) none

/-- The addresses in the text of a foreign wait set are left out. -/
def destroyWaitSet (implementationIdentifier : ImplementationIdentifier) (waitSet : Option ℕ)
    (d : WaitSetDestruction) : Program Contents (RmwRet × Option String) := do
  match waitSet with
  | none => return (.error, some "wait set handle is null")
  | some w =>
    let (identifier, data) ← loadWaitSet w
    if identifier ≠ implementationIdentifier then
      return (.error, some "wait_set handle implementation does not match rmw implementation")
    else
      match ← data.read with
      | none => throw .dangling
      | some i => do
        let info ← loadInfo i
        destroyObject (← info.activeConditions.read)
        destroyObject (← info.attachedConditions.read)
        destroyObject (← info.waitSet.read)
        free i
        free w
        return (if d.thrown.isSome then .error else .ok, d.thrown)

end WaitSet

section GuardCondition

structure GuardConditionCreation where
  handleAllocated : Bool
  objectAllocated : Bool
  gcAllocated : Bool
  gcConstructed : Except String Unit

def constructGuardCondition (o : GuardConditionCreation) (a : ℕ) :
    Program Contents (Except String Unit) := do
  match ← RmwAllocateFree.create o.gcAllocated (.object false) (construct · o.gcConstructed) with
  | .ok gc =>
    store a (.ddsGuardCondition (.holds (some gc)))
    return .ok ()
  | .error _ => return .error "DDSGuardCondition constructor failed"

def loadGuardCondition (a : ℕ) : Program Contents (ImplementationIdentifier × Pointer) := do
  match ← load a with
  | .rmwGuardCondition implementationIdentifier data => pure (implementationIdentifier, data)
  | _ => throw .indeterminate

def destructGuardCondition (a : ℕ) : Program Contents PUnit := do
  match ← load a with
  | .ddsGuardCondition gc => destroyObject (← gc.read)
  | _ => throw .indeterminate

/-- `clean_guard_condition`, with the text that it leaves. -/
def cleanGuardCondition (guardCondition : Option ℕ) : Program Contents (Option String) := do
  match guardCondition with
  | none => return none
  | some g =>
    let (_, data) ← loadGuardCondition g
    match ← data.read with
    | none =>
      free g
      return some "dds_guard_condition is null"
    | some a =>
      RmwAllocateFree.destroy destructGuardCondition (some a)
      free g
      return none

/-- The handle, and the text that is left. `context->impl` is the data of the context. Its
null checks do not return, so that a null context is read, and one without data only leaves
a text. The context that the guard condition remembers is never read. -/
def createGuardCondition (context : Option (RmwHandle Unit)) (o : GuardConditionCreation) :
    Program Contents (Option ℕ × Option String) := do
  match context with
  | none => throw .dangling
  | some context =>
    match checkImplId context.implementationIdentifier with
    | .error text => return (none, some text)
    | .ok () =>
      match ← tryAllocate o.handleAllocated (.rmwGuardCondition .null .uninitialised) with
      | none => return (none, some "rmw_guard_condition_allocate failed")
      | some g =>
        let data ← RmwAllocateFree.create o.objectAllocated (.ddsGuardCondition .uninitialised)
          (constructGuardCondition o)
        store g (.rmwGuardCondition .opendds (.holds data.toOption))
        match data with
        | .ok _ =>
          return (some g, if context.data.isNone then some "context->impl is null" else none)
        | .error _ => do
          let text ← cleanGuardCondition (some g)
          return (none, some (text.getD "failed to create DDSGuardCondition"))

def destroyGuardCondition (guardCondition : Option ℕ) :
    Program Contents (RmwRet × Option String) := do
  match guardCondition with
  | none => return (.invalidArgument, some "guard condition is null")
  | some g =>
    let (identifier, _) ← loadGuardCondition g
    match checkImplId identifier with
    | .error text => return (.incorrectRmwImplementation, some text)
    | .ok () => do
      let text ← cleanGuardCondition (some g)
      return (.ok, text)

end GuardCondition

inductive Resource where
  | waitSet (address : ℕ)
  | guardCondition (address : ℕ)
  deriving DecidableEq, Repr

structure World where
  memory : Memory Contents
  live : Multiset Resource

inductive Call where
  | rmwCreateWaitSet (o : WaitSetCreation)
  | rmwDestroyWaitSet (waitSet : Option ℕ) (d : WaitSetDestruction)
  | rmwCreateGuardCondition (context : Option (RmwHandle Unit)) (o : GuardConditionCreation)
  | rmwDestroyGuardCondition (guardCondition : Option ℕ)

def World.step (w : World) : Call → Option World
  | .rmwCreateWaitSet o =>
    finish (createWaitSet .opendds o) w.memory fun r m =>
      ⟨m, match r with
        | .ok a => .waitSet a ::ₘ w.live
        | .error _ => w.live⟩
  | .rmwDestroyWaitSet waitSet d =>
    finish (destroyWaitSet .opendds waitSet d) w.memory fun _ m =>
      ⟨m, waitSet.elim w.live fun a => w.live.erase (.waitSet a)⟩
  | .rmwCreateGuardCondition context o =>
    finish (createGuardCondition context o) w.memory fun r m =>
      ⟨m, match r.1 with
        | some a => .guardCondition a ::ₘ w.live
        | none => w.live⟩
  | .rmwDestroyGuardCondition guardCondition =>
    finish (destroyGuardCondition guardCondition) w.memory fun _ m =>
      ⟨m, guardCondition.elim w.live fun a => w.live.erase (.guardCondition a)⟩

def machine : Machine World Call := ⟨⟨.empty, 0⟩, World.step⟩

end RmwOpendds.HandleMemory
