import RmwOpendds.Identifier
import RmwOpendds.Library.Machine
import RmwOpendds.NodeConstruction
import RmwOpendds.ReturnCodes

/-! Contexts and nodes of a process: `rmw_init`, `rmw_shutdown`, `rmw_create_node`
and `rmw_destroy_node` with the memory of the `rmw_context_t` objects and the one
service participant. A caller's context stays in its place. An argument that is
passed by value is an object of its own, which lives until the call returns; what
is read after that through a reference to it is an argument (`stale`). -/

namespace RmwOpendds

open Library

/-- `rmw_init_options_t` as it is copied into a context and read there. -/
structure RmwInitOptions where
  instanceId : ℕ
  implementationIdentifier : ImplementationIdentifier
  domainId : ℕ
  enclave : Option StdString
  deriving DecidableEq, Repr

/-- `rmw_context_t`; `impl` is the address of an `rmw_context_impl_t`, whose factory
is not null, as its constructor throws otherwise. -/
structure RmwContext where
  instanceId : ℕ
  implementationIdentifier : ImplementationIdentifier
  options : RmwInitOptions
  impl : Option ℕ
  deriving DecidableEq, Repr

/-- `rmw_get_zero_initialized_context` -/
def RmwContext.zero : RmwContext := ⟨0, .null, ⟨0, .null, 0, none⟩, none⟩

/-- What a reference to an `rmw_context_t` denotes: a caller's object, or the
parameter of a call. -/
inductive ContextRef where
  | caller (context : ℕ)
  | parameter (call : ℕ)
  deriving DecidableEq, Repr

/-- An `rmw_node_t` with its `OpenDDSNode`. -/
structure NodeObject where
  context : ℕ
  contextRef : ContextRef
  name : StdString
  namespace_ : StdString
  deriving DecidableEq, Repr

/-- `participants` tells of each node whether its participant exists, and whether it
can be used. -/
structure Process where
  contexts : ℕ → RmwContext
  parameters : ℕ → Option RmwContext
  nextParameter : ℕ
  nextImpl : ℕ
  nodes : ℕ → Option NodeObject
  nextNode : ℕ
  serviceUp : Bool
  participants : ℕ → Option Bool

namespace Process

def start : Process where
  contexts _ := .zero
  parameters _ := none
  nextParameter := 0
  nextImpl := 0
  nodes _ := none
  nextNode := 0
  serviceUp := false
  participants _ := none

def deref (p : Process) : ContextRef → Option RmwContext
  | .caller c => some (p.contexts c)
  | .parameter k => p.parameters k

def setContext (p : Process) (c : ℕ) (value : RmwContext) : Process :=
  { p with contexts := Function.update p.contexts c value }

/-- What a call returns, the errors it sets in their order, and the process after it. -/
structure Called where
  ret : RmwRet
  errors : List String
  process : Process

structure ImplOutcome where
  allocated : Bool
  factoryGiven : Bool
  deriving DecidableEq, Repr

/-- `init` of `init.cpp`: the constructor of `rmw_context_impl_t` starts the service. -/
def init (p : Process) (c : ℕ) (dds : ImplOutcome) : Called :=
  if dds.allocated then
    if dds.factoryGiven then
      ⟨.ok, [], { p.setContext c { p.contexts c with impl := some p.nextImpl } with
        nextImpl := p.nextImpl + 1, serviceUp := true }⟩
    else
      ⟨.error, ["failed to get participant factory", "failed to get participant factory"],
        p.setContext c .zero⟩
  else ⟨.error, [], p.setContext c .zero⟩

def rmwInit (p : Process) (options : Option RmwInitOptions) (context : Option ℕ)
    (dds : ImplOutcome) : Called :=
  match options, context with
  | none, _ => ⟨.invalidArgument, ["options argument is null"], p⟩
  | some _, none => ⟨.invalidArgument, ["context argument is null"], p⟩
  | some options, some c =>
    -- the text of a mismatch is made by rmw
    if options.implementationIdentifier ≠ .opendds then ⟨.incorrectRmwImplementation, [], p⟩
    else if (p.contexts c).implementationIdentifier ≠ .null then
      ⟨.invalidArgument, ["expected zero-initialized context"], p⟩
    else
      (p.setContext c { p.contexts c with
        instanceId := options.instanceId
        implementationIdentifier := .opendds
        options := options }).init c dds

/-- `shutdown` of `init.cpp`: the destructor of `rmw_context_impl_t` shuts the service
down, and with it every participant. -/
def shutdown (p : Process) (c : ℕ) : Process :=
  if (p.contexts c).impl.isSome then
    { p.setContext c { p.contexts c with impl := none } with
      serviceUp := false
      participants := fun k => (p.participants k).map fun _ => false }
  else p

def rmwShutdown (p : Process) : Option ℕ → Called
  | none => ⟨.invalidArgument, ["context argument is null"], p⟩
  | some c =>
    if (p.contexts c).implementationIdentifier ≠ .opendds then
      ⟨.incorrectRmwImplementation, [], p⟩
    else ⟨.ok, [], p.shutdown c⟩

/-- An argument passed by value: the parameter is a new object. -/
def passByValue (p : Process) (value : RmwContext) : ContextRef × Process :=
  (.parameter p.nextParameter,
    { p with parameters := Function.update p.parameters p.nextParameter (some value)
             nextParameter := p.nextParameter + 1 })

def endLifetime (p : Process) : ContextRef → Process
  | .caller _ => p
  | .parameter k => { p with parameters := Function.update p.parameters k none }

/-- `OpenDDSNode::Raf::create(*context, name, namespace_)`: its parameters are values,
and the constructor binds `context_` to the first of them. It reads the factory through
`context_.impl` before anything else; `none` is a read through null. -/
def createNode (p : Process) (c : ℕ) (name namespace_ : StdString) (dds : NodeOutcome) :
    Option (Option NodeObject × Process) :=
  let (args, p) := p.passByValue (p.contexts c)
  if dds.objectAllocated && (p.contexts c).impl.isNone then none
  else
    let object :=
      if dds.objectAllocated && (constructNode name namespace_ dds).isOk then
        some { context := c, contextRef := args, name, namespace_ : NodeObject }
      else none
    some (object, p.endLifetime args)

def addNode (p : Process) (n : NodeObject) : Process :=
  { p with nodes := Function.update p.nodes p.nextNode (some n)
           participants := Function.update p.participants p.nextNode (some p.serviceUp)
           nextNode := p.nextNode + 1 }

structure Created where
  node : Option ℕ
  errors : List String
  process : Process

/-- The null checks set their texts and do not return, so that a null context is read
(`none`). The participant of a construction that fails is deleted again. -/
def rmwCreateNode (p : Process) (context : Option ℕ) (name namespace_ : Option StdString)
    (dds : NodeOutcome) : Option Created :=
  match context with
  | none => none
  | some c =>
    match checkImplId (p.contexts c).implementationIdentifier with
    | .error text => some ⟨none, [text], p⟩
    | .ok _ =>
      let noImpl := if (p.contexts c).impl.isNone then ["context->impl is null"] else []
      match validateNameNamespace name namespace_ with
      | .error text => some ⟨none, noImpl ++ [text], p⟩
      | .ok (name, namespace_) =>
        if dds.nodeAllocated then
          (p.createNode c name namespace_ dds).map fun
            | (some n, p) => ⟨some p.nextNode, noImpl, p.addNode n⟩
            | (none, p) => ⟨none, noImpl ++ ["OpenDDSNode failed"], p⟩
        else some ⟨none, noImpl ++ ["rmw_node_allocate failed"], p⟩

def readContext (p : Process) (n : NodeObject) (stale : RmwContext) : RmwContext :=
  (p.deref n.contextRef).getD stale

structure CleanupOutcome where
  containedDeleted : Bool
  participantDeleted : Bool
  guardConditionDestroyed : Bool
  deriving DecidableEq, Repr

def cleanup (p : Process) (k : ℕ) (n : NodeObject) (stale : RmwContext) (dds : CleanupOutcome) :
    List String × Process :=
  let contained := if dds.containedDeleted then [] else ["dp_->delete_contained_entities failed"]
  let guard := if dds.guardConditionDestroyed then [] else ["destroy_guard_condition failed"]
  if (p.readContext n stale).impl.isSome then
    if dds.participantDeleted then
      (contained ++ guard, { p with participants := Function.update p.participants k none })
    else (contained ++ "delete_participant failed" :: guard, p)
  else (contained ++ "context_.impl is null or invalid" :: guard, p)

/-- A node is destroyed once; `none` is a call on a node that is none. The check for null
does not return either. -/
def rmwDestroyNode (p : Process) (node : Option ℕ) (stale : RmwContext) (dds : CleanupOutcome) :
    Option Called :=
  match node with
  | none => none
  | some k =>
    (p.nodes k).map fun n =>
      if (p.contexts n.context).impl.isSome then
        match p.cleanup k n stale dds with
        | (errors, p) => ⟨.ok, errors, { p with nodes := Function.update p.nodes k none }⟩
      else ⟨.error, [], p⟩

end Process

inductive ContextCall where
  | rmwInit (options : Option RmwInitOptions) (context : Option ℕ) (dds : Process.ImplOutcome)
  | rmwShutdown (context : Option ℕ)
  | rmwCreateNode (context : Option ℕ) (name namespace_ : Option StdString) (dds : NodeOutcome)
  | rmwDestroyNode (node : Option ℕ) (stale : RmwContext) (dds : Process.CleanupOutcome)
  deriving DecidableEq, Repr

namespace Process

def step (p : Process) : ContextCall → Option Process
  | .rmwInit options context dds => some (p.rmwInit options context dds).process
  | .rmwShutdown context => some (p.rmwShutdown context).process
  | .rmwCreateNode context name namespace_ dds =>
    (p.rmwCreateNode context name namespace_ dds).map Created.process
  | .rmwDestroyNode node stale dds => (p.rmwDestroyNode node stale dds).map Called.process

def calls : Machine Process ContextCall := ⟨start, step⟩

def Creates (p : Process) : ContextCall → Prop
  | .rmwCreateNode (some c) (some name) (some namespace_) dds =>
    (p.contexts c).implementationIdentifier = .opendds ∧ (p.contexts c).impl.isSome ∧
      name ≠ [] ∧ namespace_ ≠ [] ∧ dds.granted name namespace_
  | _ => False

def afterArgument (p : Process) : Process :=
  { p with parameters := Function.update p.parameters p.nextParameter none
           nextParameter := p.nextParameter + 1 }

@[simp] theorem parameters_afterArgument (p : Process) (k : ℕ) :
    p.afterArgument.parameters k =
      if k = p.nextParameter then none else p.parameters k :=
  Function.update_apply ..

theorem nodes_addNode_eq_some {p : Process} {n m : NodeObject} {k : ℕ}
    (there : (p.addNode n).nodes k = some m) :
    k = p.nextNode ∧ n = m ∨ k ≠ p.nextNode ∧ p.nodes k = some m := by
  change Function.update p.nodes p.nextNode (some n) k = some m at there
  rw [Function.update_apply] at there
  split at there
  · rename_i new
    exact .inl ⟨new, Option.some.inj there⟩
  · rename_i old
    exact .inr ⟨old, there⟩

theorem participants_addNode (p : Process) (n : NodeObject) (k : ℕ) :
    (p.addNode n).participants k =
      if k = p.nextNode then some p.serviceUp else p.participants k :=
  Function.update_apply ..

def removeNode (p : Process) (k : ℕ) (participant : Option Bool) : Process :=
  { p with nodes := Function.update p.nodes k none
           participants := Function.update p.participants k participant }

theorem nodes_removeNode_eq_some {p : Process} {k j : ℕ} {participant : Option Bool}
    {m : NodeObject} (there : (p.removeNode k participant).nodes j = some m) :
    j ≠ k ∧ p.nodes j = some m := by
  change Function.update p.nodes k none j = some m at there
  rw [Function.update_apply] at there
  split at there
  · cases there
  · rename_i other
    exact ⟨other, there⟩

theorem participants_removeNode {p : Process} {k j : ℕ} (other : j ≠ k)
    (participant : Option Bool) :
    (p.removeNode k participant).participants j = p.participants j :=
  Function.update_of_ne other ..

theorem createNode_eq (p : Process) (c : ℕ) (name namespace_ : StdString) (dds : NodeOutcome) :
    p.createNode c name namespace_ dds =
      if dds.objectAllocated && (p.contexts c).impl.isNone then none
      else some (if dds.objectAllocated && (constructNode name namespace_ dds).isOk then
          some ⟨c, .parameter p.nextParameter, name, namespace_⟩
        else none, p.afterArgument) := by
  simp [createNode, passByValue, endLifetime, afterArgument]

theorem creates_iff (p : Process) (c : ℕ) (name namespace_ : Option StdString)
    (dds : NodeOutcome) :
    p.Creates (.rmwCreateNode (some c) name namespace_ dds) ↔
      (p.contexts c).implementationIdentifier = .opendds ∧ (p.contexts c).impl.isSome ∧
        ∃ names, validateNameNamespace name namespace_ = .ok names ∧
          dds.granted names.1 names.2 := by
  simp only [Prod.exists, validateNameNamespace_eq_ok]
  cases name with
  | none => simp [Creates]
  | some name =>
    cases namespace_ with
    | none => simp [Creates]
    | some namespace_ => simp [Creates, and_assoc]

theorem rmwCreateNode_of_creates {p : Process} {c : ℕ} {name namespace_ : StdString}
    {dds : NodeOutcome}
    (creates : p.Creates (.rmwCreateNode (some c) (some name) (some namespace_) dds)) :
    p.rmwCreateNode (some c) (some name) (some namespace_) dds =
      some ⟨some p.nextNode, [],
        p.afterArgument.addNode ⟨c, .parameter p.nextParameter, name, namespace_⟩⟩ := by
  obtain ⟨own, initialised, named, placed, granted⟩ := creates
  have valid : validateNameNamespace (some name) (some namespace_) = .ok (name, namespace_) :=
    validateNameNamespace_eq_ok.mpr ⟨rfl, rfl, named, placed⟩
  rw [← constructNode_isOk named placed, Bool.and_eq_true] at granted
  obtain ⟨allocated, constructed⟩ := granted
  simp only [rmwCreateNode, own, checkImplId, valid, allocated, createNode_eq, constructed,
    Option.isNone_eq_false_iff.mpr initialised, Bool.and_false]
  rfl

theorem rmwCreateNode_of_not_creates {p : Process} {context : Option ℕ}
    {name namespace_ : Option StdString} {dds : NodeOutcome} {created : Created}
    (refused : ¬ p.Creates (.rmwCreateNode context name namespace_ dds))
    (taken : p.rmwCreateNode context name namespace_ dds = some created) :
    created.node = none ∧ (created.process = p ∨ created.process = p.afterArgument) := by
  cases context with
  | none => cases taken
  | some c =>
    rw [creates_iff] at refused
    cases checked : checkImplId (p.contexts c).implementationIdentifier with
    | error text =>
      simp only [rmwCreateNode, checked, Option.some.injEq] at taken
      exact taken ▸ ⟨rfl, .inl rfl⟩
    | ok u =>
      cases valid : validateNameNamespace name namespace_ with
      | error text =>
        simp only [rmwCreateNode, checked, valid, Option.some.injEq] at taken
        exact taken ▸ ⟨rfl, .inl rfl⟩
      | ok names =>
        cases allocated : dds.nodeAllocated with
        | false =>
          simp only [rmwCreateNode, checked, valid, allocated] at taken
          exact Option.some.inj taken ▸ ⟨rfl, .inl rfl⟩
        | true =>
          simp only [rmwCreateNode, checked, valid, allocated, if_true] at taken
          obtain ⟨made, called, rfl⟩ := Option.map_eq_some_iff.mp taken
          rw [createNode_eq] at called
          split at called
          · cases called
          · rename_i defined
            obtain ⟨-, -, named, placed⟩ := validateNameNamespace_eq_ok.mp valid
            have unfinished : ¬ (dds.objectAllocated &&
                (constructNode names.1 names.2 dds).isOk) = true := by
              intro finished
              refine refused ⟨checkImplId_eq_ok.mp checked, ?_, names, valid, ?_⟩
              · have object := (Bool.and_eq_true_iff.mp finished).1
                simpa [object, Option.isSome_iff_ne_none] using defined
              · rw [← constructNode_isOk named placed, allocated, finished]
                rfl
            rw [if_neg unfinished] at called
            cases called
            exact ⟨rfl, .inr rfl⟩

theorem rmwCreateNode_eq_none_iff (p : Process) (context : Option ℕ)
    (name namespace_ : Option StdString) (dds : NodeOutcome) :
    p.rmwCreateNode context name namespace_ dds = none ↔
      ∀ c ∈ context, (p.contexts c).implementationIdentifier = .opendds ∧
        (p.contexts c).impl = none ∧ (validateNameNamespace name namespace_).toBool ∧
        dds.nodeAllocated ∧ dds.objectAllocated := by
  cases context with
  | none => simp [rmwCreateNode]
  | some c =>
    simp only [rmwCreateNode, createNode_eq, Option.mem_some_iff, forall_eq']
    cases checked : checkImplId (p.contexts c).implementationIdentifier with
    | error text =>
      have foreign : (p.contexts c).implementationIdentifier ≠ .opendds := by
        intro own
        rw [own] at checked
        cases checked
      simp [foreign]
    | ok u =>
      rw [and_iff_right (checkImplId_eq_ok.mp checked)]
      cases validateNameNamespace name namespace_ with
      | error text => simp [Except.toBool]
      | ok names => cases dds.nodeAllocated <;> cases dds.objectAllocated <;> simp [Except.toBool]

theorem exists_of_creates {p : Process} {context : Option ℕ} {name namespace_ : Option StdString}
    {dds : NodeOutcome} {created : Created}
    (creates : p.Creates (.rmwCreateNode context name namespace_ dds))
    (taken : p.rmwCreateNode context name namespace_ dds = some created) :
    ∃ n : NodeObject, n.contextRef = .parameter p.nextParameter ∧
      (p.contexts n.context).implementationIdentifier = .opendds ∧
      (p.contexts n.context).impl.isSome ∧ created.process = p.afterArgument.addNode n := by
  match context, name, namespace_, creates with
  | some c, some name, some namespace_, creates =>
    rw [rmwCreateNode_of_creates creates] at taken
    cases taken
    exact ⟨⟨c, .parameter p.nextParameter, name, namespace_⟩, rfl, creates.1, creates.2.1, rfl⟩

theorem rmwInit_frame (p : Process) (options : Option RmwInitOptions) (context : Option ℕ)
    (dds : ImplOutcome) :
    (p.rmwInit options context dds).process.nodes = p.nodes ∧
      (p.rmwInit options context dds).process.parameters = p.parameters ∧
      (p.rmwInit options context dds).process.participants = p.participants := by
  fun_cases rmwInit p options context dds
  all_goals try exact ⟨rfl, rfl, rfl⟩
  unfold init
  split
  · split <;> exact ⟨rfl, rfl, rfl⟩
  · exact ⟨rfl, rfl, rfl⟩

theorem rmwInit_cases (p : Process) (options : Option RmwInitOptions) (context : Option ℕ)
    (dds : ImplOutcome) :
    (p.rmwInit options context dds).process = p ∨
      ∃ c value, (p.contexts c).implementationIdentifier = .null ∧
        (p.rmwInit options context dds).process.contexts =
          Function.update p.contexts c value ∧
        (p.rmwInit options context dds).process.serviceUp =
          (p.serviceUp || value.impl.isSome) := by
  fun_cases rmwInit p options context dds
  · exact .inl rfl
  · exact .inl rfl
  · exact .inl rfl
  · exact .inl rfl
  · rename_i options c _ zero
    right
    unfold init
    split
    · split
      · refine ⟨c, ⟨options.instanceId, .opendds, options, some p.nextImpl⟩, not_not.mp zero,
          ?_, ?_⟩
        · simp [setContext]
        · simp
      · exact ⟨c, .zero, not_not.mp zero, by simp [setContext], (Bool.or_false _).symm⟩
    · exact ⟨c, .zero, not_not.mp zero, by simp [setContext], (Bool.or_false _).symm⟩

def ShutsDown (p : Process) (c : ℕ) : ContextCall → Prop
  | .rmwShutdown context =>
    context = some c ∧ (p.contexts c).implementationIdentifier = .opendds ∧
      (p.contexts c).impl.isSome
  | _ => False

def afterDestructor (p : Process) (c : ℕ) : Process :=
  { p.setContext c { p.contexts c with impl := none } with
    serviceUp := false
    participants := fun k => (p.participants k).map fun _ => false }

theorem contexts_afterDestructor (p : Process) (c c' : ℕ) :
    (p.afterDestructor c).contexts c' =
      if c' = c then { p.contexts c with impl := none } else p.contexts c' :=
  Function.update_apply ..

theorem rmwShutdown_cases (p : Process) (context : Option ℕ) :
    (∃ c, p.ShutsDown c (.rmwShutdown context) ∧
      (p.rmwShutdown context).process = p.afterDestructor c) ∨
    ((∀ c, ¬ p.ShutsDown c (.rmwShutdown context)) ∧ (p.rmwShutdown context).process = p) := by
  fun_cases rmwShutdown p context
  · refine .inr ⟨?_, rfl⟩
    rintro c ⟨same, -⟩
    cases same
  · rename_i c other
    refine .inr ⟨?_, rfl⟩
    rintro c' ⟨same, own, -⟩
    cases same
    exact other own
  · rename_i c own
    unfold shutdown
    split
    · rename_i initialised
      exact .inl ⟨c, ⟨rfl, not_not.mp own, initialised⟩, rfl⟩
    · rename_i ended
      refine .inr ⟨?_, rfl⟩
      rintro c' ⟨same, -, initialised⟩
      cases same
      exact ended initialised

theorem rmwShutdown_frame (p : Process) (context : Option ℕ) :
    (p.rmwShutdown context).process.nodes = p.nodes ∧
      (p.rmwShutdown context).process.parameters = p.parameters := by
  obtain ⟨c, -, destroyed⟩ | ⟨-, same⟩ := p.rmwShutdown_cases context
  · rw [destroyed]
    exact ⟨rfl, rfl⟩
  · rw [same]
    exact ⟨rfl, rfl⟩

theorem rmwDestroyNode_cases {p : Process} {node : Option ℕ} {stale : RmwContext}
    {dds : CleanupOutcome} {called : Called}
    (taken : p.rmwDestroyNode node stale dds = some called) :
    called.process = p ∨ ∃ k participant, called.process = p.removeNode k participant := by
  cases node with
  | none => cases taken
  | some k =>
    obtain ⟨n, -, rfl⟩ := Option.map_eq_some_iff.mp taken
    split
    · right
      refine ⟨k, (p.cleanup k n stale dds).2.participants k, ?_⟩
      fun_cases cleanup p k n stale dds <;> simp [removeNode]
    · exact .inl rfl

end Process
end RmwOpendds
