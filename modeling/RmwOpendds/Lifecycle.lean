import RmwOpendds.Contexts

/-! The life of init options and contexts: `rmw_init.cpp` with `init.cpp`, over objects
that a caller holds, configures and hands in again. `Process` has `rmw_init`,
`rmw_shutdown` and the calls on nodes. What rmw's default domain is does not matter. -/

namespace RmwOpendds.Lifecycle

open Library

inductive LocalhostOnly where
  | default | enabled | disabled
  deriving DecidableEq, Repr

/-- `rmw_init_options_t`; `options` are the fields that are read in a context. -/
structure InitOptions where
  options : RmwInitOptions
  enforceSecurity : Bool
  securityRootPath : Option StdString
  localhostOnly : LocalhostOnly
  allocatorValid : Bool
  hasImpl : Bool
  deriving DecidableEq, Repr

def InitOptions.zero (defaultDomainId : ℕ) : InitOptions :=
  ⟨⟨0, .null, defaultDomainId, none⟩, false, none, .default, false, false⟩

section Calls

variable (defaultDomainId : ℕ)

def isZeroInitialized (o : InitOptions) : Bool :=
  o.options.instanceId = 0 && o.options.implementationIdentifier = .null &&
    o.options.domainId = defaultDomainId && !o.enforceSecurity && o.securityRootPath.isNone &&
    o.localhostOnly = .default && o.options.enclave.isNone && !o.hasImpl

theorem isZeroInitialized_zero : isZeroInitialized defaultDomainId (.zero defaultDomainId) := by
  simp [isZeroInitialized, InitOptions.zero]

structure Returned (α : Type) where
  ret : RmwRet
  error : Option String
  object : α

/-- The fields that are not set keep their values. -/
def rmwInitOptionsInit (o : InitOptions) (allocatorValid : Bool) : Returned InitOptions :=
  if !isZeroInitialized defaultDomainId o then
    ⟨.invalidArgument, some "expected zero-initialized init_options", o⟩
  else if !allocatorValid then ⟨.invalidArgument, some "invalid allocator", o⟩
  else
    ⟨.ok, none, { o with
      options := { o.options with
        instanceId := 0
        implementationIdentifier := .opendds
        domainId := 0 }
      enforceSecurity := false
      securityRootPath := none
      allocatorValid := allocatorValid
      hasImpl := false }⟩

/-- `src` is not null, `dst` may be; the text of a mismatch is made by rmw. -/
def rmwInitOptionsCopy (src : InitOptions) (dst : Option InitOptions) :
    Returned (Option InitOptions) :=
  if src.options.implementationIdentifier ≠ .opendds then
    ⟨.incorrectRmwImplementation, none, dst⟩
  else
    match dst with
    | none => ⟨.invalidArgument, some "expected zero-initialized dst", none⟩
    | some o =>
      if !isZeroInitialized defaultDomainId o then
        ⟨.invalidArgument, some "expected zero-initialized dst", some o⟩
      else ⟨.ok, none, some src⟩

def rmwInitOptionsFini (o : InitOptions) : Returned InitOptions :=
  if !o.allocatorValid then ⟨.invalidArgument, some "invalid allocator", o⟩
  else if o.options.implementationIdentifier ≠ .opendds then
    ⟨.incorrectRmwImplementation, none, o⟩
  else ⟨.ok, none, .zero defaultDomainId⟩

def rmwContextFini (c : RmwContext) : Returned RmwContext :=
  if c.implementationIdentifier = .null then
    ⟨.invalidArgument, some "context->implementation_identifier argument is null", c⟩
  else if c.implementationIdentifier ≠ .opendds then ⟨.incorrectRmwImplementation, none, c⟩
  else if c.impl.isSome then
    ⟨.invalidArgument, some "non-null context->impl: rmw_shutdown() not called", c⟩
  else ⟨.ok, none, .zero⟩

end Calls

structure Settings where
  instanceId : ℕ
  domainId : ℕ
  enclave : Option StdString
  enforceSecurity : Bool
  securityRootPath : Option StdString
  localhostOnly : LocalhostOnly
  deriving DecidableEq, Repr

def InitOptions.configure (o : InitOptions) (s : Settings) : InitOptions :=
  { o with
    options := ⟨s.instanceId, o.options.implementationIdentifier, s.domainId, s.enclave⟩
    enforceSecurity := s.enforceSecurity
    securityRootPath := s.securityRootPath
    localhostOnly := s.localhostOnly }

inductive Call where
  | rmwInitOptionsInit (initOptions : Option ℕ) (allocatorValid : Bool)
  | rmwInitOptionsCopy (src dst : Option ℕ)
  | rmwInitOptionsFini (initOptions : Option ℕ)
  | configure (initOptions : ℕ) (settings : Settings)
  | rmwInit (options context : Option ℕ) (dds : Process.ImplOutcome)
  | rmwShutdown (context : Option ℕ)
  | rmwContextFini (context : Option ℕ)
  | rmwCreateNode (context : Option ℕ) (name namespace_ : Option StdString) (dds : NodeOutcome)
  | rmwDestroyNode (node : Option ℕ) (stale : RmwContext) (dds : Process.CleanupOutcome)
  deriving DecidableEq, Repr

structure System where
  process : Process
  options : ℕ → InitOptions
  codes : List RmwRet

namespace System

def answer (s : System) (ret : RmwRet) : System := { s with codes := s.codes ++ [ret] }

def setOptions (s : System) (k : ℕ) (o : InitOptions) : System :=
  { s with options := Function.update s.options k o }

def setProcess (s : System) (p : Process) : System := { s with process := p }

/-- A creation answers with a node or with null; a caller configures the options that it
has initialised. -/
def step (defaultDomainId : ℕ) (s : System) : Call → Option System
  | .rmwInitOptionsInit none _ => some (s.answer .invalidArgument)
  | .rmwInitOptionsInit (some k) valid =>
    let r := rmwInitOptionsInit defaultDomainId (s.options k) valid
    some ((s.setOptions k r.object).answer r.ret)
  | .rmwInitOptionsCopy none _ => some (s.answer .invalidArgument)
  | .rmwInitOptionsCopy (some src) none =>
    some (s.answer (rmwInitOptionsCopy defaultDomainId (s.options src) none).ret)
  | .rmwInitOptionsCopy (some src) (some dst) =>
    let r := rmwInitOptionsCopy defaultDomainId (s.options src) (some (s.options dst))
    some ((s.setOptions dst (r.object.getD (s.options dst))).answer r.ret)
  | .rmwInitOptionsFini none => some (s.answer .invalidArgument)
  | .rmwInitOptionsFini (some k) =>
    let r := rmwInitOptionsFini defaultDomainId (s.options k)
    some ((s.setOptions k r.object).answer r.ret)
  | .configure k settings =>
    if (s.options k).options.implementationIdentifier = .opendds then
      some (s.setOptions k ((s.options k).configure settings))
    else none
  | .rmwInit options context dds =>
    let r := s.process.rmwInit (options.map fun k => (s.options k).options) context dds
    some ((s.setProcess r.process).answer r.ret)
  | .rmwShutdown context =>
    let r := s.process.rmwShutdown context
    some ((s.setProcess r.process).answer r.ret)
  | .rmwContextFini none => some (s.answer .invalidArgument)
  | .rmwContextFini (some c) =>
    let r := rmwContextFini (s.process.contexts c)
    some ((s.setProcess (s.process.setContext c r.object)).answer r.ret)
  | .rmwCreateNode context name namespace_ dds =>
    (s.process.rmwCreateNode context name namespace_ dds).map fun r =>
      (s.setProcess r.process).answer (if r.node.isSome then .ok else .error)
  | .rmwDestroyNode node stale dds =>
    (s.process.rmwDestroyNode node stale dds).map fun r => (s.setProcess r.process).answer r.ret

end System

def machine (defaultDomainId : ℕ) : Machine System Call :=
  ⟨⟨.start, fun _ => .zero defaultDomainId, []⟩, System.step defaultDomainId⟩

/-! What the component is for: a context is zero, active or ended, options are zero or
ready, and a node belongs to a context. -/

inductive Phase where
  | zero | active | ended
  deriving DecidableEq, Repr

structure Spec where
  contexts : ℕ → Phase
  ready : ℕ → Bool
  nodes : ℕ → Option ℕ
  nextNode : ℕ
  codes : List RmwRet

namespace Spec

def answer (s : Spec) (ret : RmwRet) : Spec := { s with codes := s.codes ++ [ret] }

def enter (s : Spec) (c : ℕ) (phase : Phase) : Spec :=
  { s with contexts := Function.update s.contexts c phase }

def setReady (s : Spec) (k : ℕ) (ready : Bool) : Spec :=
  { s with ready := Function.update s.ready k ready }

def addNode (s : Spec) (c : ℕ) : Spec :=
  { s with
    nodes := Function.update s.nodes s.nextNode (some c)
    nextNode := s.nextNode + 1 }

/-- A call that is not enabled is undefined: one that is given null where there is no check
that returns, or a node for a context that has ended. -/
def step (s : Spec) : Call → Option Spec
  | .rmwInitOptionsInit none _ => some (s.answer .invalidArgument)
  | .rmwInitOptionsInit (some k) valid =>
    some (if s.ready k || !valid then s.answer .invalidArgument
      else (s.setReady k true).answer .ok)
  | .rmwInitOptionsCopy none _ => some (s.answer .invalidArgument)
  | .rmwInitOptionsCopy (some src) dst =>
    if s.ready src then
      match dst with
      | none => some (s.answer .invalidArgument)
      | some dst =>
        some (if s.ready dst then s.answer .invalidArgument
          else (s.setReady dst true).answer .ok)
    else some (s.answer .incorrectRmwImplementation)
  | .rmwInitOptionsFini none => some (s.answer .invalidArgument)
  | .rmwInitOptionsFini (some k) =>
    some (if s.ready k then (s.setReady k false).answer .ok else s.answer .invalidArgument)
  | .configure k _ => if s.ready k then some s else none
  | .rmwInit (some k) (some c) dds =>
    some (
      if !s.ready k then s.answer .incorrectRmwImplementation
      else
        match s.contexts c with
        | .zero =>
          if dds.allocated && dds.factoryGiven then (s.enter c .active).answer .ok
          else s.answer .error
        | _ => s.answer .invalidArgument)
  | .rmwInit _ _ _ => some (s.answer .invalidArgument)
  | .rmwShutdown none => some (s.answer .invalidArgument)
  | .rmwShutdown (some c) =>
    some (match s.contexts c with
      | .zero => s.answer .incorrectRmwImplementation
      | _ => (s.enter c .ended).answer .ok)
  | .rmwContextFini none => some (s.answer .invalidArgument)
  | .rmwContextFini (some c) =>
    some (match s.contexts c with
      | .ended => (s.enter c .zero).answer .ok
      | _ => s.answer .invalidArgument)
  | .rmwCreateNode none _ _ _ => none
  | .rmwCreateNode (some c) name namespace_ dds =>
    match s.contexts c, validateNameNamespace name namespace_ with
    | .active, .ok (name, namespace_) =>
      some (if dds.granted name namespace_ then (s.addNode c).answer .ok else s.answer .error)
    | .ended, .ok _ =>
      if dds.nodeAllocated && dds.objectAllocated then none else some (s.answer .error)
    | _, _ => some (s.answer .error)
  | .rmwDestroyNode none _ _ => none
  | .rmwDestroyNode (some k) _ _ =>
    (s.nodes k).map fun c =>
      if s.contexts c = .active then
        { s with nodes := Function.update s.nodes k none }.answer .ok
      else s.answer .error

def machine : Machine Spec Call :=
  ⟨⟨fun _ => .zero, fun _ => false, fun _ => none, 0, []⟩, Spec.step⟩

end Spec
end RmwOpendds.Lifecycle
