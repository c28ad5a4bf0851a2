import RmwOpendds.Identifier
import RmwOpendds.Library.Machine
import RmwOpendds.ReturnCodes
import RmwOpendds.RmwAllocateFree

/-! The memory of clients and services: `rmw_client.cpp` and `rmw_server.cpp` with
`DDSClient` and `DDSServer`, and the requesters and repliers that the generated code
allocates for them. Both are built alike and differ in their texts, and in that
`clean_service` does nothing. -/

namespace RmwOpendds.ServiceMemory

open Library Memory

inductive Kind where
  | client | server
  deriving DecidableEq, Repr

/-- A pointer member that is read is set before that. -/
inductive Contents where
  | handle (kind : Kind) (implementationIdentifier : ImplementationIdentifier) (data : Option ℕ)
  | endpoint (kind : Kind) (generated : Option ℕ)
  | generated (kind : Kind)
  | raw
  deriving DecidableEq, Repr

structure Texts where
  createFailed : String
  readerNull : String
  writerNull : String
  allocateFailed : String
  objectFailed : String
  handleNull : String
  dataNull : String

def Kind.texts : Kind → Texts
  | .client =>
    { createFailed := "create_requester failed"
      readerNull := "reply reader_ is null"
      writerNull := "request writer_ is null"
      allocateFailed := "rmw_client_allocate failed"
      objectFailed := "DDSClient failed"
      handleNull := "rmw_client is null"
      dataNull := "dds_client is null" }
  | .server =>
    { createFailed := "create_replier failed"
      readerNull := "request reader_ is null"
      writerNull := "reply writer_ is null"
      allocateFailed := "rmw_service_allocate failed"
      objectFailed := "DDSServer failed"
      handleNull := "rmw_service is null"
      dataNull := "dds_server is null" }

/-- What a creation is given: by the allocator, by the constructor of `Service`, by the
generated code and DDS, and by `add_to`. -/
structure Creation where
  handleAllocated : Bool
  objectAllocated : Bool
  service : Except String Unit
  generatedCreated : Bool
  readerGiven : Bool
  readConditionCreated : Bool
  writerGiven : Bool
  added : Except String Unit

/-- What is missing in the constructor, in the order in which it looks. -/
def Creation.missing (o : Creation) (kind : Kind) : Option String :=
  if !o.generatedCreated then some kind.texts.createFailed
  else if !o.readerGiven then some kind.texts.readerNull
  else if !o.readConditionCreated then some "create_readcondition failed"
  else if !o.writerGiven then some kind.texts.writerNull
  else none

section Programs

variable (kind : Kind)

def loadEndpoint (a : ℕ) : Program Contents (Option ℕ) := do
  match ← load a with
  | .endpoint k generated => if k = kind then pure generated else throw .indeterminate
  | _ => throw .indeterminate

/-- `cleanup()`, which the destructor calls: `destroy_requester` or `destroy_replier`. -/
def cleanup (a : ℕ) : Program Contents PUnit := do
  match ← loadEndpoint kind a with
  | none => pure ⟨⟩
  | some g =>
    free g
    store a (.endpoint kind none)

def construct (o : Creation) (a : ℕ) : Program Contents (Except String Unit) := do
  match o.service with
  | .error text => return .error text
  | .ok () =>
    let generated ← tryAllocate o.generatedCreated (.generated kind)
    store a (.endpoint kind generated)
    match o.missing kind with
    | none => return .ok ()
    | some text =>
      cleanup kind a
      return .error text

def loadHandle (h : ℕ) : Program Contents (ImplementationIdentifier × Option ℕ) := do
  match ← load h with
  | .handle k implementationIdentifier data =>
    if k = kind then pure (implementationIdentifier, data) else throw .indeterminate
  | _ => throw .indeterminate

def cleanClient (client : ℕ) : Program Contents PUnit := do
  let (_, data) ← loadHandle .client client
  RmwAllocateFree.destroy (cleanup .client) data
  free client

/-- The body of `clean_service` is a comment. -/
def cleanService (_ : ℕ) : Program Contents PUnit := pure ⟨⟩

def clean : Kind → ℕ → Program Contents PUnit
  | .client => cleanClient
  | .server => cleanService

/-- The common body of `rmw_create_client` and `rmw_create_service`. -/
def create (node : Option (RmwHandle Unit)) (o : Creation) :
    Program Contents (Except String ℕ) := do
  match RmwHandle.fromHandle "node is null" "dds_node is null" node with
  | .error text => return .error text
  | .ok () =>
    match ← tryAllocate o.handleAllocated .raw with
    | none => return .error kind.texts.allocateFailed
    | some h =>
      store h (.handle kind .opendds none)
      match ← RmwAllocateFree.create o.objectAllocated .raw (construct kind o) with
      | .error _ =>
        clean kind h
        return .error kind.texts.objectFailed
      | .ok a =>
        store h (.handle kind .opendds (some a))
        match o.added with
        | .ok () => return .ok h
        | .error text =>
          clean kind h
          return .error text

def fromHandle : Option ℕ → Program Contents (Except String ℕ)
  | none => return .error kind.texts.handleNull
  | some h => do
    let (implementationIdentifier, data) ← loadHandle kind h
    return RmwHandle.fromHandle kind.texts.handleNull kind.texts.dataNull
      (some ⟨implementationIdentifier, data⟩)

abbrev Answer := RmwRet × Option String

/-- The common body of `rmw_destroy_client` and `rmw_destroy_service`. `remove_from` reads
the reader and the writer, and succeeds if there is a node. -/
def destroy (node : Option (RmwHandle Unit)) (handle : Option ℕ) : Program Contents Answer := do
  match ← fromHandle kind handle with
  | .error text => return (.error, some text)
  | .ok a =>
    match RmwHandle.fromHandle "node is null" "dds_node is null" node with
    | .error text => return (.error, some text)
    | .ok () =>
      let _ ← loadEndpoint kind a
      handle.elim (pure ⟨⟩) (clean kind)
      return (.ok, none)

def useGenerated (a : ℕ) : Program Contents PUnit := do
  match ← loadEndpoint kind a with
  | none => throw .dangling
  | some g =>
    match ← load g with
    | .generated k => if k = kind then pure ⟨⟩ else throw .indeterminate
    | _ => throw .indeterminate

/-- The common body of the four functions that send or take: the arguments are checked in
their order, and what the generated code returns makes the code. -/
def exchange (handle : Option ℕ) (pointers : List (Bool × String)) (answer : RmwRet) :
    Program Contents Answer := do
  match ← fromHandle kind handle with
  | .error text => return (.invalidArgument, some text)
  | .ok a =>
    match pointers.find? (!·.1) with
    | some (_, text) => return (.invalidArgument, some text)
    | none =>
      useGenerated kind a
      return (answer, none)

end Programs

def rmwCreateClient := create .client

def rmwDestroyClient := destroy .client

def rmwSendRequest (client : Option ℕ) (rosRequest sequenceId : Bool) : Program Contents Answer :=
  exchange .client client
    [(rosRequest, "ros_request is null"), (sequenceId, "sequence_id is null")] .ok

def rmwTakeResponse (client : Option ℕ) (requestHeader rosResponse taken : Bool) :
    Program Contents Answer :=
  exchange .client client [(requestHeader, "request_header is null"),
    (rosResponse, "ros_response is null"), (taken, "taken is null")] .ok

/-- `is_server_available` asks the reader and the writer of the client. -/
def rmwServiceServerIsAvailable (node : Option (RmwHandle Unit)) (client : Option ℕ)
    (isAvailable : Bool) : Program Contents Answer := do
  match RmwHandle.fromHandle "node is null" "dds_node is null" node with
  | .error text => return (.error, some text)
  | .ok () =>
    match ← fromHandle .client client with
    | .error text => return (.error, some text)
    | .ok a =>
      if !isAvailable then return (.error, some "is_available is null")
      else
        let _ ← loadEndpoint .client a
        return (.ok, none)

def rmwCreateService := create .server

def rmwDestroyService := destroy .server

def rmwTakeRequest (service : Option ℕ) (requestHeader rosRequest taken : Bool) :
    Program Contents Answer :=
  exchange .server service [(requestHeader, "request_header is null"),
    (rosRequest, "ros_request is null"), (taken, "taken is null")] .ok

def rmwSendResponse (service : Option ℕ) (requestHeader rosResponse sent : Bool) :
    Program Contents Answer :=
  exchange .server service [(requestHeader, "request_header is null"),
    (rosResponse, "ros_response is null")] (if sent then .ok else .error)

/-- The memory, the clients that a caller holds, and the services it has ever been given. -/
structure World where
  memory : Memory Contents
  clients : Multiset ℕ
  services : Multiset ℕ

inductive Call where
  | rmwCreateClient (node : Option (RmwHandle Unit)) (o : Creation)
  | rmwDestroyClient (node : Option (RmwHandle Unit)) (client : Option ℕ)
  | rmwSendRequest (client : Option ℕ) (rosRequest sequenceId : Bool)
  | rmwTakeResponse (client : Option ℕ) (requestHeader rosResponse taken : Bool)
  | rmwServiceServerIsAvailable (node : Option (RmwHandle Unit)) (client : Option ℕ)
    (isAvailable : Bool)
  | rmwCreateService (node : Option (RmwHandle Unit)) (o : Creation)
  | rmwDestroyService (node : Option (RmwHandle Unit)) (service : Option ℕ)
  | rmwTakeRequest (service : Option ℕ) (requestHeader rosRequest taken : Bool)
  | rmwSendResponse (service : Option ℕ) (requestHeader rosResponse sent : Bool)

namespace World

def keep (w : World) (program : Program Contents Answer) : Option World :=
  finish program w.memory fun _ m => { w with memory := m }

def step (w : World) : Call → Option World
  | .rmwCreateClient node o =>
    finish (ServiceMemory.rmwCreateClient node o) w.memory fun r m =>
      { w with
        memory := m
        clients := match r with
          | .ok client => client ::ₘ w.clients
          | .error _ => w.clients }
  | .rmwDestroyClient node client =>
    finish (ServiceMemory.rmwDestroyClient node client) w.memory fun r m =>
      { w with
        memory := m
        clients := if r.1 = .ok then client.elim w.clients w.clients.erase else w.clients }
  | .rmwSendRequest client rosRequest sequenceId =>
    w.keep (ServiceMemory.rmwSendRequest client rosRequest sequenceId)
  | .rmwTakeResponse client requestHeader rosResponse taken =>
    w.keep (ServiceMemory.rmwTakeResponse client requestHeader rosResponse taken)
  | .rmwServiceServerIsAvailable node client isAvailable =>
    w.keep (ServiceMemory.rmwServiceServerIsAvailable node client isAvailable)
  | .rmwCreateService node o =>
    finish (ServiceMemory.rmwCreateService node o) w.memory fun r m =>
      { w with
        memory := m
        services := match r with
          | .ok service => service ::ₘ w.services
          | .error _ => w.services }
  | .rmwDestroyService node service => w.keep (ServiceMemory.rmwDestroyService node service)
  | .rmwTakeRequest service requestHeader rosRequest taken =>
    w.keep (ServiceMemory.rmwTakeRequest service requestHeader rosRequest taken)
  | .rmwSendResponse service requestHeader rosResponse sent =>
    w.keep (ServiceMemory.rmwSendResponse service requestHeader rosResponse sent)

end World

def machine : Machine World Call := ⟨⟨.empty, 0, 0⟩, World.step⟩

end RmwOpendds.ServiceMemory
