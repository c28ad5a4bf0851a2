import RmwOpendds.Identifier
import RmwOpendds.ServiceEndpoints

/-! The calls that create and destroy the endpoints of one node:
`rmw_publisher.cpp`, `rmw_subscription.cpp`, `rmw_client.cpp` and
`rmw_service.cpp`. They begin after `OpenDDSNode::from`. An exception here is the
null or error that a call returns, with the text it has set. -/

namespace RmwOpendds

open Library

/-- What does not change: the constants of the type supports and `get_repoid`. -/
structure Environment (GUID : Type) where
  known : TypesupportIdentifiers
  getRepoid : InstanceHandle → GUID

structure Node (GUID : Type) [LinearOrder GUID] where
  graph : OpenDDSNode GUID
  participant : Participant

namespace Node

variable {GUID : Type} [LinearOrder GUID] {α : Type}

def create : Node GUID := ⟨.create, .create⟩

abbrev Call (GUID : Type) [LinearOrder GUID] (α : Type) := EStateM String (Node GUID) α

def setParticipant (n : Node GUID) (p : Participant) : Node GUID := { n with participant := p }

def onParticipant (x : EStateM String Participant α) : Call GUID α :=
  onPart Node.participant setParticipant x

variable (env : Environment GUID)

/-- Built-in topic keys play no part in the calls. -/
def identities : Identities InstanceHandle GUID GUID := ⟨env.getRepoid, id⟩

def addPub (pub : InstanceHandle) (topicName typeName : StdString) : Call GUID PUnit :=
  modify fun n => { n with
    graph := (n.graph.addPub (identities env) Participant.handle pub topicName typeName).node }

def addSub (sub : InstanceHandle) (topicName typeName : StdString) : Call GUID PUnit :=
  modify fun n => { n with
    graph := (n.graph.addSub (identities env) Participant.handle sub topicName typeName).node }

def removePub (pub : InstanceHandle) : Call GUID PUnit :=
  modify fun n => { n with graph := (n.graph.removePub (identities env) pub).node }

def removeSub (sub : InstanceHandle) : Call GUID PUnit :=
  modify fun n => { n with graph := (n.graph.removeSub (identities env) sub).node }

/-- The common body of `create_initial_publisher` and `create_initial_subscription`,
also the allocation in `rmw_create_client` and `rmw_create_service`. -/
def createInitial (allocated : Bool) (failure : String) : Except String Unit :=
  if allocated then .ok () else .error failure

/-- The common body of `rmw_create_publisher` and `rmw_create_subscription`. When it
throws, the handle has no data yet, and only the handle is freed. -/
def createEndpoint (handleAllocated objectAllocated : Bool) (noHandle noObject : String)
    (construct : EStateM String Participant α) (add : α → Call GUID PUnit) :
    Call GUID (RmwHandle α) := do
  let _ ← fromExcept (Node GUID) (createInitial handleAllocated noHandle)
  match ← onParticipant (rafCreate objectAllocated construct) with
  | none => throw noObject
  | some object =>
    add object
    return ⟨.opendds, some object⟩

def rmwCreatePublisher (args : EndpointArguments) (dds : EndpointOutcome DataWriterQos) :
    Call GUID (RmwHandle DDSPublisher) :=
  createEndpoint dds.handleAllocated dds.objectAllocated "failed to allocate publisher"
    "DDSPublisher failed" (DDSPublisher.construct env.known args dds)
    fun pub => addPub env pub.instanceHandle pub.topicName pub.topicType

def rmwCreateSubscription (args : EndpointArguments) (dds : SubscriptionOutcome) :
    Call GUID (RmwHandle DDSSubscriber) :=
  createEndpoint dds.handleAllocated dds.objectAllocated "failed to allocate subscription"
    "DDSSubscriber failed" (DDSSubscriber.construct env.known args dds)
    fun sub => addSub env sub.instanceHandle sub.topicName sub.topicType

/-- `clean_publisher` runs the destructor of the object. -/
def rmwDestroyPublisher (publisher : Option (RmwHandle DDSPublisher)) : Call GUID RmwRet := do
  let pub ← fromExcept (Node GUID)
    (RmwHandle.fromHandle "rmw_publisher is null" "dds_pub is null" publisher)
  removePub env pub.instanceHandle
  onParticipant (DDSPublisher.cleanup pub.listener)
  return .ok

def rmwDestroySubscription (subscription : Option (RmwHandle DDSSubscriber)) :
    Call GUID RmwRet := do
  let sub ← fromExcept (Node GUID)
    (RmwHandle.fromHandle "rmw_subscription is null" "dds_sub is null" subscription)
  removeSub env sub.instanceHandle
  onParticipant (DDSSubscriber.cleanup sub.listener)
  return .ok

def addDescribed (add : StdString → StdString → Call GUID PUnit) (noTopic noNames : String) :
    Option TopicDescription → Call GUID PUnit
  | none => throw noTopic
  | some ⟨some name, some typeName⟩ => add name typeName
  | some _ => throw noNames

def addTo (e : ServiceEndpoint) : Call GUID PUnit := do
  addDescribed (addSub env e.reader.handle) "get_topicdescription failed"
    "topicdescription name or type_name is null" e.readerTopic
  addDescribed (addPub env e.writer.handle) "writer->get_topic failed"
    "writer topic name or type_name is null" e.writerTopic

/-- `DDSClient::remove_from` and `DDSServer::remove_from`, where `remove_pub`
always returns true. -/
def removeFrom (e : ServiceEndpoint) : Call GUID PUnit := do
  removePub env e.writer.handle
  removeSub env e.reader.handle

/-- The common body of `rmw_create_client` and `rmw_create_service`; `clean` is
`clean_client` or `clean_service`. -/
def createService (noHandle noObject : String) (dds : ServiceOutcome)
    (construct : EStateM String Participant ServiceEndpoint)
    (clean : EStateM String Participant PUnit) : Call GUID (RmwHandle ServiceEndpoint) := do
  let _ ← fromExcept (Node GUID) (createInitial dds.handleAllocated noHandle)
  match ← onParticipant (rafCreate dds.objectAllocated construct) with
  | none => throw noObject
  | some object =>
    tryCatch (addTo env object) fun e => do
      onParticipant clean
      throw e
    return ⟨.opendds, some object⟩

def rmwCreateClient (args : ServiceArguments) (dds : ServiceOutcome) (deleted : List Entity) :
    Call GUID (RmwHandle DDSClient) :=
  createService env "rmw_client_allocate failed" "DDSClient failed" dds
    (DDSClient.construct env.known args dds deleted) (ServiceEndpoint.cleanup deleted)

/-- `clean_service` is commented out in the source and does nothing. -/
def rmwCreateService (args : ServiceArguments) (dds : ServiceOutcome) (deleted : List Entity) :
    Call GUID (RmwHandle DDSServer) :=
  createService env "rmw_service_allocate failed" "DDSServer failed" dds
    (DDSServer.construct env.known args dds deleted) (pure ⟨⟩)

def rmwDestroyClient (client : Option (RmwHandle DDSClient)) (deleted : List Entity) :
    Call GUID RmwRet := do
  let c ← fromExcept (Node GUID)
    (RmwHandle.fromHandle "rmw_client is null" "dds_client is null" client)
  removeFrom env c
  onParticipant (ServiceEndpoint.cleanup deleted)
  return .ok

def rmwDestroyService (service : Option (RmwHandle DDSServer)) : Call GUID RmwRet := do
  let s ← fromExcept (Node GUID)
    (RmwHandle.fromHandle "rmw_service is null" "dds_server is null" service)
  removeFrom env s
  return .ok

end Node
end RmwOpendds
