import RmwOpendds.Endpoints
import RmwOpendds.OpenDDSNode

/-! `Service`, `DDSClient` and `DDSServer`. The callbacks of a service are
generated code: what they give and what their `destroy_*` deletes are arguments.
Client and server are built alike, around a requester or a replier, and differ in
their texts. -/

namespace RmwOpendds

open Library

/-- The arguments of `rmw_create_client` and `rmw_create_service`; of the
callbacks only their presence is looked at. -/
structure ServiceArguments where
  typeSupports : Option (TypeSupport Unit)
  serviceName : Option StdString
  rmwQos : Option RmwQosProfile

structure TopicDescription where
  name : Option StdString
  typeName : Option StdString
  deriving DecidableEq, Repr

/-- What DDS and the allocators answer, and what the generated code gives, while a
client or a service is created. -/
structure ServiceOutcome where
  handleAllocated : Bool
  objectAllocated : Bool
  publisherCreated : Bool
  defaultWriterQos : Option DataWriterQos
  defaultWriterQosSet : Bool
  subscriberCreated : Bool
  defaultReaderQos : Option DataReaderQos
  defaultReaderQosSet : Bool
  requesterCreated : Bool
  /-- the topics of the participant once the requester or replier is there -/
  topics : Std.ExtTreeMap StdString StdString
  readerGiven : Bool
  readerTopic : Option TopicDescription
  readConditionCreated : Bool
  writerGiven : Bool
  writerTopic : Option TopicDescription

structure Service where
  name : StdString
  request : StdString
  reply : StdString
  deriving DecidableEq, Repr

namespace Service

def construct (known : TypesupportIdentifiers) (args : ServiceArguments) (dds : ServiceOutcome) :
    EStateM String Participant Service := do
  let _ ← fromExcept Participant (TypeSupport.getCallbacks known "service_type_support is null"
    "Service callbacks_ is null" args.typeSupports)
  let name := args.serviceName.getD []
  let request ← fromExcept Participant (Names.createRequestName name args.rmwQos)
  let reply ← fromExcept Participant (Names.createReplyName name args.rmwQos)
  if name.isEmpty then throw "Service name_ is empty"
  let _ ← Participant.createEntity .publisher none dds.publisherCreated "create_publisher failed"
  if !isGiven (args.rmwQos.map (Qos.getDatawriterQos true dds.defaultWriterQos)) then
    throw "get_datawriter_qos failed"
  if !dds.defaultWriterQosSet then throw "set_default_datawriter_qos failed"
  let _ ← Participant.createEntity .subscriber none dds.subscriberCreated "create_subscriber failed"
  if !isGiven (args.rmwQos.map (Qos.getDatareaderQos true dds.defaultReaderQos)) then
    throw "get_datareader_qos failed"
  if !dds.defaultReaderQosSet then throw "set_default_datareader_qos failed"
  return { name, request, reply }

end Service

/-- `DDSClient` or `DDSServer` -/
structure ServiceEndpoint where
  service : Service
  reader : Entity
  readerTopic : Option TopicDescription
  readCondition : Entity
  writer : Entity
  writerTopic : Option TopicDescription
  deriving DecidableEq, Repr

abbrev DDSClient := ServiceEndpoint

abbrev DDSServer := ServiceEndpoint

namespace ServiceEndpoint

/-- `cleanup()`: `deleted` is what `delete_readcondition` and the generated
`destroy_requester` or `destroy_replier` delete. -/
def cleanup (deleted : List Entity) : EStateM String Participant PUnit :=
  modify fun p => p.withoutEntities deleted

/-- The common body of the two constructors. -/
def construct (createFailed readerNull writerNull : String) (known : TypesupportIdentifiers)
    (args : ServiceArguments) (dds : ServiceOutcome) (deleted : List Entity) :
    EStateM String Participant ServiceEndpoint := do
  let service ← Service.construct known args dds
  -- without a requester or replier `cleanup()` does nothing
  if !dds.requesterCreated then throw createFailed
  tryCatch (do
      modify fun p => { p with topics := dds.topics }
      let reader ← Participant.createEntity .dataReader none dds.readerGiven readerNull
      let readCondition ← Participant.createEntity .readCondition none dds.readConditionCreated
        "create_readcondition failed"
      let writer ← Participant.createEntity .dataWriter none dds.writerGiven writerNull
      return { service, reader, readCondition, writer,
               readerTopic := dds.readerTopic, writerTopic := dds.writerTopic })
    fun e => do
      cleanup deleted
      throw e

end ServiceEndpoint

def DDSClient.construct : TypesupportIdentifiers → ServiceArguments → ServiceOutcome →
    List Entity → EStateM String Participant DDSClient :=
  ServiceEndpoint.construct "create_requester failed" "reply reader_ is null"
    "request writer_ is null"

def DDSServer.construct : TypesupportIdentifiers → ServiceArguments → ServiceOutcome →
    List Entity → EStateM String Participant DDSServer :=
  ServiceEndpoint.construct "create_replier failed" "request reader_ is null"
    "reply writer_ is null"

/-- A handle that the participant has given out between two of its states. -/
@[mk_iff] structure Issued (p p' : Participant) (kind : EntityKind) (handle : InstanceHandle) :
    Prop where
  kind : handle.kind = kind
  fresh : p.nextSerial ≤ handle.serial
  bound : handle.serial < p'.nextSerial

theorem Service.construct_exits (p : Participant) (known : TypesupportIdentifiers)
    (args : ServiceArguments) (dds : ServiceOutcome) :
    Exits (Service.construct known args dds) p (fun _ p' => p.nextSerial ≤ p'.nextSerial)
      (fun _ _ => True) := by
  simp only [Service.construct, exits_bind, exits_fromExcept, exits_ite, exits_throw, exits_pure,
    Participant.exits_createEntity, Participant.addEntity]
  have grown : p.nextSerial ≤ p.nextSerial + 1 + 1 := by omega
  simp [grown]

theorem ServiceEndpoint.construct_exits (createFailed readerNull writerNull : String)
    (p : Participant) (known : TypesupportIdentifiers) (args : ServiceArguments)
    (dds : ServiceOutcome) (deleted : List Entity) :
    Exits (ServiceEndpoint.construct createFailed readerNull writerNull known args dds deleted) p
      (fun e p' => Issued p p' .dataReader e.reader.handle ∧
        Issued p p' .dataWriter e.writer.handle)
      (fun _ _ => True) := by
  unfold ServiceEndpoint.construct
  simp only [exits_bind]
  refine (Service.construct_exits p known args dds).mono ?_ ?_
  · intro service p' grown
    have writer : p.nextSerial ≤ p'.nextSerial + 1 + 1 := by omega
    have reader : p'.nextSerial ≤ p'.nextSerial + 1 + 1 := by omega
    simp [ServiceEndpoint.cleanup, Participant.addEntity, issued_iff, grown, writer, reader]
  · exact fun _ _ _ => trivial

end RmwOpendds
