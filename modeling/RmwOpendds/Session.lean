import RmwOpendds.Library.Machine
import RmwOpendds.Node

/-! Sessions: a node with the handles that are alive, and the calls on it. A
handle is named by its place among the live ones of its kind. -/

namespace RmwOpendds

open Library

namespace Node

variable {GUID : Type} [LinearOrder GUID] {α : Type} {n : Node GUID}
  {returns : RmwHandle α → Node GUID → Prop} {throws : String → Node GUID → Prop}

theorem exits_createEndpoint {handleAllocated objectAllocated : Bool} {noHandle noObject : String}
    {construct : EStateM String Participant α} {add : α → Call GUID PUnit} :
    Exits (createEndpoint handleAllocated objectAllocated noHandle noObject construct add) n
      returns throws ↔
    if handleAllocated && objectAllocated then
      Exits construct n.participant
        (fun a p => Exits (add a) (n.setParticipant p)
          (fun _ n' => returns ⟨.opendds, some a⟩ n') throws)
        (fun _ p => throws noObject (n.setParticipant p))
    else throws (if handleAllocated then noObject else noHandle) n := by
  have same : n.setParticipant n.participant = n := rfl
  cases handleAllocated <;> cases objectAllocated <;>
    simp [createEndpoint, createInitial, onParticipant, exits_rafCreate, same]

section Created

variable {construct : EStateM String Participant α} {requested : Option (StdString × StdString)}
  {kinds : List EntityKind} {topic : α → DDSTopic} {listener : α → Option ℕ}
  {entities : α → List Entity} {opens completes : Bool}

theorem createEndpoint_exits (handleAllocated objectAllocated : Bool) (noHandle noObject : String)
    (enter : α → Node GUID → Node GUID)
    (law : Exits construct n.participant
      (fun a p => Constructed n.participant p requested kinds (topic a) (listener a) (entities a) ∧
        completes)
      (fun _ p => Failed n.participant p requested opens completes)) :
    Exits (createEndpoint handleAllocated objectAllocated noHandle noObject construct
        fun a => modify (enter a)) n
      (fun handle n' => ∃ a p, Constructed n.participant p requested kinds (topic a) (listener a)
        (entities a) ∧ completes ∧ (handleAllocated && objectAllocated) ∧
        handle = ⟨.opendds, some a⟩ ∧ n' = enter a (n.setParticipant p))
      (fun _ n' => ∃ p, Failed n.participant p
        (if handleAllocated && objectAllocated then requested else none)
        (handleAllocated && objectAllocated && opens) completes ∧ n' = n.setParticipant p) := by
  rw [exits_createEndpoint]
  split
  · rename_i reached
    refine law.mono ?_ ?_
    · rintro a p ⟨constructed, complete⟩
      exact ⟨a, p, constructed, complete, reached, rfl, rfl⟩
    · rintro e p failed
      refine ⟨p, ?_, rfl⟩
      simpa [reached] using failed
  · rename_i unreached
    refine ⟨n.participant, ⟨[], ⟨rfl, rfl, rfl, by simp, le_rfl⟩, ?_, by simp⟩, rfl⟩
    simp [unreached]

end Created
end Node

@[ext] structure Session (GUID : Type) [LinearOrder GUID] where
  node : Node GUID
  publishers : List DDSPublisher
  subscriptions : List DDSSubscriber
  clients : List DDSClient
  services : List DDSServer

inductive TopicCall where
  | createPublisher (args : EndpointArguments) (dds : EndpointOutcome DataWriterQos)
  | destroyPublisher (i : ℕ)
  | createSubscription (args : EndpointArguments) (dds : SubscriptionOutcome)
  | destroySubscription (i : ℕ)

inductive ServiceCall where
  | createClient (args : ServiceArguments) (dds : ServiceOutcome) (deleted : List Entity)
  | destroyClient (i : ℕ) (deleted : List Entity)
  | createService (args : ServiceArguments) (dds : ServiceOutcome) (deleted : List Entity)
  | destroyService (i : ℕ)

inductive SessionCall where
  | topic (call : TopicCall)
  | service (call : ServiceCall)

namespace Session

variable {GUID : Type} [LinearOrder GUID] {α : Type}

def create : Session GUID := ⟨.create, [], [], [], []⟩

structure Performed (GUID : Type) [LinearOrder GUID] where
  success : Bool
  session : Session GUID

/-- A call that fails gives no handle and takes none, but may have changed the node. -/
def perform (s : Session GUID) (call : Node.Call GUID α) (done : α → Session GUID) :
    Performed GUID :=
  match call.run s.node with
  | .ok a n => ⟨true, { done a with node := n }⟩
  | .error _ n => ⟨false, { s with node := n }⟩

variable (env : Environment GUID)

def topicCall (s : Session GUID) : TopicCall → Option (Performed GUID)
  | .createPublisher args dds =>
    some (s.perform (Node.rmwCreatePublisher env args dds)
      fun handle => { s with publishers := handle.data.toList ++ s.publishers })
  | .destroyPublisher i => do
    let pub ← s.publishers[i]?
    return s.perform (Node.rmwDestroyPublisher env (some ⟨.opendds, some pub⟩))
      fun _ => { s with publishers := s.publishers.eraseIdx i }
  | .createSubscription args dds =>
    some (s.perform (Node.rmwCreateSubscription env args dds)
      fun handle => { s with subscriptions := handle.data.toList ++ s.subscriptions })
  | .destroySubscription i => do
    let sub ← s.subscriptions[i]?
    return s.perform (Node.rmwDestroySubscription env (some ⟨.opendds, some sub⟩))
      fun _ => { s with subscriptions := s.subscriptions.eraseIdx i }

def serviceCall (s : Session GUID) : ServiceCall → Option (Performed GUID)
  | .createClient args dds deleted =>
    some (s.perform (Node.rmwCreateClient env args dds deleted)
      fun handle => { s with clients := handle.data.toList ++ s.clients })
  | .destroyClient i deleted => do
    let client ← s.clients[i]?
    return s.perform (Node.rmwDestroyClient env (some ⟨.opendds, some client⟩) deleted)
      fun _ => { s with clients := s.clients.eraseIdx i }
  | .createService args dds deleted =>
    some (s.perform (Node.rmwCreateService env args dds deleted)
      fun handle => { s with services := handle.data.toList ++ s.services })
  | .destroyService i => do
    let service ← s.services[i]?
    return s.perform (Node.rmwDestroyService env (some ⟨.opendds, some service⟩))
      fun _ => { s with services := s.services.eraseIdx i }

def sessionCall (s : Session GUID) : SessionCall → Option (Performed GUID)
  | .topic call => s.topicCall env call
  | .service call => s.serviceCall env call

/-- The runs of calls on publishers and subscriptions, successful or not. -/
def topicCalls : Machine (Session GUID) TopicCall where
  start := create
  step s call := (s.topicCall env call).map Performed.session

/-- The runs of successful calls of all eight kinds. -/
def successfulCalls : Machine (Session GUID) SessionCall where
  start := create
  step s call := (s.sessionCall env call).bind fun performed =>
    if performed.success then some performed.session else none

theorem success_of_step {s s' : Session GUID} {call : SessionCall} {performed : Performed GUID}
    (step : (successfulCalls env).step s call = some s')
    (called : s.sessionCall env call = some performed) :
    performed.success = true ∧ performed.session = s' := by
  simp only [successfulCalls, called, Option.bind_some] at step
  split at step
  · rename_i success
    exact ⟨success, Option.some.inj step⟩
  · simp at step

theorem perform_cases {s : Session GUID} {call : Node.Call GUID α}
    {returns : α → Node GUID → Prop} {throws : String → Node GUID → Prop}
    (exits : Exits call s.node returns throws) (done : α → Session GUID) :
    (∃ a n, returns a n ∧ s.perform call done = ⟨true, { done a with node := n }⟩) ∨
      ∃ e n, throws e n ∧ s.perform call done = ⟨false, { s with node := n }⟩ := by
  unfold perform
  cases run : call.run s.node with
  | ok a n => exact .inl ⟨a, n, exits.of_ok run, rfl⟩
  | error e n => exact .inr ⟨e, n, exits.of_error run, rfl⟩

end Session

namespace TopicCall

def requests (known : TypesupportIdentifiers) : TopicCall → Option (StdString × StdString)
  | .createPublisher args dds =>
    if dds.handleAllocated && dds.objectAllocated then DDSTopic.requested known args dds.topic
    else none
  | .createSubscription args dds =>
    if dds.handleAllocated && dds.objectAllocated then DDSTopic.requested known args dds.topic
    else none
  | .destroyPublisher _ | .destroySubscription _ => none

def opens (known : TypesupportIdentifiers) : TopicCall → Bool
  | .createPublisher args dds => dds.handleAllocated && dds.objectAllocated &&
      RmwOpendds.opens known args dds.topic dds.listenerAllocated dds.factoryCreated
  | .createSubscription args dds => dds.handleAllocated && dds.objectAllocated &&
      RmwOpendds.opens known args dds.topic dds.listenerAllocated dds.factoryCreated
  | .destroyPublisher _ | .destroySubscription _ => false

def completes : TopicCall → Bool
  | .createPublisher args dds => DDSPublisher.completes args.rmwQos dds
  | .createSubscription args dds => DDSSubscriber.completes args.rmwQos dds
  | .destroyPublisher _ | .destroySubscription _ => false

end TopicCall

namespace Session

variable {GUID : Type} [LinearOrder GUID] (env : Environment GUID) (s : Session GUID)

theorem createPublisher_cases (args : EndpointArguments) (dds : EndpointOutcome DataWriterQos) :
    let call := TopicCall.createPublisher args dds
    (∃ pub p, Constructed s.node.participant p (call.requests env.known) [.dataWriter, .publisher]
        pub.topic pub.listener pub.entities ∧ call.completes ∧
      s.topicCall env call = some ⟨true, { s with
        node := ⟨(s.node.graph.addPub (Node.identities env) Participant.handle pub.instanceHandle
          pub.topicName pub.topicType).node, p⟩
        publishers := pub :: s.publishers }⟩) ∨
    (∃ p, Failed s.node.participant p (call.requests env.known) (call.opens env.known)
        call.completes ∧
      s.topicCall env call = some ⟨false, { s with node := s.node.setParticipant p }⟩) := by
  have exits := Node.createEndpoint_exits dds.handleAllocated dds.objectAllocated
    "failed to allocate publisher" "DDSPublisher failed"
    (fun pub n => { n with graph := (n.graph.addPub (Node.identities env) Participant.handle
      pub.instanceHandle pub.topicName pub.topicType).node })
    (DDSPublisher.construct_exits s.node.participant env.known args dds)
  obtain ⟨handle, n, ⟨pub, p, constructed, complete, reached, rfl, rfl⟩, performed⟩ |
    ⟨e, n, ⟨p, failed, rfl⟩, performed⟩ := perform_cases exits
      fun handle => { s with publishers := handle.data.toList ++ s.publishers }
  · refine .inl ⟨pub, p, ?_, complete, congrArg some performed⟩
    simpa [TopicCall.requests, reached] using constructed
  · exact .inr ⟨p, failed, congrArg some performed⟩

theorem createSubscription_cases (args : EndpointArguments) (dds : SubscriptionOutcome) :
    let call := TopicCall.createSubscription args dds
    (∃ sub p, Constructed s.node.participant p (call.requests env.known)
        [.readCondition, .dataReader, .subscriber] sub.topic sub.listener sub.entities ∧
        call.completes ∧
      s.topicCall env call = some ⟨true, { s with
        node := ⟨(s.node.graph.addSub (Node.identities env) Participant.handle sub.instanceHandle
          sub.topicName sub.topicType).node, p⟩
        subscriptions := sub :: s.subscriptions }⟩) ∨
    (∃ p, Failed s.node.participant p (call.requests env.known) (call.opens env.known)
        call.completes ∧
      s.topicCall env call = some ⟨false, { s with node := s.node.setParticipant p }⟩) := by
  have exits := Node.createEndpoint_exits dds.handleAllocated dds.objectAllocated
    "failed to allocate subscription" "DDSSubscriber failed"
    (fun sub n => { n with graph := (n.graph.addSub (Node.identities env) Participant.handle
      sub.instanceHandle sub.topicName sub.topicType).node })
    (DDSSubscriber.construct_exits s.node.participant env.known args dds)
  obtain ⟨handle, n, ⟨sub, p, constructed, complete, reached, rfl, rfl⟩, performed⟩ |
    ⟨e, n, ⟨p, failed, rfl⟩, performed⟩ := perform_cases exits
      fun handle => { s with subscriptions := handle.data.toList ++ s.subscriptions }
  · refine .inl ⟨sub, p, ?_, complete, congrArg some performed⟩
    simpa [TopicCall.requests, reached] using constructed
  · exact .inr ⟨p, failed, congrArg some performed⟩

theorem topicCall_destroyPublisher {i : ℕ} {pub : DDSPublisher}
    (known : s.publishers[i]? = some pub) :
    s.topicCall env (.destroyPublisher i) = some ⟨true, { s with
      node := ⟨(s.node.graph.removePub (Node.identities env) pub.instanceHandle).node,
        s.node.participant.withoutListener pub.listener⟩
      publishers := s.publishers.eraseIdx i }⟩ := by
  simp only [topicCall, known, Option.bind_eq_bind, Option.bind_some, Option.pure_def]
  rfl

theorem topicCall_destroySubscription {i : ℕ} {sub : DDSSubscriber}
    (known : s.subscriptions[i]? = some sub) :
    s.topicCall env (.destroySubscription i) = some ⟨true, { s with
      node := ⟨(s.node.graph.removeSub (Node.identities env) sub.instanceHandle).node,
        s.node.participant.withoutListener sub.listener⟩
      subscriptions := s.subscriptions.eraseIdx i }⟩ := by
  simp only [topicCall, known, Option.bind_eq_bind, Option.bind_some, Option.pure_def]
  rfl

theorem destroyPublisher_of_step {s' : Session GUID} {i : ℕ}
    (step : (topicCalls env).step s (.destroyPublisher i) = some s') :
    ∃ pub, s.publishers[i]? = some pub ∧ s' = { s with
      node := ⟨(s.node.graph.removePub (Node.identities env) pub.instanceHandle).node,
        s.node.participant.withoutListener pub.listener⟩
      publishers := s.publishers.eraseIdx i } := by
  obtain ⟨performed, called, rfl⟩ := Option.map_eq_some_iff.mp step
  cases known : s.publishers[i]? with
  | none => simp [topicCall, known] at called
  | some pub =>
    rw [topicCall_destroyPublisher env s known, Option.some.injEq] at called
    exact ⟨pub, rfl, by rw [← called]⟩

theorem destroySubscription_of_step {s' : Session GUID} {i : ℕ}
    (step : (topicCalls env).step s (.destroySubscription i) = some s') :
    ∃ sub, s.subscriptions[i]? = some sub ∧ s' = { s with
      node := ⟨(s.node.graph.removeSub (Node.identities env) sub.instanceHandle).node,
        s.node.participant.withoutListener sub.listener⟩
      subscriptions := s.subscriptions.eraseIdx i } := by
  obtain ⟨performed, called, rfl⟩ := Option.map_eq_some_iff.mp step
  cases known : s.subscriptions[i]? with
  | none => simp [topicCall, known] at called
  | some sub =>
    rw [topicCall_destroySubscription env s known, Option.some.injEq] at called
    exact ⟨sub, rfl, by rw [← called]⟩

def withoutService (graph : OpenDDSNode GUID) (e : ServiceEndpoint) : OpenDDSNode GUID :=
  ((graph.removePub (Node.identities env) e.writer.handle).node.removeSub (Node.identities env)
    e.reader.handle).node

theorem serviceCall_destroyClient {i : ℕ} {client : DDSClient} (deleted : List Entity)
    (known : s.clients[i]? = some client) :
    s.serviceCall env (.destroyClient i deleted) = some ⟨true, { s with
      node := ⟨withoutService env s.node.graph client,
        s.node.participant.withoutEntities deleted⟩
      clients := s.clients.eraseIdx i }⟩ := by
  simp only [serviceCall, known, Option.bind_eq_bind, Option.bind_some, Option.pure_def]
  rfl

theorem serviceCall_destroyService {i : ℕ} {service : DDSServer}
    (known : s.services[i]? = some service) :
    s.serviceCall env (.destroyService i) = some ⟨true, { s with
      node := ⟨withoutService env s.node.graph service, s.node.participant⟩
      services := s.services.eraseIdx i }⟩ := by
  simp only [serviceCall, known, Option.bind_eq_bind, Option.bind_some, Option.pure_def]
  rfl

end Session

section Sample

def sampleEnvironment : Environment ℕ := ⟨⟨"", ""⟩, fun handle => handle.serial⟩

def sampleProfile : RmwQosProfile where
  history := .keepLast
  depth := 10
  reliability := .reliable
  durability := .volatile
  deadline := ⟨0, 0⟩
  lifespan := ⟨0, 0⟩
  liveliness := .automatic
  livelinessLeaseDuration := ⟨0, 0⟩
  avoidRosNamespaceConventions := false

def sampleArguments (topicName messageName : String) : EndpointArguments where
  typeSupports := some ⟨"", fun _ => some (some ⟨"pkg::msg".toList, messageName.toList⟩)⟩
  topicName := some topicName.toList
  rmwQos := some sampleProfile

def sampleEntityQos : EntityQos where
  historyKind := .keepLast
  historyDepth := 1
  reliabilityKind := .reliable
  durabilityKind := .volatile
  deadlinePeriod := ⟨0, 0⟩
  livelinessKind := .automatic
  livelinessLeaseDuration := ⟨0, 0⟩

def samplePublisher (topicName messageName : String) : TopicCall :=
  .createPublisher (sampleArguments topicName messageName)
    ⟨true, true, ⟨true, true⟩, true, true, some ⟨sampleEntityQos, ⟨0, 0⟩⟩, true⟩

def sampleSubscription (topicName messageName : String) : TopicCall :=
  .createSubscription (sampleArguments topicName messageName)
    ⟨⟨true, true, ⟨true, true⟩, true, true, some sampleEntityQos, true⟩, true⟩

def sampleService : ServiceArguments where
  typeSupports := some ⟨"", fun _ => some (some ())⟩
  serviceName := some "/add".toList
  rmwQos := some sampleProfile

def serviceGranted : ServiceOutcome where
  handleAllocated := true
  objectAllocated := true
  publisherCreated := true
  defaultWriterQos := some { sampleEntityQos with lifespanDuration := ⟨0, 0⟩ }
  defaultWriterQosSet := true
  subscriberCreated := true
  defaultReaderQos := some sampleEntityQos
  defaultReaderQosSet := true
  requesterCreated := true
  topics := ∅
  readerGiven := true
  readerTopic := some ⟨some "rr/addReply".toList, some "pkg::srv::dds_::Add_Response_".toList⟩
  readConditionCreated := true
  writerGiven := true
  writerTopic := some ⟨some "rq/addRequest".toList, some "pkg::srv::dds_::Add_Request_".toList⟩

end Sample
end RmwOpendds
