import RmwOpendds.LocalGraph
import RmwOpendds.RefusedCalls

/-! What a failed creation of a client or service leaves in the graph. `add_to`
enters the reader before it looks up the writer's topic, and the handler around it
deletes the object without taking the reader out again. -/

namespace RmwOpendds

open Std Library

def ServiceArguments.accepted (known : TypesupportIdentifiers) (args : ServiceArguments) : Bool :=
  (TypeSupport.getCallbacks known "service_type_support is null" "Service callbacks_ is null"
    args.typeSupports).isOk &&
  (Names.createRequestName (args.serviceName.getD []) args.rmwQos).isOk &&
  (Names.createReplyName (args.serviceName.getD []) args.rmwQos).isOk &&
  !(args.serviceName.getD []).isEmpty

namespace ServiceOutcome

def factoriesGranted (args : ServiceArguments) (dds : ServiceOutcome) : Bool :=
  dds.publisherCreated &&
    isGiven (args.rmwQos.map (Qos.getDatawriterQos true dds.defaultWriterQos)) &&
    dds.defaultWriterQosSet && dds.subscriberCreated &&
    isGiven (args.rmwQos.map (Qos.getDatareaderQos true dds.defaultReaderQos)) &&
    dds.defaultReaderQosSet

def entitiesGranted (dds : ServiceOutcome) : Bool :=
  dds.requesterCreated && dds.readerGiven && dds.readConditionCreated && dds.writerGiven

def granted (known : TypesupportIdentifiers) (args : ServiceArguments) (dds : ServiceOutcome) :
    Bool :=
  dds.handleAllocated && dds.objectAllocated && args.accepted known &&
    dds.factoriesGranted args && dds.entitiesGranted

end ServiceOutcome

def TopicDescription.complete : Option TopicDescription → Bool
  | some ⟨some _, some _⟩ => true
  | _ => false

/-- The handle that the participant gives to the reader of its next client or
service, after a publisher and a subscriber. -/
def nextReader (p : Participant) : InstanceHandle := ⟨.dataReader, p.nextSerial + 2⟩

theorem Service.construct_iff {known : TypesupportIdentifiers} {args : ServiceArguments}
    {dds : ServiceOutcome} {p : Participant} {Q : Participant → Prop} :
    Exits (Service.construct known args dds) p (fun _ p' => Q p') (fun _ _ => True) ↔
      (args.accepted known && dds.factoriesGranted args →
        Q ((p.addEntity .publisher none).2.addEntity .subscriber none).2) := by
  simp only [Service.construct, exits_bind, exits_fromExcept, exits_ite, exits_throw, exits_pure,
    Participant.exits_createEntity, ServiceArguments.accepted, ServiceOutcome.factoriesGranted]
  cases TypeSupport.getCallbacks known "service_type_support is null"
    "Service callbacks_ is null" args.typeSupports with
  | error text => simp [Except.isOk, Except.toBool]
  | ok callbacks =>
    cases Names.createRequestName (args.serviceName.getD []) args.rmwQos with
    | error text => simp [Except.isOk, Except.toBool]
    | ok request =>
      cases Names.createReplyName (args.serviceName.getD []) args.rmwQos with
      | error text => simp [Except.isOk, Except.toBool]
      | ok reply => simp [Except.isOk, Except.toBool]

theorem ServiceEndpoint.construct_iff {createFailed readerNull writerNull : String}
    {known : TypesupportIdentifiers} {args : ServiceArguments} {dds : ServiceOutcome}
    {deleted : List Entity} {p : Participant}
    {Q : InstanceHandle → Option TopicDescription → Option TopicDescription → Prop} :
    Exits (construct createFailed readerNull writerNull known args dds deleted) p
        (fun e _ => Q e.reader.handle e.readerTopic e.writerTopic) (fun _ _ => True) ↔
      (args.accepted known && dds.factoriesGranted args && dds.entitiesGranted →
        Q (nextReader p) dds.readerTopic dds.writerTopic) := by
  unfold construct
  simp only [exits_bind, exits_ite, exits_throw, exits_tryCatch, exits_modify, exits_pure,
    Participant.exits_createEntity, ServiceEndpoint.cleanup]
  rw [Service.construct_iff]
  cases dds.factoriesGranted args <;> cases args.accepted known <;>
    cases created : dds.requesterCreated <;> cases reader : dds.readerGiven <;>
    cases condition : dds.readConditionCreated <;> cases writer : dds.writerGiven <;>
    simp [ServiceOutcome.entitiesGranted, created, reader, condition, writer,
      Participant.addEntity, nextReader]

namespace Node

variable {GUID : Type} [LinearOrder GUID] {α : Type} (env : Environment GUID)

def FailsWithoutTrace (call : Call GUID α) (n : Node GUID) : Prop :=
  ∀ text n', call.run n = .error text n' → n'.graph = n.graph

@[mk_iff] structure KeepsReader (n : Node GUID) (args : ServiceArguments) (dds : ServiceOutcome) :
    Prop where
  granted : dds.granted env.known args
  reader : TopicDescription.complete dds.readerTopic
  writer : TopicDescription.complete dds.writerTopic = false
  entered : ¬ (env.getRepoid (nextReader n.participant) ∈
      n.graph.subListener.topicCache.endpointGuidToInfo ∧
    env.getRepoid Participant.handle ∈
      n.graph.subListener.topicCache.participantToEndpointGuids)

theorem failsWithoutTrace_iff {call : Call GUID α} {n : Node GUID} :
    FailsWithoutTrace call n ↔
      Exits call n (fun _ _ => True) fun _ n' => n'.graph = n.graph := by
  unfold FailsWithoutTrace Exits
  cases call.run n <;> simp

theorem addDescribed_iff {n : Node GUID} {add : StdString → StdString → Call GUID PUnit}
    {noTopic noNames : String} {topic : Option TopicDescription}
    {returns : PUnit → Node GUID → Prop} {T : Node GUID → Prop} :
    Exits (addDescribed add noTopic noNames topic) n returns (fun _ t => T t) ↔
      if TopicDescription.complete topic then
        Exits (add (described topic).1 (described topic).2) n returns fun _ t => T t
      else T n := by
  match topic with
  | none => rfl
  | some ⟨some _, some _⟩ => rfl
  | some ⟨some _, none⟩ => rfl
  | some ⟨none, some _⟩ => rfl
  | some ⟨none, none⟩ => rfl

theorem addSub_eq_iff {graph : OpenDDSNode GUID} {reader : InstanceHandle}
    {topicName typeName : StdString} :
    (graph.addSub (identities env) Participant.handle reader topicName typeName).node = graph ↔
      env.getRepoid reader ∈ graph.subListener.topicCache.endpointGuidToInfo ∧
        env.getRepoid Participant.handle ∈
          graph.subListener.topicCache.participantToEndpointGuids := by
  rw [← TopicCache.cache_addTopic_eq_iff (t := topicName) (u := typeName)]
  constructor
  · intro same
    exact congrArg (fun g => g.subListener.topicCache) same
  · intro same
    exact OpenDDSNode.ext rfl (CustomDataReaderListener.ext same)

theorem addTo_iff {n : Node GUID} {e : ServiceEndpoint} :
    Exits (addTo env e) n (fun _ _ => True) (fun _ n' => n'.graph = n.graph) ↔
      (TopicDescription.complete e.readerTopic → TopicDescription.complete e.writerTopic = false →
        env.getRepoid e.reader.handle ∈ n.graph.subListener.topicCache.endpointGuidToInfo ∧
          env.getRepoid Participant.handle ∈
            n.graph.subListener.topicCache.participantToEndpointGuids) := by
  unfold addTo
  rw [exits_bind, addDescribed_iff]
  simp only [addSub, addPub, exits_modify, addDescribed_iff, addSub_eq_iff]
  cases TopicDescription.complete e.readerTopic <;>
    cases TopicDescription.complete e.writerTopic <;> simp

theorem addTo_cleaned_iff {n : Node GUID} {e : ServiceEndpoint}
    {clean : EStateM String Participant PUnit} {p : Participant} :
    Exits (tryCatch (addTo env e) fun text => do
        onParticipant clean
        throw text) (n.setParticipant p) (fun _ _ => True) (fun _ n' => n'.graph = n.graph) ↔
      Exits (addTo env e) (n.setParticipant p) (fun _ _ => True)
        (fun _ n' => n'.graph = (n.setParticipant p).graph) := by
  rw [exits_tryCatch]
  simp only [exits_bind, onParticipant, exits_onPart, exits_throw, setParticipant]
  simp only [exits_const]

theorem createService_iff {n : Node GUID} {noHandle noObject : String} {args : ServiceArguments}
    {dds : ServiceOutcome} {construct : EStateM String Participant ServiceEndpoint}
    {clean : EStateM String Participant PUnit}
    (law : ∀ Q : InstanceHandle → Option TopicDescription → Option TopicDescription → Prop,
      Exits construct n.participant (fun e _ => Q e.reader.handle e.readerTopic e.writerTopic)
          (fun _ _ => True) ↔
        (args.accepted env.known && dds.factoriesGranted args && dds.entitiesGranted →
          Q (nextReader n.participant) dds.readerTopic dds.writerTopic)) :
    FailsWithoutTrace (createService env noHandle noObject dds construct clean) n ↔
      ¬ KeepsReader env n args dds := by
  rw [failsWithoutTrace_iff, createService, exits_bind, exits_fromExcept]
  cases handle : dds.handleAllocated with
  | false =>
    refine iff_of_true ?_ ?_
    · simp [createInitial]
    · intro keeps
      simpa [ServiceOutcome.granted, handle] using keeps.granted
  | true =>
    cases object : dds.objectAllocated with
    | false =>
      refine iff_of_true ?_ ?_
      · simp [createInitial, onParticipant, exits_rafCreate, setParticipant]
      · intro keeps
        simpa [ServiceOutcome.granted, object] using keeps.granted
    | true =>
      have entered := law fun reader readerTopic writerTopic =>
        TopicDescription.complete readerTopic → TopicDescription.complete writerTopic = false →
          env.getRepoid reader ∈ n.graph.subListener.topicCache.endpointGuidToInfo ∧
            env.getRepoid Participant.handle ∈
              n.graph.subListener.topicCache.participantToEndpointGuids
      simp only [createInitial, if_true, reduceCtorEq, implies_true, and_true, forall_const,
        exits_bind, onParticipant, exits_onPart, exits_rafCreate]
      refine Iff.trans ?_ (entered.trans ?_)
      · refine exits_congr (fun e p => ?_) fun _ _ => iff_of_true rfl trivial
        simp only [exits_pure]
        exact (addTo_cleaned_iff env).trans (addTo_iff env)
      · rw [keepsReader_iff, ServiceOutcome.granted, handle, object]
        simp only [Bool.true_and, Bool.and_eq_true]
        tauto

/-- A failing `rmw_create_client` or `rmw_create_service` leaves both caches alone
exactly if it does not fail over the writer's topic after the reader was entered. -/
theorem failed_service_iff (n : Node GUID) (args : ServiceArguments) (dds : ServiceOutcome)
    (deleted : List Entity) :
    (FailsWithoutTrace (rmwCreateClient env args dds deleted) n ↔ ¬ KeepsReader env n args dds) ∧
      (FailsWithoutTrace (rmwCreateService env args dds deleted) n ↔
        ¬ KeepsReader env n args dds) :=
  ⟨createService_iff env fun _ => ServiceEndpoint.construct_iff,
    createService_iff env fun _ => ServiceEndpoint.construct_iff⟩

def writerWithoutTopic : ServiceOutcome := { serviceGranted with writerTopic := none }

/-- The failed client stays listed as a subscriber of its reply topic. -/
theorem failed_client_stays :
    ¬ ∀ (n : Node ℕ) (args : ServiceArguments) (dds : ServiceOutcome) (deleted : List Entity),
      FailsWithoutTrace (rmwCreateClient sampleEnvironment args dds deleted) n := by
  intro claim
  have keeps : KeepsReader sampleEnvironment create sampleService writerWithoutTopic :=
    ⟨by decide, rfl, rfl, by decide⟩
  exact (createService_iff sampleEnvironment fun _ => ServiceEndpoint.construct_iff).mp
    (claim create sampleService writerWithoutTopic []) keeps

end Node
end RmwOpendds
