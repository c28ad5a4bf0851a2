import RmwOpendds.Topic

/-! `DDSPublisher` and `DDSSubscriber`: constructors, destructors, and
`RmwAllocateFree`, through which both are made. The assertion of the history
depth is compiled out. What is used of the entities besides their identity (the
matched counts of the listeners, the statuses, the gid) is left out. -/

namespace RmwOpendds

open Library

/-- `RmwAllocateFree::create`; an exception of the constructor ends in a null pointer. -/
def rafCreate {σ α : Type} (allocated : Bool) (constructor : EStateM String σ α) :
    EStateM String σ (Option α) :=
  if allocated then tryCatch (some <$> constructor) fun _ => pure none
  else pure none

theorem exits_rafCreate {σ α : Type} {allocated : Bool} {constructor : EStateM String σ α} {s : σ}
    {returns : Option α → σ → Prop} {throws : String → σ → Prop} :
    Exits (rafCreate allocated constructor) s returns throws ↔
      if allocated then
        Exits constructor s (fun a t => returns (some a) t) fun _ t => returns none t
      else returns none s := by
  cases allocated <;> simp [rafCreate]

/-- What DDS and the allocators answer while a publisher or a subscription is
created: `Qos` is the default QoS that `get_default_*_qos` yields. -/
structure EndpointOutcome (Qos : Type) where
  handleAllocated : Bool
  objectAllocated : Bool
  topic : TopicOutcome
  listenerAllocated : Bool
  factoryCreated : Bool
  defaultQos : Option Qos
  endpointCreated : Bool
  deriving DecidableEq, Repr

structure SubscriptionOutcome extends EndpointOutcome DataReaderQos where
  readConditionCreated : Bool
  deriving DecidableEq, Repr

structure Adds (p p' : Participant) (added : List Entity) : Prop where
  topics : p'.topics = p.topics
  listeners : p'.listeners = p.listeners
  contained : p'.contained = added ++ p.contained
  serials : ∀ e ∈ added, p.nextSerial ≤ e.handle.serial ∧ e.handle.serial < p'.nextSerial
  nextSerial : p.nextSerial ≤ p'.nextSerial

namespace Adds

variable {p p' : Participant} {added : List Entity}

theorem nil (p : Participant) : Adds p p [] := ⟨rfl, rfl, rfl, by simp, le_rfl⟩

theorem addEntity (h : Adds p p' added) (kind : EntityKind) (listener : Option ℕ) :
    Adds p (p'.addEntity kind listener).2 ((p'.addEntity kind listener).1 :: added) where
  topics := h.topics
  listeners := h.listeners
  contained := by simp [Participant.addEntity, h.contained]
  serials := by
    have bound := h.nextSerial
    simp only [Participant.addEntity, List.forall_mem_cons]
    refine ⟨⟨bound, by omega⟩, fun e member => ?_⟩
    have serial := h.serials e member
    omega
  nextSerial := by
    have bound := h.nextSerial
    simp only [Participant.addEntity]
    omega

end Adds

structure Leaves (p p' : Participant) (requested : Option (StdString × StdString))
    (added : List Entity) (listeners : List ℕ) : Prop where
  topics : p'.topics = match requested with
    | none => p.topics
    | some (name, type) => p.topics.insertIfNew name type
  contained : p'.contained = added ++ p.contained
  listeners : p'.listeners = listeners ++ p.listeners
  serials : ∀ e ∈ added, p.nextSerial ≤ e.handle.serial ∧ e.handle.serial < p'.nextSerial
  nextSerial : p.nextSerial ≤ p'.nextSerial

/-- A successful construction: the entities are of the right kinds, and nobody
else's listener is registered with them. -/
structure Constructed (p p' : Participant) (requested : Option (StdString × StdString))
    (kinds : List EntityKind) (topic : DDSTopic) (listener : Option ℕ) (entities : List Entity) :
    Prop where
  leaves : Leaves p p' requested entities listener.toList
  requested : requested = some (topic.name, topic.type)
  topic : topic.topic.typeName = p.topics.getD topic.name topic.type
  kinds : entities.map (fun e => e.handle.kind) = kinds
  listeners : ∀ e ∈ entities, e.listener = none ∨ e.listener = listener

/-- A construction that throws leaves entities behind exactly if it `opens`, that is,
gets its factory; then it lacks something after it. -/
def Failed (p p' : Participant) (requested : Option (StdString × StdString))
    (opens completes : Bool) : Prop :=
  ∃ added, Leaves p p' requested added [] ∧ (added ≠ [] ↔ opens) ∧ (added ≠ [] → ¬ completes)

section Leaves

variable {p p' : Participant} {name type : StdString} {added : List Entity}

theorem Leaves.of_adds (h : Adds (p.withTopic name type) p' added) :
    Leaves p p' (some (name, type)) added [] :=
  ⟨h.topics, h.contained, h.listeners, h.serials, h.nextSerial⟩

theorem Leaves.of_adds_addListener (h : Adds (p.withTopic name type).addListener p' added) :
    Leaves p p' (some (name, type)) added [p.nextSerial] where
  topics := h.topics
  contained := h.contained
  listeners := h.listeners
  serials := fun e member => by
    have serial := h.serials e member
    have bound : p.nextSerial + 1 ≤ e.handle.serial := serial.1
    omega
  nextSerial := by
    have bound : p.nextSerial + 1 ≤ p'.nextSerial := h.nextSerial
    omega

theorem Leaves.withoutListener {requested : Option (StdString × StdString)} {listener : ℕ}
    (h : Leaves p p' requested added [listener]) :
    Leaves p (p'.withoutListener (some listener)) requested added [] where
  topics := h.topics
  contained := h.contained
  listeners := by simp [Participant.withoutListener, h.listeners]
  serials := h.serials
  nextSerial := h.nextSerial

end Leaves

/-- The common body of the constructors: topic, listener, and a `try` block whose
handler is `cleanup()`. -/
def constructEndpoint {α : Type} (known : TypesupportIdentifiers) (args : EndpointArguments)
    (topic : TopicOutcome) (listenerAllocated : Bool)
    (cleanup : Option ℕ → EStateM String Participant PUnit)
    (createEntities : Option ℕ → EStateM String Participant α) :
    EStateM String Participant (DDSTopic × Option ℕ × α) := do
  let topic ← DDSTopic.construct known args topic
  let listener ← Participant.createListener listenerAllocated
  let entities ← tryCatch (createEntities listener) fun e => do
    cleanup listener
    throw e
  return (topic, listener, entities)

/-- What a `try` block does: once it has its factory, it adds all of its entities
if the rest is given, and otherwise throws and leaves some behind. -/
def AddsEntities {α : Type} (created completed : Bool) (kinds : List EntityKind)
    (entities : α → List Entity) (listener : Option ℕ)
    (createEntities : EStateM String Participant α) : Prop :=
  ∀ p, Exits createEntities p
    (fun a p' => Adds p p' (entities a) ∧ (listener.isSome ∧ completed) ∧
      (entities a).map (fun e => e.handle.kind) = kinds ∧
      ∀ e ∈ entities a, e.listener = none ∨ e.listener = listener)
    (fun _ p' => ∃ added, Adds p p' added ∧ (added ≠ [] ↔ listener.isSome ∧ created) ∧
      (added ≠ [] → ¬ completed))

def isGiven {α β : Type} : Option (Except α β) → Bool
  | some (.ok _) => true
  | _ => false

theorem isGiven_eq_false {α β : Type} {x : Option (Except α β)}
    (none : ∀ b, x = some (.ok b) → False) :
    isGiven x = false := by
  unfold isGiven
  split
  · exact (none _ rfl).elim
  · rfl

def opens (known : TypesupportIdentifiers) (args : EndpointArguments) (topic : TopicOutcome)
    (listenerAllocated factoryCreated : Bool) : Bool :=
  (DDSTopic.requested known args topic).isSome && listenerAllocated && factoryCreated

theorem constructEndpoint_exits {α : Type}
    {createEntities : Option ℕ → EStateM String Participant α} {entities : α → List Entity}
    {kinds : List EntityKind} {created completed : Bool} (p : Participant)
    (known : TypesupportIdentifiers) (args : EndpointArguments) (topic : TopicOutcome)
    (allocated : Bool)
    (law : ∀ listener,
      AddsEntities created completed kinds entities listener (createEntities listener)) :
    Exits
      (constructEndpoint known args topic allocated Participant.destroyListener createEntities) p
      (fun made p' => Constructed p p' (DDSTopic.requested known args topic) kinds made.1 made.2.1
        (entities made.2.2) ∧ completed)
      (fun _ p' => Failed p p' (DDSTopic.requested known args topic)
        (opens known args topic allocated created) completed) := by
  unfold constructEndpoint
  simp only [exits_bind]
  apply DDSTopic.exits_construct
  · intro _ none
    refine ⟨[], ⟨?_, rfl, rfl, ?_, le_rfl⟩, ?_, ?_⟩ <;> simp [none, opens]
  · intro name type req
    rw [Participant.exits_createListener, req]
    cases allocated with
    | false =>
      simp only [exits_tryCatch, Bool.false_eq_true, if_false]
      refine (law none _).mono ?_ ?_
      · rintro a p' ⟨-, ⟨impossible, -⟩, -⟩
        exact absurd impossible (by simp)
      · rintro e p' ⟨added, adds, partly, -⟩
        simp only [exits_bind, exits_throw, Participant.exits_destroyListener]
        have nothing : added = [] := by simpa using partly
        refine ⟨added, .of_adds adds, ?_⟩
        simp [opens, nothing]
    | true =>
      simp only [exits_tryCatch, if_true]
      refine (law (some _) _).mono ?_ ?_
      · rintro a p' ⟨adds, ⟨-, complete⟩, ofKinds, listeners⟩
        exact ⟨⟨.of_adds_addListener adds, rfl, rfl, ofKinds, listeners⟩, complete⟩
      · rintro e p' ⟨added, adds, partly, incomplete⟩
        simp only [exits_bind, exits_throw, Participant.exits_destroyListener]
        refine ⟨added, (Leaves.of_adds_addListener adds).withoutListener, ?_, incomplete⟩
        simpa [opens, req] using partly

structure DDSPublisher where
  topic : DDSTopic
  listener : Option ℕ
  publisher : Entity
  writer : Entity
  deriving DecidableEq, Repr

structure DDSSubscriber where
  topic : DDSTopic
  listener : Option ℕ
  subscriber : Entity
  reader : Entity
  readCondition : Entity
  deriving DecidableEq, Repr

namespace DDSPublisher

def topicName (pub : DDSPublisher) : StdString := pub.topic.name

def topicType (pub : DDSPublisher) : StdString := pub.topic.type

def instanceHandle (pub : DDSPublisher) : InstanceHandle := pub.publisher.handle

def entities (pub : DDSPublisher) : List Entity := [pub.writer, pub.publisher]

def cleanup (listener : Option ℕ) : EStateM String Participant PUnit :=
  Participant.destroyListener listener

def createEntities (rmwQos : Option RmwQosProfile) (dds : EndpointOutcome DataWriterQos)
    (listener : Option ℕ) : EStateM String Participant (Entity × Entity) := do
  if listener.isNone then throw "OpenDDSPublisherListener failed to contstruct"
  let publisher ← Participant.createEntity .publisher listener dds.factoryCreated
    "create_publisher failed"
  match rmwQos.map (Qos.getDatawriterQos true dds.defaultQos) with
  | some (.ok _) =>
    let writer ← Participant.createEntity .dataWriter none dds.endpointCreated
      "create_datawriter failed"
    return (publisher, writer)
  | _ => throw "get_datawriter_qos failed"

def construct (known : TypesupportIdentifiers) (args : EndpointArguments)
    (dds : EndpointOutcome DataWriterQos) : EStateM String Participant DDSPublisher := do
  let (topic, listener, publisher, writer) ← constructEndpoint known args dds.topic
    dds.listenerAllocated cleanup (createEntities args.rmwQos dds)
  return { topic, listener, publisher, writer }

def completes (rmwQos : Option RmwQosProfile) (dds : EndpointOutcome DataWriterQos) : Bool :=
  isGiven (rmwQos.map (Qos.getDatawriterQos true dds.defaultQos)) && dds.endpointCreated

theorem addsEntities (rmwQos : Option RmwQosProfile) (dds : EndpointOutcome DataWriterQos)
    (listener : Option ℕ) :
    AddsEntities dds.factoryCreated (completes rmwQos dds) [.dataWriter, .publisher]
      (fun made => [made.2, made.1]) listener (createEntities rmwQos dds listener) := by
  intro p
  simp only [createEntities, exits_bind, exits_ite, exits_throw, Participant.exits_createEntity]
  cases listener with
  | none => exact ⟨fun _ => ⟨[], .nil p, by simp⟩, fun h => absurd rfl h⟩
  | some l =>
    refine ⟨fun h => by simp at h, fun _ => ?_⟩
    cases created : dds.factoryCreated with
    | false => exact ⟨[], .nil p, by simp⟩
    | true =>
      have publisher := (Adds.nil p).addEntity .publisher (some l)
      simp only [if_true]
      split
      · rename_i given
        simp only [exits_bind, Participant.exits_createEntity]
        cases writer : dds.endpointCreated with
        | false => exact ⟨_, publisher, by simp [completes, writer]⟩
        | true =>
          refine ⟨publisher.addEntity .dataWriter none, ?_, ?_⟩
          · simp [completes, given, isGiven, writer]
          · simp [Participant.addEntity]
      · rename_i notGiven
        exact ⟨_, publisher, by simp [completes, isGiven_eq_false notGiven]⟩

theorem construct_exits (p : Participant) (known : TypesupportIdentifiers)
    (args : EndpointArguments) (dds : EndpointOutcome DataWriterQos) :
    Exits (construct known args dds) p
      (fun pub p' => Constructed p p' (DDSTopic.requested known args dds.topic)
        [.dataWriter, .publisher] pub.topic pub.listener pub.entities ∧ completes args.rmwQos dds)
      (fun _ p' => Failed p p' (DDSTopic.requested known args dds.topic)
        (opens known args dds.topic dds.listenerAllocated dds.factoryCreated)
        (completes args.rmwQos dds)) := by
  unfold construct
  simp only [exits_bind]
  exact constructEndpoint_exits p known args dds.topic dds.listenerAllocated
    (addsEntities args.rmwQos dds)

end DDSPublisher

namespace DDSSubscriber

def topicName (sub : DDSSubscriber) : StdString := sub.topic.name

def topicType (sub : DDSSubscriber) : StdString := sub.topic.type

def instanceHandle (sub : DDSSubscriber) : InstanceHandle := sub.subscriber.handle

def entities (sub : DDSSubscriber) : List Entity := [sub.readCondition, sub.reader, sub.subscriber]

def cleanup (listener : Option ℕ) : EStateM String Participant PUnit :=
  Participant.destroyListener listener

def createEntities (rmwQos : Option RmwQosProfile) (dds : SubscriptionOutcome)
    (listener : Option ℕ) :
    EStateM String Participant (Entity × Entity × Entity) := do
  if listener.isNone then throw "OpenDDSSubscriberListener failed to contstruct"
  let subscriber ← Participant.createEntity .subscriber listener dds.factoryCreated
    "create_subscriber failed"
  match rmwQos.map (Qos.getDatareaderQos true dds.defaultQos) with
  | some (.ok _) =>
    let reader ← Participant.createEntity .dataReader none dds.endpointCreated
      "create_datawriter failed"
    let readCondition ← Participant.createEntity .readCondition none dds.readConditionCreated
      "create_readcondition failed"
    return (subscriber, reader, readCondition)
  | _ => throw "get_datareader_qos failed"

def construct (known : TypesupportIdentifiers) (args : EndpointArguments)
    (dds : SubscriptionOutcome) : EStateM String Participant DDSSubscriber := do
  let (topic, listener, subscriber, reader, readCondition) ← constructEndpoint known args
    dds.topic dds.listenerAllocated cleanup (createEntities args.rmwQos dds)
  return { topic, listener, subscriber, reader, readCondition }

def completes (rmwQos : Option RmwQosProfile) (dds : SubscriptionOutcome) : Bool :=
  isGiven (rmwQos.map (Qos.getDatareaderQos true dds.defaultQos)) && dds.endpointCreated &&
    dds.readConditionCreated

theorem addsEntities (rmwQos : Option RmwQosProfile) (dds : SubscriptionOutcome)
    (listener : Option ℕ) :
    AddsEntities dds.factoryCreated (completes rmwQos dds)
      [.readCondition, .dataReader, .subscriber]
      (fun made => [made.2.2, made.2.1, made.1]) listener (createEntities rmwQos dds listener) := by
  intro p
  simp only [createEntities, exits_bind, exits_ite, exits_throw, Participant.exits_createEntity]
  cases listener with
  | none => exact ⟨fun _ => ⟨[], .nil p, by simp⟩, fun h => absurd rfl h⟩
  | some l =>
    refine ⟨fun h => by simp at h, fun _ => ?_⟩
    cases created : dds.factoryCreated with
    | false => exact ⟨[], .nil p, by simp⟩
    | true =>
      have subscriber := (Adds.nil p).addEntity .subscriber (some l)
      have reader := subscriber.addEntity .dataReader none
      simp only [if_true]
      split
      · rename_i given
        simp only [exits_bind, Participant.exits_createEntity]
        cases reads : dds.endpointCreated with
        | false => exact ⟨_, subscriber, by simp [completes, reads]⟩
        | true =>
          cases condition : dds.readConditionCreated with
          | false => exact ⟨_, reader, by simp [completes, condition]⟩
          | true =>
            refine ⟨reader.addEntity .readCondition none, ?_, ?_⟩
            · simp [completes, given, isGiven, reads, condition]
            · simp [Participant.addEntity]
      · rename_i notGiven
        exact ⟨_, subscriber, by simp [completes, isGiven_eq_false notGiven]⟩

theorem construct_exits (p : Participant) (known : TypesupportIdentifiers)
    (args : EndpointArguments) (dds : SubscriptionOutcome) :
    Exits (construct known args dds) p
      (fun sub p' => Constructed p p' (DDSTopic.requested known args dds.topic)
        [.readCondition, .dataReader, .subscriber] sub.topic sub.listener sub.entities ∧
        completes args.rmwQos dds)
      (fun _ p' => Failed p p' (DDSTopic.requested known args dds.topic)
        (opens known args dds.topic dds.listenerAllocated dds.factoryCreated)
        (completes args.rmwQos dds)) := by
  unfold construct
  simp only [exits_bind]
  exact constructEndpoint_exits p known args dds.topic dds.listenerAllocated
    (addsEntities args.rmwQos dds)

end DDSSubscriber
end RmwOpendds
