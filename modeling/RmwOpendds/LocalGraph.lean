import RmwOpendds.Session

/-! The local part of the graph: what the two caches of a node hold of its own
endpoints. -/

namespace RmwOpendds

open Std Library

structure Endpoint where
  handle : InstanceHandle
  topicName : StdString
  typeName : StdString
  deriving DecidableEq, Repr

namespace Endpoint

variable {GUID : Type} [LinearOrder GUID] (env : Environment GUID)

def guid (e : Endpoint) : GUID := env.getRepoid e.handle

def info (e : Endpoint) : TopicInfo GUID :=
  ⟨e.topicName, e.typeName, env.getRepoid Participant.handle, e.guid env⟩

def entry (e : Endpoint) : GUID × TopicInfo GUID := (e.guid env, e.info env)

omit [LinearOrder GUID] in
theorem map_fst_entry (live : List Endpoint) :
    (live.map (entry env)).map Prod.fst = live.map (guid env) := by
  simp [entry, Function.comp_def]

end Endpoint

/-- `get_repoid`: data writers and data readers have GUIDs of their own, publishers
and subscribers have none. -/
structure RepoidLaw {GUID : Type} (env : Environment GUID) (unknown : GUID) : Prop where
  endpoint_inj : ∀ h h' : InstanceHandle, h.kind ∈ [.dataWriter, .dataReader] →
    h'.kind ∈ [.dataWriter, .dataReader] → env.getRepoid h = env.getRepoid h' → h = h'
  endpoint_known : ∀ h : InstanceHandle, h.kind ∈ [.dataWriter, .dataReader] →
    env.getRepoid h ≠ unknown
  factory_unknown : ∀ h : InstanceHandle, h.kind ∈ [.publisher, .subscriber] →
    env.getRepoid h = unknown

namespace CustomDataReaderListener

variable {GUID : Type} [LinearOrder GUID] (env : Environment GUID)
  {l : CustomDataReaderListener GUID} {live live' : List Endpoint} {e : Endpoint}

/-- The cache of the listener holds the endpoints, each once. -/
def Mirrors (l : CustomDataReaderListener GUID) (live : List Endpoint) : Prop :=
  OrderedMap.Lists l.topicCache.endpointGuidToInfo (live.map (Endpoint.entry env))

variable {env}

theorem Mirrors.perm (mirrors : l.Mirrors env live) (same : live.Perm live') :
    l.Mirrors env live' :=
  OrderedMap.Lists.perm mirrors (same.map _)

theorem Mirrors.add (mirrors : l.Mirrors env live)
    (fresh : e.guid env ∉ live.map (Endpoint.guid env))
    (entityType : EntityType) :
    (l.addInformation (env.getRepoid Participant.handle) (e.guid env) e.topicName e.typeName
      entityType).listener.Mirrors env (e :: live) := by
  rw [← Endpoint.map_fst_entry] at fresh
  refine OrderedMap.Lists.cons mirrors fresh fun k => ?_
  have unknown := OrderedMap.Lists.getElem?_eq_none mirrors fresh
  have added := l.topicCache.getElem?_addTopic (env.getRepoid Participant.handle) (e.guid env) k
    e.topicName e.typeName
  rw [unknown] at added
  exact added

theorem Mirrors.refuse (mirrors : l.Mirrors env live)
    (taken : e.guid env ∈ live.map (Endpoint.guid env)) (entityType : EntityType) :
    (l.addInformation (env.getRepoid Participant.handle) (e.guid env) e.topicName e.typeName
      entityType).listener.Mirrors env live := by
  obtain ⟨holder, member, same⟩ := List.mem_map.mp taken
  have known := (OrderedMap.Lists.mem_iff mirrors (e.guid env) (holder.info env)).mpr
    (List.mem_map.mpr ⟨holder, member, by rw [Endpoint.entry, same]⟩)
  have unchanged : (l.addInformation (env.getRepoid Participant.handle) (e.guid env) e.topicName
      e.typeName entityType).listener.topicCache.endpointGuidToInfo =
      l.topicCache.endpointGuidToInfo := by
    apply ExtTreeMap.ext_getElem?
    intro k
    refine (l.topicCache.getElem?_addTopic _ _ _ _ _).trans ?_
    rw [known]
    split
    · rename_i here
      rw [← here, known]
      rfl
    · rfl
  unfold Mirrors
  rw [unchanged]
  exact mirrors

theorem Mirrors.remove (mirrors : l.Mirrors env (e :: live)) (entityType : EntityType) :
    (l.removeInformation (e.guid env) entityType).listener.Mirrors env live :=
  OrderedMap.Lists.tail mirrors fun k => l.wellFormed.getElem?_removeTopic (e.guid env) k

def namesAndTypes (l : CustomDataReaderListener GUID) : List (StdString × StdString) :=
  l.topicCache.endpointGuidToInfo.toList.map fun entry => (entry.2.topicName, entry.2.topicType)

theorem Mirrors.namesAndTypes_perm (mirrors : l.Mirrors env live) :
    l.namesAndTypes.Perm (live.map fun e => (e.topicName, e.typeName)) := by
  have entries := (OrderedMap.Lists.toList_perm mirrors).map fun entry =>
    (entry.2.topicName, entry.2.topicType)
  simpa [CustomDataReaderListener.namesAndTypes, Function.comp_def, Endpoint.entry,
    Endpoint.info] using entries

theorem countTopic_eq (l : CustomDataReaderListener GUID) (topicName : StdString) :
    l.countTopic topicName =
      l.namesAndTypes.countP fun nt => Names.demangleIfRosTopic nt.1 = topicName := by
  simp [countTopic, CustomDataReaderListener.namesAndTypes, List.countP_map, Function.comp_def]

/-- The invariant of one cache: it mirrors the endpoints that are entered under
the handle of a publisher or subscriber, the factories, and those that are entered
under the handle of a writer or reader. -/
structure Tracked (env : Environment GUID) (l : CustomDataReaderListener GUID)
    (factories endpoints : List Endpoint) (nextSerial : ℕ) : Prop where
  mirrors : l.Mirrors env (factories ++ endpoints)
  factories : ∀ e ∈ factories, e.handle.kind ∈ [EntityKind.publisher, .subscriber]
  endpoints : ∀ e ∈ endpoints, e.handle.kind ∈ [EntityKind.dataWriter, .dataReader] ∧
    e.handle.serial < nextSerial

theorem tracked_create (nextSerial : ℕ) :
    (create : CustomDataReaderListener GUID).Tracked env [] [] nextSerial :=
  ⟨OrderedMap.Lists.empty, by simp, by simp⟩

namespace Tracked

variable {factories endpoints rest : List Endpoint} {unknown : GUID} {next next' : ℕ}

theorem mono (tracked : l.Tracked env factories endpoints next) (grown : next ≤ next') :
    l.Tracked env factories endpoints next' where
  mirrors := tracked.mirrors
  factories := tracked.factories
  endpoints := fun e member => by
    have bound := tracked.endpoints e member
    exact ⟨bound.1, by omega⟩

theorem perm {factories' endpoints' : List Endpoint}
    (tracked : l.Tracked env factories endpoints next) (same : factories.Perm factories')
    (same' : endpoints.Perm endpoints') : l.Tracked env factories' endpoints' next where
  mirrors := tracked.mirrors.perm (same.append same')
  factories := fun e member => tracked.factories e (same.mem_iff.mpr member)
  endpoints := fun e member => tracked.endpoints e (same'.mem_iff.mpr member)

/-- The only factory is entered: no writer and no reader has its GUID. -/
theorem addFactory (law : RepoidLaw env unknown) (tracked : l.Tracked env [] endpoints next)
    (kind : e.handle.kind ∈ [EntityKind.publisher, .subscriber]) (entityType : EntityType) :
    (l.addInformation (env.getRepoid Participant.handle) (e.guid env) e.topicName e.typeName
      entityType).listener.Tracked env [e] endpoints next where
  mirrors := by
    refine tracked.mirrors.add ?_ entityType
    intro taken
    obtain ⟨holder, member, same⟩ := List.mem_map.mp taken
    have known := law.endpoint_known holder.handle (tracked.endpoints holder member).1
    exact known (same.trans (law.factory_unknown e.handle kind))
  factories := by simpa using kind
  endpoints := tracked.endpoints

/-- Any other factory is refused: it shares its GUID with the first. -/
theorem refuseFactory (law : RepoidLaw env unknown)
    (tracked : l.Tracked env factories endpoints next) (another : factories ≠ [])
    (kind : e.handle.kind ∈ [EntityKind.publisher, .subscriber]) (entityType : EntityType) :
    (l.addInformation (env.getRepoid Participant.handle) (e.guid env) e.topicName e.typeName
      entityType).listener.Mirrors env (factories ++ endpoints) := by
  refine tracked.mirrors.refuse ?_ entityType
  obtain ⟨first, member⟩ := List.exists_mem_of_ne_nil factories another
  have same : first.guid env = e.guid env :=
    (law.factory_unknown first.handle (tracked.factories first member)).trans
      (law.factory_unknown e.handle kind).symm
  exact List.mem_map.mpr ⟨first, List.mem_append_left endpoints member, same⟩

theorem removeFactory (tracked : l.Tracked env factories endpoints next)
    (same : factories.Perm (e :: rest)) (entityType : EntityType) :
    (l.removeInformation (e.guid env) entityType).listener.Tracked env rest endpoints next :=
  have reordered := tracked.perm same (List.Perm.refl endpoints)
  { mirrors := reordered.mirrors.remove entityType
    factories := fun f member => reordered.factories f (List.mem_cons_of_mem e member)
    endpoints := tracked.endpoints }

theorem addEndpoint (law : RepoidLaw env unknown)
    (tracked : l.Tracked env factories endpoints next)
    (kind : e.handle.kind ∈ [EntityKind.dataWriter, .dataReader]) (fresh : next ≤ e.handle.serial)
    (bound : e.handle.serial < next') (entityType : EntityType) :
    (l.addInformation (env.getRepoid Participant.handle) (e.guid env) e.topicName e.typeName
      entityType).listener.Tracked env factories (e :: endpoints) next' where
  mirrors := by
    refine Mirrors.perm (tracked.mirrors.add ?_ entityType) List.perm_middle.symm
    intro taken
    obtain ⟨holder, member, same⟩ := List.mem_map.mp taken
    cases List.mem_append.mp member with
    | inl factory =>
      have noGuid := law.factory_unknown holder.handle (tracked.factories holder factory)
      exact law.endpoint_known e.handle kind (same.symm.trans noGuid)
    | inr endpoint =>
      have held := tracked.endpoints holder endpoint
      have equal := law.endpoint_inj holder.handle e.handle held.1 kind same
      have older := held.2
      rw [equal] at older
      omega
  factories := tracked.factories
  endpoints := by
    rw [List.forall_mem_cons]
    refine ⟨⟨kind, bound⟩, fun holder member => ?_⟩
    have held := tracked.endpoints holder member
    exact ⟨held.1, by omega⟩

theorem removeEndpoint (tracked : l.Tracked env factories endpoints next)
    (same : endpoints.Perm (e :: rest)) (entityType : EntityType) :
    (l.removeInformation (e.guid env) entityType).listener.Tracked env factories rest next :=
  have reordered := tracked.perm (List.Perm.refl factories) same
  { mirrors := (reordered.mirrors.perm List.perm_middle).remove entityType
    factories := tracked.factories
    endpoints := fun f member => reordered.endpoints f (List.mem_cons_of_mem e member) }

end Tracked
end CustomDataReaderListener

namespace Node

variable {GUID : Type} [LinearOrder GUID] (env : Environment GUID)

def described : Option TopicDescription → StdString × StdString
  | some ⟨some name, some typeName⟩ => (name, typeName)
  | _ => ([], [])

def withService (graph : OpenDDSNode GUID) (e : ServiceEndpoint) : OpenDDSNode GUID :=
  let reader := described e.readerTopic
  let writer := described e.writerTopic
  ((graph.addSub (identities env) Participant.handle e.reader.handle reader.1 reader.2).node.addPub
    (identities env) Participant.handle e.writer.handle writer.1 writer.2).node

theorem addDescribed_exits {n n' : Node GUID} {add : StdString → StdString → Call GUID PUnit}
    {noTopic noNames : String} (topic : Option TopicDescription)
    (added : Exits (add (described topic).1 (described topic).2) n (fun _ t => t = n')
      fun _ _ => True) :
    Exits (addDescribed add noTopic noNames topic) n (fun _ t => t = n') fun _ _ => True := by
  unfold addDescribed
  split
  · simp
  · exact added
  · simp

theorem addTo_exits (n : Node GUID) (e : ServiceEndpoint) :
    Exits (addTo env e) n
      (fun _ n' => n' = { n with graph := withService env n.graph e }) (fun _ _ => True) := by
  unfold addTo
  rw [exits_bind]
  refine (addDescribed_exits e.readerTopic (by rw [addSub, exits_modify])).mono ?_ ?_
  · rintro _ _ rfl
    exact addDescribed_exits e.writerTopic (by rw [addPub, exits_modify]; rfl)
  · exact fun _ _ _ => trivial

theorem createService_exits (n : Node GUID) (noHandle noObject : String) (dds : ServiceOutcome)
    {construct : EStateM String Participant ServiceEndpoint}
    (clean : EStateM String Participant PUnit)
    (law : Exits construct n.participant
      (fun e p => Issued n.participant p .dataReader e.reader.handle ∧
        Issued n.participant p .dataWriter e.writer.handle) (fun _ _ => True)) :
    Exits (createService env noHandle noObject dds construct clean) n
      (fun handle n' => ∃ e p, Issued n.participant p .dataReader e.reader.handle ∧
        Issued n.participant p .dataWriter e.writer.handle ∧ handle = ⟨.opendds, some e⟩ ∧
        n' = ⟨withService env n.graph e, p⟩)
      (fun _ _ => True) := by
  unfold createService onParticipant
  simp only [exits_bind, exits_fromExcept, implies_true, and_true, exits_onPart, exits_rafCreate]
  intro _ _
  split
  · refine law.mono ?_ ?_
    · rintro e p ⟨reader, writer⟩
      simp only [exits_bind, exits_tryCatch, exits_pure]
      refine (addTo_exits env (n.setParticipant p) e).mono ?_ ?_
      · rintro _ _ rfl
        exact ⟨e, p, reader, writer, rfl, rfl⟩
      · simp
    · simp
  · simp

end Node
def DDSPublisher.endpoint (pub : DDSPublisher) : Endpoint :=
  ⟨pub.instanceHandle, pub.topicName, pub.topicType⟩

def DDSSubscriber.endpoint (sub : DDSSubscriber) : Endpoint :=
  ⟨sub.instanceHandle, sub.topicName, sub.topicType⟩

namespace ServiceEndpoint

def publication (e : ServiceEndpoint) : Endpoint :=
  ⟨e.writer.handle, (Node.described e.writerTopic).1, (Node.described e.writerTopic).2⟩

def subscription (e : ServiceEndpoint) : Endpoint :=
  ⟨e.reader.handle, (Node.described e.readerTopic).1, (Node.described e.readerTopic).2⟩

end ServiceEndpoint

namespace Session

variable {GUID : Type} [LinearOrder GUID]

def serviceEndpoints (s : Session GUID) : List ServiceEndpoint := s.clients ++ s.services

def livePublications (s : Session GUID) : List Endpoint :=
  s.publishers.map DDSPublisher.endpoint ++ s.serviceEndpoints.map ServiceEndpoint.publication

def liveSubscriptions (s : Session GUID) : List Endpoint :=
  s.subscriptions.map DDSSubscriber.endpoint ++ s.serviceEndpoints.map ServiceEndpoint.subscription

/-- The caches hold one entry for each live endpoint, with its topic and type, and
the counts count each once. -/
structure Exact (s : Session GUID) : Prop where
  publications : s.node.graph.pubListener.namesAndTypes.Perm
    (s.livePublications.map fun e => (e.topicName, e.typeName))
  subscriptions : s.node.graph.subListener.namesAndTypes.Perm
    (s.liveSubscriptions.map fun e => (e.topicName, e.typeName))
  countPublishers : ∀ topicName count,
    s.node.graph.countPublishers (some topicName) (some count) = ⟨.ok, none,
      some (s.livePublications.countP fun e => Names.demangleIfRosTopic e.topicName = topicName)⟩
  countSubscribers : ∀ topicName count,
    s.node.graph.countSubscribers (some topicName) (some count) = ⟨.ok, none,
      some (s.liveSubscriptions.countP fun e => Names.demangleIfRosTopic e.topicName = topicName)⟩

variable (env : Environment GUID)

structure Tracked (s : Session GUID) : Prop where
  publications : s.node.graph.pubListener.Tracked env (s.publishers.map DDSPublisher.endpoint)
    (s.serviceEndpoints.map ServiceEndpoint.publication) s.node.participant.nextSerial
  subscriptions : s.node.graph.subListener.Tracked env
    (s.subscriptions.map DDSSubscriber.endpoint)
    (s.serviceEndpoints.map ServiceEndpoint.subscription) s.node.participant.nextSerial

variable {env} {s : Session GUID}

theorem Tracked.exact (tracked : s.Tracked env) : s.Exact := by
  have publications := tracked.publications.mirrors.namesAndTypes_perm
  have subscriptions := tracked.subscriptions.mirrors.namesAndTypes_perm
  refine ⟨publications, subscriptions, fun topicName count => ?_, fun topicName count => ?_⟩
  · simp only [OpenDDSNode.countPublishers, OpenDDSNode.countIn,
      CustomDataReaderListener.countTopic_eq, publications.countP_eq, List.countP_map]
    rfl
  · simp only [OpenDDSNode.countSubscribers, OpenDDSNode.countIn,
      CustomDataReaderListener.countTopic_eq, subscriptions.countP_eq, List.countP_map]
    rfl

theorem tracked_create : (create : Session GUID).Tracked env :=
  ⟨CustomDataReaderListener.tracked_create 1, CustomDataReaderListener.tracked_create 1⟩

end Session
end RmwOpendds
