import RmwOpendds.Identifier
import RmwOpendds.Listing
import RmwOpendds.NodeLookup
import RmwOpendds.ServiceQueries

/-! The listings of one node, asked for by its name and namespace: the four functions of
`rmw_node.cpp`, what they call of `OpenDDSNode`, and what they show of the participant
that the lookup finds. -/

namespace RmwOpendds

open Std Library Names

namespace OpenDDSNode

variable {H : Type}

/-- A listing is exact, or an allocation fails: then it fails, leaves the handle
finalised and has released what it allocated. -/
def Listed.Exact (rc : Rcutils H) (requests : List Request) (h : H) (out : Listed H)
    (exact : List (StdString × List StdString) → Prop) : Prop :=
  (rc.serve requests h = some out.heap ∧ out.ret = .ok ∧ ∃ nt rows, out.nt = some nt ∧
    nt.Shows rows ∧ exact rows ∧ rc.live out.heap = nt.blocks + rc.live h) ∨
  (rc.serve requests h = none ∧ out.ret ≠ .ok ∧ out.nt = some .zero ∧
    rc.live out.heap = rc.live h)

theorem exact_ofCopied {rc : Rcutils H} (law : rc.Lawful)
    (rewriteName rewriteType : StdString → StdString) (noName : String) (ntm : TopicsTypes) (h : H)
    {exact : List (StdString × List StdString) → Prop}
    (rows : exact (ntm.toList.map (copiedRow rewriteName rewriteType))) :
    (Listed.ofCopied (copyNamesTypes rc rewriteName rewriteType noName .zero ntm h)).Exact rc
      (copyRequests rewriteName rewriteType ntm) h exact := by
  obtain ⟨served, ok, shows, live⟩ | ⟨refused, failed, finalised, live⟩ :=
    copyNamesTypes_cases law rewriteName rewriteType noName ntm h
  · exact .inl ⟨served, ok, _, _, rfl, shows, rows, live⟩
  · exact .inr ⟨refused, failed, congrArg some finalised, live⟩

/-- The rows are the services with a topic in which the suffix occurs, each once, with
their types; a topic or type that is not of a service does not count. -/
structure ShowsServices (announced : StdString → StdString → Prop) (suffix : StdString)
    (rows : List (StdString × List StdString)) : Prop where
  nodup : (rows.map Prod.fst).Nodup
  mem_names : ∀ s, s ∈ rows.map Prod.fst ↔ s ≠ [] ∧ ∃ t u, announced t u ∧
    demangleServiceFromTopic t = s ∧ suffix <:+: t ∧ demangleServiceTypeOnly u ≠ []
  mem_types : ∀ row ∈ rows, ∀ v, v ∈ row.2 ↔ ∃ t u, announced t u ∧
    demangleServiceFromTopic t = row.1 ∧ suffix <:+: t ∧ demangleServiceTypeOnly u ≠ [] ∧
    stripSamplePrefix (demangleServiceTypeOnly u) = v

end OpenDDSNode

namespace CustomDataReaderListener

variable {GUID : Type*} [LinearOrder GUID]

theorem holds_insertServiceTypes (services : TopicsTypes) (serviceName : StdString)
    (types : List StdString) (s v : StdString) :
    SetMap.Holds (insertServiceTypes services serviceName types) s v ↔
      (∃ u ∈ types, demangleServiceTypeOnly u ≠ [] ∧ serviceName = s ∧
        demangleServiceTypeOnly u = v) ∨ SetMap.Holds services s v := by
  unfold insertServiceTypes
  apply foldl_adds (fun m : TopicsTypes => SetMap.Holds m s v)
    (fun u => demangleServiceTypeOnly u ≠ [] ∧ serviceName = s ∧ demangleServiceTypeOnly u = v)
  intro m u
  by_cases typed : demangleServiceTypeOnly u = []
  · simp [typed]
  · rw [if_pos typed, SetMap.holds_insertAt, and_iff_right typed]

theorem holds_insertService (suffix : StdString) (services : TopicsTypes)
    (it : StdString × ExtTreeSet StdString) (s v : StdString) :
    SetMap.Holds (insertService suffix services it) s v ↔
      (s ≠ [] ∧ demangleServiceFromTopic it.1 = s ∧ suffix <:+: it.1 ∧
        ∃ u ∈ it.2, demangleServiceTypeOnly u ≠ [] ∧ demangleServiceTypeOnly u = v) ∨
      SetMap.Holds services s v := by
  unfold insertService
  by_cases service : demangleServiceFromTopic it.1 = []
  · rw [if_pos service]
    refine (or_iff_right ?_).symm
    rintro ⟨named, same, -⟩
    exact named (same ▸ service)
  · rw [if_neg service]
    by_cases occurs : suffix <:+: it.1
    · rw [if_neg (StdString.rfind_eq_none.not_left.mpr occurs), holds_insertServiceTypes]
      simp only [ExtTreeSet.mem_toList]
      refine or_congr_left ⟨?_, ?_⟩
      · rintro ⟨u, member, typed, rfl, shown⟩
        exact ⟨service, rfl, occurs, u, member, typed, shown⟩
      · rintro ⟨-, same, -, u, member, typed, shown⟩
        exact ⟨u, member, typed, same, shown⟩
    · simp [StdString.rfind_eq_none.mpr occurs, occurs]

theorem holds_yielded (l : CustomDataReaderListener GUID) (p : GUID) (suffix s v : StdString) :
    SetMap.Holds (l.yielded p suffix) s v ↔ s ≠ [] ∧ ∃ t u, l.Announces (· = p) t u ∧
      demangleServiceFromTopic t = s ∧ suffix <:+: t ∧ demangleServiceTypeOnly u ≠ [] ∧
      demangleServiceTypeOnly u = v := by
  rw [yielded, fillServiceNamesAndTypesByGuid, foldl_adds (fun m : TopicsTypes =>
    SetMap.Holds m s v) _ fun m it => holds_insertService suffix m it s v,
    or_iff_left (SetMap.not_holds_empty s v)]
  simp only [Announces, ← l.wellFormed.holds_getTopicTypesByGuid, Prod.exists,
    ExtTreeMap.mem_toList_iff_getElem?_eq_some]
  constructor
  · rintro ⟨t, types, slot, named, same, occurs, u, member, typed, shown⟩
    exact ⟨named, t, u, ⟨types, slot, member⟩, same, occurs, typed, shown⟩
  · rintro ⟨named, t, u, ⟨types, slot, member⟩, same, occurs, typed, shown⟩
    exact ⟨t, types, slot, named, same, occurs, u, member, typed, shown⟩

theorem noEmpty_yielded (l : CustomDataReaderListener GUID) (p : GUID) (suffix : StdString) :
    SetMap.NoEmpty (l.yielded p suffix) := by
  refine List.foldlRecOn _ _ SetMap.noEmpty_empty fun m noEmpty it _ => ?_
  unfold insertService
  dsimp only
  split
  · exact noEmpty
  · split
    · exact noEmpty
    · refine List.foldlRecOn _ _ noEmpty fun m noEmpty u _ => ?_
      dsimp only
      split
      · exact SetMap.noEmpty_insertAt noEmpty _ _
      · exact noEmpty

theorem showsServices (l : CustomDataReaderListener GUID) (p : GUID) (suffix : StdString) :
    OpenDDSNode.ShowsServices (l.Announces (· = p)) suffix
      ((l.yielded p suffix).toList.map (copiedRow id OpenDDSNode.stripSamplePrefix)) := by
  have noEmpty := l.noEmpty_yielded p suffix
  have holds := l.holds_yielded p suffix
  constructor
  · exact nodup_names_copiedRow _ _ fun _ _ _ _ => id
  · intro s
    rw [mem_names_copiedRow _ _ noEmpty]
    simp only [holds, id_eq]
    constructor
    · rintro ⟨_, rfl, v, named, t, u, announced, same, occurs, typed, -⟩
      exact ⟨named, t, u, announced, same, occurs, typed⟩
    · rintro ⟨named, t, u, announced, same, occurs, typed⟩
      exact ⟨s, rfl, _, named, t, u, announced, same, occurs, typed, rfl⟩
  · intro row member v
    have named : row.1 ≠ [] := by
      obtain ⟨_, rfl, w, held⟩ := (mem_names_copiedRow _ _ noEmpty _).mp
        (List.mem_map_of_mem member)
      exact ((holds _ w).mp held).1
    obtain ⟨s, rfl, -, types⟩ := mem_types_copiedRow _ _ member
    simp only [types, holds]
    constructor
    · rintro ⟨w, ⟨-, t, u, announced, same, occurs, typed, rfl⟩, shown⟩
      exact ⟨t, u, announced, same, occurs, typed, shown⟩
    · rintro ⟨t, u, announced, same, occurs, typed, shown⟩
      exact ⟨_, ⟨named, t, u, announced, same, occurs, typed, rfl⟩, shown⟩

end CustomDataReaderListener

structure QueriedNode (Handle Key GUID : Type) [LinearOrder GUID] where
  graph : OpenDDSNode GUID
  ids : Identities Handle Key GUID
  participant : LookupParticipant Handle Key

namespace QueriedNode

open OpenDDSNode

variable {Handle Key GUID : Type} [LinearOrder GUID] {H : Type} (rc : Rcutils H)
  (parseKeyValue : StdString → ExtTreeMap StdString StdString)

/-- The call of `get_key` in these functions: the key is not initialised before it. -/
def query (n : QueriedNode Handle Key GUID) (uninitialised : GUID)
    (nodeName nodeNamespace : StdString) : NodeQuery Handle Key GUID :=
  ⟨n.ids, parseKeyValue, n.participant, uninitialised, nodeName, nodeNamespace⟩

structure ByNode (GUID : Type) where
  nodeName : Option StdString
  nodeNamespace : Option StdString
  nt : Option NamesAndTypes
  uninitialised : GUID

/-- The common body of `get_pub_names_types` and `get_sub_names_types`. -/
def getEndpointNamesTypes (n : QueriedNode Handle Key GUID) (entityType : EntityType)
    (args : ByNode GUID) (noDemangle : Bool) (h : H) : Listed H :=
  match rc.namesAndTypesCheckZero args.nt, args.nt with
  | .ok, some nt =>
    match validateNameNamespace args.nodeName args.nodeNamespace with
    | .error text => ⟨.invalidArgument, some text, some nt, h⟩
    | .ok (nodeName, nodeNamespace) =>
      match (n.query parseKeyValue args.uninitialised nodeName nodeNamespace).getKey with
      | ⟨.ok, _, key⟩ =>
        let ntm := (n.graph.listener entityType).fillTopicNamesAndTypesByGuid noDemangle ∅ key
        .ofCopied (copyTopicNamesTypes rc nt ntm noDemangle h)
      | ⟨ret, error, _⟩ => ⟨ret, error, some nt, h⟩
  | ret, nt => ⟨ret, none, nt, h⟩

def getPubNamesTypes (n : QueriedNode Handle Key GUID) (args : ByNode GUID) (noDemangle : Bool)
    (h : H) : Listed H :=
  n.getEndpointNamesTypes rc parseKeyValue .publisher args noDemangle h

def getSubNamesTypes (n : QueriedNode Handle Key GUID) (args : ByNode GUID) (noDemangle : Bool)
    (h : H) : Listed H :=
  n.getEndpointNamesTypes rc parseKeyValue .subscriber args noDemangle h

/-- `get_service_names_types` of one node; it looks at the subscriptions. -/
def getServiceNamesTypes (n : QueriedNode Handle Key GUID) (args : ByNode GUID)
    (suffix : StdString) (allocatorGiven : Bool) (h : H) : Listed H :=
  match rc.namesAndTypesCheckZero args.nt, args.nt with
  | .ok, some nt =>
    match validateNameNamespace args.nodeName args.nodeNamespace with
    | .error text => ⟨.invalidArgument, some text, some nt, h⟩
    | .ok (nodeName, nodeNamespace) =>
      if !allocatorGiven then ⟨.invalidArgument, some "allocator is null", some nt, h⟩
      else
        match (n.query parseKeyValue args.uninitialised nodeName nodeNamespace).getKey with
        | ⟨.ok, _, key⟩ =>
          .ofCopied (copyServiceNamesTypes rc nt
            (n.graph.subListener.fillServiceNamesAndTypesByGuid ∅ key suffix) h)
        | ⟨ret, error, _⟩ => ⟨ret, error, some nt, h⟩
  | ret, nt => ⟨ret, none, nt, h⟩

def through (handle : Option (RmwHandle (QueriedNode Handle Key GUID))) (args : ByNode GUID)
    (h : H) (call : QueriedNode Handle Key GUID → Listed H) : Listed H :=
  match RmwHandle.fromHandle "node is null" "dds_node is null" handle with
  | .error text => ⟨.invalidArgument, some text, args.nt, h⟩
  | .ok node => call node

variable (handle : Option (RmwHandle (QueriedNode Handle Key GUID))) (args : ByNode GUID)

def rmwGetPublisherNamesAndTypesByNode (noDemangle : Bool) (h : H) : Listed H :=
  through handle args h fun node => node.getPubNamesTypes rc parseKeyValue args noDemangle h

def rmwGetSubscriberNamesAndTypesByNode (noDemangle : Bool) (h : H) : Listed H :=
  through handle args h fun node => node.getSubNamesTypes rc parseKeyValue args noDemangle h

def rmwGetServiceNamesAndTypesByNode (allocatorGiven : Bool) (h : H) : Listed H :=
  through handle args h fun node =>
    node.getServiceNamesTypes rc parseKeyValue args "Request".toList allocatorGiven h

def rmwGetClientNamesAndTypesByNode (allocatorGiven : Bool) (h : H) : Listed H :=
  through handle args h fun node =>
    node.getServiceNamesTypes rc parseKeyValue args "Reply".toList allocatorGiven h

def rmwGetTopicsByNode : EntityType → Bool → H → Listed H
  | .publisher => rmwGetPublisherNamesAndTypesByNode rc parseKeyValue handle args
  | .subscriber => rmwGetSubscriberNamesAndTypesByNode rc parseKeyValue handle args

inductive Side where
  | server | client
  deriving DecidableEq, Repr

def Side.suffix : Side → StdString
  | .server => "Request".toList
  | .client => "Reply".toList

def rmwGetServicesByNode : Side → Bool → H → Listed H
  | .server => rmwGetServiceNamesAndTypesByNode rc parseKeyValue handle args
  | .client => rmwGetClientNamesAndTypesByNode rc parseKeyValue handle args

end QueriedNode
end RmwOpendds
