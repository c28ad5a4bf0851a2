import RmwOpendds.Identifier
import RmwOpendds.Library.Exits
import RmwOpendds.OpenDDSNode

/-! `topic_endpoint_info.cpp`. The functions of rmw on arrays of endpoint infos and
`parse_key_value` are parameters, as is what the participant has discovered. User
data is read as a string of its octets. The pointers that the listener collects
are read while the cache is as it was. -/

namespace RmwOpendds

open Std Library

inductive EndpointType where
  | invalid | publisher | subscription
  deriving DecidableEq, Repr

/-- `rmw_topic_endpoint_info_t` without its QoS profile, which is not set. -/
structure RmwTopicEndpointInfo where
  nodeName : Option StdString
  nodeNamespace : Option StdString
  topicType : Option StdString
  endpointType : EndpointType
  endpointGid : List UInt8
  deriving DecidableEq, Repr

abbrev RmwTopicEndpointInfoArray := List RmwTopicEndpointInfo

structure EndpointInfoFunctions (H : Type) where
  arrayCheckZero : RmwTopicEndpointInfoArray → RmwRet
  arrayInitWithSize : ℕ → RmwTopicEndpointInfoArray → H → RmwRet × RmwTopicEndpointInfoArray × H
  arrayFini : RmwTopicEndpointInfoArray → H → RmwRet × RmwTopicEndpointInfoArray × H
  setEndpointType : EndpointType → RmwTopicEndpointInfo → H → RmwRet × RmwTopicEndpointInfo × H
  setGid : List UInt8 → ℕ → RmwTopicEndpointInfo → H → RmwRet × RmwTopicEndpointInfo × H
  setTopicType : StdString → RmwTopicEndpointInfo → H → RmwRet × RmwTopicEndpointInfo × H
  setNodeName : StdString → RmwTopicEndpointInfo → H → RmwRet × RmwTopicEndpointInfo × H
  setNodeNamespace : StdString → RmwTopicEndpointInfo → H → RmwRet × RmwTopicEndpointInfo × H
  errorString : H → String

def gidStorageSize : ℕ := 24

/-- The functions where they succeed: the array has the size, a setter sets its field. -/
structure EndpointInfoFunctions.Lawful {H : Type} (fns : EndpointInfoFunctions H) : Prop where
  arrayInitWithSize : ∀ size array h, (fns.arrayInitWithSize size array h).1 = .ok →
    (fns.arrayInitWithSize size array h).2.1.length = size
  setEndpointType : ∀ type info h, (fns.setEndpointType type info h).1 = .ok →
    (fns.setEndpointType type info h).2.1 = { info with endpointType := type }
  setGid : ∀ gid size info h, (fns.setGid gid size info h).1 = .ok →
    (fns.setGid gid size info h).2.1 = { info with
      endpointGid := gid.take size ++ List.replicate (gidStorageSize - size) 0 }
  setTopicType : ∀ s info h, (fns.setTopicType s info h).1 = .ok →
    (fns.setTopicType s info h).2.1 = { info with topicType := some s }
  setNodeName : ∀ s info h, (fns.setNodeName s info h).1 = .ok →
    (fns.setNodeName s info h).2.1 = { info with nodeName := some s }
  setNodeNamespace : ∀ s info h, (fns.setNodeNamespace s info h).1 = .ok →
    (fns.setNodeNamespace s info h).2.1 = { info with nodeNamespace := some s }

structure ParticipantNameInfo where
  name : StdString
  namespace_ : StdString
  deriving DecidableEq, Repr

/-- `DDS::ParticipantBuiltinTopicData`; a null buffer of user data is `none`. -/
structure ParticipantBuiltinTopicData (Key : Type*) where
  key : Key
  userData : Option StdString

structure DomainParticipant (Handle Key : Type*) where
  instanceHandle : Handle
  discoveredParticipants : ReturnCode × List Handle
  discoveredParticipantData : Handle → ReturnCode × ParticipantBuiltinTopicData Key

/-- `rmw_node_t`, its data being an `OpenDDSNode` with its participant. -/
structure RmwNode (GUID Handle Key : Type*) [LinearOrder GUID] where
  name : StdString
  namespace_ : StdString
  handle : RmwHandle (OpenDDSNode GUID × DomainParticipant Handle Key)

/-- `parse_key_value`, and the octets of a GUID in memory. -/
structure UserDataFormat (GUID : Type*) where
  parseKeyValue : StdString → ExtTreeMap StdString StdString
  octets : GUID → List UInt8
  octets_length : ∀ guid, (octets guid).length = 16
  octets_injective : Function.Injective octets

/-- `c_str()` as it is read: up to the first null character. -/
def cStr (s : StdString) : StdString := s.takeWhile (· ≠ Char.ofNat 0)

variable {GUID Handle Key : Type} [LinearOrder GUID] {H : Type}

def getTopicFqdns (topicName : StdString) (noMangle : Bool) : List StdString :=
  topicName :: if noMangle then [] else Names.rosPrefixes.map (· ++ topicName)

def CustomDataReaderListener.collectInfos (l : CustomDataReaderListener GUID)
    (topicFqdns : List StdString) (noMangle : Bool) : List (TopicInfo GUID) :=
  topicFqdns.foldl (fun infos fqdn => l.fillTopicEndpointInfos fqdn noMangle infos) []

def OpenDDSNode.slaveTarget (ddsNode : OpenDDSNode GUID) (isPublisher : Bool) :
    CustomDataReaderListener GUID :=
  if isPublisher then ddsNode.pubListener else ddsNode.subListener

section Names

variable (ids : Identities Handle Key GUID) (format : UserDataFormat GUID)
  (participant : DomainParticipant Handle Key)

def userDataNames (data : ParticipantBuiltinTopicData Key) : Option ParticipantNameInfo :=
  match data.userData with
  | none => none
  | some kv =>
    let map := format.parseKeyValue kv
    match map["name".toList]?, map["namespace".toList]? with
    | some name, some namespace_ => some ⟨name, namespace_⟩
    | _, _ => none

def addParticipantName (names : ExtTreeMap GUID ParticipantNameInfo) (handle : Handle) :
    Except String (ExtTreeMap GUID ParticipantNameInfo) :=
  match participant.discoveredParticipantData handle with
  | (.ok, pbtd) =>
    match userDataNames format pbtd with
    | some info => .ok (names.insert (ids.builtinTopicKeyToGuid pbtd.key) info)
    | none => .ok names
  | _ => .error "unable to fetch data on discovered participant."

/-- `participant_guid_to_name`: the node's own participant, and those discovered. -/
def participantGuidToName (own : ParticipantNameInfo) :
    Except String (ExtTreeMap GUID ParticipantNameInfo) :=
  match participant.discoveredParticipants with
  | (.ok, handles) =>
    handles.foldlM (addParticipantName ids format participant)
      (ExtTreeMap.insert ∅ (ids.getRepoid participant.instanceHandle) own)
  | _ => .error "unable to fetch discovered participants."

end Names

section Fill

variable (fns : EndpointInfoFunctions H)

def setField (f : RmwTopicEndpointInfo → H → RmwRet × RmwTopicEndpointInfo × H) :
    EStateM RmwRet (RmwTopicEndpointInfo × H) PUnit := fun (info, h) =>
  match f info h with
  | (ret, info, h) => if ret = .ok then .ok ⟨⟩ (info, h) else .error ret (info, h)

def setRmwTopicEndpointInfo (format : UserDataFormat GUID)
    (names : ExtTreeMap GUID ParticipantNameInfo) (noMangle isPublisher : Bool)
    (info : TopicInfo GUID) : EStateM RmwRet (RmwTopicEndpointInfo × H) PUnit := do
  setField (fns.setEndpointType (if isPublisher then .publisher else .subscription))
  let gid := format.octets info.endpointGuid ++ List.replicate (gidStorageSize - 16) 0
  setField (fns.setGid gid 16)
  setField (fns.setTopicType
    (if noMangle then info.topicType else Names.demangleIfRosType info.topicType))
  match names[info.participantGuid]? with
  | none =>
    setField (fns.setNodeName "_NODE_NAME_UNKNOWN_".toList)
    setField (fns.setNodeNamespace "_NODE_NAMESPACE_UNKNOWN_".toList)
  | some nameInfo =>
    setField (fns.setNodeName (cStr nameInfo.name))
    setField (fns.setNodeNamespace (cStr nameInfo.namespace_))

def RmwTopicEndpointInfo.zero : RmwTopicEndpointInfo := ⟨none, none, none, .invalid, []⟩

def setInfos (set : TopicInfo GUID → EStateM RmwRet (RmwTopicEndpointInfo × H) PUnit) :
    List (TopicInfo GUID) → ℕ → EStateM RmwRet (RmwTopicEndpointInfoArray × H) PUnit
  | [], _ => pure ⟨⟩
  | info :: infos, i => do
    onPart (fun s => (s.1.getD i .zero, s.2)) (fun s t => (s.1.set i t.1, t.2)) (set info)
    setInfos set infos (i + 1)

structure InfoByTopic (H : Type) where
  ret : RmwRet
  error : Option String
  participantsInfo : Option RmwTopicEndpointInfoArray
  heap : H

def returnInfos (set : TopicInfo GUID → EStateM RmwRet (RmwTopicEndpointInfo × H) PUnit)
    (infos : List (TopicInfo GUID)) (array : RmwTopicEndpointInfoArray) (h : H) : InfoByTopic H :=
  match fns.arrayInitWithSize infos.length array h with
  | (ret, array, h) =>
    if ret ≠ .ok then
      ⟨ret, some ("rmw_topic_endpoint_info_array_init_with_size failed to allocate memory: " ++
        fns.errorString h), some array, h⟩
    else
      match (setInfos set infos 0).run (array, h) with
      | .ok _ (array, h) => ⟨.ok, none, some array, h⟩
      | .error rmwRet (array, h) =>
        match fns.arrayFini array h with
        | (ret, array, h) =>
          ⟨rmwRet, if ret = .ok then none
            else some "unable to fini rmw_topic_endpoint_info_array_t \"participants_info\".",
            some array, h⟩

def validateParams {Node : Type} (node : Option Node) (allocatorGiven : Bool)
    (topicName : Option StdString) (participantsInfo : Option RmwTopicEndpointInfoArray) :
    Except (RmwRet × Option String) (Node × StdString × RmwTopicEndpointInfoArray) :=
  match node with
  | none => .error (.error, some "node argument is null")
  | some node =>
    match topicName with
    | none => .error (.error, some "topic_name argument is null")
    | some topicName =>
      if allocatorGiven then
        match participantsInfo with
        | none => .error (.error, some "participants_info argument is null")
        | some array =>
          match fns.arrayCheckZero array with
          | .ok => .ok (node, topicName, array)
          | ret => .error (ret, none)
      else .error (.error, some "allocator argument is null")

variable (ids : Identities Handle Key GUID) (format : UserDataFormat GUID)

def getInfoByTopic (node : Option (RmwNode GUID Handle Key)) (allocatorGiven : Bool)
    (topicName : Option StdString) (noMangle isPublisher : Bool)
    (participantsInfo : Option RmwTopicEndpointInfoArray) (h : H) : InfoByTopic H :=
  match validateParams fns node allocatorGiven topicName participantsInfo with
  | .error (ret, error) => ⟨ret, error, participantsInfo, h⟩
  | .ok (node, topicName, array) =>
    match RmwHandle.fromHandle "node is null" "dds_node is null" (some node.handle) with
    | .error text => ⟨.error, some text, some array, h⟩
    | .ok (ddsNode, participant) =>
      match participantGuidToName ids format participant ⟨node.name, node.namespace_⟩ with
      | .error text => ⟨.error, some text, some array, h⟩
      | .ok names =>
        returnInfos fns (setRmwTopicEndpointInfo fns format names noMangle isPublisher)
          ((ddsNode.slaveTarget isPublisher).collectInfos (getTopicFqdns topicName noMangle)
            noMangle)
          array h

def getPublishersInfoByTopic (node : Option (RmwNode GUID Handle Key)) (allocatorGiven : Bool)
    (topicName : Option StdString) (noMangle : Bool)
    (publishersInfo : Option RmwTopicEndpointInfoArray) (h : H) : InfoByTopic H :=
  getInfoByTopic fns ids format node allocatorGiven topicName noMangle true publishersInfo h

def getSubscriptionsInfoByTopic (node : Option (RmwNode GUID Handle Key)) (allocatorGiven : Bool)
    (topicName : Option StdString) (noMangle : Bool)
    (subscriptionsInfo : Option RmwTopicEndpointInfoArray) (h : H) : InfoByTopic H :=
  getInfoByTopic fns ids format node allocatorGiven topicName noMangle false subscriptionsInfo h

end Fill
end RmwOpendds
