import RmwOpendds.ReturnCodes
import RmwOpendds.Names
import RmwOpendds.TopicCacheInvariant

/-! `CustomDataReaderListener` and its two subclasses, which differ in the
entity type they pass on and in the texts they print. A listener carries the
invariant of its cache, since its methods are all that touches it; a listener
method is atomic, as it holds `mutex_`. `get_repoid` and the contents of a
built-in topic key belong to the DDS implementation and are parameters. -/

namespace RmwOpendds

open Std Library

inductive EntityType where
  | publisher | subscriber
  deriving DecidableEq, Repr

inductive InstanceState where
  | alive | notAliveDisposed | notAliveNoWriters
  deriving DecidableEq, Repr

/-- The identities as the participant gives them: `dpi->get_repoid` and
`DDS_BuiltinTopicKey_to_GUID`. -/
structure Identities (Handle Key GUID : Type*) where
  getRepoid : Handle → GUID
  builtinTopicKeyToGuid : Key → GUID

/-- One element of `data_seq` with its element of `info_seq`. -/
structure BuiltinSample (Handle Key : Type*) where
  publicationHandle : Handle
  validData : Bool
  instanceState : InstanceState
  participantKey : Key
  topicName : StdString
  typeName : StdString
  deriving DecidableEq, Repr

/-- What `on_data_available` meets: a reader that does not narrow, or the
outcome of `take`. -/
inductive BuiltinTake (Handle Key : Type*) where
  | notNarrowed
  | taken (retcode : ReturnCode) (samples : List (BuiltinSample Handle Key))
  deriving DecidableEq, Repr

@[ext] structure CustomDataReaderListener (GUID : Type*) [LinearOrder GUID] where
  topicCache : TopicCache GUID
  wellFormed : topicCache.WellFormed

namespace CustomDataReaderListener

variable {GUID Handle Key : Type*} [LinearOrder GUID]

def create : CustomDataReaderListener GUID := ⟨.empty, .empty⟩

structure Update (GUID : Type*) [LinearOrder GUID] where
  success : Bool
  listener : CustomDataReaderListener GUID

def addInformation (l : CustomDataReaderListener GUID) (participantGuid guid : GUID)
    (topicName typeName : StdString) (_entityType : EntityType) : Update GUID where
  success := (l.topicCache.addTopic participantGuid guid topicName typeName).changed
  listener := ⟨_, l.wellFormed.addTopic participantGuid guid topicName typeName⟩

def removeInformation (l : CustomDataReaderListener GUID) (guid : GUID)
    (_entityType : EntityType) : Update GUID where
  success := (l.topicCache.removeTopic guid).changed
  listener := ⟨_, l.wellFormed.removeTopic guid⟩

theorem removeInformation_listener (l : CustomDataReaderListener GUID) (guid : GUID)
    (entityType : EntityType) (refused : (l.removeInformation guid entityType).success = false) :
    (l.removeInformation guid entityType).listener = l := by
  have unknown : l.topicCache.endpointGuidToInfo[guid]? = none := by
    have law := (l.wellFormed.changed_removeTopic guid).not
    rw [ExtTreeMap.mem_iff_isSome_getElem?, Option.not_isSome_iff_eq_none] at law
    exact law.mp (by simpa [removeInformation] using refused)
  ext1
  change (l.topicCache.removeTopic guid).cache = l.topicCache
  rw [TopicCache.removeTopic_unknown _ unknown]

def handleSample (ids : Identities Handle Key GUID) (entityType : EntityType)
    (l : CustomDataReaderListener GUID) (s : BuiltinSample Handle Key) :
    CustomDataReaderListener GUID :=
  let guid := ids.getRepoid s.publicationHandle
  if s.validData && s.instanceState = .alive then
    (l.addInformation (ids.builtinTopicKeyToGuid s.participantKey) guid s.topicName s.typeName
      entityType).listener
  else (l.removeInformation guid entityType).listener

/-- The listener after `on_data_available`, whether it triggers the graph guard
condition, and what it prints. -/
structure DataAvailable (GUID : Type*) [LinearOrder GUID] where
  listener : CustomDataReaderListener GUID
  triggered : Bool
  stderr : Option String

def narrowFailure : EntityType → String
  | .publisher => "failed to narrow to DDS::PublicationBuiltinTopicDataDataReader\n"
  | .subscriber => "failed to narrow to DDS::SubscriptionBuiltinTopicDataDataReader\n"

/-- `CustomPublisherListener::on_data_available` and, with the other entity
type, `CustomSubscriberListener::on_data_available` -/
def onDataAvailable (ids : Identities Handle Key GUID) (entityType : EntityType)
    (l : CustomDataReaderListener GUID) : BuiltinTake Handle Key → DataAvailable GUID
  | .notNarrowed => ⟨l, false, some (narrowFailure entityType)⟩
  | .taken .noData _ => ⟨l, false, none⟩
  | .taken .ok samples =>
    ⟨samples.foldl (handleSample ids entityType) l, decide (0 < samples.length), none⟩
  | .taken _ _ => ⟨l, false, some "failed to access data from the built-in reader\n"⟩

def countTopic (l : CustomDataReaderListener GUID) (topicName : StdString) : Nat :=
  l.topicCache.endpointGuidToInfo.toList.countP fun tnt =>
    Names.demangleIfRosTopic tnt.2.topicName = topicName

/-- What is pushed back are pointers to the entries; this is what they point to then. -/
def fillTopicEndpointInfos (l : CustomDataReaderListener GUID) (topicName : StdString)
    (noMangle : Bool) (topicEndpointInfos : List (TopicInfo GUID)) : List (TopicInfo GUID) :=
  l.topicCache.endpointGuidToInfo.toList.foldl (fun infos keyVal =>
    let fqdn :=
      if noMangle then keyVal.2.topicName else Names.demangleIfRosTopic keyVal.2.topicName
    if fqdn = topicName then infos ++ [keyVal.2] else infos) topicEndpointInfos

def fillTopicNamesAndTypes (l : CustomDataReaderListener GUID) (noDemangle : Bool)
    (topicNamesToTypes : TopicsTypes) : TopicsTypes :=
  l.topicCache.endpointGuidToInfo.toList.foldl (fun m it =>
    if !noDemangle && Names.getRosPrefixIfExists it.2.topicName ≠ Names.rosTopicPrefix then m
    else m.insertAt it.2.topicName it.2.topicType) topicNamesToTypes

def insertServiceNameAndType (services : TopicsTypes) (info : TopicInfo GUID) : TopicsTypes :=
  let serviceName := Names.demangleServiceFromTopic info.topicName
  if serviceName = [] then services
  else
    let serviceType := Names.demangleServiceTypeOnly info.topicType
    if serviceType ≠ [] then services.insertAt serviceName serviceType else services

/-- The one query that does not take the lock. -/
def fillServiceNamesAndTypes (l : CustomDataReaderListener GUID) (services : TopicsTypes) :
    TopicsTypes :=
  l.topicCache.endpointGuidToInfo.toList.foldl (fun m it => insertServiceNameAndType m it.2)
    services

def fillTopicNamesAndTypesByGuid (l : CustomDataReaderListener GUID) (noDemangle : Bool)
    (topicNamesToTypesByGuid : TopicsTypes) (participantGuid : GUID) : TopicsTypes :=
  (l.topicCache.getTopicTypesByGuid participantGuid).toList.foldl (fun m it =>
    if !noDemangle && Names.getRosPrefixIfExists it.1 ≠ Names.rosTopicPrefix then m
    else m.insert it.1 (m.setAt it.1 ∪ it.2)) topicNamesToTypesByGuid

def insertServiceTypes (services : TopicsTypes) (serviceName : StdString)
    (types : List StdString) : TopicsTypes :=
  types.foldl (fun m itt =>
    let serviceType := Names.demangleServiceTypeOnly itt
    if serviceType ≠ [] then m.insertAt serviceName serviceType else m) services

def insertService (suffix : StdString) (services : TopicsTypes)
    (it : StdString × ExtTreeSet StdString) : TopicsTypes :=
  let serviceName := Names.demangleServiceFromTopic it.1
  if serviceName = [] then services
  else if StdString.rfind suffix it.1 = none then services
  else insertServiceTypes services serviceName it.2.toList

def fillServiceNamesAndTypesByGuid (l : CustomDataReaderListener GUID) (services : TopicsTypes)
    (participantGuid : GUID) (suffix : StdString) : TopicsTypes :=
  (l.topicCache.getTopicTypesByGuid participantGuid).toList.foldl (insertService suffix) services

end CustomDataReaderListener
end RmwOpendds
