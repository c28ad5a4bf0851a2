import RmwOpendds.Library.Machine
import RmwOpendds.Library.OrderedMap
import RmwOpendds.Library.StdString

/-! `TopicCache<GUID_t>` of `topic_cache.hpp`. `GUID_tKeyLessThan` is the strict
order of a linear order on `GUID`; `std::map` is an extensional ordered map and
`std::multiset` a multiset. The debug stream of `add_topic` writes no state and
is left out; the warnings are kept, since they tell the early returns apart. -/

namespace RmwOpendds

open Std Library

abbrev TopicsTypes := SetMap StdString StdString

structure TopicInfo (GUID : Type*) where
  topicName : StdString
  topicType : StdString
  participantGuid : GUID
  endpointGuid : GUID
  deriving DecidableEq, Repr

@[ext] structure TopicCache (GUID : Type*) [LinearOrder GUID] where
  endpointGuidToInfo : ExtTreeMap GUID (TopicInfo GUID)
  participantToEndpointGuids : ExtTreeMap GUID (Multiset GUID)

namespace TopicCache

inductive Warning where
  | addedTwice
  | unexpectedRemoval
  | participantMissing (topicName typeName : StdString)
  | guidMissing (topicName typeName : StdString)
  deriving DecidableEq, Repr

def Warning.text : Warning → String
  | .addedTwice => "unique topic attempted to be added twice, ignoring"
  | .unexpectedRemoval => "unexpected topic removal."
  | .participantMissing topicName typeName =>
    "Unable to remove topic, participant guid does not exist for topic name '" ++
      String.ofList topicName ++ "' with type '" ++ String.ofList typeName ++ "'"
  | .guidMissing topicName typeName =>
    "Unable to remove topic, topic guid does not exist in participant guid: topic name '" ++
      String.ofList topicName ++ "' with type '" ++ String.ofList typeName ++ "'"

variable {GUID : Type*} [LinearOrder GUID]

/-- The outcome of a mutating call: the returned bool (true if a change has
been recorded), the warning it logs, and the cache after it. -/
structure Outcome (GUID : Type*) [LinearOrder GUID] where
  changed : Bool
  warning : Option Warning
  cache : TopicCache GUID

def empty : TopicCache GUID := ⟨∅, ∅⟩

def initializeParticipantMap (map : ExtTreeMap GUID (Multiset GUID)) (participantGuid : GUID) :
    ExtTreeMap GUID (Multiset GUID) :=
  if participantGuid ∈ map then map else map.insert participantGuid 0

def addTopic (c : TopicCache GUID) (participantGuid endpointGuid : GUID)
    (topicName typeName : StdString) : Outcome GUID :=
  let participants := initializeParticipantMap c.participantToEndpointGuids participantGuid
  match c.endpointGuidToInfo[endpointGuid]? with
  | some _ =>
    -- the slot created above stays, although nothing is added to it
    ⟨false, some .addedTwice, { c with participantToEndpointGuids := participants }⟩
  | none =>
    ⟨true, none,
      { endpointGuidToInfo := c.endpointGuidToInfo.insert endpointGuid
          ⟨topicName, typeName, participantGuid, endpointGuid⟩
        participantToEndpointGuids := participants.insert participantGuid
          (endpointGuid ::ₘ participants.getD participantGuid 0) }⟩

def removeTopic (c : TopicCache GUID) (endpointGuid : GUID) : Outcome GUID :=
  match c.endpointGuidToInfo[endpointGuid]? with
  | none => ⟨false, some .unexpectedRemoval, c⟩
  | some info =>
    match c.participantToEndpointGuids[info.participantGuid]? with
    | none => ⟨false, some (.participantMissing info.topicName info.topicType), c⟩
    | some guids =>
      if endpointGuid ∈ guids then
        let rest := guids.erase endpointGuid
        ⟨true, none,
          { endpointGuidToInfo := c.endpointGuidToInfo.erase endpointGuid
            participantToEndpointGuids :=
              if rest = 0 then c.participantToEndpointGuids.erase info.participantGuid
              else c.participantToEndpointGuids.insert info.participantGuid rest }⟩
      else ⟨false, some (.guidMissing info.topicName info.topicType), c⟩

def insertTopicType (c : TopicCache GUID) (topicsTypes : TopicsTypes) (endpointGuid : GUID) :
    TopicsTypes :=
  match c.endpointGuidToInfo[endpointGuid]? with
  | none => topicsTypes
  | some info => topicsTypes.insertAt info.topicName info.topicType

/-- The loop may visit a multiset in any order: its passes commute. -/
instance (c : TopicCache GUID) : RightCommutative c.insertTopicType where
  right_comm topicsTypes e e' := by
    simp only [insertTopicType]
    cases c.endpointGuidToInfo[e]? <;> cases c.endpointGuidToInfo[e']? <;> try rfl
    exact SetMap.insertAt_comm _ _ _ _ _

def getTopicTypesByGuid (c : TopicCache GUID) (participantGuid : GUID) : TopicsTypes :=
  match c.participantToEndpointGuids[participantGuid]? with
  | none => ∅
  | some guids => guids.foldl c.insertTopicType ∅

end TopicCache
end RmwOpendds
