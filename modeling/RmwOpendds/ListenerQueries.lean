import RmwOpendds.TopicCacheQueries
import RmwOpendds.Listener

/-! The names and types that a listener fills in, for all participants and for
one: both queries as relations between topics and types, and their agreement. -/

namespace RmwOpendds.CustomDataReaderListener

open Std Library

variable {GUID : Type*} [LinearOrder GUID]

def Announces (l : CustomDataReaderListener GUID) (participants : GUID → Prop)
    (topicName typeName : StdString) : Prop :=
  ∃ (e : GUID) (info : TopicInfo GUID), l.topicCache.endpointGuidToInfo[e]? = some info ∧
    participants info.participantGuid ∧ info.topicName = topicName ∧ info.topicType = typeName

/-- The filter of both queries: with demangling, ROS topics only. -/
def Passes (noDemangle : Bool) (topicName : StdString) : Prop :=
  noDemangle = true ∨ Names.getRosPrefixIfExists topicName = Names.rosTopicPrefix

theorem not_passes {noDemangle : Bool} {topicName : StdString} :
    ¬ Passes noDemangle topicName ↔
      !noDemangle && Names.getRosPrefixIfExists topicName ≠ Names.rosTopicPrefix := by
  cases noDemangle <;> simp [Passes]

theorem holds_fillTopicNamesAndTypes (l : CustomDataReaderListener GUID) (noDemangle : Bool)
    (m : TopicsTypes) (t u : StdString) :
    SetMap.Holds (l.fillTopicNamesAndTypes noDemangle m) t u ↔
      (Passes noDemangle t ∧ l.Announces (fun _ => True) t u) ∨ SetMap.Holds m t u := by
  unfold fillTopicNamesAndTypes
  rw [foldl_adds (fun m : TopicsTypes => SetMap.Holds m t u)
    (fun it => Passes noDemangle t ∧ it.2.topicName = t ∧ it.2.topicType = u)]
  · refine or_congr_left ?_
    simp only [Announces, Prod.exists, ExtTreeMap.mem_toList_iff_getElem?_eq_some, true_and]
    constructor
    · rintro ⟨e, info, found, passes, named, typed⟩
      exact ⟨passes, e, info, found, named, typed⟩
    · rintro ⟨passes, e, info, found, named, typed⟩
      exact ⟨e, info, found, passes, named, typed⟩
  · intro m it
    split
    · rename_i filtered
      refine (or_iff_right ?_).symm
      rintro ⟨passes, rfl, -⟩
      exact not_passes.mpr filtered passes
    · rename_i kept
      rw [← not_passes, not_not] at kept
      rw [SetMap.holds_insertAt]
      refine or_congr_left ⟨?_, And.right⟩
      rintro ⟨rfl, rfl⟩
      exact ⟨kept, rfl, rfl⟩

theorem noEmpty_fillTopicNamesAndTypes (l : CustomDataReaderListener GUID) (noDemangle : Bool)
    {m : TopicsTypes} (h : m.NoEmpty) :
    SetMap.NoEmpty (l.fillTopicNamesAndTypes noDemangle m) := by
  refine List.foldlRecOn _ _ h fun m noEmpty it _ => ?_
  split
  · exact noEmpty
  · exact SetMap.noEmpty_insertAt noEmpty _ _

theorem holds_fillTopicNamesAndTypesByGuid (l : CustomDataReaderListener GUID)
    (noDemangle : Bool) (m : TopicsTypes) (p : GUID) (t u : StdString) :
    SetMap.Holds (l.fillTopicNamesAndTypesByGuid noDemangle m p) t u ↔
      (Passes noDemangle t ∧ l.Announces (· = p) t u) ∨ SetMap.Holds m t u := by
  have query := l.wellFormed.holds_getTopicTypesByGuid (p := p) (t := t) (u := u)
  unfold fillTopicNamesAndTypesByGuid
  rw [foldl_adds (fun m : TopicsTypes => SetMap.Holds m t u)
    (fun it => Passes noDemangle t ∧ it.1 = t ∧ u ∈ it.2)]
  · refine or_congr_left ?_
    rw [Announces, ← query, SetMap.Holds]
    simp only [Prod.exists, ExtTreeMap.mem_toList_iff_getElem?_eq_some]
    constructor
    · rintro ⟨t', types, slot, passes, rfl, member⟩
      exact ⟨passes, types, slot, member⟩
    · rintro ⟨passes, types, slot, member⟩
      exact ⟨t, types, slot, passes, rfl, member⟩
  · intro m it
    split
    · rename_i filtered
      refine (or_iff_right ?_).symm
      rintro ⟨passes, rfl, -⟩
      exact not_passes.mpr filtered passes
    · rename_i kept
      rw [← not_passes, not_not] at kept
      refine SetMap.holds_insertAll.trans (or_congr_left ⟨?_, And.right⟩)
      rintro ⟨rfl, member⟩
      exact ⟨kept, rfl, member⟩

theorem noEmpty_fillTopicNamesAndTypesByGuid (l : CustomDataReaderListener GUID)
    (noDemangle : Bool) {m : TopicsTypes} (h : m.NoEmpty) (p : GUID) :
    SetMap.NoEmpty (l.fillTopicNamesAndTypesByGuid noDemangle m p) := by
  refine List.foldlRecOn _ _ h fun m noEmpty it member => ?_
  split
  · exact noEmpty
  · have slot := ExtTreeMap.mem_toList_iff_getElem?_eq_some.mp member
    have types := l.topicCache.noEmpty_getTopicTypesByGuid p it.1 it.2 slot
    exact SetMap.noEmpty_insertAll noEmpty it.1 types

theorem holds_participant_view (l : CustomDataReaderListener GUID) (noDemangle : Bool) (p : GUID)
    (t u : StdString) :
    SetMap.Holds (l.fillTopicNamesAndTypesByGuid noDemangle ∅ p) t u ↔
      Passes noDemangle t ∧ l.Announces (· = p) t u := by
  rw [holds_fillTopicNamesAndTypesByGuid, or_iff_left (SetMap.not_holds_empty t u)]

theorem holds_global_view (l : CustomDataReaderListener GUID) (noDemangle : Bool)
    (t u : StdString) :
    SetMap.Holds (l.fillTopicNamesAndTypes noDemangle ∅) t u ↔
      Passes noDemangle t ∧ l.Announces (fun _ => True) t u := by
  rw [holds_fillTopicNamesAndTypes, or_iff_left (SetMap.not_holds_empty t u)]

def Covers (l : CustomDataReaderListener GUID) (participants : List GUID) : Prop :=
  ∀ (e : GUID) (info : TopicInfo GUID), l.topicCache.endpointGuidToInfo[e]? = some info →
    info.participantGuid ∈ participants

theorem holds_foldl_participants (l : CustomDataReaderListener GUID) (noDemangle : Bool)
    (participants : List GUID) (t u : StdString) :
    SetMap.Holds (participants.foldl (l.fillTopicNamesAndTypesByGuid noDemangle) ∅) t u ↔
      Passes noDemangle t ∧ l.Announces (· ∈ participants) t u := by
  rw [foldl_adds (fun m : TopicsTypes => SetMap.Holds m t u)
    (fun p => Passes noDemangle t ∧ l.Announces (· = p) t u)
    (fun m p => l.holds_fillTopicNamesAndTypesByGuid noDemangle m p t u),
    or_iff_left (SetMap.not_holds_empty t u)]
  constructor
  · rintro ⟨p, member, passes, e, info, found, rfl, named⟩
    exact ⟨passes, e, info, found, member, named⟩
  · rintro ⟨passes, e, info, found, member, named⟩
    exact ⟨_, member, passes, e, info, found, rfl, named⟩

theorem noEmpty_foldl_participants (l : CustomDataReaderListener GUID) (noDemangle : Bool)
    (participants : List GUID) :
    SetMap.NoEmpty (participants.foldl (l.fillTopicNamesAndTypesByGuid noDemangle) ∅) :=
  List.foldlRecOn participants _ SetMap.noEmpty_empty fun _ noEmpty p _ =>
    l.noEmpty_fillTopicNamesAndTypesByGuid noDemangle noEmpty p

section Frame

variable (l l' : CustomDataReaderListener GUID) {p : GUID}

theorem getTopicTypesByGuid_congr_participant
    (same : ∀ t u, l.Announces (· = p) t u ↔ l'.Announces (· = p) t u) :
    l.topicCache.getTopicTypesByGuid p = l'.topicCache.getTopicTypesByGuid p := by
  apply SetMap.ext_holds (l.topicCache.noEmpty_getTopicTypesByGuid p)
    (l'.topicCache.noEmpty_getTopicTypesByGuid p)
  intro t u
  rw [l.wellFormed.holds_getTopicTypesByGuid, l'.wellFormed.holds_getTopicTypesByGuid]
  exact same t u

theorem announces_addInformation_other {q : GUID} (other : q ≠ p) (e : GUID)
    (topicName typeName : StdString) (entityType : EntityType) (t u : StdString) :
    (l.addInformation q e topicName typeName entityType).listener.Announces (· = p) t u ↔
      l.Announces (· = p) t u := by
  refine exists_congr fun e' => exists_congr fun info => and_congr_left fun owned => ?_
  refine l.topicCache.getElem?_addTopic_of_ne fun new => other ?_
  rw [← owned.1, new]

theorem announces_removeInformation_other {e : GUID}
    (other : ∀ info : TopicInfo GUID, l.topicCache.endpointGuidToInfo[e]? = some info →
      info.participantGuid ≠ p) (entityType : EntityType) (t u : StdString) :
    (l.removeInformation e entityType).listener.Announces (· = p) t u ↔
      l.Announces (· = p) t u := by
  refine exists_congr fun e' => exists_congr fun info => and_congr_left fun owned => ?_
  exact l.wellFormed.getElem?_removeTopic_of_ne fun found => other info found owned.1

end Frame

/-- The two views agree: a participant's query is the global map restricted to it,
all participants' answers together are the global answer, and one participant's
answer does not depend on the endpoints of the others. -/
theorem views_agree (l : CustomDataReaderListener GUID) :
    (∀ p t u, SetMap.Holds (l.topicCache.getTopicTypesByGuid p) t u ↔ l.Announces (· = p) t u) ∧
    (∀ p, SetMap.NoEmpty (l.topicCache.getTopicTypesByGuid p)) ∧
    (∀ noDemangle t u, SetMap.Holds (l.fillTopicNamesAndTypes noDemangle ∅) t u ↔
      ∃ p, SetMap.Holds (l.fillTopicNamesAndTypesByGuid noDemangle ∅ p) t u) ∧
    (∀ noDemangle participants, l.Covers participants →
      participants.foldl (l.fillTopicNamesAndTypesByGuid noDemangle) ∅ =
        l.fillTopicNamesAndTypes noDemangle ∅) ∧
    (∀ p q e topicName typeName entityType, q ≠ p →
      let l' := (l.addInformation q e topicName typeName entityType).listener
      l'.topicCache.getTopicTypesByGuid p = l.topicCache.getTopicTypesByGuid p ∧
      ∀ noDemangle m, l'.fillTopicNamesAndTypesByGuid noDemangle m p =
        l.fillTopicNamesAndTypesByGuid noDemangle m p) ∧
    ∀ p e entityType, (∀ info : TopicInfo GUID, l.topicCache.endpointGuidToInfo[e]? = some info →
        info.participantGuid ≠ p) →
      let l' := (l.removeInformation e entityType).listener
      l'.topicCache.getTopicTypesByGuid p = l.topicCache.getTopicTypesByGuid p ∧
      ∀ noDemangle m, l'.fillTopicNamesAndTypesByGuid noDemangle m p =
        l.fillTopicNamesAndTypesByGuid noDemangle m p := by
  refine ⟨fun p t u => l.wellFormed.holds_getTopicTypesByGuid,
    fun p => l.topicCache.noEmpty_getTopicTypesByGuid p, fun noDemangle t u => ?_,
    fun noDemangle participants covers => ?_, fun p q e topicName typeName entityType other => ?_,
    fun p e entityType other => ?_⟩
  · simp only [holds_global_view, holds_participant_view, exists_and_left]
    refine and_congr_right fun _ => ?_
    constructor
    · rintro ⟨e, info, found, -, named⟩
      exact ⟨_, e, info, found, rfl, named⟩
    · rintro ⟨p, e, info, found, -, named⟩
      exact ⟨e, info, found, trivial, named⟩
  · apply SetMap.ext_holds (l.noEmpty_foldl_participants noDemangle participants)
      (l.noEmpty_fillTopicNamesAndTypes noDemangle SetMap.noEmpty_empty)
    intro t u
    rw [holds_foldl_participants, holds_global_view]
    refine and_congr_right fun _ => exists_congr fun e => exists_congr fun info =>
      and_congr_right fun found => and_congr_left fun _ => ?_
    exact iff_of_true (covers e info found) trivial
  · have same := getTopicTypesByGuid_congr_participant _ l
      (l.announces_addInformation_other other e topicName typeName entityType)
    exact ⟨same, fun noDemangle m => by simp only [fillTopicNamesAndTypesByGuid, same]⟩
  · have same := getTopicTypesByGuid_congr_participant _ l
      (l.announces_removeInformation_other other entityType)
    exact ⟨same, fun noDemangle m => by simp only [fillTopicNamesAndTypesByGuid, same]⟩

end RmwOpendds.CustomDataReaderListener
