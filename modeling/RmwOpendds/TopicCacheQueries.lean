import RmwOpendds.TopicCacheInvariant

/-! The per-participant query of `TopicCache` as a relation: in a well-formed
cache it is the global map restricted to one participant. -/

namespace RmwOpendds.TopicCache

open Std Library

variable {GUID : Type*} [LinearOrder GUID]

theorem holds_insertTopicType (c : TopicCache GUID) (m : TopicsTypes) (e : GUID) (t u : StdString) :
    SetMap.Holds (c.insertTopicType m e) t u ↔
      (∃ info : TopicInfo GUID, c.endpointGuidToInfo[e]? = some info ∧
        info.topicName = t ∧ info.topicType = u) ∨ SetMap.Holds m t u := by
  unfold insertTopicType
  cases c.endpointGuidToInfo[e]? with
  | none => simp
  | some info => simp [SetMap.holds_insertAt]

theorem noEmpty_insertTopicType (c : TopicCache GUID) {m : TopicsTypes} (h : m.NoEmpty) (e : GUID) :
    SetMap.NoEmpty (c.insertTopicType m e) := by
  unfold insertTopicType
  split
  · exact h
  · exact SetMap.noEmpty_insertAt h _ _

theorem holds_foldl_insertTopicType (c : TopicCache GUID) (guids : Multiset GUID)
    (m : TopicsTypes) (t u : StdString) :
    SetMap.Holds (guids.foldl c.insertTopicType m) t u ↔
      (∃ e ∈ guids, ∃ info : TopicInfo GUID, c.endpointGuidToInfo[e]? = some info ∧
        info.topicName = t ∧ info.topicType = u) ∨ SetMap.Holds m t u := by
  induction guids using Multiset.induction generalizing m with
  | empty => simp
  | cons e guids ih =>
    rw [Multiset.foldl_cons, ih, holds_insertTopicType]
    simp only [Multiset.mem_cons, exists_eq_or_imp]
    rw [or_left_comm, or_assoc]

theorem noEmpty_foldl_insertTopicType (c : TopicCache GUID) (guids : Multiset GUID)
    {m : TopicsTypes} (h : m.NoEmpty) : SetMap.NoEmpty (guids.foldl c.insertTopicType m) := by
  induction guids using Multiset.induction generalizing m with
  | empty => exact h
  | cons e guids ih =>
    rw [Multiset.foldl_cons]
    exact ih (c.noEmpty_insertTopicType h e)

theorem getTopicTypesByGuid_eq (c : TopicCache GUID) (p : GUID) :
    c.getTopicTypesByGuid p = (c.guidsOf p).foldl c.insertTopicType ∅ := by
  rw [guidsOf_eq, getTopicTypesByGuid]
  cases c.participantToEndpointGuids[p]? <;> rfl

theorem noEmpty_getTopicTypesByGuid (c : TopicCache GUID) (p : GUID) :
    SetMap.NoEmpty (c.getTopicTypesByGuid p) := by
  rw [getTopicTypesByGuid_eq]
  exact c.noEmpty_foldl_insertTopicType _ SetMap.noEmpty_empty

theorem WellFormed.holds_getTopicTypesByGuid {c : TopicCache GUID} (wf : c.WellFormed)
    {p : GUID} {t u : StdString} :
    SetMap.Holds (c.getTopicTypesByGuid p) t u ↔
      ∃ (e : GUID) (info : TopicInfo GUID), c.endpointGuidToInfo[e]? = some info ∧
        info.participantGuid = p ∧ info.topicName = t ∧ info.topicType = u := by
  rw [getTopicTypesByGuid_eq, holds_foldl_insertTopicType, or_iff_left (SetMap.not_holds_empty t u)]
  refine exists_congr fun e => ?_
  rw [wf.mem_guidsOf]
  cases c.endpointGuidToInfo[e]? <;> simp

theorem WellFormed.getTopicTypesByGuid_congr {c c' : TopicCache GUID} (wf : c.WellFormed)
    (wf' : c'.WellFormed) (same : c.endpointGuidToInfo = c'.endpointGuidToInfo) (p : GUID) :
    c.getTopicTypesByGuid p = c'.getTopicTypesByGuid p := by
  apply SetMap.ext_holds (noEmpty_getTopicTypesByGuid c p) (noEmpty_getTopicTypesByGuid c' p)
  intro t u
  rw [wf.holds_getTopicTypesByGuid, wf'.holds_getTopicTypesByGuid, same]

end RmwOpendds.TopicCache
