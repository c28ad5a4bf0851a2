import RmwOpendds.Library.Replay
import RmwOpendds.TopicCacheQueries
import RmwOpendds.Listener

/-! Replay of discovery: the cache after any sequence of `on_data_available`
calls, however they batch the built-in topic samples. -/

namespace RmwOpendds.CustomDataReaderListener

open Std Library

variable {GUID Handle Key : Type*} [LinearOrder GUID]

def alive (s : BuiltinSample Handle Key) : Bool :=
  s.validData && s.instanceState = .alive

def endpoint (ids : Identities Handle Key GUID) (s : BuiltinSample Handle Key) : GUID :=
  ids.getRepoid s.publicationHandle

def announced (ids : Identities Handle Key GUID) (s : BuiltinSample Handle Key) :
    TopicInfo GUID where
  topicName := s.topicName
  topicType := s.typeName
  participantGuid := ids.builtinTopicKeyToGuid s.participantKey
  endpointGuid := endpoint ids s

def handled : BuiltinTake Handle Key → List (BuiltinSample Handle Key)
  | .taken .ok samples => samples
  | _ => []

def replay (ids : Identities Handle Key GUID) (entityType : EntityType)
    (calls : List (BuiltinTake Handle Key)) : CustomDataReaderListener GUID :=
  calls.foldl (fun l call => (l.onDataAvailable ids entityType call).listener) create

variable (ids : Identities Handle Key GUID) (entityType : EntityType)

theorem onDataAvailable_listener (l : CustomDataReaderListener GUID)
    (call : BuiltinTake Handle Key) :
    (l.onDataAvailable ids entityType call).listener =
      (handled call).foldl (handleSample ids entityType) l := by
  cases call with
  | notNarrowed => rfl
  | taken retcode samples => cases retcode <;> rfl

theorem replay_eq (calls : List (BuiltinTake Handle Key)) :
    replay ids entityType calls =
      (calls.flatMap handled).foldl (handleSample ids entityType) create := by
  unfold replay
  generalize (create : CustomDataReaderListener GUID) = l
  induction calls generalizing l with
  | nil => rfl
  | cons call calls ih =>
    rw [List.foldl_cons, ih, onDataAvailable_listener, List.flatMap_cons, List.foldl_append]

def lookup (l : CustomDataReaderListener GUID) (e : GUID) : Option (TopicInfo GUID) :=
  l.topicCache.endpointGuidToInfo[e]?

theorem lookup_handleSample (l : CustomDataReaderListener GUID) (s : BuiltinSample Handle Key)
    (e : GUID) :
    lookup (handleSample ids entityType l s) e =
      if endpoint ids s = e then
        Replay.slot alive (announced ids) (lookup l e) s
      else lookup l e := by
  unfold lookup handleSample Replay.slot
  by_cases lives : alive s = true
  · rw [if_pos lives]
    unfold alive at lives
    rw [if_pos lives]
    simp only [addInformation, TopicCache.getElem?_addTopic]
    by_cases same : endpoint ids s = e
    · subst same
      simp [endpoint, announced]
    · have other : ids.getRepoid s.publicationHandle ≠ e := same
      simp [same, other]
  · rw [if_neg lives]
    unfold alive at lives
    rw [if_neg lives]
    simp only [removeInformation, l.wellFormed.getElem?_removeTopic]
    rfl

theorem lookup_replay (calls : List (BuiltinTake Handle Key)) (e : GUID) :
    lookup (replay ids entityType calls) e =
      ((calls.flatMap handled).filter (endpoint ids · = e)).foldl
        (Replay.slot alive (announced ids)) none := by
  rw [replay_eq, Replay.lookup_foldl (endpoint ids) (lookup_handleSample ids entityType)]
  rfl

theorem mem_iff_lookup (l : CustomDataReaderListener GUID) (e : GUID) :
    e ∈ l.topicCache.endpointGuidToInfo ↔ (lookup l e).isSome :=
  ExtTreeMap.mem_iff_isSome_getElem?

/-- The samples `js` are those of `is` with adjacent samples of different
endpoints exchanged, any number of times. -/
abbrev Exchanges (is js : List (BuiltinSample Handle Key)) : Prop :=
  Relation.ReflTransGen (Replay.Exchange (endpoint ids)) is js

theorem endpointGuidToInfo_replay_congr {calls calls' : List (BuiltinTake Handle Key)}
    (exchanged : Exchanges ids (calls.flatMap handled) (calls'.flatMap handled)) :
    (replay ids entityType calls).topicCache.endpointGuidToInfo =
      (replay ids entityType calls').topicCache.endpointGuidToInfo := by
  apply ExtTreeMap.ext_getElem?
  intro e
  have mine := lookup_replay ids entityType calls e
  have theirs := lookup_replay ids entityType calls' e
  rw [Replay.filter_eq_of_exchanges _ exchanged e, ← theirs] at mine
  exact mine

/-- After any calls of `on_data_available`, an endpoint is known exactly if its
last sample was an alive one, and recorded as its first alive sample after the
last other one announced it; neither the batching nor the order of the samples
of different endpoints changes the global map or the answer of a query. -/
theorem replay_faithful (calls : List (BuiltinTake Handle Key)) :
    let samples := calls.flatMap handled
    let l := replay ids entityType calls
    (∀ e, e ∈ l.topicCache.endpointGuidToInfo ↔
      ∃ s, (samples.filter (endpoint ids · = e)).getLast? = some s ∧
        s.validData = true ∧ s.instanceState = .alive) ∧
    (∀ (e : GUID) (info : TopicInfo GUID), l.topicCache.endpointGuidToInfo[e]? = some info ↔
      ∃ before s after, samples.filter (endpoint ids · = e) = before ++ s :: after ∧
        (∀ x ∈ s :: after, alive x) ∧
        (∀ d ∈ before.getLast?, ¬ alive d) ∧
        info = announced ids s) ∧
    ∀ calls', Exchanges ids samples (calls'.flatMap handled) →
      let l' := replay ids entityType calls'
      l.topicCache.endpointGuidToInfo = l'.topicCache.endpointGuidToInfo ∧
      (∀ topicName, l.countTopic topicName = l'.countTopic topicName) ∧
      (∀ noDemangle m, l.fillTopicNamesAndTypes noDemangle m =
        l'.fillTopicNamesAndTypes noDemangle m) ∧
      ∀ p, l.topicCache.getTopicTypesByGuid p = l'.topicCache.getTopicTypesByGuid p := by
  refine ⟨fun e => ?_, fun e info => ?_, fun calls' exchanged => ?_⟩
  · rw [mem_iff_lookup, lookup_replay, Replay.foldl_slot_isSome]
    simp [alive]
  · have law := lookup_replay ids entityType calls e
    unfold lookup at law
    rw [law, Replay.foldl_slot_eq_some]
  · have same := endpointGuidToInfo_replay_congr ids entityType exchanged
    refine ⟨same, fun topicName => ?_, fun noDemangle m => ?_, fun p => ?_⟩
    · rw [countTopic, same, countTopic]
    · rw [fillTopicNamesAndTypes, same, fillTopicNamesAndTypes]
    · exact TopicCache.WellFormed.getTopicTypesByGuid_congr (wellFormed _) (wellFormed _) same p

end RmwOpendds.CustomDataReaderListener
