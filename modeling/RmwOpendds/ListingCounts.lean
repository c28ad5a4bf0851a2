import RmwOpendds.ServiceListing

/-! Listing and counting side by side: a name counts every endpoint whose topic
demangles to it, and is listed only for its ROS topic. -/

namespace RmwOpendds

open Std Library Names

variable {GUID : Type*} [LinearOrder GUID] {H : Type} {rc : Rcutils H}

namespace CustomDataReaderListener

theorem countTopic_addInformation_other (l : CustomDataReaderListener GUID) {t name : StdString}
    (other : demangleIfRosTopic t ≠ name) (p e : GUID) (u : StdString) (entityType : EntityType) :
    (l.addInformation p e t u entityType).listener.countTopic name = l.countTopic name := by
  refine OrderedMap.countP_toList_congr fun e' info counted => ?_
  refine l.topicCache.getElem?_addTopic_of_ne fun new => other ?_
  simpa [new] using counted

theorem countTopic_removeInformation_other (l : CustomDataReaderListener GUID) {e : GUID}
    {name : StdString} (other : ∀ info : TopicInfo GUID,
      l.topicCache.endpointGuidToInfo[e]? = some info → demangleIfRosTopic info.topicName ≠ name)
    (entityType : EntityType) :
    (l.removeInformation e entityType).listener.countTopic name = l.countTopic name := by
  refine OrderedMap.countP_toList_congr fun e' info counted => ?_
  refine l.wellFormed.getElem?_removeTopic_of_ne fun found => ?_
  exact other info found (by simpa using counted)

theorem countTopic_pos (l : CustomDataReaderListener GUID) (name : StdString) :
    0 < l.countTopic name ↔
      ∃ t u, l.Announces (fun _ => True) t u ∧ demangleIfRosTopic t = name := by
  rw [countTopic, List.countP_pos_iff]
  simp only [Prod.exists, ExtTreeMap.mem_toList_iff_getElem?_eq_some, decide_eq_true_eq, Announces,
    true_and]
  constructor
  · rintro ⟨e, info, found, same⟩
    exact ⟨_, _, ⟨e, info, found, rfl, rfl⟩, same⟩
  · rintro ⟨_, _, ⟨e, info, found, rfl, rfl⟩, same⟩
    exact ⟨e, info, found, same⟩

end CustomDataReaderListener

namespace OpenDDSNode

def endpointCount (n : OpenDDSNode GUID) (name : StdString) : ℕ :=
  (n.countPublishers (some name) (some 0)).count.getD 0 +
    (n.countSubscribers (some name) (some 0)).count.getD 0

theorem endpointCount_eq (n : OpenDDSNode GUID) (name : StdString) :
    n.endpointCount name = n.pubListener.countTopic name + n.subListener.countTopic name :=
  rfl

theorem endpointCount_pos (n : OpenDDSNode GUID) (name : StdString) :
    0 < n.endpointCount name ↔ ∃ t u, n.Announces t u ∧ demangleIfRosTopic t = name := by
  rw [endpointCount_eq, Nat.add_pos_iff_pos_or_pos, CustomDataReaderListener.countTopic_pos,
    CustomDataReaderListener.countTopic_pos]
  simp only [Announces, or_and_right, exists_or]

def HasTopic (n : OpenDDSNode GUID) (topicName : StdString) : Prop := ∃ u, n.Announces topicName u

theorem endpointCount_pos_iff (n : OpenDDSNode GUID) {name : StdString}
    (qualified : FullyQualified name) :
    0 < n.endpointCount name ↔ n.HasTopic name ∨ n.HasTopic (rosTopicPrefix ++ name) ∨
      n.HasTopic (rosServiceRequesterPrefix ++ name) ∨
      n.HasTopic (rosServiceResponsePrefix ++ name) := by
  rw [endpointCount_pos]
  simp only [demangleIfRosTopic_eq_iff qualified, rosPrefixes, List.mem_cons, List.not_mem_nil,
    or_false, exists_eq_or_imp, exists_eq_left, HasTopic]
  constructor
  · rintro ⟨t, u, announced, rfl | rfl | rfl | rfl⟩
    · exact .inl ⟨u, announced⟩
    · exact .inr (.inl ⟨u, announced⟩)
    · exact .inr (.inr (.inl ⟨u, announced⟩))
    · exact .inr (.inr (.inr ⟨u, announced⟩))
  · rintro (⟨u, announced⟩ | ⟨u, announced⟩ | ⟨u, announced⟩ | ⟨u, announced⟩)
    · exact ⟨_, u, announced, .inl rfl⟩
    · exact ⟨_, u, announced, .inr (.inl rfl)⟩
    · exact ⟨_, u, announced, .inr (.inr (.inl rfl))⟩
    · exact ⟨_, u, announced, .inr (.inr (.inr rfl))⟩

def ListsName (rc : Rcutils H) (n : OpenDDSNode GUID) (h : H) (name : StdString) : Prop :=
  ∃ nt, (n.getTopicNamesTypes rc (some .zero) false h).nt = some nt ∧ some name ∈ nt.names.texts

theorem listsName_iff (law : rc.Lawful) (n : OpenDDSNode GUID) {h : H}
    (served : (rc.serve (n.topicRequests false) h).isSome) {name : StdString}
    (qualified : FullyQualified name) :
    n.ListsName rc h name ↔ n.HasTopic (rosTopicPrefix ++ name) := by
  obtain ⟨-, -, nt, handle, shows, -⟩ | ⟨refused, -⟩ := getTopicNamesTypes_cases law n false h
  · have listed : n.ListsName rc h name ↔ name ∈ (n.topicRows false).map Prod.fst := by
      simp only [ListsName, handle, Option.some.injEq, exists_eq_left', shows.names, List.mem_map]
    rw [listed, (n.listsTopics false).mem_names]
    exact and_iff_right (.inr qualified)
  · rw [refused] at served
    cases served

def enter (n : OpenDDSNode GUID) (entityType : EntityType) (p e : GUID) (t u : StdString) :
    OpenDDSNode GUID :=
  n.setListener ((n.listener entityType).addInformation p e t u entityType).listener entityType

def leave (n : OpenDDSNode GUID) (entityType : EntityType) (e : GUID) : OpenDDSNode GUID :=
  n.setListener ((n.listener entityType).removeInformation e entityType).listener entityType

theorem endpointCount_setListener (n : OpenDDSNode GUID) {l : CustomDataReaderListener GUID}
    {entityType : EntityType} {name : StdString}
    (same : l.countTopic name = (n.listener entityType).countTopic name) :
    (n.setListener l entityType).endpointCount name = n.endpointCount name := by
  rw [endpointCount_eq, endpointCount_eq]
  cases entityType with
  | publisher => exact congrArg (· + _) same
  | subscriber => exact congrArg (_ + ·) same

theorem demangleIfRosTopic_ne {s t name : StdString} (qualified : FullyQualified s)
    (topic : IsTopicOf s t) (request : name ≠ s ++ "Request".toList)
    (reply : name ≠ s ++ "Reply".toList) : demangleIfRosTopic t ≠ name := by
  have longer : ∀ suffix, FullyQualified (s ++ suffix) := by
    intro suffix
    obtain ⟨tail, rfl⟩ := List.head?_eq_some_iff.mp qualified
    rfl
  obtain rfl | rfl := topic
  · rw [requestTopic, List.append_assoc, demangleIfRosTopic_append (by decide) (longer _)]
    exact request.symm
  · rw [replyTopic, List.append_assoc, demangleIfRosTopic_append (by decide) (longer _)]
    exact reply.symm

/-- Every listed name is counted. A count that is not listed is one of endpoints on
the name itself or behind a service prefix, and the endpoints of a service touch
the counts of two names only. -/
theorem listing_and_counting (law : rc.Lawful) (n : OpenDDSNode GUID) {h : H}
    (served : (rc.serve (n.topicRequests false) h).isSome) {name : StdString}
    (qualified : FullyQualified name) :
    (n.ListsName rc h name ↔ n.HasTopic (rosTopicPrefix ++ name)) ∧
    (n.ListsName rc h name → 0 < n.endpointCount name) ∧
    (0 < n.endpointCount name → ¬ n.ListsName rc h name → n.HasTopic name ∨
      n.HasTopic (rosServiceRequesterPrefix ++ name) ∨
      n.HasTopic (rosServiceResponsePrefix ++ name)) ∧
    (¬ n.HasTopic (rosServiceRequesterPrefix ++ name) →
      ¬ n.HasTopic (rosServiceResponsePrefix ++ name) →
      (0 < n.endpointCount name ↔ n.ListsName rc h name ∨ n.HasTopic name)) ∧
    ∀ s t, FullyQualified s → IsTopicOf s t → name ≠ s ++ "Request".toList →
      name ≠ s ++ "Reply".toList →
      (∀ entityType p e u, (n.enter entityType p e t u).endpointCount name =
        n.endpointCount name) ∧
      ∀ entityType e, (∀ info : TopicInfo GUID,
          (n.listener entityType).topicCache.endpointGuidToInfo[e]? = some info →
          info.topicName = t) →
        (n.leave entityType e).endpointCount name = n.endpointCount name := by
  have listed := n.listsName_iff law served qualified
  have counted := n.endpointCount_pos_iff qualified
  refine ⟨listed, ?_, ?_, ?_, fun s t service topic request reply => ⟨?_, ?_⟩⟩
  · intro lists
    exact counted.mpr (.inr (.inl (listed.mp lists)))
  · intro positive unlisted
    rw [listed] at unlisted
    exact (counted.mp positive).imp_right (Or.resolve_left · unlisted)
  · intro noRequest noReply
    rw [counted, listed, or_iff_left (not_or.mpr ⟨noRequest, noReply⟩), or_comm]
  · intro entityType p e u
    have other := demangleIfRosTopic_ne service topic request reply
    exact n.endpointCount_setListener
      (CustomDataReaderListener.countTopic_addInformation_other _ other p e u entityType)
  · intro entityType e onTopic
    refine n.endpointCount_setListener
      (CustomDataReaderListener.countTopic_removeInformation_other _ ?_ entityType)
    intro info found
    rw [onTopic info found]
    exact demangleIfRosTopic_ne service topic request reply

/-- A node that has discovered a publisher without ROS conventions. -/
def foreignPublisher : OpenDDSNode ℕ :=
  (create.addPub ⟨id, id⟩ 1 2 "/chatter".toList "Chatter".toList).node

theorem listing_and_counting_foreignPublisher :
    let n := foreignPublisher
    let name := "/chatter".toList
    let lists := n.ListsName BlockPool.rcutils ⟨0, 0, 0⟩ name
    (lists ↔ n.HasTopic (rosTopicPrefix ++ name)) ∧
    (lists → 0 < n.endpointCount name) ∧
    (0 < n.endpointCount name → ¬ lists → n.HasTopic name ∨
      n.HasTopic (rosServiceRequesterPrefix ++ name) ∨
      n.HasTopic (rosServiceResponsePrefix ++ name)) :=
  have qualified : FullyQualified "/chatter".toList := rfl
  have law := listing_and_counting BlockPool.lawful foreignPublisher (h := ⟨0, 0, 0⟩) (by decide)
    qualified
  ⟨law.1, law.2.1, law.2.2.1⟩

/-- An endpoint without ROS conventions is counted and not listed, and a service
that comes changes a count. -/
theorem counted_beyond_listing :
    ¬ (∀ (n : OpenDDSNode ℕ) (h : BlockPool) (name : StdString), FullyQualified name →
      (BlockPool.rcutils.serve (n.topicRequests false) h).isSome →
      (n.ListsName BlockPool.rcutils h name ↔ 0 < n.endpointCount name)) ∧
    ¬ ∀ (n : OpenDDSNode ℕ) (s t : StdString), FullyQualified s → IsTopicOf s t →
      ∀ entityType p e u name,
        (n.enter entityType p e t u).endpointCount name = n.endpointCount name := by
  constructor
  · intro claim
    have agree := claim foreignPublisher ⟨0, 0, 0⟩ "/chatter".toList rfl (by decide)
    obtain ⟨nt, handle, listed⟩ := agree.mpr (by decide)
    have empty : (foreignPublisher.getTopicNamesTypes BlockPool.rcutils (some .zero) false
        ⟨0, 0, 0⟩).nt = some .zero := by decide
    obtain rfl : NamesAndTypes.zero = nt := Option.some.inj (empty.symm.trans handle)
    cases listed
  · intro claim
    have same := claim create "/add".toList (requestTopic "/add".toList) rfl (.inl rfl) .subscriber
      1 2 [] "/addRequest".toList
    exact absurd same (by decide)

end OpenDDSNode
end RmwOpendds
