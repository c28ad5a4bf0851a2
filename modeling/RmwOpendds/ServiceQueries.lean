import RmwOpendds.TopicCacheQueries
import RmwOpendds.Listener
import RmwOpendds.Demangling

/-! The service queries of a node by node: which services
`fill_service_names_and_types_by_guid` yields for a participant, and when that
tells servers from clients. The suffix is searched anywhere in the topic name,
although it is meant to be found at its end. -/

namespace RmwOpendds.CustomDataReaderListener

open Std Library Names

variable {GUID : Type*} [LinearOrder GUID]

def Subscribed (l : CustomDataReaderListener GUID) (p : GUID) (topicName : StdString) : Prop :=
  ∃ (e : GUID) (info : TopicInfo GUID), l.topicCache.endpointGuidToInfo[e]? = some info ∧
    info.participantGuid = p ∧ info.topicName = topicName

/-- The service topics of the cache have names that `Service` built from fully
qualified names with ROS conventions, and types of the documented form. -/
def ServicesWellNamed (l : CustomDataReaderListener GUID) : Prop :=
  ∀ (e : GUID) (info : TopicInfo GUID), l.topicCache.endpointGuidToInfo[e]? = some info →
    getRosPrefixIfExists info.topicName ∈ [rosServiceResponsePrefix, rosServiceRequesterPrefix] →
    (∃ name q, FullyQualified name ∧ q.avoidRosNamespaceConventions = false ∧
      (createRequestName name (some q) = .ok info.topicName ∨
        createReplyName name (some q) = .ok info.topicName)) ∧
    IsServiceType info.topicType

def yielded (l : CustomDataReaderListener GUID) (p : GUID) (suffix : StdString) : TopicsTypes :=
  l.fillServiceNamesAndTypesByGuid ∅ p suffix

theorem mem_insertServiceTypes (services : TopicsTypes) (serviceName : StdString)
    (types : List StdString) (s : StdString) :
    s ∈ insertServiceTypes services serviceName types ↔
      (∃ u ∈ types, demangleServiceTypeOnly u ≠ [] ∧ serviceName = s) ∨ s ∈ services := by
  unfold insertServiceTypes
  apply foldl_adds (fun m : TopicsTypes => s ∈ m)
    (fun u => demangleServiceTypeOnly u ≠ [] ∧ serviceName = s)
  intro m u
  by_cases typed : demangleServiceTypeOnly u = []
  · simp [typed]
  · simp [typed, SetMap.mem_insertAt]

theorem mem_insertService (suffix : StdString) (services : TopicsTypes)
    (it : StdString × ExtTreeSet StdString) (s : StdString) :
    s ∈ insertService suffix services it ↔
      (s ≠ [] ∧ demangleServiceFromTopic it.1 = s ∧ suffix <:+: it.1 ∧
        ∃ u ∈ it.2, demangleServiceTypeOnly u ≠ []) ∨ s ∈ services := by
  unfold insertService
  by_cases service : demangleServiceFromTopic it.1 = []
  · rw [if_pos service]
    refine (or_iff_right ?_).symm
    rintro ⟨named, same, -⟩
    exact named (same ▸ service)
  · rw [if_neg service]
    by_cases occurs : suffix <:+: it.1
    · rw [if_neg (StdString.rfind_eq_none.not_left.mpr occurs), mem_insertServiceTypes]
      simp only [ExtTreeSet.mem_toList]
      refine or_congr_left ⟨?_, ?_⟩
      · rintro ⟨u, member, typed, rfl⟩
        exact ⟨service, rfl, occurs, u, member, typed⟩
      · rintro ⟨-, same, -, u, member, typed⟩
        exact ⟨u, member, typed, same⟩
    · simp [StdString.rfind_eq_none.mpr occurs, occurs]

theorem mem_yielded (l : CustomDataReaderListener GUID) (p : GUID) (suffix s : StdString) :
    s ∈ l.yielded p suffix ↔
      s ≠ [] ∧ ∃ t u, SetMap.Holds (l.topicCache.getTopicTypesByGuid p) t u ∧
        demangleServiceFromTopic t = s ∧ suffix <:+: t ∧ demangleServiceTypeOnly u ≠ [] := by
  rw [yielded, fillServiceNamesAndTypesByGuid,
    foldl_adds (fun m : TopicsTypes => s ∈ m) _ fun m it => mem_insertService suffix m it s]
  simp only [ExtTreeMap.not_mem_empty, or_false, Prod.exists,
    ExtTreeMap.mem_toList_iff_getElem?_eq_some]
  constructor
  · rintro ⟨t, types, slot, named, same, occurs, u, member, typed⟩
    exact ⟨named, t, u, ⟨types, slot, member⟩, same, occurs, typed⟩
  · rintro ⟨named, t, u, ⟨types, slot, member⟩, same, occurs, typed⟩
    exact ⟨t, types, slot, named, same, occurs, u, member, typed⟩

variable {l : CustomDataReaderListener GUID}

theorem mem_yielded_iff (named : l.ServicesWellNamed) (p : GUID) (suffix : StdString)
    {s : StdString} (qualified : FullyQualified s) :
    s ∈ l.yielded p suffix ↔
      (l.Subscribed p (requestTopic s) ∧ suffix <:+: requestTopic s) ∨
        (l.Subscribed p (replyTopic s) ∧ suffix <:+: replyTopic s) := by
  have nonempty : s ≠ [] := by
    rintro rfl
    cases qualified
  have known : ∀ t, t = requestTopic s ∨ t = replyTopic s →
      demangleServiceFromTopic t = s := by
    rintro t (rfl | rfl)
    · exact demangleServiceFromTopic_requestTopic qualified
    · exact demangleServiceFromTopic_replyTopic qualified
  rw [mem_yielded]
  simp only [l.wellFormed.holds_getTopicTypesByGuid]
  constructor
  · rintro ⟨-, t, u, ⟨e, info, found, part, rfl, rfl⟩, same, occurs, -⟩
    have service := demangleServiceFromTopic_ne_nil (same.trans_ne nonempty)
    obtain ⟨name, q, nameQualified, ros, built⟩ := (named e info found service).1
    rw [createRequestName_eq name ros, createReplyName_eq name ros, Except.ok.injEq,
      Except.ok.injEq] at built
    obtain request | reply := built
    · rw [← request, demangleServiceFromTopic_requestTopic nameQualified] at same
      subst same
      exact .inl ⟨⟨e, info, found, part, request.symm⟩, request ▸ occurs⟩
    · rw [← reply, demangleServiceFromTopic_replyTopic nameQualified] at same
      subst same
      exact .inr ⟨⟨e, info, found, part, reply.symm⟩, reply ▸ occurs⟩
  · have listed : ∀ t, t = requestTopic s ∨ t = replyTopic s → l.Subscribed p t →
        suffix <:+: t → s ≠ [] ∧ ∃ t u, (∃ (e : GUID) (info : TopicInfo GUID),
          l.topicCache.endpointGuidToInfo[e]? = some info ∧ info.participantGuid = p ∧
            info.topicName = t ∧ info.topicType = u) ∧
          demangleServiceFromTopic t = s ∧ suffix <:+: t ∧ demangleServiceTypeOnly u ≠ [] := by
      rintro t built ⟨e, info, found, part, rfl⟩ occurs
      have same := known _ built
      have service := demangleServiceFromTopic_ne_nil (same.trans_ne nonempty)
      have typed := demangleServiceTypeOnly_ne_nil (named e info found service).2
      exact ⟨nonempty, _, _, ⟨e, info, found, part, rfl, rfl⟩, same, occurs, typed⟩
    rintro (⟨sub, occurs⟩ | ⟨sub, occurs⟩)
    · exact listed _ (.inl rfl) sub occurs
    · exact listed _ (.inr rfl) sub occurs

theorem mem_yielded_request (named : l.ServicesWellNamed) (p : GUID) {s : StdString}
    (qualified : FullyQualified s) :
    s ∈ l.yielded p "Request".toList ↔ l.Subscribed p (requestTopic s) ∨
      (l.Subscribed p (replyTopic s) ∧ "Request".toList <:+: s) := by
  have suffix : "Request".toList <:+: requestTopic s := (List.suffix_append _ _).isInfix
  rw [mem_yielded_iff named p _ qualified, infix_replyTopic, and_iff_left suffix]

theorem mem_yielded_reply (named : l.ServicesWellNamed) (p : GUID) {s : StdString}
    (qualified : FullyQualified s) :
    s ∈ l.yielded p "Reply".toList ↔ l.Subscribed p (replyTopic s) ∨
      (l.Subscribed p (requestTopic s) ∧ "Reply".toList <:+: s) := by
  have suffix : "Reply".toList <:+: replyTopic s := (List.suffix_append _ _).isInfix
  rw [mem_yielded_iff named p _ qualified, infix_requestTopic, and_iff_left suffix, or_comm]

/-- The query for servers is right about a service exactly if the participant
is not a mere client of it under a name that contains "Request", the query for
clients exactly if it is not a mere server of it under a name that contains
"Reply". Every cache that the listener can reach is covered, being well formed. -/
theorem service_queries_iff (l : CustomDataReaderListener GUID) (named : l.ServicesWellNamed)
    (p : GUID) (s : StdString) (qualified : FullyQualified s) :
    ((s ∈ l.yielded p "Request".toList ↔ l.Subscribed p (requestTopic s)) ↔
      ¬ (l.Subscribed p (replyTopic s) ∧ ¬ l.Subscribed p (requestTopic s) ∧
        "Request".toList <:+: s)) ∧
    ((s ∈ l.yielded p "Reply".toList ↔ l.Subscribed p (replyTopic s)) ↔
      ¬ (l.Subscribed p (requestTopic s) ∧ ¬ l.Subscribed p (replyTopic s) ∧
        "Reply".toList <:+: s)) := by
  rw [mem_yielded_request named p qualified, mem_yielded_reply named p qualified]
  constructor <;> tauto

def oneClient : CustomDataReaderListener ℕ :=
  (create.addInformation 1 7 (replyTopic "/MyRequest".toList)
    "pkg::srv::dds_::T_Response_".toList .subscriber).listener

theorem oneClient_known {e : ℕ} {info : TopicInfo ℕ}
    (found : oneClient.topicCache.endpointGuidToInfo[e]? = some info) :
    info = ⟨replyTopic "/MyRequest".toList, "pkg::srv::dds_::T_Response_".toList, 1, 7⟩ := by
  unfold oneClient addInformation at found
  rw [TopicCache.getElem?_addTopic] at found
  split at found
  · exact (Option.some.inj found).symm
  · cases found

theorem oneClient_wellNamed : oneClient.ServicesWellNamed := by
  intro e info found _
  obtain rfl := oneClient_known found
  have typed : IsServiceType "pkg::srv::dds_::T_Response_".toList :=
    ⟨"pkg".toList, "T".toList, "_Response_".toList, by decide, rfl⟩
  let q : RmwQosProfile :=
    { history := .keepLast, depth := 10, reliability := .reliable, durability := .volatile
      deadline := ⟨0, 0⟩, lifespan := ⟨0, 0⟩, liveliness := .systemDefault
      livelinessLeaseDuration := ⟨0, 0⟩, avoidRosNamespaceConventions := false }
  exact ⟨⟨"/MyRequest".toList, q, rfl, rfl, .inr (createReplyName_eq _ rfl)⟩, typed⟩

theorem oneClient_not_server : ¬ oneClient.Subscribed 1 (requestTopic "/MyRequest".toList) := by
  rintro ⟨e, info, found, -, topic⟩
  rw [oneClient_known found] at topic
  exact absurd topic (by decide)

theorem service_queries_iff_oneClient :
    "/MyRequest".toList ∈ oneClient.yielded 1 "Reply".toList ↔
      oneClient.Subscribed 1 (replyTopic "/MyRequest".toList) :=
  (service_queries_iff oneClient oneClient_wellNamed 1 "/MyRequest".toList rfl).2.mpr
    fun mereServer => oneClient_not_server mereServer.1

/-- A mere client of `/MyRequest` is listed as a server of it. -/
theorem client_listed_as_server :
    ¬ ∀ l : CustomDataReaderListener ℕ, l.ServicesWellNamed → ∀ p s, FullyQualified s →
      (s ∈ l.yielded p "Request".toList ↔ l.Subscribed p (requestTopic s)) ∧
      (s ∈ l.yielded p "Reply".toList ↔ l.Subscribed p (replyTopic s)) := by
  intro claim
  have listed : "/MyRequest".toList ∈ oneClient.yielded 1 "Request".toList := by decide
  have law := claim oneClient oneClient_wellNamed 1 "/MyRequest".toList rfl
  exact oneClient_not_server (law.1.mp listed)

end RmwOpendds.CustomDataReaderListener
