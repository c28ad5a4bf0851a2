import RmwOpendds.BlockPool
import RmwOpendds.GraphAgreement
import RmwOpendds.IdentityEncoding
import RmwOpendds.NodeListing

/-! The queries about a node, asked of another one: from its name over the participant
that is found and the graph of the node that is asked to the endpoints that exist. -/

namespace RmwOpendds.GraphNetwork

open Std Library OpenDDSNode QueriedNode

variable {ι Handle Key GUID : Type} [LinearOrder GUID]

/-- What DDS gives the participant of `j`: its own handle, and keys of participants of the
domain. User data and return codes are any. -/
structure Directory (d : Domain ι Handle Key GUID) (j : ι)
    (participant : LookupParticipant Handle Key) : Prop where
  instanceHandle : participant.instanceHandle = d.dp j
  keys : ∀ handle ∈ participant.discoveredParticipants.2,
    (participant.discoveredParticipantData handle).1 = .ok →
      ∃ i, (participant.discoveredParticipantData handle).2.key = d.participantKey i

/-- These are the user data of `k` for the participant of `j`: its own, or those of a
participant that it has discovered. -/
def Reads (d : Domain ι Handle Key GUID) (j : ι) (participant : LookupParticipant Handle Key)
    (k : ι) (userData : Option StdString) : Prop :=
  (k = j ∧ participant.qos = (.ok, userData)) ∨
    ∃ handle ∈ participant.discoveredParticipants.2,
      participant.discoveredParticipantData handle = (.ok, ⟨d.participantKey k, userData⟩)

section Lookup

variable {d : Domain ι Handle Key GUID} {j : ι}
  {parseKeyValue : StdString → ExtTreeMap StdString StdString}
  {participant : LookupParticipant Handle Key}

variable (d participant parseKeyValue) in
abbrev lookupOf (j : ι) (node : OpenDDSNode GUID) (uninitialised : GUID) (asked : AcceptedNode) :
    NodeQuery Handle Key GUID :=
  QueriedNode.query parseKeyValue ⟨node, d.ids j, participant⟩ uninitialised asked.name
    asked.namespace_

theorem eq_asked_of_plain (parses : UserData.Parses parseKeyValue) {i asked : AcceptedNode}
    (named : UserData.Plain i.name) (placed : UserData.Plain i.namespace_)
    (matched : matchUserData parseKeyValue (some i.userData) asked.name asked.namespace_) :
    i = asked := by
  obtain ⟨name, namespace_⟩ := (i.identified_of_plain parses named placed).1.matched _ _ matched
  exact AcceptedNode.ext name.symm namespace_.symm

theorem Directory.getKey_cases (directory : Directory d j participant) (node : OpenDDSNode GUID)
    (asked : AcceptedNode) (uninitialised : GUID) :
    let out := (lookupOf d parseKeyValue participant j node uninitialised asked).getKey
    (∃ k userData, Reads d j participant k userData ∧
        matchUserData parseKeyValue userData asked.name asked.namespace_ ∧
        out = ⟨.ok, none, d.participant k⟩) ∨
      (¬ participant.Unread ∧ (∀ k userData, Reads d j participant k userData →
          ¬ matchUserData parseKeyValue userData asked.name asked.namespace_) ∧
        ∃ text, out = ⟨.nodeNameNonExistent, some text, uninitialised⟩) ∨
      participant.Unread ∧ ∃ text, out = ⟨.error, some text, uninitialised⟩ := by
  intro out
  set q := lookupOf d parseKeyValue participant j node uninitialised asked with query
  have own : q.ownMatch ↔ ∃ userData, participant.qos = (.ok, userData) ∧
      matchUserData parseKeyValue userData asked.name asked.namespace_ := NodeQuery.ownMatch_iff
  obtain ⟨mine, found⟩ | ⟨handle, listed, ⟨ok, advertised⟩, found⟩ |
    ⟨other, complete, quiet, missing⟩ | ⟨-, unread, failed⟩ := q.getKey_cases
  · obtain ⟨userData, given, matched⟩ := own.mp mine
    refine .inl ⟨j, userData, .inl ⟨rfl, given⟩, matched, found.trans ?_⟩
    have handle : q.participant.instanceHandle = d.dp j := directory.instanceHandle
    rw [handle]
    exact congrArg (KeyLookup.mk .ok none) (d.getRepoid_dp j)
  · obtain ⟨k, key⟩ := directory.keys handle listed ok
    refine .inl ⟨k, _, .inr ⟨handle, listed, ?_⟩, advertised, found.trans ?_⟩
    · exact Prod.ext ok (congrArg (ParticipantBuiltinTopicData.mk · _) key)
    · have known : q.keyOf handle = d.participant k :=
        (congrArg (d.ids j).builtinTopicKeyToGuid key).trans
          (d.builtinTopicKeyToGuid_participantKey k j)
      rw [known]
  · refine .inr (.inl ⟨complete, ?_, _, missing⟩)
    rintro k userData (⟨-, given⟩ | ⟨handle, listed, given⟩) matched
    · exact absurd (own.mpr ⟨userData, given, matched⟩) (by simp [other])
    · refine quiet handle listed ⟨congrArg Prod.fst given, ?_⟩
      have read : q.participant.discoveredParticipantData handle = _ := given
      rw [read]
      exact matched
  · exact .inr (.inr ⟨unread, failed⟩)

end Lookup

section Queries

variable [DecidableEq ι] {d : Domain ι Handle Key GUID} {g : Graph d} {j : ι}
  {node : OpenDDSNode GUID}
  {parseKeyValue : StdString → ExtTreeMap StdString StdString}
  {participant : LookupParticipant Handle Key} {H : Type} {rc : Rcutils H}

def HasEndpoint (g : Graph d) (k : ι) (entityType : EntityType) (topicName typeName : StdString) :
    Prop :=
  ∃ e, d.owner e = some k ∧ g.actual entityType e = some (topicName, typeName)

/-- What a node shows of a participant: the entries of its graph, which are the endpoints
there are if it has taken everything that the participant sent. -/
structure Shown (g : Graph d) (j : ι) (node : OpenDDSNode GUID) (entityType : EntityType) (k : ι)
    (announced : StdString → StdString → Prop) : Prop where
  entered : ∀ t u,
    announced t u ↔ (node.listener entityType).Announces (· = d.participant k) t u
  actual : k ≠ j → Received d g j entityType k → ∀ t u, announced t u ↔
    HasEndpoint g k entityType t u

theorem shown_of_reachable (reach : (machine d).Reachable g) (joined : g.nodes j = some node)
    (entityType : EntityType) (k : ι) :
    Shown g j node entityType k
      ((node.listener entityType).Announces (· = d.participant k)) where
  entered _ _ := Iff.rfl
  actual other received t u :=
    announces_of_received (consistent_of_reachable reach j node joined) other received t u

def Untouched (ret : RmwRet) (h : H) (out : Listed H) : Prop :=
  out.ret = ret ∧ out.error.isSome ∧ out.nt = some .zero ∧ out.heap = h

def argsOf (asked : AcceptedNode) (uninitialised : GUID) : ByNode GUID :=
  ⟨some asked.name, some asked.namespace_, some .zero, uninitialised⟩

def talkerNode : AcceptedNode where
  name := "talker".toList
  namespace_ := "/".toList
  accepted := by decide
  name_ends := by decide
  namespace_ends := AcceptedNode.listenerNode.namespace_ends

/-- The participant of `listener`, which has discovered one without user data and that of
`talker`. -/
def hearsTalker : LookupParticipant (Fin 8) (Fin 8) where
  instanceHandle := small.dp hearing
  discoveredParticipants := (.ok, [small.dp unnamed, small.dp talking])
  discoveredParticipantData handle :=
    if handle = small.dp talking then
      (.ok, ⟨small.participantKey talking, some talkerNode.userData⟩)
    else (.ok, ⟨small.participantKey unnamed, none⟩)
  qos := (.ok, some AcceptedNode.listenerNode.userData)

theorem directory_hearsTalker : Directory small 1 hearsTalker where
  instanceHandle := rfl
  keys handle _ _ := by
    unfold hearsTalker
    dsimp only
    split
    · exact ⟨0, rfl⟩
    · exact ⟨2, rfl⟩

theorem eq_zero_of_talker {k : Fin 3} {userData : Option StdString}
    (reads : Reads small 1 hearsTalker k userData)
    (matched : matchUserData UserData.parse userData talkerNode.name talkerNode.namespace_) :
    k = 0 := by
  obtain ⟨-, own⟩ | ⟨handle, -, given⟩ := reads
  · cases own
    have same : AcceptedNode.listenerNode = talkerNode :=
      eq_asked_of_plain UserData.parse_parses (by decide) (by decide) matched
    exact absurd (congrArg AcceptedNode.name same) (by decide)
  · simp only [hearsTalker] at given
    split at given
    · have key := congrArg (fun data => data.2.key) given
      exact (Fin.castLE_injective (by decide) key).symm
    · have silent : none = userData := congrArg (fun data => data.2.userData) given
      subst silent
      cases matched

theorem finds_talker : Reads small 1 hearsTalker 0 (some talkerNode.userData) ∧
    matchUserData UserData.parse (some talkerNode.userData) talkerNode.name
      talkerNode.namespace_ :=
  ⟨.inr ⟨small.dp talking, by decide, rfl⟩,
    (talkerNode.identified_of_plain UserData.parse_parses (by decide) (by decide)).2⟩

theorem all_read : ¬ hearsTalker.Unread := by
  rintro (unlisted | ⟨handle, -, failed⟩)
  · exact unlisted rfl
  · apply failed
    unfold hearsTalker
    dsimp only
    split <;> rfl

theorem heard_talks : ∃ g node, (machine small).run talks = some g ∧ g.nodes 1 = some node ∧
    HasEndpoint g 0 .publisher "rt/chatter".toList "std_msgs::msg::dds_::String_".toList ∧
    HasEndpoint g 0 .subscriber "rq/addRequest".toList "pkg::srv::dds_::Add_Request_".toList ∧
    ∀ entityType, Received small g 1 entityType 0 := by
  have taken : ((machine small).run talks).isSome := by decide
  obtain ⟨g, ran⟩ := Option.isSome_iff_exists.mp taken
  have actual : ((machine small).run talks).all (fun g => g.actual .publisher 0 =
      some ("rt/chatter".toList, "std_msgs::msg::dds_::String_".toList) ∧
      g.actual .subscriber 1 =
        some ("rq/addRequest".toList, "pkg::srv::dds_::Add_Request_".toList)) = true := by decide
  have quiet : ((machine small).run talks).all (fun g => (g.nodes 1).isSome ∧
      ∀ e, ((g.feeds 1 .publisher).queue e).isEmpty ∧
        ((g.feeds 1 .subscriber).queue e).isEmpty) = true := by decide
  simp only [ran, Option.all_some, decide_eq_true_eq, List.isEmpty_iff] at actual quiet
  obtain ⟨node, joined⟩ := Option.isSome_iff_exists.mp quiet.1
  refine ⟨g, node, ran, joined, ⟨0, by decide, actual.1⟩, ⟨1, by decide, actual.2⟩, ?_⟩
  rintro (_ | _) e -
  · exact (quiet.2 e).1
  · exact (quiet.2 e).2

/-- In every state of a domain, a query for the publishers or subscribers of a node gives
exactly the topics and types of a participant whose user data have the names, or fails
without a trace; where none has them it says so, and where one is not read it may fail. -/
theorem topics_by_node_exact (law : rc.Lawful) (reach : (machine d).Reachable g)
    (joined : g.nodes j = some node) (directory : Directory d j participant)
    (asked : AcceptedNode) (entityType : EntityType) (noDemangle : Bool) (uninitialised : GUID)
    (h : H) :
    let out := rmwGetTopicsByNode rc parseKeyValue
      (some ⟨.opendds, some ⟨node, d.ids j, participant⟩⟩) (argsOf asked uninitialised) entityType
      noDemangle h
    (∃ k userData announced, Reads d j participant k userData ∧
      matchUserData parseKeyValue userData asked.name asked.namespace_ ∧
      Shown g j node entityType k announced ∧
      out.Exact rc (copyRequests (demangleTopic noDemangle) (demangleType noDemangle)
        ((node.listener entityType).fillTopicNamesAndTypesByGuid noDemangle ∅ (d.participant k)))
        h (ShowsTopics announced noDemangle)) ∨
    (¬ participant.Unread ∧ (∀ k userData, Reads d j participant k userData →
        ¬ matchUserData parseKeyValue userData asked.name asked.namespace_) ∧
      Untouched .nodeNameNonExistent h out) ∨
    participant.Unread ∧ Untouched .error h out := by
  have zero := (law.namesAndTypesCheckZero (some .zero)).mpr rfl
  have body : rmwGetTopicsByNode rc parseKeyValue
      (some ⟨.opendds, some ⟨node, d.ids j, participant⟩⟩) (argsOf asked uninitialised) entityType
      noDemangle h = getEndpointNamesTypes rc parseKeyValue ⟨node, d.ids j, participant⟩ entityType
        (argsOf asked uninitialised) noDemangle h := by
    cases entityType <;> rfl
  rw [body]
  simp only [getEndpointNamesTypes, argsOf, zero, asked.accepted]
  obtain ⟨k, userData, reads, matched, found⟩ | ⟨complete, others, text, missing⟩ |
    ⟨unread, text, failed⟩ := directory.getKey_cases node asked uninitialised
  · refine .inl ⟨k, userData, _, reads, matched, shown_of_reachable reach joined entityType k, ?_⟩
    rw [found]
    refine exact_ofCopied law _ _ _ _ h ?_
    exact showsTopics ((node.listener entityType).noEmpty_fillTopicNamesAndTypesByGuid noDemangle
      SetMap.noEmpty_empty _) ((node.listener entityType).holds_participant_view noDemangle _)
  · refine .inr (.inl ⟨complete, others, ?_⟩)
    rw [missing]
    exact ⟨rfl, rfl, rfl, rfl⟩
  · refine .inr (.inr ⟨unread, ?_⟩)
    rw [failed]
    exact ⟨rfl, rfl, rfl, rfl⟩

/-- The listener asks for the publishers of `talker` and sees the topic that it has. -/
theorem topics_by_node_exact_talker : ∃ g node announced, (machine small).run talks = some g ∧
    g.nodes 1 = some node ∧
    announced "rt/chatter".toList "std_msgs::msg::dds_::String_".toList ∧
    (rmwGetTopicsByNode BlockPool.rcutils UserData.parse
      (some ⟨.opendds, some ⟨node, small.ids 1, hearsTalker⟩⟩) (argsOf talkerNode 7) .publisher
      false ⟨0, 0, 9⟩).Exact BlockPool.rcutils
        (copyRequests (demangleTopic false) (demangleType false)
          (node.pubListener.fillTopicNamesAndTypesByGuid false ∅ 0)) ⟨0, 0, 9⟩
        (ShowsTopics announced false) := by
  obtain ⟨g, node, ran, joined, published, -, received⟩ := heard_talks
  obtain ⟨k, userData, announced, reads, matched, shown, exact⟩ | ⟨-, others, -⟩ | ⟨unread, -⟩ :=
    topics_by_node_exact BlockPool.lawful ⟨talks, ran⟩ joined directory_hearsTalker talkerNode
      .publisher false 7 ⟨0, 0, 9⟩
  · obtain rfl := eq_zero_of_talker reads matched
    have actual := shown.actual (by decide) (received .publisher)
    exact ⟨g, node, announced, ran, joined, (actual _ _).mpr published, exact⟩
  · exact absurd finds_talker.2 (others 0 _ finds_talker.1)
  · exact absurd unread all_read

/-- A query for the services that a node serves, or is a client of, shows the services of
its subscriptions with a topic in which the suffix of requests, or of replies, occurs. -/
theorem services_by_node_exact (law : rc.Lawful) (reach : (machine d).Reachable g)
    (joined : g.nodes j = some node) (directory : Directory d j participant)
    (asked : AcceptedNode) (side : Side) (uninitialised : GUID) (h : H) :
    let out := rmwGetServicesByNode rc parseKeyValue
      (some ⟨.opendds, some ⟨node, d.ids j, participant⟩⟩) (argsOf asked uninitialised) side true h
    (∃ k userData announced, Reads d j participant k userData ∧
      matchUserData parseKeyValue userData asked.name asked.namespace_ ∧
      Shown g j node .subscriber k announced ∧
      out.Exact rc (copyRequests id stripSamplePrefix
        (node.subListener.yielded (d.participant k) side.suffix)) h
        (ShowsServices announced side.suffix)) ∨
    (¬ participant.Unread ∧ (∀ k userData, Reads d j participant k userData →
        ¬ matchUserData parseKeyValue userData asked.name asked.namespace_) ∧
      Untouched .nodeNameNonExistent h out) ∨
    participant.Unread ∧ Untouched .error h out := by
  have zero := (law.namesAndTypesCheckZero (some .zero)).mpr rfl
  have body : rmwGetServicesByNode rc parseKeyValue
      (some ⟨.opendds, some ⟨node, d.ids j, participant⟩⟩) (argsOf asked uninitialised) side true
      h = QueriedNode.getServiceNamesTypes rc parseKeyValue ⟨node, d.ids j, participant⟩
        (argsOf asked uninitialised) side.suffix true h := by
    cases side <;> rfl
  rw [body]
  simp only [QueriedNode.getServiceNamesTypes, argsOf, zero, asked.accepted, Bool.not_true,
    Bool.false_eq_true, if_false]
  obtain ⟨k, userData, reads, matched, found⟩ | ⟨complete, others, text, missing⟩ |
    ⟨unread, text, failed⟩ := directory.getKey_cases node asked uninitialised
  · refine .inl ⟨k, userData, _, reads, matched, shown_of_reachable reach joined .subscriber k, ?_⟩
    rw [found]
    exact exact_ofCopied law _ _ _ _ h (node.subListener.showsServices _ _)
  · refine .inr (.inl ⟨complete, others, ?_⟩)
    rw [missing]
    exact ⟨rfl, rfl, rfl, rfl⟩
  · refine .inr (.inr ⟨unread, ?_⟩)
    rw [failed]
    exact ⟨rfl, rfl, rfl, rfl⟩

/-- It asks for the services of `talker` and sees the one it serves. -/
theorem services_by_node_exact_talker : ∃ g node announced, (machine small).run talks = some g ∧
    g.nodes 1 = some node ∧
    announced "rq/addRequest".toList "pkg::srv::dds_::Add_Request_".toList ∧
    (rmwGetServicesByNode BlockPool.rcutils UserData.parse
      (some ⟨.opendds, some ⟨node, small.ids 1, hearsTalker⟩⟩) (argsOf talkerNode 7) .server
      true ⟨0, 0, 9⟩).Exact BlockPool.rcutils
        (copyRequests id stripSamplePrefix (node.subListener.yielded 0 "Request".toList)) ⟨0, 0, 9⟩
        (ShowsServices announced "Request".toList) := by
  obtain ⟨g, node, ran, joined, -, subscribed, received⟩ := heard_talks
  obtain ⟨k, userData, announced, reads, matched, shown, exact⟩ | ⟨-, others, -⟩ | ⟨unread, -⟩ :=
    services_by_node_exact BlockPool.lawful ⟨talks, ran⟩ joined directory_hearsTalker talkerNode
      .server 7 ⟨0, 0, 9⟩
  · obtain rfl := eq_zero_of_talker reads matched
    have actual := shown.actual (by decide) (received .subscriber)
    exact ⟨g, node, announced, ran, joined, (actual _ _).mpr subscribed, exact⟩
  · exact absurd finds_talker.2 (others 0 _ finds_talker.1)
  · exact absurd unread all_read

end Queries
end RmwOpendds.GraphNetwork
