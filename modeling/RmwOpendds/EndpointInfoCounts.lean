import RmwOpendds.Demangling
import RmwOpendds.TopicEndpointInfo

/-! Endpoint infos and counts: a query over the four names of a topic collects the
endpoints that the name counts, each once, and describes each by its own entry. -/

namespace RmwOpendds

open Std Library Names

variable {GUID Handle Key : Type} [LinearOrder GUID] {H : Type}

namespace CustomDataReaderListener

def matchingEntries (l : CustomDataReaderListener GUID) (fqdn : StdString) (noMangle : Bool) :
    List (GUID × TopicInfo GUID) :=
  l.topicCache.endpointGuidToInfo.toList.filter fun keyVal =>
    (if noMangle then keyVal.2.topicName else demangleIfRosTopic keyVal.2.topicName) = fqdn

theorem fillTopicEndpointInfos_eq (l : CustomDataReaderListener GUID) (fqdn : StdString)
    (noMangle : Bool) (infos : List (TopicInfo GUID)) :
    l.fillTopicEndpointInfos fqdn noMangle infos =
      infos ++ (l.matchingEntries fqdn noMangle).map Prod.snd := by
  unfold fillTopicEndpointInfos matchingEntries
  generalize l.topicCache.endpointGuidToInfo.toList = entries
  induction entries generalizing infos with
  | nil => simp
  | cons keyVal entries ih =>
    rw [List.foldl_cons, ih]
    by_cases same : (if noMangle then keyVal.2.topicName
        else demangleIfRosTopic keyVal.2.topicName) = fqdn
    · simp [same]
    · simp [same]

def matching (l : CustomDataReaderListener GUID) (name : StdString) : List (TopicInfo GUID) :=
  (l.matchingEntries name false).map Prod.snd

theorem mem_matching (l : CustomDataReaderListener GUID) (name : StdString)
    (info : TopicInfo GUID) :
    info ∈ l.matching name ↔ ∃ e : GUID, l.topicCache.endpointGuidToInfo[e]? = some info ∧
      demangleIfRosTopic info.topicName = name := by
  simp [matching, matchingEntries, ExtTreeMap.mem_toList_iff_getElem?_eq_some]

theorem length_matching (l : CustomDataReaderListener GUID) (name : StdString) :
    (l.matching name).length = l.countTopic name := by
  rw [matching, List.length_map, countTopic, List.countP_eq_length_filter]
  rfl

theorem nodup_matching (l : CustomDataReaderListener GUID) (name : StdString) :
    ((l.matching name).map TopicInfo.endpointGuid).Nodup := by
  have keys : (l.matching name).map TopicInfo.endpointGuid =
      (l.matchingEntries name false).map Prod.fst := by
    rw [matching, List.map_map]
    refine List.map_congr_left ?_
    rintro ⟨e, info⟩ member
    have found := ExtTreeMap.mem_toList_iff_getElem?_eq_some.mp (List.mem_of_mem_filter member)
    exact l.wellFormed.endpointGuid_eq e info found
  rw [keys]
  refine List.Nodup.sublist (List.filter_sublist.map Prod.fst) ?_
  rw [ExtTreeMap.map_fst_toList_eq_keys]
  exact ExtTreeMap.nodup_keys

theorem matching_mangled (l : CustomDataReaderListener GUID) {pre name : StdString}
    (ros : pre ∈ rosPrefixes) (qualified : FullyQualified name) :
    l.matching (pre ++ name) = [] := by
  rw [List.eq_nil_iff_forall_not_mem]
  intro info member
  obtain ⟨-, -, same⟩ := (l.mem_matching _ info).mp member
  exact demangleIfRosTopic_ne_mangled ros qualified _ same

theorem collectInfos_eq_flatMap (l : CustomDataReaderListener GUID) (topicFqdns : List StdString) :
    l.collectInfos topicFqdns false = topicFqdns.flatMap l.matching := by
  have collect : ∀ infos,
      topicFqdns.foldl (fun infos fqdn => l.fillTopicEndpointInfos fqdn false infos) infos =
        infos ++ topicFqdns.flatMap l.matching := by
    induction topicFqdns with
    | nil => simp
    | cons fqdn topicFqdns ih =>
      intro infos
      rw [List.foldl_cons, ih, fillTopicEndpointInfos_eq, List.flatMap_cons, List.append_assoc,
        matching]
  exact collect []

theorem collectInfos_eq (l : CustomDataReaderListener GUID) {name : StdString}
    (qualified : FullyQualified name) :
    l.collectInfos (getTopicFqdns name false) false = l.matching name := by
  have none : (rosPrefixes.map (· ++ name)).flatMap l.matching = [] := by
    rw [List.flatMap_eq_nil_iff]
    intro fqdn member
    obtain ⟨pre, ros, rfl⟩ := List.mem_map.mp member
    exact l.matching_mangled ros qualified
  rw [collectInfos_eq_flatMap]
  change l.matching name ++ (rosPrefixes.map (· ++ name)).flatMap l.matching = _
  rw [none, List.append_nil]

end CustomDataReaderListener
section Names

variable (ids : Identities Handle Key GUID) (format : UserDataFormat GUID)
  (participant : DomainParticipant Handle Key)

def DiscoveredAs (handle : Handle) (guid : GUID) (info : ParticipantNameInfo) : Prop :=
  ∃ pbtd, participant.discoveredParticipantData handle = (.ok, pbtd) ∧
    ids.builtinTopicKeyToGuid pbtd.key = guid ∧ userDataNames format pbtd = some info

/-- The participant is the node's own, or a discovered one with both names. -/
def KnownAs (own : ParticipantNameInfo) (guid : GUID) (info : ParticipantNameInfo) : Prop :=
  (guid = ids.getRepoid participant.instanceHandle ∧ info = own) ∨
    ∃ handle ∈ participant.discoveredParticipants.2,
      DiscoveredAs ids format participant handle guid info

variable {ids format participant}

theorem addParticipantName_eq_ok {names names' : ExtTreeMap GUID ParticipantNameInfo}
    {handle : Handle}
    (returned : addParticipantName ids format participant names handle = .ok names')
    (guid : GUID) :
    (∀ info, names'[guid]? = some info →
      names[guid]? = some info ∨ DiscoveredAs ids format participant handle guid info) ∧
    (guid ∈ names ∨ (∃ info, DiscoveredAs ids format participant handle guid info) →
      guid ∈ names') := by
  unfold addParticipantName at returned
  split at returned
  · rename_i pbtd data
    split at returned
    · rename_i info both
      cases returned
      rw [ExtTreeMap.mem_insert]
      simp only [ExtTreeMap.getElem?_insert, LawfulEqCmp.compare_eq_iff_eq]
      constructor
      · intro info' found
        split at found
        · rename_i same
          cases found
          exact .inr ⟨pbtd, data, same, both⟩
        · exact .inl found
      · rintro (old | ⟨info', pbtd', data', same, -⟩)
        · exact .inr old
        · rw [data] at data'
          cases data'
          exact .inl same
    · rename_i missing
      cases returned
      refine ⟨fun _ => .inl, ?_⟩
      rintro (old | ⟨info, pbtd', data', -, both⟩)
      · exact old
      · rw [data] at data'
        cases data'
        rw [missing] at both
        cases both
  · cases returned

theorem foldlM_addParticipantName {handles : List Handle}
    {names names' : ExtTreeMap GUID ParticipantNameInfo}
    (returned : handles.foldlM (addParticipantName ids format participant) names = .ok names')
    (guid : GUID) :
    (∀ info, names'[guid]? = some info → names[guid]? = some info ∨
      ∃ handle ∈ handles, DiscoveredAs ids format participant handle guid info) ∧
    (guid ∈ names ∨ (∃ handle ∈ handles, ∃ info,
      DiscoveredAs ids format participant handle guid info) → guid ∈ names') := by
  induction handles generalizing names with
  | nil =>
    cases returned
    simp
  | cons handle handles ih =>
    rw [List.foldlM_cons] at returned
    cases added : addParticipantName ids format participant names handle with
    | error text =>
      rw [added] at returned
      cases returned
    | ok between =>
      rw [added] at returned
      have first := addParticipantName_eq_ok added guid
      have rest := ih returned
      simp only [List.exists_mem_cons_iff]
      constructor
      · intro info found
        obtain old | later := rest.1 info found
        · exact (first.1 info old).imp_right Or.inl
        · exact .inr (.inr later)
      · rintro (old | here | later)
        · exact rest.2 (.inl (first.2 (.inl old)))
        · exact rest.2 (.inl (first.2 (.inr here)))
        · exact rest.2 (.inr later)

theorem participantGuidToName_eq_ok {own : ParticipantNameInfo}
    {names : ExtTreeMap GUID ParticipantNameInfo}
    (returned : participantGuidToName ids format participant own = .ok names) (guid : GUID) :
    (∀ info, names[guid]? = some info → KnownAs ids format participant own guid info) ∧
    (names[guid]? = none → ∀ info, ¬ KnownAs ids format participant own guid info) := by
  unfold participantGuidToName at returned
  split at returned
  · rename_i handles discovered
    have known : ∀ info, KnownAs ids format participant own guid info ↔
        (guid = ids.getRepoid participant.instanceHandle ∧ info = own) ∨
          ∃ handle ∈ handles, DiscoveredAs ids format participant handle guid info := by
      intro info
      rw [KnownAs, discovered]
    obtain ⟨sound, complete⟩ := foldlM_addParticipantName returned guid
    constructor
    · intro info found
      rw [known]
      refine (sound info found).imp_left fun start => ?_
      rw [ExtTreeMap.getElem?_insert] at start
      split at start
      · rename_i same
        exact ⟨(LawfulEqCmp.eq_of_compare same).symm, (Option.some.inj start).symm⟩
      · simp at start
    · intro absent info is
      have missing : guid ∉ names := by
        rw [ExtTreeMap.mem_iff_isSome_getElem?, absent]
        simp
      rw [known] at is
      refine missing (complete (is.imp ?_ ?_))
      · rintro ⟨rfl, -⟩
        exact ExtTreeMap.mem_insert_self
      · rintro ⟨handle, member, found⟩
        exact ⟨handle, member, info, found⟩
  · cases returned

end Names

section Fill

variable {fns : EndpointInfoFunctions H} {format : UserDataFormat GUID}

def gidOf (format : UserDataFormat GUID) (guid : GUID) : List UInt8 :=
  format.octets guid ++ List.replicate (gidStorageSize - 16) 0

omit [LinearOrder GUID] in
theorem gidOf_injective (format : UserDataFormat GUID) : Function.Injective (gidOf format) := by
  intro guid guid' same
  exact format.octets_injective (List.append_cancel_right same)

/-- An entry carries the GUID, the type and the participant of its own endpoint. The
participant has a name that is known for it, or the markers if none is known. -/
structure Describes (format : UserDataFormat GUID) (knownAs : GUID → ParticipantNameInfo → Prop)
    (isPublisher : Bool) (info : TopicInfo GUID) (entry : RmwTopicEndpointInfo) : Prop where
  endpointType : entry.endpointType = if isPublisher then .publisher else .subscription
  endpointGid : entry.endpointGid = gidOf format info.endpointGuid
  topicType : entry.topicType = some (demangleIfRosType info.topicType)
  participant : (∃ nameInfo, knownAs info.participantGuid nameInfo ∧
      entry.nodeName = some (cStr nameInfo.name) ∧
      entry.nodeNamespace = some (cStr nameInfo.namespace_)) ∨
    (∀ nameInfo, ¬ knownAs info.participantGuid nameInfo) ∧
      entry.nodeName = some "_NODE_NAME_UNKNOWN_".toList ∧
      entry.nodeNamespace = some "_NODE_NAMESPACE_UNKNOWN_".toList

omit [LinearOrder GUID] in
theorem map_endpointGid {knownAs : GUID → ParticipantNameInfo → Prop} {isPublisher : Bool}
    {infos : List (TopicInfo GUID)} {entries : RmwTopicEndpointInfoArray}
    (described : List.Forall₂ (Describes format knownAs isPublisher) infos entries) :
    entries.map RmwTopicEndpointInfo.endpointGid =
      infos.map (gidOf format ∘ TopicInfo.endpointGuid) := by
  induction described with
  | nil => rfl
  | cons describes _ ih => simp [describes.endpointGid, ih]

omit [LinearOrder GUID] in
theorem Describes.congr {knownAs knownAs' : GUID → ParticipantNameInfo → Prop} {isPublisher : Bool}
    {info : TopicInfo GUID} {entry : RmwTopicEndpointInfo}
    (described : Describes format knownAs isPublisher info entry)
    (sound : ∀ nameInfo, knownAs info.participantGuid nameInfo →
      knownAs' info.participantGuid nameInfo)
    (complete : (∀ nameInfo, ¬ knownAs info.participantGuid nameInfo) →
      ∀ nameInfo, ¬ knownAs' info.participantGuid nameInfo) :
    Describes format knownAs' isPublisher info entry where
  endpointType := described.endpointType
  endpointGid := described.endpointGid
  topicType := described.topicType
  participant := by
    obtain ⟨nameInfo, known, named⟩ | ⟨unknown, markers⟩ := described.participant
    · exact .inl ⟨nameInfo, sound nameInfo known, named⟩
    · exact .inr ⟨complete unknown, markers⟩

theorem setField_exits (f : RmwTopicEndpointInfo → H → RmwRet × RmwTopicEndpointInfo × H)
    (info : RmwTopicEndpointInfo) (h : H) :
    Exits (setField f) (info, h) (fun _ t => (f info h).1 = .ok ∧ t = (f info h).2)
      (fun e _ => e ≠ .ok) := by
  unfold Exits EStateM.run setField
  by_cases ok : (f info h).1 = .ok
  · simp [ok]
  · simp [ok]

theorem setField_then {f : RmwTopicEndpointInfo → H → RmwRet × RmwTopicEndpointInfo × H}
    {change : RmwTopicEndpointInfo → RmwTopicEndpointInfo}
    (sets : ∀ info h, (f info h).1 = .ok → (f info h).2.1 = change info)
    {next : PUnit → EStateM RmwRet (RmwTopicEndpointInfo × H) PUnit}
    {post : RmwTopicEndpointInfo → Prop} (info : RmwTopicEndpointInfo) (h : H)
    (rest : ∀ h, Exits (next ⟨⟩) (change info, h) (fun _ t => post t.1) (fun e _ => e ≠ .ok)) :
    Exits (setField f >>= next) (info, h) (fun _ t => post t.1) (fun e _ => e ≠ .ok) := by
  rw [exits_bind]
  refine (setField_exits f info h).mono ?_ fun _ _ => id
  rintro _ t ⟨ok, rfl⟩
  have changed := sets info h ok
  rw [← changed] at rest
  exact rest _

theorem setField_last {f : RmwTopicEndpointInfo → H → RmwRet × RmwTopicEndpointInfo × H}
    {change : RmwTopicEndpointInfo → RmwTopicEndpointInfo}
    (sets : ∀ info h, (f info h).1 = .ok → (f info h).2.1 = change info)
    {post : RmwTopicEndpointInfo → Prop} (info : RmwTopicEndpointInfo) (h : H)
    (holds : post (change info)) :
    Exits (setField f) (info, h) (fun _ t => post t.1) (fun e _ => e ≠ .ok) := by
  refine (setField_exits f info h).mono ?_ fun _ _ => id
  rintro _ t ⟨ok, rfl⟩
  rw [← sets info h ok] at holds
  exact holds

theorem setRmwTopicEndpointInfo_exits (law : fns.Lawful)
    (names : ExtTreeMap GUID ParticipantNameInfo) (isPublisher : Bool) (info : TopicInfo GUID)
    (entry : RmwTopicEndpointInfo) (h : H) :
    Exits (setRmwTopicEndpointInfo fns format names false isPublisher info) (entry, h)
      (fun _ t => Describes format (fun guid nameInfo => names[guid]? = some nameInfo) isPublisher
        info t.1) (fun e _ => e ≠ .ok) := by
  have gid : (gidOf format info.endpointGuid).take 16 = format.octets info.endpointGuid := by
    rw [gidOf, ← format.octets_length info.endpointGuid, List.take_left]
  unfold setRmwTopicEndpointInfo
  refine setField_then (law.setEndpointType _) _ _ fun h => ?_
  refine setField_then (law.setGid _ _) _ _ fun h => ?_
  refine setField_then (law.setTopicType _) _ _ fun h => ?_
  cases lookup : names[info.participantGuid]? with
  | none =>
    refine setField_then (law.setNodeName _) _ _ fun h => ?_
    refine setField_last (law.setNodeNamespace _) _ _ ?_
    refine ⟨rfl, congrArg (· ++ _) gid, rfl, .inr ⟨fun nameInfo found => ?_, rfl, rfl⟩⟩
    rw [lookup] at found
    cases found
  | some nameInfo =>
    refine setField_then (law.setNodeName _) _ _ fun h => ?_
    refine setField_last (law.setNodeNamespace _) _ _ ?_
    exact ⟨rfl, congrArg (· ++ _) gid, rfl, .inl ⟨nameInfo, lookup, rfl, rfl⟩⟩

omit [LinearOrder GUID] in
theorem setInfos_exits {set : TopicInfo GUID → EStateM RmwRet (RmwTopicEndpointInfo × H) PUnit}
    {describes : TopicInfo GUID → RmwTopicEndpointInfo → Prop}
    (sets : ∀ info entry h, Exits (set info) (entry, h) (fun _ t => describes info t.1)
      (fun e _ => e ≠ .ok))
    (infos : List (TopicInfo GUID)) (done left : RmwTopicEndpointInfoArray) (h : H)
    (size : left.length = infos.length) :
    Exits (setInfos set infos done.length) (done ++ left, h)
      (fun _ t => ∃ filled, t.1 = done ++ filled ∧ List.Forall₂ describes infos filled)
      (fun e _ => e ≠ .ok) := by
  induction infos generalizing done left h with
  | nil =>
    obtain rfl := List.length_eq_zero_iff.mp size
    exact ⟨[], rfl, .nil⟩
  | cons info infos ih =>
    obtain ⟨entry, left, rfl⟩ := List.exists_cons_of_length_eq_add_one size
    rw [setInfos, exits_bind, exits_onPart]
    have slot : (done ++ entry :: left).getD done.length .zero = entry := by simp
    simp only [slot]
    refine (sets info entry h).mono ?_ fun _ _ => id
    rintro _ ⟨entry', h'⟩ described
    have place : (done ++ entry :: left).set done.length entry' = done ++ [entry'] ++ left := by
      simp
    have next := ih (done ++ [entry']) left h' (Nat.succ.inj size)
    rw [List.length_append, List.length_singleton, ← place] at next
    refine next.mono ?_ fun _ _ => id
    rintro _ t ⟨filled, final, all⟩
    exact ⟨entry' :: filled, by rw [final, List.append_assoc]; rfl, .cons described all⟩

omit [LinearOrder GUID] in
theorem returnInfos_ok {set : TopicInfo GUID → EStateM RmwRet (RmwTopicEndpointInfo × H) PUnit}
    {describes : TopicInfo GUID → RmwTopicEndpointInfo → Prop} (law : fns.Lawful)
    (sets : ∀ info entry h, Exits (set info) (entry, h) (fun _ t => describes info t.1)
      (fun e _ => e ≠ .ok))
    {infos : List (TopicInfo GUID)} {array : RmwTopicEndpointInfoArray} {h : H}
    (ok : (returnInfos fns set infos array h).ret = .ok) :
    ∃ entries, (returnInfos fns set infos array h).participantsInfo = some entries ∧
      List.Forall₂ describes infos entries := by
  have size := law.arrayInitWithSize infos.length array h
  obtain ⟨ret, left, h', init⟩ :
      ∃ ret left h', fns.arrayInitWithSize infos.length array h = (ret, left, h') :=
    ⟨_, _, _, rfl⟩
  rw [init] at size
  simp only [returnInfos, init] at ok ⊢
  by_cases started : ret = .ok
  · have loop := setInfos_exits sets infos [] left h' (size started)
    simp only [started, ne_eq, not_true_eq_false, if_false] at ok ⊢
    cases run : (setInfos set infos 0).run (left, h') with
    | ok _ t =>
      obtain ⟨filled, final, all⟩ := loop.of_ok run
      exact ⟨filled, congrArg some final, all⟩
    | error e t =>
      rw [run] at ok
      exact absurd ok (loop.of_error run)
  · simp only [ne_eq, started, not_false_eq_true, if_true] at ok

end Fill

theorem countP_getTopicFqdns {name : StdString} (qualified : FullyQualified name) (t : StdString) :
    ((getTopicFqdns name false).countP fun fqdn => demangleIfRosTopic t = fqdn) =
      if demangleIfRosTopic t = name then 1 else 0 := by
  have none : (rosPrefixes.map (· ++ name)).countP (fun fqdn => demangleIfRosTopic t = fqdn) =
      0 := by
    rw [List.countP_eq_zero]
    intro fqdn member
    obtain ⟨pre, ros, rfl⟩ := List.mem_map.mp member
    simpa using demangleIfRosTopic_ne_mangled ros qualified t
  change (name :: rosPrefixes.map (· ++ name)).countP (fun fqdn => demangleIfRosTopic t = fqdn) = _
  rw [List.countP_cons, none]
  simp

theorem getInfoByTopic_ok {fns : EndpointInfoFunctions H} {ids : Identities Handle Key GUID}
    {format : UserDataFormat GUID} {node : RmwNode GUID Handle Key} {name : StdString}
    {noMangle isPublisher : Bool} {array : RmwTopicEndpointInfoArray} {h : H}
    (ok : (getInfoByTopic fns ids format (some node) true (some name) noMangle isPublisher
      (some array) h).ret = .ok) :
    ∃ ddsNode participant names, node.handle.data = some (ddsNode, participant) ∧
      participantGuidToName ids format participant ⟨node.name, node.namespace_⟩ = .ok names ∧
      getInfoByTopic fns ids format (some node) true (some name) noMangle isPublisher
          (some array) h =
        returnInfos fns (setRmwTopicEndpointInfo fns format names noMangle isPublisher)
          ((ddsNode.slaveTarget isPublisher).collectInfos (getTopicFqdns name noMangle) noMangle)
          array h := by
  unfold getInfoByTopic validateParams at ok ⊢
  cases zero : fns.arrayCheckZero array with
  | ok =>
    simp only [zero, if_true] at ok ⊢
    cases valid : RmwHandle.fromHandle "node is null" "dds_node is null" (some node.handle) with
    | error text =>
      rw [valid] at ok
      cases ok
    | ok data =>
      obtain ⟨ddsNode, participant⟩ := data
      simp only [valid] at ok ⊢
      cases named : participantGuidToName ids format participant ⟨node.name, node.namespace_⟩ with
      | error text =>
        rw [named] at ok
        cases ok
      | ok names => exact ⟨_, _, names, RmwHandle.data_of_fromHandle valid, named, rfl⟩
  | _ =>
    simp only [zero, if_true] at ok
    cases ok

/-- The infos are the endpoints of the cache that the name counts, each once. -/
structure CollectsCounted (l : CustomDataReaderListener GUID) (name : StdString)
    (infos : List (TopicInfo GUID)) : Prop where
  mem_iff : ∀ info, info ∈ infos ↔ ∃ e : GUID, l.topicCache.endpointGuidToInfo[e]? = some info ∧
    demangleIfRosTopic info.topicName = name
  nodup : (infos.map TopicInfo.endpointGuid).Nodup
  length : infos.length = l.countTopic name

theorem collectsCounted (l : CustomDataReaderListener GUID) {name : StdString}
    (qualified : FullyQualified name) :
    CollectsCounted l name (l.collectInfos (getTopicFqdns name false) false) := by
  rw [l.collectInfos_eq qualified]
  exact ⟨l.mem_matching name, l.nodup_matching name, l.length_matching name⟩

/-- The endpoint infos of a name are its count: the four names find every endpoint
that is counted once, and a query that returns has one entry for each, with a gid
of its own, the type and the participant of its endpoint. -/
theorem endpoint_infos_are_counted {fns : EndpointInfoFunctions H} (law : fns.Lawful)
    (ids : Identities Handle Key GUID) (format : UserDataFormat GUID) {name : StdString}
    (qualified : FullyQualified name) :
    (∀ t, ((getTopicFqdns name false).countP fun fqdn => demangleIfRosTopic t = fqdn) =
      if demangleIfRosTopic t = name then 1 else 0) ∧
    (∀ l : CustomDataReaderListener GUID,
      CollectsCounted l name (l.collectInfos (getTopicFqdns name false) false)) ∧
    ∀ (node : RmwNode GUID Handle Key) isPublisher array h,
      let out := getInfoByTopic fns ids format (some node) true (some name) false isPublisher
        (some array) h
      out.ret = .ok → ∃ ddsNode participant entries,
        node.handle.data = some (ddsNode, participant) ∧ out.participantsInfo = some entries ∧
        let l := ddsNode.slaveTarget isPublisher
        entries.length = l.countTopic name ∧
        (entries.map RmwTopicEndpointInfo.endpointGid).Nodup ∧
        List.Forall₂ (Describes format
            (KnownAs ids format participant ⟨node.name, node.namespace_⟩) isPublisher)
          (l.collectInfos (getTopicFqdns name false) false) entries := by
  refine ⟨countP_getTopicFqdns qualified, fun l => collectsCounted l qualified, ?_⟩
  intro node isPublisher array h out ok
  obtain ⟨ddsNode, participant, names, data, named, returned⟩ := getInfoByTopic_ok ok
  have collected := collectsCounted (ddsNode.slaveTarget isPublisher) qualified
  have ok' : (returnInfos fns (setRmwTopicEndpointInfo fns format names false isPublisher)
      ((ddsNode.slaveTarget isPublisher).collectInfos (getTopicFqdns name false) false)
      array h).ret = .ok := returned ▸ ok
  obtain ⟨entries, filled, described⟩ := returnInfos_ok law
    (setRmwTopicEndpointInfo_exits law names isPublisher) ok'
  have shown := (congrArg InfoByTopic.participantsInfo returned).trans filled
  refine ⟨ddsNode, participant, entries, data, shown, ?_, ?_, ?_⟩
  · rw [← described.length_eq, collected.length]
  · have gids := map_endpointGid described
    rw [gids, ← List.map_map]
    exact collected.nodup.map (gidOf_injective format)
  · refine described.imp fun info entry describes => ?_
    have known := participantGuidToName_eq_ok named info.participantGuid
    refine describes.congr known.1 fun unknown => known.2 ?_
    exact Option.eq_none_iff_forall_ne_some.mpr unknown

def unfailing : EndpointInfoFunctions Unit where
  arrayCheckZero array := if array = [] then .ok else .error
  arrayInitWithSize size _ h := (.ok, List.replicate size .zero, h)
  arrayFini _ h := (.ok, [], h)
  setEndpointType type info h := (.ok, { info with endpointType := type }, h)
  setGid gid size info h := (.ok, { info with
    endpointGid := gid.take size ++ List.replicate (gidStorageSize - size) 0 }, h)
  setTopicType s info h := (.ok, { info with topicType := some s }, h)
  setNodeName s info h := (.ok, { info with nodeName := some s }, h)
  setNodeNamespace s info h := (.ok, { info with nodeNamespace := some s }, h)
  errorString _ := ""

theorem unfailing_lawful : unfailing.Lawful where
  arrayInitWithSize _ _ _ _ := List.length_replicate
  setEndpointType _ _ _ _ := rfl
  setGid _ _ _ _ _ := rfl
  setTopicType _ _ _ _ := rfl
  setNodeName _ _ _ _ := rfl
  setNodeNamespace _ _ _ _ := rfl

/-- One octet tells the participants and endpoints apart; all user data is of `listener`. -/
def oneOctet : UserDataFormat (Fin 256) where
  parseKeyValue _ := .ofList [("name".toList, "listener".toList), ("namespace".toList, "/".toList)]
  octets guid := UInt8.ofNat guid :: List.replicate 15 0
  octets_length _ := rfl
  octets_injective := by
    intro guid guid' same
    have octet := congrArg UInt8.toNat (List.cons.inj same).1
    simp only [UInt8.toNat_ofNat'] at octet
    omega

/-- A node with a publisher of its own on `/chatter`, and one of a peer whose topic is not
a ROS one. -/
def twoTalkers : RmwNode (Fin 256) (Fin 256) (Fin 256) where
  name := "talker".toList
  namespace_ := "/".toList
  handle :=
    let own := (OpenDDSNode.create.addPub ⟨id, id⟩ 1 2 "rt/chatter".toList
      "std_msgs::msg::dds_::String_".toList).node
    ⟨.opendds, some ({ own with pubListener := (own.pubListener.addInformation 5 6
        "/chatter".toList "String".toList .publisher).listener },
      ⟨1, (.ok, [5]), fun _ => (.ok, ⟨5, some "".toList⟩)⟩)⟩

theorem endpoint_infos_are_counted_twoTalkers :
    let out := getPublishersInfoByTopic unfailing ⟨id, id⟩ oneOctet (some twoTalkers) true
      (some "/chatter".toList) false (some []) ()
    out.ret = .ok ∧
      out.participantsInfo.map (·.map (·.nodeName)) =
        some [some "talker".toList, some "listener".toList] ∧
      ∃ ddsNode participant entries, twoTalkers.handle.data = some (ddsNode, participant) ∧
        out.participantsInfo = some entries ∧
        entries.length = ddsNode.pubListener.countTopic "/chatter".toList ∧
        (entries.map RmwTopicEndpointInfo.endpointGid).Nodup := by
  have qualified : FullyQualified "/chatter".toList := rfl
  have law := endpoint_infos_are_counted unfailing_lawful ⟨id, id⟩ oneOctet qualified
  have ok : (getPublishersInfoByTopic unfailing ⟨id, id⟩ oneOctet (some twoTalkers) true
      (some "/chatter".toList) false (some []) ()).ret = .ok := by decide +kernel
  obtain ⟨ddsNode, participant, entries, data, filled, size, gids, -⟩ :=
    law.2.2 twoTalkers true [] () ok
  exact ⟨ok, by decide +kernel, ddsNode, participant, entries, data, filled, size, gids⟩

end RmwOpendds
