import RmwOpendds.Listing

/-! The listing of services: with names and types built by the conventions, each
service is listed once, under each package and type once. -/

namespace RmwOpendds

open Std Library Names

variable {GUID : Type*} [LinearOrder GUID] {H : Type} {rc : Rcutils H}

namespace CustomDataReaderListener

omit [LinearOrder GUID] in
theorem holds_insertServiceNameAndType (services : TopicsTypes) (info : TopicInfo GUID)
    (s v : StdString) :
    SetMap.Holds (insertServiceNameAndType services info) s v ↔
      (s ≠ [] ∧ v ≠ [] ∧ demangleServiceFromTopic info.topicName = s ∧
        demangleServiceTypeOnly info.topicType = v) ∨ SetMap.Holds services s v := by
  unfold insertServiceNameAndType
  by_cases service : demangleServiceFromTopic info.topicName = []
  · rw [if_pos service]
    refine (or_iff_right ?_).symm
    rintro ⟨named, -, same, -⟩
    exact named (same ▸ service)
  · rw [if_neg service]
    by_cases typed : demangleServiceTypeOnly info.topicType = []
    · rw [if_neg (not_not.mpr typed)]
      refine (or_iff_right ?_).symm
      rintro ⟨-, known, -, same⟩
      exact known (same ▸ typed)
    · rw [if_pos typed, SetMap.holds_insertAt]
      refine or_congr_left ⟨?_, fun both => both.2.2⟩
      rintro ⟨rfl, rfl⟩
      exact ⟨service, typed, rfl, rfl⟩

theorem holds_fillServiceNamesAndTypes (l : CustomDataReaderListener GUID)
    (services : TopicsTypes) (s v : StdString) :
    SetMap.Holds (l.fillServiceNamesAndTypes services) s v ↔
      (s ≠ [] ∧ v ≠ [] ∧ ∃ t u, l.Announces (fun _ => True) t u ∧
        demangleServiceFromTopic t = s ∧ demangleServiceTypeOnly u = v) ∨
      SetMap.Holds services s v := by
  unfold fillServiceNamesAndTypes
  rw [foldl_adds (fun m : TopicsTypes => SetMap.Holds m s v) _ fun m it =>
    holds_insertServiceNameAndType m it.2 s v]
  refine or_congr_left ?_
  simp only [Announces, Prod.exists, ExtTreeMap.mem_toList_iff_getElem?_eq_some, true_and]
  constructor
  · rintro ⟨e, info, found, named, typed, same, same'⟩
    exact ⟨named, typed, _, _, ⟨e, info, found, rfl, rfl⟩, same, same'⟩
  · rintro ⟨named, typed, _, _, ⟨e, info, found, rfl, rfl⟩, same, same'⟩
    exact ⟨e, info, found, named, typed, same, same'⟩

omit [LinearOrder GUID] in
theorem noEmpty_insertServiceNameAndType {services : TopicsTypes} (h : services.NoEmpty)
    (info : TopicInfo GUID) : SetMap.NoEmpty (insertServiceNameAndType services info) := by
  unfold insertServiceNameAndType
  by_cases service : demangleServiceFromTopic info.topicName = []
  · rw [if_pos service]
    exact h
  · rw [if_neg service]
    by_cases typed : demangleServiceTypeOnly info.topicType = []
    · rw [if_neg (not_not.mpr typed)]
      exact h
    · rw [if_pos typed]
      exact SetMap.noEmpty_insertAt h _ _

theorem noEmpty_fillServiceNamesAndTypes (l : CustomDataReaderListener GUID)
    {services : TopicsTypes} (h : services.NoEmpty) :
    SetMap.NoEmpty (l.fillServiceNamesAndTypes services) :=
  List.foldlRecOn _ _ h fun _ h it _ => noEmpty_insertServiceNameAndType h it.2

end CustomDataReaderListener

namespace OpenDDSNode

theorem holds_serviceNamesAndTypes (n : OpenDDSNode GUID) (s v : StdString) :
    SetMap.Holds n.serviceNamesAndTypes s v ↔
      s ≠ [] ∧ v ≠ [] ∧ ∃ t u, n.Announces t u ∧
        demangleServiceFromTopic t = s ∧ demangleServiceTypeOnly u = v := by
  rw [serviceNamesAndTypes, CustomDataReaderListener.holds_fillServiceNamesAndTypes,
    CustomDataReaderListener.holds_fillServiceNamesAndTypes,
    or_iff_left (SetMap.not_holds_empty s v), ← and_or_left, ← and_or_left, ← exists_or]
  simp only [← exists_or, ← or_and_right, Announces, or_comm]

theorem noEmpty_serviceNamesAndTypes (n : OpenDDSNode GUID) :
    SetMap.NoEmpty n.serviceNamesAndTypes :=
  n.subListener.noEmpty_fillServiceNamesAndTypes
    (n.pubListener.noEmpty_fillServiceNamesAndTypes SetMap.noEmpty_empty)

/-- Letters, digits and underscores. -/
def IsPackageName (pkg : StdString) : Prop := ∀ c ∈ pkg, c.isAlphanum ∨ c = '_'

def IsTypeName (name : StdString) : Prop := ∀ c ∈ name, c.isAlphanum

def IsTopicOf (s topicName : StdString) : Prop :=
  topicName = requestTopic s ∨ topicName = replyTopic s

def BuiltName (topicName : StdString) : Prop :=
  ∃ name q, FullyQualified name ∧ q.avoidRosNamespaceConventions = false ∧
    (createTopicName (some name) (some q) = .ok topicName ∨
      createRequestName name (some q) = .ok topicName ∨
      createReplyName name (some q) = .ok topicName)

/-- Topic names are built by the conventions or have no ROS prefix, and the
endpoints of service topics have the types of requests and replies. -/
structure Conventional (n : OpenDDSNode GUID) : Prop where
  names : ∀ t u, n.Announces t u → BuiltName t ∨ getRosPrefixIfExists t = []
  types : ∀ t u, n.Announces t u → ∀ s, FullyQualified s → IsTopicOf s t →
    ∃ pkg name, IsPackageName pkg ∧ IsTypeName name ∧
      ∃ suffix ∈ typeSuffixes, u = serviceTypeName pkg name suffix

def shownServiceType (pkg name : StdString) : StdString := pkg ++ "/".toList ++ name

theorem not_mem_packageName {pkg : StdString} (package : IsPackageName pkg) {c : Char}
    (foreign : (c.isAlphanum || c = '_') = false) : c ∉ pkg := by
  intro member
  obtain letter | underscore := package c member
  · simp [letter] at foreign
  · simp [underscore] at foreign

theorem not_mem_typeName {name : StdString} (type : IsTypeName name) {c : Char}
    (foreign : c.isAlphanum = false) : c ∉ name := by
  intro member
  simp [type c member] at foreign

theorem shownServiceType_injective {pkg pkg' name name' : StdString}
    (package : IsPackageName pkg) (type : IsTypeName name)
    (same : shownServiceType pkg name = shownServiceType pkg' name') :
    pkg = pkg' ∧ name = name' := by
  have cut : pkg ++ '/' :: name = pkg' ++ '/' :: name' := by simpa [shownServiceType] using same
  rw [List.append_cons_inj_of_notMem (not_mem_packageName package (by decide))
    (not_mem_typeName type (by decide))] at cut
  exact ⟨cut.1, cut.2.2⟩

theorem stripSamplePrefix_shownServiceType {pkg name : StdString} (package : IsPackageName pkg)
    (type : IsTypeName name) :
    stripSamplePrefix (shownServiceType pkg name) = shownServiceType pkg name := by
  have slash : '/' ∉ pkg := not_mem_packageName package (by decide)
  have underscore : '_' ∉ "/".toList ++ name := by
    have inName : '_' ∉ name := not_mem_typeName type (by decide)
    simpa using inName
  have absent : ¬ samplePrefix <:+: shownServiceType pkg name := by
    rw [shownServiceType, List.append_assoc, StdString.infix_append_of_no_straddle]
    · rintro (inPackage | inName)
      · exact slash (inPackage.subset (by decide))
      · exact underscore (inName.subset (by decide))
    · intro k pos _ both
      have first : '/' ∈ samplePrefix.take k := by
        cases k with
        | zero => cases pos
        | succ k => exact List.mem_cons_self
      exact slash (both.1.subset first)
  rw [stripSamplePrefix, StdString.find_eq_none absent]

def Offers (n : OpenDDSNode GUID) (s pkg name : StdString) : Prop :=
  ∃ t, IsTopicOf s t ∧ ∃ suffix ∈ typeSuffixes, n.Announces t (serviceTypeName pkg name suffix)

/-- The rows are the services of the caches, each once, with each of its types once. -/
structure ListsServices (n : OpenDDSNode GUID) (rows : List (StdString × List StdString)) :
    Prop where
  nodup : (rows.map Prod.fst).Nodup
  mem_names : ∀ s, s ∈ rows.map Prod.fst ↔
    FullyQualified s ∧ ∃ t u, IsTopicOf s t ∧ n.Announces t u
  nodup_types : ∀ row ∈ rows, row.2.Nodup
  mem_types : ∀ row ∈ rows, ∀ pkg name, IsPackageName pkg → IsTypeName name →
    (shownServiceType pkg name ∈ row.2 ↔ n.Offers row.1 pkg name)
  only_types : ∀ row ∈ rows, ∀ u ∈ row.2, ∃ pkg name, IsPackageName pkg ∧ IsTypeName name ∧
    u = shownServiceType pkg name

theorem demangleServiceFromTopic_isTopicOf {s t : StdString} (qualified : FullyQualified s)
    (topic : IsTopicOf s t) : demangleServiceFromTopic t = s := by
  obtain rfl | rfl := topic
  · exact demangleServiceFromTopic_requestTopic qualified
  · exact demangleServiceFromTopic_replyTopic qualified

theorem isTopicOf_of_demangle {s t : StdString} (named : s ≠ [])
    (built : BuiltName t ∨ getRosPrefixIfExists t = []) (same : demangleServiceFromTopic t = s) :
    FullyQualified s ∧ IsTopicOf s t := by
  have service := demangleServiceFromTopic_ne_nil (same ▸ named)
  obtain ⟨name, q, qualified, ros, topic | request | reply⟩ | none := built
  · exfalso
    rw [createTopicName_eq qualified ros] at topic
    cases topic
    have ros : rosTopicPrefix ∈ rosPrefixes := by decide
    rw [(getRosPrefixIfExists_eq_iff ros _).mpr ⟨name, qualified, rfl⟩] at service
    exact absurd service (by decide)
  · rw [createRequestName_eq name ros] at request
    cases request
    rw [demangleServiceFromTopic_requestTopic qualified] at same
    exact same ▸ ⟨qualified, .inl rfl⟩
  · rw [createReplyName_eq name ros] at reply
    cases reply
    rw [demangleServiceFromTopic_replyTopic qualified] at same
    exact same ▸ ⟨qualified, .inr rfl⟩
  · rw [none] at service
    exact absurd service (by decide)

namespace Conventional

variable {n : OpenDDSNode GUID} (conventional : n.Conventional)
include conventional

theorem holds_serviceNamesAndTypes (s v : StdString) :
    SetMap.Holds n.serviceNamesAndTypes s v ↔ FullyQualified s ∧ ∃ pkg name,
      IsPackageName pkg ∧ IsTypeName name ∧ n.Offers s pkg name ∧
        v = shownServiceType pkg name := by
  rw [OpenDDSNode.holds_serviceNamesAndTypes]
  constructor
  · rintro ⟨named, -, t, u, announced, same, typed⟩
    obtain ⟨qualified, topic⟩ := isTopicOf_of_demangle named (conventional.names t u announced) same
    obtain ⟨pkg, name, package, type, suffix, known, rfl⟩ :=
      conventional.types t u announced s qualified topic
    have noColon : ':' ∉ pkg := not_mem_packageName package (by decide)
    rw [demangleServiceTypeOnly_serviceTypeName noColon name known] at typed
    exact ⟨qualified, pkg, name, package, type, ⟨t, topic, suffix, known, announced⟩, typed.symm⟩
  · rintro ⟨qualified, pkg, name, package, type, ⟨t, topic, suffix, known, announced⟩, rfl⟩
    have noColon : ':' ∉ pkg := not_mem_packageName package (by decide)
    refine ⟨qualified.ne_nil, by simp [shownServiceType], t, _, announced,
      demangleServiceFromTopic_isTopicOf qualified topic, ?_⟩
    exact demangleServiceTypeOnly_serviceTypeName noColon name known

theorem stripSamplePrefix_eq {s v : StdString} (held : SetMap.Holds n.serviceNamesAndTypes s v) :
    stripSamplePrefix v = v := by
  obtain ⟨-, pkg, name, package, type, -, rfl⟩ :=
    (conventional.holds_serviceNamesAndTypes s v).mp held
  exact stripSamplePrefix_shownServiceType package type

end Conventional

def serviceRows (n : OpenDDSNode GUID) : List (StdString × List StdString) :=
  n.serviceNamesAndTypes.toList.map (copiedRow id stripSamplePrefix)

theorem Conventional.listsServices {n : OpenDDSNode GUID} (conventional : n.Conventional) :
    n.ListsServices n.serviceRows := by
  have noEmpty := n.noEmpty_serviceNamesAndTypes
  have holds := conventional.holds_serviceNamesAndTypes
  have types : ∀ row ∈ n.serviceRows, ∀ u, u ∈ row.2 ↔
      SetMap.Holds n.serviceNamesAndTypes row.1 u := by
    intro row member u
    obtain ⟨s, rfl, -, types⟩ := mem_types_copiedRow _ _ member
    rw [types]
    constructor
    · rintro ⟨v, held, rfl⟩
      rwa [conventional.stripSamplePrefix_eq held]
    · intro held
      exact ⟨u, held, conventional.stripSamplePrefix_eq held⟩
  have qualified : ∀ row ∈ n.serviceRows, FullyQualified row.1 := by
    intro row member
    have named : row.1 ∈ n.serviceRows.map Prod.fst := List.mem_map_of_mem member
    obtain ⟨_, rfl, u, held⟩ := (mem_names_copiedRow _ _ noEmpty _).mp named
    exact ((holds _ u).mp held).1
  constructor
  · exact nodup_names_copiedRow _ _ fun _ _ _ _ => id
  · intro s
    rw [serviceRows, mem_names_copiedRow _ _ noEmpty]
    constructor
    · rintro ⟨_, rfl, u, held⟩
      obtain ⟨qualified, pkg, name, -, -, ⟨t, topic, suffix, -, announced⟩, -⟩ :=
        (holds _ u).mp held
      exact ⟨qualified, t, _, topic, announced⟩
    · rintro ⟨qualified, t, u, topic, announced⟩
      obtain ⟨pkg, name, package, type, suffix, known, rfl⟩ :=
        conventional.types t u announced s qualified topic
      refine ⟨s, rfl, _, (holds s _).mpr ⟨qualified, pkg, name, package, type, ?_, rfl⟩⟩
      exact ⟨t, topic, suffix, known, announced⟩
  · intro row member
    obtain ⟨⟨s, set⟩, slot, rfl⟩ := List.mem_map.mp member
    rw [ExtTreeMap.mem_toList_iff_getElem?_eq_some] at slot
    refine List.Nodup.map_on (fun v inSet v' inSet' same => ?_)
      (OrderedMap.nodup_toList_set set)
    rw [ExtTreeSet.mem_toList] at inSet inSet'
    rwa [conventional.stripSamplePrefix_eq ⟨set, slot, inSet⟩,
      conventional.stripSamplePrefix_eq ⟨set, slot, inSet'⟩] at same
  · intro row member pkg name package type
    rw [types row member, holds]
    constructor
    · rintro ⟨-, pkg', name', -, -, offered, same⟩
      obtain ⟨rfl, rfl⟩ := shownServiceType_injective package type same
      exact offered
    · intro offered
      exact ⟨qualified row member, pkg, name, package, type, offered, rfl⟩
  · intro row member u inRow
    rw [types row member, holds] at inRow
    obtain ⟨-, pkg, name, package, type, -, shown⟩ := inRow
    exact ⟨pkg, name, package, type, shown⟩

def serviceRequests (n : OpenDDSNode GUID) : List Request :=
  copyRequests id stripSamplePrefix n.serviceNamesAndTypes

/-- If no allocation fails, a listing of services is exact. -/
theorem getServiceNamesTypes_exact (law : rc.Lawful) (n : OpenDDSNode GUID)
    (conventional : n.Conventional) (h : H) (served : (rc.serve n.serviceRequests h).isSome) :
    let out := n.getServiceNamesTypes rc (some .zero) true h
    out.ret = .ok ∧ ∃ nt rows, out.nt = some nt ∧ nt.Shows rows ∧ n.ListsServices rows := by
  have zero := (law.namesAndTypesCheckZero (some .zero)).mpr rfl
  simp only [getServiceNamesTypes, zero, Listed.ofCopied, copyServiceNamesTypes, if_true]
  obtain ⟨-, ok, shows, -⟩ | ⟨refused, -⟩ := copyNamesTypes_cases law id stripSamplePrefix
    "failed to allocate memory for service name" n.serviceNamesAndTypes h
  · exact ⟨ok, _, _, rfl, shows, conventional.listsServices⟩
  · rw [serviceRequests, refused] at served
    cases served

/-- A node that has discovered a server, whose name contains a suffix of its topics. -/
def oneServer : OpenDDSNode ℕ :=
  (create.addSub ⟨id, id⟩ 1 2 (requestTopic "/MyRequest".toList)
    (serviceTypeName "pkg".toList "T".toList "_Request_".toList)).node

theorem oneServer_announces {t u : StdString} (announced : oneServer.Announces t u) :
    t = requestTopic "/MyRequest".toList ∧
      u = serviceTypeName "pkg".toList "T".toList "_Request_".toList := by
  obtain ⟨e, info, found, -, rfl, rfl⟩ | ⟨e, info, found, -, rfl, rfl⟩ := announced
  · simp [oneServer, create, addSub, CustomDataReaderListener.create, TopicCache.empty] at found
  · change (TopicCache.empty.addTopic _ _ _ _).cache.endpointGuidToInfo[e]? = _ at found
    rw [TopicCache.getElem?_addTopic] at found
    split at found
    · cases found
      exact ⟨rfl, rfl⟩
    · cases found

theorem oneServer_conventional : oneServer.Conventional where
  names t u announced := by
    obtain ⟨rfl, -⟩ := oneServer_announces announced
    let q : RmwQosProfile :=
      { history := .keepLast, depth := 10, reliability := .reliable, durability := .volatile
        deadline := ⟨0, 0⟩, lifespan := ⟨0, 0⟩, liveliness := .systemDefault
        livelinessLeaseDuration := ⟨0, 0⟩, avoidRosNamespaceConventions := false }
    exact .inl ⟨"/MyRequest".toList, q, rfl, rfl, .inr (.inl (createRequestName_eq _ rfl))⟩
  types t u announced s qualified topic := by
    obtain ⟨rfl, rfl⟩ := oneServer_announces announced
    have package : IsPackageName "pkg".toList := by simp [IsPackageName]
    have type : IsTypeName "T".toList := by simp [IsTypeName]
    exact ⟨_, _, package, type, _, by decide, rfl⟩

theorem getServiceNamesTypes_exact_oneServer :
    let out := oneServer.getServiceNamesTypes BlockPool.rcutils (some .zero) true ⟨0, 0, 5⟩
    out.ret = .ok ∧ ∃ nt rows, out.nt = some nt ∧ nt.Shows rows ∧ oneServer.ListsServices rows :=
  getServiceNamesTypes_exact BlockPool.lawful _ oneServer_conventional _ (by decide)

end OpenDDSNode
end RmwOpendds
