import RmwOpendds.BlockPool
import RmwOpendds.Demangling
import RmwOpendds.ListenerQueries
import RmwOpendds.NamesAndTypesCopy
import RmwOpendds.OpenDDSNode

/-! `get_topic_names_types` and `get_service_names_types` of a node, over its two
caches. The allocator is a valid one; only the listing of services looks whether
it is null. -/

namespace RmwOpendds.OpenDDSNode

open Std Library

variable {GUID : Type*} [LinearOrder GUID] {H : Type} (rc : Rcutils H)

structure Listed (H : Type) where
  ret : RmwRet
  error : Option String
  nt : Option NamesAndTypes
  heap : H

def Listed.ofCopied (copied : Copied H) : Listed H :=
  ⟨copied.ret, copied.error, some copied.nt, copied.heap⟩

def demangleTopic (noDemangle : Bool) : StdString → StdString :=
  if noDemangle then id else Names.demangleIfRosTopic

def demangleType (noDemangle : Bool) : StdString → StdString :=
  if noDemangle then id else Names.demangleIfRosType

def copyTopicNamesTypes (nt : NamesAndTypes) (ntm : TopicsTypes) (noDemangle : Bool) (h : H) :
    Copied H :=
  copyNamesTypes rc (demangleTopic noDemangle) (demangleType noDemangle)
    "failed to allocate memory for topic name" nt ntm h

def samplePrefix : StdString := "/Sample_".toList

/-- Strip `SAMPLE_PREFIX` if it is found, but for its slash. -/
def stripSamplePrefix (type : StdString) : StdString :=
  match StdString.find samplePrefix type with
  | none => type
  | some n => StdString.substr type 0 (n + 1) ++ type.drop (n + samplePrefix.length)

def copyServiceNamesTypes (nt : NamesAndTypes) (ntm : TopicsTypes) (h : H) : Copied H :=
  copyNamesTypes rc id stripSamplePrefix "failed to allocate memory for service name" nt ntm h

/-- Publisher and subscriber information combined. -/
def topicNamesAndTypes (n : OpenDDSNode GUID) (noDemangle : Bool) : TopicsTypes :=
  n.subListener.fillTopicNamesAndTypes noDemangle
    (n.pubListener.fillTopicNamesAndTypes noDemangle ∅)

def getTopicNamesTypes (n : OpenDDSNode GUID) (nt : Option NamesAndTypes) (noDemangle : Bool)
    (h : H) : Listed H :=
  match rc.namesAndTypesCheckZero nt, nt with
  | .ok, some nt => .ofCopied (copyTopicNamesTypes rc nt (n.topicNamesAndTypes noDemangle)
      noDemangle h)
  | ret, nt => ⟨ret, none, nt, h⟩

def serviceNamesAndTypes (n : OpenDDSNode GUID) : TopicsTypes :=
  n.subListener.fillServiceNamesAndTypes (n.pubListener.fillServiceNamesAndTypes ∅)

def getServiceNamesTypes (n : OpenDDSNode GUID) (nt : Option NamesAndTypes)
    (allocatorGiven : Bool) (h : H) : Listed H :=
  match rc.namesAndTypesCheckZero nt, nt with
  | .ok, some nt =>
    if allocatorGiven then .ofCopied (copyServiceNamesTypes rc nt n.serviceNamesAndTypes h)
    else ⟨.invalidArgument, some "allocator is null", some nt, h⟩
  | ret, nt => ⟨ret, none, nt, h⟩

def Announces (n : OpenDDSNode GUID) (topicName typeName : StdString) : Prop :=
  n.pubListener.Announces (fun _ => True) topicName typeName ∨
    n.subListener.Announces (fun _ => True) topicName typeName

theorem holds_topicNamesAndTypes (n : OpenDDSNode GUID) (noDemangle : Bool) (t u : StdString) :
    SetMap.Holds (n.topicNamesAndTypes noDemangle) t u ↔
      CustomDataReaderListener.Passes noDemangle t ∧ n.Announces t u := by
  rw [topicNamesAndTypes, CustomDataReaderListener.holds_fillTopicNamesAndTypes,
    CustomDataReaderListener.holds_global_view, Announces, ← and_or_left, or_comm]

theorem noEmpty_topicNamesAndTypes (n : OpenDDSNode GUID) (noDemangle : Bool) :
    SetMap.NoEmpty (n.topicNamesAndTypes noDemangle) :=
  CustomDataReaderListener.noEmpty_fillTopicNamesAndTypes _ _
    (CustomDataReaderListener.noEmpty_fillTopicNamesAndTypes _ _ SetMap.noEmpty_empty)

def rawName (noDemangle : Bool) (name : StdString) : StdString :=
  if noDemangle then name else Names.rosTopicPrefix ++ name

def Showable (noDemangle : Bool) (name : StdString) : Prop :=
  noDemangle = true ∨ Names.FullyQualified name

theorem passes_iff (noDemangle : Bool) (t : StdString) :
    CustomDataReaderListener.Passes noDemangle t ↔
      ∃ name, Showable noDemangle name ∧ t = rawName noDemangle name := by
  cases noDemangle with
  | true => simp [CustomDataReaderListener.Passes, Showable, rawName]
  | false =>
    simp only [CustomDataReaderListener.Passes, Showable, rawName, Bool.false_eq_true, false_or,
      if_false]
    exact Names.getRosPrefixIfExists_eq_iff (by decide) t

theorem demangleTopic_rawName {noDemangle : Bool} {name : StdString}
    (showable : Showable noDemangle name) :
    demangleTopic noDemangle (rawName noDemangle name) = name := by
  cases noDemangle with
  | true => rfl
  | false =>
    have qualified : Names.FullyQualified name := by simpa [Showable] using showable
    exact Names.demangleIfRosTopic_append (by decide) qualified

/-- The rows are the topics of the caches, each once, with the types of its endpoints. -/
structure ListsTopics (n : OpenDDSNode GUID) (noDemangle : Bool)
    (rows : List (StdString × List StdString)) : Prop where
  nodup : (rows.map Prod.fst).Nodup
  mem_names : ∀ name, name ∈ rows.map Prod.fst ↔
    Showable noDemangle name ∧ ∃ t, n.Announces (rawName noDemangle name) t
  mem_types : ∀ row ∈ rows, ∀ u, u ∈ row.2 ↔
    ∃ t, n.Announces (rawName noDemangle row.1) t ∧ demangleType noDemangle t = u

def topicRows (n : OpenDDSNode GUID) (noDemangle : Bool) : List (StdString × List StdString) :=
  (n.topicNamesAndTypes noDemangle).toList.map
    (copiedRow (demangleTopic noDemangle) (demangleType noDemangle))

structure ShowsTopics (announced : StdString → StdString → Prop) (noDemangle : Bool)
    (rows : List (StdString × List StdString)) : Prop where
  nodup : (rows.map Prod.fst).Nodup
  mem_names : ∀ name, name ∈ rows.map Prod.fst ↔
    Showable noDemangle name ∧ ∃ t, announced (rawName noDemangle name) t
  mem_types : ∀ row ∈ rows, ∀ u, u ∈ row.2 ↔
    ∃ t, announced (rawName noDemangle row.1) t ∧ demangleType noDemangle t = u

theorem showsTopics {announced : StdString → StdString → Prop} {noDemangle : Bool}
    {ntm : TopicsTypes} (noEmpty : ntm.NoEmpty) (holds : ∀ t u, SetMap.Holds ntm t u ↔
      CustomDataReaderListener.Passes noDemangle t ∧ announced t u) :
    ShowsTopics announced noDemangle
      (ntm.toList.map (copiedRow (demangleTopic noDemangle) (demangleType noDemangle))) := by
  have shown : ∀ t ∈ ntm, ∃ name, Showable noDemangle name ∧ t = rawName noDemangle name := by
    intro t member
    rw [ExtTreeMap.mem_iff_isSome_getElem?, Option.isSome_iff_exists] at member
    obtain ⟨types, slot⟩ := member
    obtain ⟨u, typed⟩ := noEmpty.exists_mem slot
    exact (passes_iff noDemangle t).mp ((holds t u).mp ⟨types, slot, typed⟩).1
  constructor
  · refine nodup_names_copiedRow _ _ fun t member t' member' same => ?_
    obtain ⟨name, showable, rfl⟩ := shown t member
    obtain ⟨name', showable', rfl⟩ := shown t' member'
    rw [demangleTopic_rawName showable, demangleTopic_rawName showable'] at same
    rw [same]
  · intro name
    rw [mem_names_copiedRow _ _ noEmpty]
    simp only [holds]
    constructor
    · rintro ⟨t, named, u, passes, announced⟩
      obtain ⟨name', showable, rfl⟩ := (passes_iff noDemangle t).mp passes
      rw [demangleTopic_rawName showable] at named
      subst named
      exact ⟨showable, u, announced⟩
    · rintro ⟨showable, u, announced⟩
      have passes := (passes_iff noDemangle _).mpr ⟨name, showable, rfl⟩
      exact ⟨_, demangleTopic_rawName showable, u, passes, announced⟩
  · intro row member u
    obtain ⟨t, named, known, types⟩ := mem_types_copiedRow _ _ member
    obtain ⟨name, showable, rfl⟩ := shown t known
    rw [demangleTopic_rawName showable] at named
    have passes := (passes_iff noDemangle _).mpr ⟨name, showable, rfl⟩
    simp only [types, holds, passes, true_and, named]

theorem listsTopics (n : OpenDDSNode GUID) (noDemangle : Bool) :
    n.ListsTopics noDemangle (n.topicRows noDemangle) := by
  obtain ⟨nodup, names, types⟩ := showsTopics (n.noEmpty_topicNamesAndTypes noDemangle)
    (n.holds_topicNamesAndTypes noDemangle)
  exact ⟨nodup, names, types⟩

def topicRequests (n : OpenDDSNode GUID) (noDemangle : Bool) : List Request :=
  copyRequests (demangleTopic noDemangle) (demangleType noDemangle)
    (n.topicNamesAndTypes noDemangle)

theorem getTopicNamesTypes_cases {rc : Rcutils H} (law : rc.Lawful) (n : OpenDDSNode GUID)
    (noDemangle : Bool) (h : H) :
    let out := n.getTopicNamesTypes rc (some .zero) noDemangle h
    let served := rc.serve (n.topicRequests noDemangle) h
    (served = some out.heap ∧ out.ret = .ok ∧ ∃ nt, out.nt = some nt ∧
      nt.Shows (n.topicRows noDemangle) ∧ rc.live out.heap = nt.blocks + rc.live h) ∨
    (served = none ∧ out.ret ≠ .ok ∧ out.nt = some .zero ∧ rc.live out.heap = rc.live h) := by
  have zero := (law.namesAndTypesCheckZero (some .zero)).mpr rfl
  simp only [getTopicNamesTypes, zero, Listed.ofCopied, copyTopicNamesTypes]
  obtain ⟨served, ok, shows, live⟩ | ⟨refused, failed, finalised, live⟩ :=
    copyNamesTypes_cases law (demangleTopic noDemangle) (demangleType noDemangle)
      "failed to allocate memory for topic name" (n.topicNamesAndTypes noDemangle) h
  · exact .inl ⟨served, ok, _, rfl, shows, live⟩
  · exact .inr ⟨refused, failed, congrArg some finalised, live⟩

/-- A listing of topics is exact, or an allocation fails: then it fails, leaves the
handle finalised and has released what it allocated. -/
theorem getTopicNamesTypes_exact {rc : Rcutils H} (law : rc.Lawful) (n : OpenDDSNode GUID)
    (noDemangle : Bool) (h : H) :
    let out := n.getTopicNamesTypes rc (some .zero) noDemangle h
    let served := rc.serve (n.topicRequests noDemangle) h
    (served = some out.heap ∧ out.ret = .ok ∧ ∃ nt rows, out.nt = some nt ∧ nt.Shows rows ∧
      n.ListsTopics noDemangle rows ∧ rc.live out.heap = nt.blocks + rc.live h) ∨
    (served = none ∧ out.ret ≠ .ok ∧ out.nt = some .zero ∧ rc.live out.heap = rc.live h) := by
  refine (getTopicNamesTypes_cases law n noDemangle h).imp_left ?_
  rintro ⟨served, ok, nt, handle, shows, live⟩
  exact ⟨served, ok, nt, _, handle, shows, n.listsTopics noDemangle, live⟩

theorem getTopicNamesTypes_exact_pool :
    let n : OpenDDSNode ℕ := (create.addPub ⟨id, id⟩ 1 2 "rt/chatter".toList
      "std_msgs::msg::dds_::String_".toList).node
    let out := n.getTopicNamesTypes BlockPool.rcutils (some .zero) false ⟨0, 0, 3⟩
    let served := BlockPool.rcutils.serve (n.topicRequests false) ⟨0, 0, 3⟩
    (served = some out.heap ∧ out.ret = .ok ∧ ∃ nt rows, out.nt = some nt ∧ nt.Shows rows ∧
      n.ListsTopics false rows ∧ out.heap.live = nt.blocks + 0) ∨
    (served = none ∧ out.ret ≠ .ok ∧ out.nt = some .zero ∧ out.heap.live = 0) :=
  getTopicNamesTypes_exact BlockPool.lawful _ false _

end RmwOpendds.OpenDDSNode
