import RmwOpendds.EndpointInfoCounts

/-! An endpoint-info query beside the discovery listener. The lock of the listener
makes each pass of the query and each change of the cache one step, but the
pointers are read after the last pass, in steps of their own. A node of the map
lives from the insertion of its entry to its removal; a later entry of the same
endpoint has a node of its own. -/

namespace RmwOpendds

open Std Library

variable {GUID : Type} [LinearOrder GUID]

/-- A pointer to the entry of an endpoint, in the node that held it when it was taken. -/
structure InfoPointer (GUID : Type) where
  endpointGuid : GUID
  node : ℕ
  deriving DecidableEq, Repr

/-- A query under way: the names that are still to be collected, the pointers that
are still to be read, what they all pointed to when they were taken, and what
reading them has given (`none` where the node is gone). -/
structure InfoQuery (GUID : Type) [LinearOrder GUID] where
  listener : CustomDataReaderListener GUID
  node : GUID → ℕ
  nextNode : ℕ
  noMangle : Bool
  topicFqdns : List StdString
  pointers : List (InfoPointer GUID)
  collected : List (TopicInfo GUID)
  read : List (Option (TopicInfo GUID))

inductive InfoQueryStep (GUID : Type) where
  | addInformation (participantGuid guid : GUID) (topicName typeName : StdString)
    (entityType : EntityType)
  | removeInformation (guid : GUID) (entityType : EntityType)
  | fillTopicEndpointInfos
  | setRmwTopicEndpointInfo
  deriving DecidableEq, Repr

namespace InfoQuery

def start (l : CustomDataReaderListener GUID) (topicName : StdString) (noMangle : Bool) :
    InfoQuery GUID where
  listener := l
  node _ := 0
  nextNode := 1
  noMangle := noMangle
  topicFqdns := getTopicFqdns topicName noMangle
  pointers := []
  collected := []
  read := []

def deref (q : InfoQuery GUID) (pointer : InfoPointer GUID) : Option (TopicInfo GUID) :=
  if q.node pointer.endpointGuid = pointer.node then
    q.listener.topicCache.endpointGuidToInfo[pointer.endpointGuid]?
  else none

def afterAdd (q : InfoQuery GUID) (guid : GUID) (u : CustomDataReaderListener.Update GUID) :
    InfoQuery GUID :=
  if u.success then
    { q with listener := u.listener, node := Function.update q.node guid q.nextNode,
             nextNode := q.nextNode + 1 }
  else { q with listener := u.listener }

def step (q : InfoQuery GUID) : InfoQueryStep GUID → Option (InfoQuery GUID)
  | .addInformation participantGuid guid topicName typeName entityType =>
    some (q.afterAdd guid
      (q.listener.addInformation participantGuid guid topicName typeName entityType))
  | .removeInformation guid entityType =>
    some { q with listener := (q.listener.removeInformation guid entityType).listener }
  | .fillTopicEndpointInfos =>
    match q.topicFqdns with
    | [] => none
    | fqdn :: rest =>
      let entries := q.listener.matchingEntries fqdn q.noMangle
      some { q with
        topicFqdns := rest
        pointers := q.pointers ++ entries.map fun keyVal => ⟨keyVal.1, q.node keyVal.1⟩
        collected := q.listener.fillTopicEndpointInfos fqdn q.noMangle q.collected }
  | .setRmwTopicEndpointInfo =>
    match q.topicFqdns, q.pointers with
    | [], pointer :: rest => some { q with pointers := rest, read := q.read ++ [q.deref pointer] }
    | _, _ => none

/-- A query of a topic on a cache, with everything that the listener does meanwhile. -/
def steps (l : CustomDataReaderListener GUID) (topicName : StdString) (noMangle : Bool) :
    Machine (InfoQuery GUID) (InfoQueryStep GUID) where
  start := start l topicName noMangle
  step := step

def ReadsCollected (q : InfoQuery GUID) : Prop := q.read <+: q.collected.map some

/-- No endpoint is removed while a pointer to it is still to be read. -/
def SparesPending (q : InfoQuery GUID) : InfoQueryStep GUID → Prop
  | .removeInformation guid _ => ∀ pointer ∈ q.pointers, pointer.endpointGuid ≠ guid
  | _ => True

instance (q : InfoQuery GUID) : (i : InfoQueryStep GUID) → Decidable (q.SparesPending i)
  | .removeInformation guid _ =>
    inferInstanceAs (Decidable (∀ pointer ∈ q.pointers, pointer.endpointGuid ≠ guid))
  | .addInformation .. | .fillTopicEndpointInfos | .setRmwTopicEndpointInfo => .isTrue trivial

theorem deref_eq_some {q : InfoQuery GUID} {pointer : InfoPointer GUID} {info : TopicInfo GUID} :
    q.deref pointer = some info ↔ q.node pointer.endpointGuid = pointer.node ∧
      q.listener.topicCache.endpointGuidToInfo[pointer.endpointGuid]? = some info := by
  unfold deref
  split
  · rename_i same
    exact (and_iff_right same).symm
  · rename_i other
    exact iff_of_false (by simp) fun both => other both.1

/-- The nodes of the map and those that are pointed to were given out already. -/
def Numbered (q : InfoQuery GUID) : Prop :=
  (∀ guid, q.node guid < q.nextNode) ∧ ∀ pointer ∈ q.pointers, pointer.node < q.nextNode

/-- An addition leaves the nodes alone that were given out: the entry that it puts
in has a node of its own, also where the endpoint was there before. -/
theorem deref_afterAdd {q : InfoQuery GUID} {pointer : InfoPointer GUID}
    (known : pointer.node < q.nextNode) (p e : GUID) (t u : StdString) (entityType : EntityType) :
    (q.afterAdd e (q.listener.addInformation p e t u entityType)).deref pointer =
      q.deref pointer := by
  have entry := TopicCache.getElem?_addTopic q.listener.topicCache p e pointer.endpointGuid t u
  have changed := q.listener.topicCache.changed_addTopic p e t u
  unfold afterAdd deref
  rw [CustomDataReaderListener.addInformation]
  by_cases added : (q.listener.topicCache.addTopic p e t u).changed = true
  · have fresh := changed.mp added
    simp only [added, if_true]
    by_cases same : e = pointer.endpointGuid
    · have given : q.nextNode ≠ pointer.node := by omega
      rw [← same, Function.update_self, if_neg given, fresh, ite_self]
    · rw [Function.update_of_ne (Ne.symm same), entry, if_neg same]
  · obtain ⟨info, present⟩ := Option.ne_none_iff_exists'.mp (mt changed.mpr added)
    rw [if_neg added]
    simp only [entry]
    by_cases same : e = pointer.endpointGuid
    · rw [if_pos same, present, ← same, present, Option.getD_some]
    · rw [if_neg same]

theorem deref_afterRemove (q : InfoQuery GUID) (pointer : InfoPointer GUID) (e : GUID)
    (entityType : EntityType) :
    ({ q with listener := (q.listener.removeInformation e entityType).listener } :
      InfoQuery GUID).deref pointer =
      if pointer.endpointGuid = e then none else q.deref pointer := by
  unfold deref
  simp only [CustomDataReaderListener.removeInformation, q.listener.wellFormed.getElem?_removeTopic]
  by_cases same : pointer.endpointGuid = e
  · simp [same]
  · simp [same, Ne.symm same]

theorem map_deref_entries (q : InfoQuery GUID) (fqdn : StdString) :
    ((q.listener.matchingEntries fqdn q.noMangle).map fun keyVal =>
      (⟨keyVal.1, q.node keyVal.1⟩ : InfoPointer GUID)).map q.deref =
      ((q.listener.matchingEntries fqdn q.noMangle).map Prod.snd).map some := by
  rw [List.map_map, List.map_map]
  refine List.map_congr_left ?_
  rintro ⟨e, info⟩ member
  have found := ExtTreeMap.mem_toList_iff_getElem?_eq_some.mp (List.mem_of_mem_filter member)
  exact deref_eq_some.mpr ⟨rfl, found⟩

/-- What was read and what reading the rest would give, in the order of collection. -/
def view (q : InfoQuery GUID) : List (Option (TopicInfo GUID)) :=
  q.read ++ q.pointers.map q.deref

theorem view_afterAdd {q : InfoQuery GUID} (numbered : q.Numbered) (p e : GUID) (t u : StdString)
    (entityType : EntityType) :
    (q.afterAdd e (q.listener.addInformation p e t u entityType)).view = q.view := by
  have pointed : q.pointers.map
      (q.afterAdd e (q.listener.addInformation p e t u entityType)).deref =
      q.pointers.map q.deref :=
    List.map_congr_left fun pointer member => deref_afterAdd (numbered.2 pointer member) p e t u _
  rw [view, view, ← pointed]
  unfold afterAdd
  split <;> rfl

theorem view_pass {q q' : InfoQuery GUID} (taken : q.step .fillTopicEndpointInfos = some q') :
    ∃ infos, q'.view = q.view ++ infos.map some ∧ q'.collected = q.collected ++ infos := by
  simp only [InfoQuery.step] at taken
  split at taken
  · cases taken
  · rename_i fqdn rest _
    cases taken
    refine ⟨(q.listener.matchingEntries fqdn q.noMangle).map Prod.snd, ?_,
      CustomDataReaderListener.fillTopicEndpointInfos_eq ..⟩
    change q.read ++ List.map q.deref _ = _
    rw [List.map_append, q.map_deref_entries fqdn, ← List.append_assoc, view]

theorem view_read {q q' : InfoQuery GUID} (taken : q.step .setRmwTopicEndpointInfo = some q') :
    q'.view = q.view ∧ q'.collected = q.collected := by
  simp only [InfoQuery.step] at taken
  split at taken
  · rename_i pointer rest _ pending
    cases taken
    refine ⟨?_, rfl⟩
    rw [view, view, pending, List.map_cons]
    exact (List.append_cons q.read _ _).symm
  · cases taken

theorem Numbered.step {q q' : InfoQuery GUID} {i : InfoQueryStep GUID} (numbered : q.Numbered)
    (taken : q.step i = some q') : q'.Numbered := by
  obtain ⟨held, pointed⟩ := numbered
  cases i with
  | addInformation p e t u entityType =>
    cases taken
    unfold afterAdd
    split
    · refine ⟨fun guid => ?_, fun pointer member => (pointed pointer member).trans (by simp)⟩
      by_cases same : guid = e
      · simp [same]
      · simpa [Function.update_of_ne same] using (held guid).trans (Nat.lt_succ_self _)
    · exact ⟨held, pointed⟩
  | removeInformation e entityType =>
    cases taken
    exact ⟨held, pointed⟩
  | fillTopicEndpointInfos =>
    simp only [InfoQuery.step] at taken
    split at taken
    · cases taken
    · cases taken
      refine ⟨held, fun pointer member => ?_⟩
      obtain earlier | now := List.mem_append.mp member
      · exact pointed pointer earlier
      · obtain ⟨keyVal, -, rfl⟩ := List.mem_map.mp now
        exact held keyVal.1
  | setRmwTopicEndpointInfo =>
    simp only [InfoQuery.step] at taken
    split at taken
    · rename_i pending
      cases taken
      exact ⟨held, fun pointer member => pointed pointer (pending ▸ List.mem_cons_of_mem _ member)⟩
    · cases taken

def Intact (q : InfoQuery GUID) : Prop := q.Numbered ∧ q.view = q.collected.map some

def Lost (q : InfoQuery GUID) : Prop := q.Numbered ∧ none ∈ q.view

theorem Intact.readsCollected {q : InfoQuery GUID} (intact : q.Intact) : q.ReadsCollected :=
  ⟨_, intact.2⟩

theorem Intact.step {q q' : InfoQuery GUID} {i : InfoQueryStep GUID} (intact : q.Intact)
    (spares : q.SparesPending i) (taken : q.step i = some q') : q'.Intact := by
  refine ⟨intact.1.step taken, ?_⟩
  cases i with
  | addInformation p e t u entityType =>
    cases taken
    rw [view_afterAdd intact.1, intact.2]
    unfold afterAdd
    split <;> rfl
  | removeInformation e entityType =>
    cases taken
    refine Eq.trans ?_ intact.2
    rw [view, view]
    refine congrArg _ (List.map_congr_left fun pointer member => ?_)
    rw [deref_afterRemove, if_neg (spares pointer member)]
  | fillTopicEndpointInfos =>
    obtain ⟨infos, viewed, collected⟩ := view_pass taken
    rw [viewed, collected, intact.2, List.map_append]
  | setRmwTopicEndpointInfo =>
    obtain ⟨viewed, collected⟩ := view_read taken
    rw [viewed, collected, intact.2]

/-- What is lost stays lost: no later entry gets the node of an erased one. -/
theorem Lost.step {q q' : InfoQuery GUID} {i : InfoQueryStep GUID} (lost : q.Lost)
    (taken : q.step i = some q') : q'.Lost := by
  refine ⟨lost.1.step taken, ?_⟩
  cases i with
  | addInformation p e t u entityType =>
    cases taken
    rw [view_afterAdd lost.1]
    exact lost.2
  | removeInformation e entityType =>
    cases taken
    obtain already | pending := List.mem_append.mp lost.2
    · exact List.mem_append_left _ already
    · obtain ⟨pointer, member, gone⟩ := List.mem_map.mp pending
      refine List.mem_append_right _ (List.mem_map.mpr ⟨pointer, member, ?_⟩)
      rw [deref_afterRemove, gone, ite_self]
  | fillTopicEndpointInfos =>
    obtain ⟨infos, viewed, -⟩ := view_pass taken
    rw [viewed]
    exact List.mem_append_left _ lost.2
  | setRmwTopicEndpointInfo =>
    rw [(view_read taken).1]
    exact lost.2

theorem Numbered.lost {q q' : InfoQuery GUID} {i : InfoQueryStep GUID} (numbered : q.Numbered)
    (taken : q.step i = some q') (hits : ¬ q.SparesPending i) : q'.Lost := by
  refine ⟨numbered.step taken, ?_⟩
  cases i with
  | removeInformation e entityType =>
    cases taken
    simp only [SparesPending, not_forall, not_not] at hits
    obtain ⟨pointer, member, same⟩ := hits
    refine List.mem_append_right _ (List.mem_map.mpr ⟨pointer, member, ?_⟩)
    rw [deref_afterRemove, if_pos same]
  | _ => exact absurd trivial hits

theorem Lost.not_readsCollected {q : InfoQuery GUID} (lost : q.Lost) (done : q.pointers = []) :
    ¬ q.ReadsCollected := by
  intro collected
  have read : none ∈ q.read := by simpa [view, done] using lost.2
  simpa using collected.subset read

/-- As long as no endpoint is removed between the pass that collects it and the read
of its element, every element read is the endpoint as it was collected. Once the
query has read every element, this is also necessary. -/
theorem collected_until_read (l : CustomDataReaderListener GUID) (topicName : StdString)
    (noMangle : Bool) (is : List (InfoQueryStep GUID)) :
    ((steps l topicName noMangle).Along SparesPending (start l topicName noMangle) is →
      (steps l topicName noMangle).Throughout ReadsCollected (start l topicName noMangle) is) ∧
    ∀ q, (steps l topicName noMangle).run is = some q → q.pointers = [] →
      ((steps l topicName noMangle).Throughout ReadsCollected (start l topicName noMangle) is ↔
        (steps l topicName noMangle).Along SparesPending (start l topicName noMangle) is) := by
  have initial : (start l topicName noMangle).Intact := by
    refine ⟨⟨fun _ => ?_, by simp [start]⟩, rfl⟩
    exact Nat.one_pos
  have kept : (steps l topicName noMangle).Along SparesPending (start l topicName noMangle) is →
      (steps l topicName noMangle).Throughout ReadsCollected (start l topicName noMangle) is :=
    fun along => ((steps l topicName noMangle).throughout_of_along
      (fun _ _ _ intact spares taken => Intact.step intact spares taken) initial along).mono _
      fun _ intact => intact.readsCollected
  refine ⟨kept, fun q ran done => ⟨fun collected => ?_, kept⟩⟩
  by_contra breaks
  have lost : q.Lost := (steps l topicName noMangle).runFrom_of_not_along
    (fun _ _ _ numbered taken => Numbered.step numbered taken)
    (fun _ _ _ numbered hits taken => Numbered.lost numbered taken hits)
    (fun _ _ _ lost taken => Lost.step lost taken) initial.1 breaks ran
  exact lost.not_readsCollected done (collected.last _ ran)

def oneTalker : CustomDataReaderListener ℕ :=
  (CustomDataReaderListener.create.addInformation 1 2 "rt/chatter".toList
    "std_msgs::msg::dds_::String_".toList .publisher).listener

/-- While the publisher is collected and read, another one comes and goes. -/
def otherLeaves : List (InfoQueryStep ℕ) :=
  [.fillTopicEndpointInfos,
    .addInformation 1 3 "rt/chatter".toList "std_msgs::msg::dds_::String_".toList .publisher,
    .fillTopicEndpointInfos, .fillTopicEndpointInfos, .fillTopicEndpointInfos,
    .removeInformation 3 .publisher, .setRmwTopicEndpointInfo]

theorem collected_until_read_otherLeaves :
    (steps oneTalker "/chatter".toList false).Throughout ReadsCollected
      (start oneTalker "/chatter".toList false) otherLeaves ∧
    ∃ q, (steps oneTalker "/chatter".toList false).run otherLeaves = some q ∧
      q.read = [some ⟨"rt/chatter".toList, "std_msgs::msg::dds_::String_".toList, 1, 2⟩] := by
  have outcome : ((steps oneTalker "/chatter".toList false).run otherLeaves).map
      (fun q => (q.pointers, q.read)) = some ([],
        [some ⟨"rt/chatter".toList, "std_msgs::msg::dds_::String_".toList, 1, 2⟩]) := by decide
  obtain ⟨q, ran, same⟩ := Option.map_eq_some_iff.mp outcome
  obtain ⟨done, read⟩ := Prod.mk.inj same
  have query := collected_until_read oneTalker "/chatter".toList false otherLeaves
  exact ⟨(query.2 q ran done).mpr (by decide), q, ran, read⟩

/-- The publisher is collected, and leaves before it is read. -/
def leavesMeanwhile : List (InfoQueryStep ℕ) :=
  [.fillTopicEndpointInfos, .fillTopicEndpointInfos, .fillTopicEndpointInfos,
    .fillTopicEndpointInfos, .removeInformation 2 .publisher, .setRmwTopicEndpointInfo]

/-- An element is read whose entry is gone. -/
theorem erased_entry_read :
    ¬ ∀ (l : CustomDataReaderListener ℕ) (topicName : StdString) (noMangle : Bool)
      (is : List (InfoQueryStep ℕ)) (q : InfoQuery ℕ),
      (steps l topicName noMangle).run is = some q → q.ReadsCollected := by
  intro claim
  have outcome : ((steps oneTalker "/chatter".toList false).run leavesMeanwhile).map read =
      some [none] := by decide
  obtain ⟨q, run, read⟩ := Option.map_eq_some_iff.mp outcome
  have same := claim oneTalker "/chatter".toList false leavesMeanwhile q run
  have gone : none ∈ q.collected.map some := same.subset (by simp [read])
  simp at gone

end InfoQuery
end RmwOpendds
