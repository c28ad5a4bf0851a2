import RmwOpendds.GraphNetwork

/-! What the nodes of a domain hold of each other's endpoints, over all runs: an entry is
out of date only while samples of its endpoint are under way, so two nodes that have
received everything of a third participant give the same answers about it. -/

namespace RmwOpendds.GraphNetwork

open Std Library CustomDataReaderListener

variable {ι Handle Key GUID : Type} [LinearOrder GUID]

section Invariant

variable {d : Domain ι Handle Key GUID}

/-- The entry that `j` should hold of an endpoint. -/
def entry (d : Domain ι Handle Key GUID) (j : ι) (e : GUID)
    (actual : Option (StdString × StdString)) : Option (TopicInfo GUID) :=
  actual.map fun nt => ⟨nt.1, nt.2, d.holder j e, e⟩

def Foreign (d : Domain ι Handle Key GUID) (j : ι) (e : GUID) : Prop :=
  ∃ i, d.owner e = some i ∧ i ≠ j

def Genuine (d : Domain ι Handle Key GUID) (j : ι) (s : BuiltinSample Handle Key) : Prop :=
  s.validData = true →
    (d.ids j).builtinTopicKeyToGuid s.participantKey = d.holder j (endpoint (d.ids j) s)

def Attributed (d : Domain ι Handle Key GUID) (j : ι) (l : CustomDataReaderListener GUID) : Prop :=
  ∀ e info, lookup l e = some info → info.participantGuid = d.holder j e

/-- The invariant of one node: of every endpoint of another participant, the samples under
way lead from the entry to the endpoint. -/
structure Follows (d : Domain ι Handle Key GUID) (j : ι)
    (actual : EntityType → GUID → Option (StdString × StdString))
    (feeds : EntityType → Feed (endpoint (d.ids j))) (node : OpenDDSNode GUID) : Prop where
  leads : ∀ entityType e, Foreign d j e →
    (feeds entityType).Leads (Replay.slot alive (announced (d.ids j))) e
      (lookup (node.listener entityType) e) (entry d j e (actual entityType e))
  held : ∀ entityType, Attributed d j (node.listener entityType)
  genuine : ∀ entityType e, ∀ s ∈ (feeds entityType).queue e, Genuine d j s

theorem holder_of_foreign {j i : ι} {e : GUID} (owned : d.owner e = some i) :
    d.holder j e = d.participant i := by
  rw [Domain.holder, owned, Option.getD_some]

theorem holder_of_not_foreign {j : ι} {e : GUID} (mine : ¬ Foreign d j e) :
    d.holder j e = d.participant j := by
  unfold Domain.holder
  cases owned : d.owner e with
  | none => rfl
  | some i =>
    by_cases same : i = j
    · rw [same, Option.getD_some]
    · exact absurd ⟨i, owned, same⟩ mine

theorem not_foreign_of_mayEnter [DecidableEq ι] {j : ι} {handle : Handle}
    (allowed : Graph.mayEnter d j handle = true) : ¬ Foreign d j ((d.ids j).getRepoid handle) := by
  rintro ⟨i, owned, other⟩
  rw [Graph.mayEnter, owned] at allowed
  exact other (of_decide_eq_true allowed)

theorem genuine_aliveSample {j i : ι} {e : GUID} (owned : d.owner e = some i)
    (topicName typeName : StdString) : Genuine d j (d.aliveSample j i e topicName typeName) := by
  intro _
  rw [d.endpoint_aliveSample, holder_of_foreign owned]
  exact d.builtinTopicKeyToGuid_participantKey i j

theorem genuine_goneSample (j : ι) (e : GUID) (instanceState : InstanceState)
    (data : BuiltinSample Handle Key) : Genuine d j (d.goneSample j e instanceState data) := by
  rintro ⟨⟩

theorem announced_aliveSample {j i : ι} {e : GUID} (owned : d.owner e = some i)
    (topicName typeName : StdString) :
    announced (d.ids j) (d.aliveSample j i e topicName typeName) =
      ⟨topicName, typeName, d.holder j e, e⟩ := by
  rw [announced, d.endpoint_aliveSample, holder_of_foreign owned]
  exact congrArg (TopicInfo.mk topicName typeName · e) (d.builtinTopicKeyToGuid_participantKey i j)

theorem slot_aliveSample {j i : ι} {e : GUID} (owned : d.owner e = some i)
    (topicName typeName : StdString) (held : Option (TopicInfo GUID))
    (same : ∀ info ∈ held, info = ⟨topicName, typeName, d.holder j e, e⟩) :
    Replay.slot alive (announced (d.ids j)) held (d.aliveSample j i e topicName typeName) =
      entry d j e (some (topicName, typeName)) := by
  have lives : alive (d.aliveSample j i e topicName typeName) = true := rfl
  rw [Replay.slot, if_pos lives, announced_aliveSample owned]
  cases held with
  | none => rfl
  | some info => exact congrArg some (same info rfl)

theorem slot_goneSample (j : ι) (e : GUID) (instanceState : InstanceState)
    (data : BuiltinSample Handle Key) (held : Option (TopicInfo GUID)) :
    Replay.slot alive (announced (d.ids j)) held (d.goneSample j e instanceState data) = none :=
  rfl

namespace Follows

variable {j : ι} {actual : EntityType → GUID → Option (StdString × StdString)}
  {feeds : EntityType → Feed (endpoint (d.ids j))} {node : OpenDDSNode GUID}

theorem lookup_create (entityType : EntityType) (e : GUID) :
    lookup ((OpenDDSNode.create : OpenDDSNode GUID).listener entityType) e = none := by
  cases entityType <;> exact ExtTreeMap.getElem?_empty

theorem join [DecidableEq ι]
    (actual : EntityType → GUID → Option (StdString × StdString)) :
    Follows d j actual (fun entityType => Graph.initialFeed d (actual entityType) j) .create where
  leads entityType e := by
    rintro ⟨i, owned, other⟩
    have sent : (Graph.initialFeed d (actual entityType) j).queue e =
        (actual entityType e).toList.map fun nt => d.aliveSample j i e nt.1 nt.2 := by
      simp [Graph.initialFeed, Graph.initialSamples, owned, other]
    rw [lookup_create, Feed.Leads, sent]
    cases actual entityType e with
    | none => rfl
    | some nt => exact slot_aliveSample owned nt.1 nt.2 none (by simp)
  held entityType e info found := by
    rw [lookup_create] at found
    cases found
  genuine entityType e s member := by
    obtain ⟨i, nt, owned, rfl⟩ := Graph.mem_initialSamples member
    exact genuine_aliveSample owned nt.1 nt.2

theorem change [DecidableEq ι] (follows : Follows d j actual feeds node) {i : ι} {e : GUID}
    {entityType : EntityType} {now : Option (StdString × StdString)}
    {s : BuiltinSample Handle Key} (owned : d.owner e = some i)
    (about : endpoint (d.ids j) s = e) (genuine : Genuine d j s)
    (slot : Replay.slot alive (announced (d.ids j)) (entry d j e (actual entityType e)) s =
      entry d j e now) :
    Follows d j
      (Function.update actual entityType (Function.update (actual entityType) e now))
      (fun entityType' =>
        if entityType' = entityType ∧ j ≠ i then (feeds entityType').send s
        else feeds entityType') node where
  leads entityType' e' foreign := by
    have before := follows.leads entityType' e' foreign
    by_cases here : entityType' = entityType
    · subst here
      rw [Function.update_self]
      by_cases mine : j = i
      · obtain ⟨i', owned', other⟩ := foreign
        have apart : e' ≠ e := by
          rintro rfl
          rw [owned, Option.some.injEq] at owned'
          exact other (owned'.symm.trans mine.symm)
        simpa [mine, Function.update_of_ne apart] using before
      · have after := before.send s
        rw [if_pos ⟨rfl, mine⟩]
        by_cases same : e' = e
        · subst same
          rw [Function.update_self]
          rwa [if_pos about, slot] at after
        · rw [Function.update_of_ne same]
          rwa [if_neg (about ▸ Ne.symm same)] at after
    · simpa [here, Function.update_of_ne here] using before
  held := follows.held
  genuine entityType' e' s' member := by
    split at member
    · rw [Feed.queue_send, List.mem_append] at member
      obtain old | new := member
      · exact follows.genuine entityType' e' s' old
      · split at new
        · exact List.mem_singleton.mp new ▸ genuine
        · cases new
    · exact follows.genuine entityType' e' s' member

/-- A sample whose state is overtaken has data that a later one takes back, or none. -/
theorem restate (follows : Follows d j actual feeds node) {entityType : EntityType} {e : GUID}
    {n m : ℕ} (instanceState : InstanceState) (order : m = n ∨ n < m)
    (settled : ((feeds entityType).queue e)[m]?.any (! ·.validData) = true) :
    Follows d j actual
      (Function.update feeds entityType ((feeds entityType).alter e n
        (fun s => { s with instanceState := instanceState }) fun _ => rfl)) node where
  leads entityType' e' foreign := by
    have before := follows.leads entityType' e' foreign
    by_cases here : entityType' = entityType
    · subst here
      rw [Function.update_self]
      by_cases same : e' = e
      · subst same
        obtain ⟨s, found, blank⟩ := (Option.any_eq_true ..).mp settled
        have clears : ∀ state held, Replay.slot alive (announced (d.ids j)) held
            { s with instanceState := state } = none := by
          intro state held
          rw [Bool.not_eq_true'] at blank
          simp [Replay.slot, alive, blank]
        obtain rfl | later := order
        · exact before.alter_same found (fun held =>
            (clears instanceState held).trans (clears s.instanceState held).symm) _
        · exact before.alter later found (fun v w =>
            (clears s.instanceState v).trans (clears s.instanceState w).symm) _
      · exact before.of_queue_eq (Function.update_of_ne same ..)
    · rwa [Function.update_of_ne here]
  held := follows.held
  genuine entityType' e' s' member := by
    by_cases here : entityType' = entityType
    · subst here
      rw [Function.update_self] at member
      obtain ⟨s, old, rfl | rfl⟩ := Feed.mem_alter member
      · exact follows.genuine entityType' e' _ old
      · exact follows.genuine entityType' e' s old
    · rw [Function.update_of_ne here] at member
      exact follows.genuine entityType' e' s' member

theorem replaceListener {feeds' : EntityType → Feed (endpoint (d.ids j))}
    (follows : Follows d j actual feeds node) {entityType : EntityType}
    {l : CustomDataReaderListener GUID}
    (leads : ∀ e, Foreign d j e →
      (feeds' entityType).Leads (Replay.slot alive (announced (d.ids j))) e (lookup l e)
        (entry d j e (actual entityType e)))
    (held : Attributed d j l)
    (fed : ∀ entityType' e, ∀ s ∈ (feeds' entityType').queue e, s ∈ (feeds entityType').queue e)
    (other : ∀ entityType', entityType' ≠ entityType → feeds' entityType' = feeds entityType') :
    Follows d j actual feeds' (node.setListener l entityType) where
  leads entityType' e foreign := by
    by_cases here : entityType' = entityType
    · subst here
      rw [OpenDDSNode.listener_setListener]
      exact leads e foreign
    · rw [OpenDDSNode.listener_setListener_of_ne _ _ here, other entityType' here]
      exact follows.leads entityType' e foreign
  held entityType' := by
    by_cases here : entityType' = entityType
    · subst here
      rwa [OpenDDSNode.listener_setListener]
    · rw [OpenDDSNode.listener_setListener_of_ne _ _ here]
      exact follows.held entityType'
  genuine entityType' e s member := follows.genuine entityType' e s (fed entityType' e s member)

theorem attributed_handleSample {l : CustomDataReaderListener GUID} (held : Attributed d j l)
    (entityType : EntityType) {s : BuiltinSample Handle Key} (genuine : Genuine d j s) :
    Attributed d j (handleSample (d.ids j) entityType l s) := by
  intro e info found
  rw [lookup_handleSample] at found
  split at found
  · rename_i here
    subst here
    unfold Replay.slot at found
    split at found
    · rename_i lives
      have valid : s.validData = true := by
        simp only [alive, Bool.and_eq_true] at lives
        exact lives.1
      cases known : lookup l (endpoint (d.ids j) s) with
      | none =>
        rw [known, Option.getD_none, Option.some.injEq] at found
        exact found ▸ genuine valid
      | some old =>
        rw [known, Option.getD_some] at found
        exact held _ info (known.trans found)
    · cases found
  · exact held e info found

theorem receive (follows : Follows d j actual feeds node) {entityType : EntityType}
    {samples : List (BuiltinSample Handle Key)} {f : Feed (endpoint (d.ids j))}
    (received : (feeds entityType).Receives samples f) :
    Follows d j actual (Function.update feeds entityType f)
      (node.setListener
        (samples.foldl (handleSample (d.ids j) entityType) (node.listener entityType))
        entityType) := by
  refine follows.replaceListener (fun e foreign => ?_) ?_ (fun entityType' e s member => ?_) ?_
  · rw [Function.update_self]
    exact (follows.leads entityType e foreign).receive
      (lookup_handleSample (d.ids j) entityType) received
  · refine List.foldlRecOn samples _ (follows.held entityType) fun l held s member => ?_
    exact attributed_handleSample held entityType
      (follows.genuine entityType _ s (received.mem member))
  · by_cases here : entityType' = entityType
    · subst here
      rw [Function.update_self] at member
      exact received.mem_left member
    · rwa [Function.update_of_ne here] at member
  · exact fun entityType' here => Function.update_of_ne here ..

theorem own (follows : Follows d j actual feeds node) {entityType : EntityType}
    {l : CustomDataReaderListener GUID} {e : GUID} (mine : ¬ Foreign d j e)
    (same : ∀ e', e' ≠ e → lookup l e' = lookup (node.listener entityType) e')
    (held : ∀ info, lookup l e = some info →
      lookup (node.listener entityType) e = some info ∨ info.participantGuid = d.participant j) :
    Follows d j actual feeds (node.setListener l entityType) := by
  have apart : ∀ e', Foreign d j e' → e' ≠ e := by
    rintro e' foreign rfl
    exact mine foreign
  refine follows.replaceListener (fun e' foreign => ?_) (fun e' info found => ?_)
    (fun _ _ _ => id) fun _ _ => rfl
  · rw [same e' (apart e' foreign)]
    exact follows.leads entityType e' foreign
  · by_cases here : e' = e
    · subst here
      obtain old | new := held info found
      · exact follows.held entityType e' info old
      · rw [new, holder_of_not_foreign mine]
    · rw [same e' here] at found
      exact follows.held entityType e' info found

theorem addEndpoint (follows : Follows d j actual feeds node) {handle : Handle}
    (mine : ¬ Foreign d j ((d.ids j).getRepoid handle)) (topicName typeName : StdString)
    (entityType : EntityType) :
    Follows d j actual feeds
      (Graph.addEndpoint d j node handle topicName typeName entityType).node := by
  have entered : (Graph.addEndpoint d j node handle topicName typeName entityType).node =
      node.setListener ((node.listener entityType).addInformation (d.participant j)
        ((d.ids j).getRepoid handle) topicName typeName entityType).listener entityType := by
    cases entityType <;> simp only [Graph.addEndpoint, OpenDDSNode.addPub, OpenDDSNode.addSub,
      d.getRepoid_dp] <;> rfl
  rw [entered]
  refine follows.own mine (fun e' other => ?_) fun info found => ?_
  · unfold lookup addInformation
    rw [TopicCache.getElem?_addTopic, if_neg (Ne.symm other)]
  · unfold lookup addInformation at found
    rw [TopicCache.getElem?_addTopic, if_pos rfl, Option.some.injEq] at found
    unfold lookup
    cases known : (node.listener entityType).topicCache.endpointGuidToInfo[
        (d.ids j).getRepoid handle]? with
    | none =>
      rw [known, Option.getD_none] at found
      exact .inr (found ▸ rfl)
    | some old =>
      rw [known, Option.getD_some] at found
      exact .inl (found ▸ rfl)

theorem removeEndpoint (follows : Follows d j actual feeds node) {handle : Handle}
    (mine : ¬ Foreign d j ((d.ids j).getRepoid handle)) (entityType : EntityType) :
    Follows d j actual feeds (Graph.removeEndpoint d j node handle entityType).node := by
  have removed : (Graph.removeEndpoint d j node handle entityType).node =
      node.setListener ((node.listener entityType).removeInformation ((d.ids j).getRepoid handle)
        entityType).listener entityType := by
    cases entityType <;> rfl
  rw [removed]
  refine follows.own mine (fun e' other => ?_) fun info found => ?_
  · unfold lookup removeInformation
    rw [TopicCache.WellFormed.getElem?_removeTopic (node.listener entityType).wellFormed,
      if_neg (Ne.symm other)]
  · unfold lookup removeInformation at found
    rw [TopicCache.WellFormed.getElem?_removeTopic (node.listener entityType).wellFormed,
      if_pos rfl] at found
    cases found

end Follows

def Consistent [DecidableEq ι] (g : Graph d) : Prop :=
  ∀ j node, g.nodes j = some node → Follows d j g.actual (g.feeds j) node

variable [DecidableEq ι] {g g' : Graph d}

theorem Consistent.local (consistent : Consistent g) {j : ι} (actual : g'.actual = g.actual)
    (others : ∀ j', j' ≠ j → g'.nodes j' = g.nodes j' ∧ g'.feeds j' = g.feeds j')
    (follows : ∀ node, g'.nodes j = some node → Follows d j g.actual (g'.feeds j) node) :
    Consistent g' := by
  intro j' node present
  rw [actual]
  by_cases here : j' = j
  · subst here
    exact follows node present
  · obtain ⟨sameNode, sameFeeds⟩ := others j' here
    rw [sameNode] at present
    rw [sameFeeds]
    exact consistent j' node present

theorem Consistent.setNode (consistent : Consistent g) {j : ι} {node : OpenDDSNode GUID}
    (follows : Follows d j g.actual (g.feeds j) node) : Consistent (g.setNode j node) := by
  refine consistent.local (j := j) rfl (fun j' other => ?_) fun node' present => ?_
  · simp [Graph.setNode, other]
  · obtain rfl : node = node' := by simpa [Graph.setNode] using present
    exact follows

theorem Consistent.change (consistent : Consistent g) {i : ι} {e : GUID}
    {entityType : EntityType} {now : Option (StdString × StdString)}
    {sample : ι → BuiltinSample Handle Key} (owned : d.owner e = some i)
    (about : ∀ j, endpoint (d.ids j) (sample j) = e) (genuine : ∀ j, Genuine d j (sample j))
    (slot : ∀ j, Replay.slot alive (announced (d.ids j)) (entry d j e (g.actual entityType e))
      (sample j) = entry d j e now) :
    Consistent (g.change i entityType e now sample) := fun j node present =>
  (consistent j node present).change owned (about j) (genuine j) (slot j)

omit [DecidableEq ι] in
theorem takeSamples_receives {j : ι} {entityType : EntityType} {narrows : Bool}
    {retcode : ReturnCode} {sources : List GUID}
    {r : BuiltinTake Handle Key × Feed (endpoint (d.ids j))}
    (taken : g.takeSamples j entityType narrows retcode sources = some r) :
    (g.feeds j entityType).Receives (handled r.1) r.2 := by
  cases narrows with
  | false =>
    obtain rfl := Option.some.inj taken
    exact .refl _
  | true =>
    by_cases ok : retcode = .ok
    · subst ok
      obtain ⟨⟨samples, f⟩, received, rfl⟩ := Option.map_eq_some_iff.mp taken
      exact Feed.receive_eq_some received
    · obtain rfl : (BuiltinTake.taken retcode [], g.feeds j entityType) = r := by
        cases retcode <;> first | exact absurd rfl ok | exact Option.some.inj taken
      cases retcode <;> exact .refl _

theorem Consistent.step (consistent : Consistent g) (label : Step ι Handle Key GUID)
    (stepped : g.step label = some g') : Consistent g' := by
  cases label with
  | join j =>
    cases present : g.nodes j with
    | some node => simp [Graph.step, present] at stepped
    | none =>
      simp only [Graph.step, present, Option.some.injEq] at stepped
      subst stepped
      refine consistent.local (j := j) rfl (fun j' other => by simp [other]) fun node joined => ?_
      obtain rfl : OpenDDSNode.create = node := by simpa using joined
      simpa using Follows.join g.actual
  | leave j =>
    obtain rfl := Option.some.inj stepped
    refine consistent.local (j := j) rfl (fun j' other => by simp [other]) fun node present => ?_
    simp at present
  | announce entityType e topicName typeName =>
    cases owned : d.owner e with
    | none => simp [Graph.step, owned] at stepped
    | some i =>
      cases known : g.actual entityType e with
      | some nt => simp [Graph.step, owned, known] at stepped
      | none =>
        simp only [Graph.step, owned, known, Option.some.injEq] at stepped
        subst stepped
        refine consistent.change owned (fun j => d.endpoint_aliveSample ..)
          (fun j => genuine_aliveSample owned _ _) fun j => ?_
        exact slot_aliveSample owned topicName typeName _ (by simp [known, entry])
  | renew entityType e =>
    cases owned : d.owner e with
    | none => simp [Graph.step, owned] at stepped
    | some i =>
      cases known : g.actual entityType e with
      | none => simp [Graph.step, owned, known] at stepped
      | some nt =>
        simp only [Graph.step, owned, known, Option.some.injEq] at stepped
        subst stepped
        refine consistent.change owned (fun j => d.endpoint_aliveSample ..)
          (fun j => genuine_aliveSample owned _ _) fun j => ?_
        exact slot_aliveSample owned nt.1 nt.2 _ (by simp [known, entry])
  | withdraw entityType e instanceState data =>
    cases owned : d.owner e with
    | none => simp [Graph.step, owned] at stepped
    | some i =>
      simp only [Graph.step, owned, Option.some.injEq] at stepped
      subst stepped
      exact consistent.change owned (fun j => d.endpoint_goneSample ..)
        (fun j => genuine_goneSample j e instanceState data) fun j => slot_goneSample ..
  | restate j entityType e n m instanceState =>
    simp only [Graph.step] at stepped
    split at stepped
    · rename_i allowed
      obtain rfl := Option.some.inj stepped
      refine consistent.local (j := j) rfl (fun j' other => by simp [Graph.setFeed, other])
        fun node present => ?_
      simpa [Graph.setFeed] using
        (consistent j node present).restate instanceState allowed.1 allowed.2
    · cases stepped
  | onDataAvailable j entityType narrows retcode sources =>
    cases present : g.nodes j with
    | none => simp [Graph.step, present] at stepped
    | some node =>
      simp only [Graph.step, present] at stepped
      obtain ⟨r, taken, rfl⟩ := Option.map_eq_some_iff.mp stepped
      have received := (consistent j node present).receive (takeSamples_receives taken)
      refine consistent.local (j := j) rfl
        (fun j' other => by simp [Graph.setNode, Graph.setFeed, other]) fun node' now => ?_
      obtain rfl : _ = node' := by simpa [Graph.setNode] using now
      simpa [Graph.setNode, Graph.setFeed, onDataAvailable_listener] using received
  | enter j entityType handle topicName typeName =>
    cases present : g.nodes j with
    | none => simp [Graph.step, present] at stepped
    | some node =>
      simp only [Graph.step, present] at stepped
      split at stepped
      · rename_i allowed
        obtain rfl := Option.some.inj stepped
        exact consistent.setNode ((consistent j node present).addEndpoint
          (not_foreign_of_mayEnter allowed) topicName typeName entityType)
      · cases stepped
  | remove j entityType handle =>
    cases present : g.nodes j with
    | none => simp [Graph.step, present] at stepped
    | some node =>
      simp only [Graph.step, present] at stepped
      split at stepped
      · rename_i allowed
        obtain rfl := Option.some.inj stepped
        exact consistent.setNode ((consistent j node present).removeEndpoint
          (not_foreign_of_mayEnter allowed) entityType)
      · cases stepped

theorem consistent_of_reachable (reach : (machine d).Reachable g) : Consistent g := by
  refine reach.invariant (machine d) (fun j node present => ?_) fun g label g' consistent stepped =>
    consistent.step label stepped
  cases present

end Invariant

section Agreement

variable [DecidableEq ι] (d : Domain ι Handle Key GUID)

def Received (g : Graph d) (j : ι) (entityType : EntityType) (i : ι) : Prop :=
  ∀ e, d.owner e = some i → (g.feeds j entityType).queue e = []

variable {d} {g : Graph d}

omit [DecidableEq ι] in
theorem lookup_of_received {j i : ι} {node : OpenDDSNode GUID} {entityType : EntityType}
    (follows : Follows d j g.actual (g.feeds j) node) (other : i ≠ j)
    (received : Received d g j entityType i) {e : GUID} (owned : d.owner e = some i) :
    lookup (node.listener entityType) e = entry d j e (g.actual entityType e) :=
  (follows.leads entityType e ⟨i, owned, other⟩).of_queue_nil (received e owned)

omit [DecidableEq ι] in
theorem announces_of_received {j i : ι} {node : OpenDDSNode GUID} {entityType : EntityType}
    (follows : Follows d j g.actual (g.feeds j) node) (other : i ≠ j)
    (received : Received d g j entityType i) (topicName typeName : StdString) :
    (node.listener entityType).Announces (· = d.participant i) topicName typeName ↔
      ∃ e, d.owner e = some i ∧ g.actual entityType e = some (topicName, typeName) := by
  constructor
  · rintro ⟨e, info, found, attributed, named, typed⟩
    have stands := follows.held entityType e info found
    rw [attributed] at stands
    have owned : d.owner e = some i := by
      have same := d.participant_injective stands
      cases owner : d.owner e with
      | none => exact absurd (by simpa [owner] using same) other
      | some i' => rw [same, owner, Option.getD_some]
    refine ⟨e, owned, ?_⟩
    have known : lookup (node.listener entityType) e = some info := found
    rw [lookup_of_received follows other received owned, entry, Option.map_eq_some_iff] at known
    obtain ⟨nt, present, rfl⟩ := known
    rw [present, ← named, ← typed]
  · rintro ⟨e, owned, present⟩
    have known := lookup_of_received follows other received owned
    rw [present] at known
    exact ⟨e, _, known, holder_of_foreign owned, rfl, rfl⟩

/-- After any run: where a node's entry of another participant's endpoint is out of date,
a sample of that endpoint is on its way; and nodes that have taken all that a participant
sent hold exactly the topics and types of its endpoints, and give equal answers about it. -/
theorem graphs_agree (reach : (machine d).Reachable g) {j : ι} {node : OpenDDSNode GUID}
    (joined : g.nodes j = some node) (entityType : EntityType) :
    let l := node.listener entityType
    (∀ e, Foreign d j e → lookup l e ≠ entry d j e (g.actual entityType e) →
      (g.feeds j entityType).queue e ≠ []) ∧
    ∀ i, i ≠ j → Received d g j entityType i →
      (∀ topicName typeName,
        SetMap.Holds (l.topicCache.getTopicTypesByGuid (d.participant i)) topicName typeName ↔
          ∃ e, d.owner e = some i ∧ g.actual entityType e = some (topicName, typeName)) ∧
      ∀ j' node', g.nodes j' = some node' → i ≠ j' → Received d g j' entityType i →
        let l' := node'.listener entityType
        (∀ noDemangle m, l.fillTopicNamesAndTypesByGuid noDemangle m (d.participant i) =
          l'.fillTopicNamesAndTypesByGuid noDemangle m (d.participant i)) ∧
        ∀ services suffix, l.fillServiceNamesAndTypesByGuid services (d.participant i) suffix =
          l'.fillServiceNamesAndTypesByGuid services (d.participant i) suffix := by
  have consistent := consistent_of_reachable reach
  have follows := consistent j node joined
  refine ⟨fun e foreign stale quiet => stale ?_, fun i other received => ⟨fun tn tt => ?_, ?_⟩⟩
  · exact (follows.leads entityType e foreign).of_queue_nil quiet
  · rw [(node.listener entityType).wellFormed.holds_getTopicTypesByGuid]
    exact announces_of_received follows other received tn tt
  · intro j' node' joined' other' received'
    have same : (node.listener entityType).topicCache.getTopicTypesByGuid (d.participant i) =
        (node'.listener entityType).topicCache.getTopicTypesByGuid (d.participant i) := by
      refine getTopicTypesByGuid_congr_participant _ _ fun tn tt => ?_
      rw [announces_of_received follows other received,
        announces_of_received (consistent j' node' joined') other' received']
    exact ⟨fun noDemangle m => by simp only [fillTopicNamesAndTypesByGuid, same],
      fun services suffix => by simp only [fillServiceNamesAndTypesByGuid, same]⟩

def small : Domain (Fin 3) (Fin 8) (Fin 8) (Fin 8) where
  ids _ := ⟨id, id⟩
  dp j := j.castLE (by decide)
  participantKey i := i.castLE (by decide)
  publicationHandle _ e := e
  owner e := if h : e.val / 2 < 3 then some ⟨e.val / 2, h⟩ else none
  participant i := i.castLE (by decide)
  participant_injective := Fin.castLE_injective (by decide)
  getRepoid_dp _ := rfl
  getRepoid_publicationHandle _ _ := rfl
  builtinTopicKeyToGuid_participantKey _ _ := rfl

/-- One node has joined before a publisher appears and the other joins after it; both
learn of it. -/
def bothLearn : List (Step (Fin 3) (Fin 8) (Fin 8) (Fin 8)) :=
  [.join 1, .announce .publisher 0 ['t'] ['u'], .join 2,
    .onDataAvailable 1 .publisher true .ok [0], .onDataAvailable 2 .publisher true .ok [0]]

theorem graphs_agree_bothLearn :
    ∃ g node node', (machine small).run bothLearn = some g ∧ g.nodes 1 = some node ∧
      g.nodes 2 = some node' ∧ g.actual .publisher 0 = some (['t'], ['u']) ∧
      SetMap.Holds (node.pubListener.topicCache.getTopicTypesByGuid (small.participant 0))
        ['t'] ['u'] ∧
      ∀ noDemangle m,
        node.pubListener.fillTopicNamesAndTypesByGuid noDemangle m (small.participant 0) =
        node'.pubListener.fillTopicNamesAndTypesByGuid noDemangle m (small.participant 0) := by
  have taken : ((machine small).run bothLearn).isSome := by decide
  obtain ⟨g, ran⟩ := Option.isSome_iff_exists.mp taken
  have actual : ((machine small).run bothLearn).map (·.actual .publisher 0) =
      some (some (['t'], ['u'])) := by decide
  have quiet : ((machine small).run bothLearn).all (fun g =>
      (g.nodes 1).isSome ∧ (g.nodes 2).isSome ∧ ∀ e, ((g.feeds 1 .publisher).queue e).isEmpty ∧
        ((g.feeds 2 .publisher).queue e).isEmpty) = true := by decide
  rw [ran, Option.map_some, Option.some.injEq] at actual
  simp only [ran, Option.all_some, decide_eq_true_eq, List.isEmpty_iff] at quiet
  obtain ⟨first, second, quiet⟩ := quiet
  obtain ⟨node, joined⟩ := Option.isSome_iff_exists.mp first
  obtain ⟨node', joined'⟩ := Option.isSome_iff_exists.mp second
  have agree := (graphs_agree ⟨bothLearn, ran⟩ joined .publisher).2 0 (by decide)
    fun e _ => (quiet e).1
  refine ⟨g, node, node', ran, joined, joined', actual, ?_, ?_⟩
  · exact (agree.1 ['t'] ['u']).mpr ⟨0, by decide, actual⟩
  · exact (agree.2 2 node' joined' (by decide) fun e _ => (quiet e).2).1

def talking : Fin 3 := 0

def hearing : Fin 3 := 1

def unnamed : Fin 3 := 2

/-- `talker` has a publisher and serves a service. -/
def talks : List (Step (Fin 3) (Fin 8) (Fin 8) (Fin 8)) :=
  [.join 1, .announce .publisher 0 "rt/chatter".toList "std_msgs::msg::dds_::String_".toList,
    .announce .subscriber 1 "rq/addRequest".toList "pkg::srv::dds_::Add_Request_".toList,
    .onDataAvailable 1 .publisher true .ok [0], .onDataAvailable 1 .subscriber true .ok [1]]

end Agreement
end RmwOpendds.GraphNetwork
