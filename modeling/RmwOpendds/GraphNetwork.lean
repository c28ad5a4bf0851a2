import RmwOpendds.Discovery
import RmwOpendds.ListenerQueries
import RmwOpendds.OpenDDSNode
import RmwOpendds.Library.Feed

/-! The graphs of all participants of a domain. Endpoints come and go; the samples of the
built-in topics tell every other participant, each at its own pace, with no order between
endpoints, and an instance state is that of the moment at which the sample is taken. The
nodes meanwhile enter endpoints of their own. -/

namespace RmwOpendds.GraphNetwork

open Std Library CustomDataReaderListener

/-- A domain as its participants see it: who owns an endpoint, by which handles and keys
each participant knows the others, and what they resolve to. -/
structure Domain (ι Handle Key GUID : Type) [LinearOrder GUID] where
  ids : ι → Identities Handle Key GUID
  dp : ι → Handle
  participantKey : ι → Key
  publicationHandle : ι → GUID → Handle
  owner : GUID → Option ι
  participant : ι → GUID
  participant_injective : Function.Injective participant
  getRepoid_dp : ∀ j, (ids j).getRepoid (dp j) = participant j
  getRepoid_publicationHandle : ∀ j e, (ids j).getRepoid (publicationHandle j e) = e
  builtinTopicKeyToGuid_participantKey : ∀ i j,
    (ids j).builtinTopicKeyToGuid (participantKey i) = participant i

variable {ι Handle Key GUID : Type} [LinearOrder GUID]

namespace Domain

variable (d : Domain ι Handle Key GUID)

/-- The participant under which the entry of an endpoint stands at `j`: a GUID of no
endpoint is entered as one of its own. -/
def holder (j : ι) (e : GUID) : GUID := d.participant ((d.owner e).getD j)

def aliveSample (j i : ι) (e : GUID) (topicName typeName : StdString) :
    BuiltinSample Handle Key where
  publicationHandle := d.publicationHandle j e
  validData := true
  instanceState := .alive
  participantKey := d.participantKey i
  topicName := topicName
  typeName := typeName

/-- The sample by which `j` learns that an endpoint is gone; its data means nothing. -/
def goneSample (j : ι) (e : GUID) (instanceState : InstanceState)
    (data : BuiltinSample Handle Key) : BuiltinSample Handle Key :=
  { data with
    publicationHandle := d.publicationHandle j e
    validData := false
    instanceState := instanceState }

theorem endpoint_aliveSample (j i : ι) (e : GUID) (topicName typeName : StdString) :
    endpoint (d.ids j) (d.aliveSample j i e topicName typeName) = e :=
  d.getRepoid_publicationHandle j e

theorem endpoint_goneSample (j : ι) (e : GUID) (instanceState : InstanceState)
    (data : BuiltinSample Handle Key) :
    endpoint (d.ids j) (d.goneSample j e instanceState data) = e :=
  d.getRepoid_publicationHandle j e

end Domain

inductive Step (ι Handle Key GUID : Type) where
  | join (j : ι)
  | leave (j : ι)
  | announce (entityType : EntityType) (e : GUID) (topicName typeName : StdString)
  | renew (entityType : EntityType) (e : GUID)
  | withdraw (entityType : EntityType) (e : GUID) (instanceState : InstanceState)
    (data : BuiltinSample Handle Key)
  | restate (j : ι) (entityType : EntityType) (e : GUID) (n m : ℕ) (instanceState : InstanceState)
  | onDataAvailable (j : ι) (entityType : EntityType) (narrows : Bool) (retcode : ReturnCode)
    (sources : List GUID)
  | enter (j : ι) (entityType : EntityType) (handle : Handle) (topicName typeName : StdString)
  | remove (j : ι) (entityType : EntityType) (handle : Handle)

/-- The endpoints that exist, the nodes of the participants that have joined, and the
samples on their way to each of them. -/
structure Graph (d : Domain ι Handle Key GUID) where
  actual : EntityType → GUID → Option (StdString × StdString)
  nodes : ι → Option (OpenDDSNode GUID)
  feeds : (j : ι) → EntityType → Feed (endpoint (d.ids j))

namespace Graph

variable [DecidableEq ι] {d : Domain ι Handle Key GUID}

/-- What a participant that joins is sent of an endpoint: all of the others. -/
def initialSamples (d : Domain ι Handle Key GUID) (j : ι) (e : GUID)
    (actual : Option (StdString × StdString)) : List (BuiltinSample Handle Key) :=
  match d.owner e with
  | none => []
  | some i =>
    if i = j then [] else actual.toList.map fun nt => d.aliveSample j i e nt.1 nt.2

theorem mem_initialSamples {j : ι} {e : GUID} {actual : Option (StdString × StdString)}
    {s : BuiltinSample Handle Key} (member : s ∈ initialSamples d j e actual) :
    ∃ (i : ι) (nt : StdString × StdString), d.owner e = some i ∧
      s = d.aliveSample j i e nt.1 nt.2 := by
  unfold initialSamples at member
  cases owned : d.owner e with
  | none => simp [owned] at member
  | some i =>
    by_cases own : i = j
    · simp [owned, own] at member
    · simp only [owned, own, if_false, List.mem_map] at member
      obtain ⟨nt, -, same⟩ := member
      exact ⟨i, nt, rfl, same.symm⟩

def initialFeed (d : Domain ι Handle Key GUID) (actual : GUID → Option (StdString × StdString))
    (j : ι) : Feed (endpoint (d.ids j)) where
  queue e := initialSamples d j e (actual e)
  keyed e s member := by
    obtain ⟨i, nt, -, rfl⟩ := mem_initialSamples member
    exact d.endpoint_aliveSample ..

def start (d : Domain ι Handle Key GUID) : Graph d :=
  ⟨fun _ _ => none, fun _ => none, fun j _ => initialFeed d (fun _ => none) j⟩

def change (g : Graph d) (i : ι) (entityType : EntityType) (e : GUID)
    (now : Option (StdString × StdString)) (sample : ι → BuiltinSample Handle Key) : Graph d :=
  { g with
    actual := Function.update g.actual entityType (Function.update (g.actual entityType) e now)
    feeds := fun j entityType' =>
      if entityType' = entityType ∧ j ≠ i then (g.feeds j entityType').send (sample j)
      else g.feeds j entityType' }

def setFeed (g : Graph d) (j : ι) (entityType : EntityType) (f : Feed (endpoint (d.ids j))) :
    Graph d :=
  { g with feeds := Function.update g.feeds j (Function.update (g.feeds j) entityType f) }

def setNode (g : Graph d) (j : ι) (node : OpenDDSNode GUID) : Graph d :=
  { g with nodes := Function.update g.nodes j (some node) }

/-- What `on_data_available` takes, and what it leaves. Only a successful `take` takes. -/
def takeSamples (g : Graph d) (j : ι) (entityType : EntityType) (narrows : Bool)
    (retcode : ReturnCode) (sources : List GUID) :
    Option (BuiltinTake Handle Key × Feed (endpoint (d.ids j))) :=
  let feed := g.feeds j entityType
  match narrows, retcode with
  | false, _ => some (.notNarrowed, feed)
  | true, .ok => (feed.receive sources).map fun r => (.taken .ok r.1, r.2)
  | true, retcode => some (.taken retcode [], feed)

/-- A node enters and removes no endpoint of another participant. -/
def mayEnter (d : Domain ι Handle Key GUID) (j : ι) (handle : Handle) : Bool :=
  (d.owner ((d.ids j).getRepoid handle)).all (· = j)

def addEndpoint (d : Domain ι Handle Key GUID) (j : ι) (node : OpenDDSNode GUID) (handle : Handle)
    (topicName typeName : StdString) : EntityType → OpenDDSNode.GraphUpdate GUID
  | .publisher => node.addPub (d.ids j) (d.dp j) handle topicName typeName
  | .subscriber => node.addSub (d.ids j) (d.dp j) handle topicName typeName

def removeEndpoint (d : Domain ι Handle Key GUID) (j : ι) (node : OpenDDSNode GUID)
    (handle : Handle) : EntityType → OpenDDSNode.GraphUpdate GUID
  | .publisher => node.removePub (d.ids j) handle
  | .subscriber => node.removeSub (d.ids j) handle

def step (g : Graph d) : Step ι Handle Key GUID → Option (Graph d)
  | .join j =>
    match g.nodes j with
    | some _ => none
    | none => some { g with
        nodes := Function.update g.nodes j (some .create)
        feeds := Function.update g.feeds j fun entityType =>
          initialFeed d (g.actual entityType) j }
  | .leave j => some { g with nodes := Function.update g.nodes j none }
  | .announce entityType e topicName typeName =>
    match d.owner e, g.actual entityType e with
    | some i, none =>
      some (g.change i entityType e (some (topicName, typeName)) fun j =>
        d.aliveSample j i e topicName typeName)
    | _, _ => none
  | .renew entityType e =>
    match d.owner e, g.actual entityType e with
    | some i, some (topicName, typeName) =>
      some (g.change i entityType e (some (topicName, typeName)) fun j =>
        d.aliveSample j i e topicName typeName)
    | _, _ => none
  | .withdraw entityType e instanceState data =>
    match d.owner e with
    | some i =>
      some (g.change i entityType e none fun j => d.goneSample j e instanceState data)
    | none => none
  | .restate j entityType e n m instanceState =>
    -- the state is the instance's own, unless a later sample has overtaken this one
    let queue := (g.feeds j entityType).queue e
    if (m = n ∨ n < m) ∧ queue[m]?.any (! ·.validData) then
      some (g.setFeed j entityType ((g.feeds j entityType).alter e n
        (fun s => { s with instanceState := instanceState }) fun _ => rfl))
    else none
  | .onDataAvailable j entityType narrows retcode sources =>
    match g.nodes j with
    | none => none
    | some node =>
      (g.takeSamples j entityType narrows retcode sources).map fun r =>
        let u := (node.listener entityType).onDataAvailable (d.ids j) entityType r.1
        (g.setFeed j entityType r.2).setNode j (node.setListener u.listener entityType)
  | .enter j entityType handle topicName typeName =>
    match g.nodes j with
    | none => none
    | some node =>
      if mayEnter d j handle then
        some (g.setNode j (addEndpoint d j node handle topicName typeName entityType).node)
      else none
  | .remove j entityType handle =>
    match g.nodes j with
    | none => none
    | some node =>
      if mayEnter d j handle then
        some (g.setNode j (removeEndpoint d j node handle entityType).node)
      else none

end Graph

def machine [DecidableEq ι] (d : Domain ι Handle Key GUID) :
    Machine (Graph d) (Step ι Handle Key GUID) := ⟨Graph.start d, Graph.step⟩

end RmwOpendds.GraphNetwork
