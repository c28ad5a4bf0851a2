import Mathlib.Data.List.Basic
import RmwOpendds.GetNames
import RmwOpendds.Library.Machine
import RmwOpendds.Library.OrderedMap
import RmwOpendds.NodeConstruction

/-! Constructions of nodes beside each other. The identity of a node reaches its
participant through the default QoS of the factory, which all constructions
share: each reads it, writes it with its own user data, and creates a participant
with whatever it is then. Each of the three calls is one step. -/

namespace RmwOpendds

open Std Library

/-- `OpenDDSNode::match`, with what `parse_key_value` makes of user data; a null buffer is
`none`. -/
def matchUserData (parseKeyValue : StdString → ExtTreeMap StdString StdString)
    (userData : Option StdString) (nodeName nodeNamespace : StdString) : Bool :=
  match userData with
  | none => false
  | some kv =>
    let map := parseKeyValue kv
    match map["name".toList]?, map["namespace".toList]? with
    | some n, some ns => nodeName = n && nodeNamespace = ns
    | _, _ => false

theorem matchUserData_iff {parseKeyValue : StdString → ExtTreeMap StdString StdString}
    {kv n ns : StdString} :
    matchUserData parseKeyValue (some kv) n ns ↔
      (parseKeyValue kv)["name".toList]? = some n ∧
        (parseKeyValue kv)["namespace".toList]? = some ns := by
  unfold matchUserData
  dsimp only
  generalize (parseKeyValue kv)["name".toList]? = name
  generalize (parseKeyValue kv)["namespace".toList]? = namespace_
  cases name with
  | none => simp
  | some name =>
    cases namespace_ with
    | none => simp
    | some namespace_ => simp [@eq_comm _ n, @eq_comm _ ns]

/-- The buffer of a sequence of octets; an empty one has none. -/
def ParticipantQos.buffer (qos : ParticipantQos) : Option StdString :=
  if qos.userData = [] then none else some qos.userData

inductive ConstructionPhase where
  | begun
  | gotDefaultQos (qos : ParticipantQos)
  | setDefaultQos
  | created
  | failed
  deriving DecidableEq, Repr

structure NodeUnderConstruction where
  name : StdString
  namespace_ : StdString
  phase : ConstructionPhase
  deriving DecidableEq, Repr

structure CreatedParticipant where
  creator : ℕ
  qos : ParticipantQos
  deriving DecidableEq, Repr

/-- The factory with the constructions so far. `lastSet` is the construction that
has written the default QoS last; the code has no such variable. -/
structure ParticipantFactory where
  defaultQos : ParticipantQos
  nodes : List NodeUnderConstruction
  participants : List CreatedParticipant
  lastSet : Option ℕ
  deriving DecidableEq, Repr

/-- The calls; `refuse` is a request that is refused after the second. -/
inductive FactoryCall where
  | rmwCreateNode (name namespace_ : Option StdString)
  | getDefaultParticipantQos (k : ℕ) (given : Bool)
  | setDefaultParticipantQos (k : ℕ) (given : Bool)
  | refuse (k : ℕ)
  | createParticipant (k : ℕ) (given : Bool)
  deriving DecidableEq, Repr

namespace ParticipantFactory

def start (initial : ParticipantQos) : ParticipantFactory := ⟨initial, [], [], none⟩

def phaseOf (s : ParticipantFactory) (k : ℕ) : Option ConstructionPhase :=
  s.nodes[k]?.map NodeUnderConstruction.phase

def advance (s : ParticipantFactory) (k : ℕ) (phase : ConstructionPhase) : ParticipantFactory :=
  { s with nodes := s.nodes.modify k fun node => { node with phase := phase } }

def step (s : ParticipantFactory) : FactoryCall → Option ParticipantFactory
  | .rmwCreateNode name namespace_ =>
    match validateNameNamespace name namespace_ with
    | .error _ => some s
    | .ok (name, namespace_) => some { s with nodes := s.nodes ++ [⟨name, namespace_, .begun⟩] }
  | .getDefaultParticipantQos k given =>
    if s.phaseOf k = some .begun then
      some (s.advance k (if given then .gotDefaultQos s.defaultQos else .failed))
    else none
  | .setDefaultParticipantQos k given =>
    match s.nodes[k]? with
    | some ⟨name, namespace_, .gotDefaultQos qos⟩ =>
      match setUserData qos name namespace_, given with
      | .ok qos, true =>
        some { s.advance k .setDefaultQos with defaultQos := qos, lastSet := some k }
      | _, _ => some (s.advance k .failed)
    | _ => none
  | .refuse k =>
    if s.phaseOf k = some .setDefaultQos then some (s.advance k .failed) else none
  | .createParticipant k given =>
    if s.phaseOf k = some .setDefaultQos then
      if given then
        some { s.advance k .created with participants := s.participants ++ [⟨k, s.defaultQos⟩] }
      else some (s.advance k .failed)
    else none

/-- Any number of constructions, their calls on the factory in any order. -/
def calls (initial : ParticipantQos) : Machine ParticipantFactory FactoryCall :=
  ⟨start initial, step⟩

def nodeIdentity (s : ParticipantFactory) (k : ℕ) : Option StdString :=
  s.nodes[k]?.map fun node => identity node.name node.namespace_

/-- Every participant carries the identity of the node that created it. -/
def Advertises (s : ParticipantFactory) : Prop :=
  ∀ participant ∈ s.participants,
    s.nodeIdentity participant.creator = some participant.qos.userData

instance (s : ParticipantFactory) : Decidable s.Advertises :=
  inferInstanceAs (Decidable (∀ participant ∈ s.participants,
    s.nodeIdentity participant.creator = some participant.qos.userData))

/-- The name and namespace that `get_names` reports for a discovered participant. -/
def reportedNames (parseKeyValue : StdString → ExtTreeMap StdString StdString)
    (userData : StdString) : Option (StdString × StdString) :=
  (readMap (parseKeyValue userData)).map fun peer => (peer.name, peer.ns)

def ReadsBack (parseKeyValue : StdString → ExtTreeMap StdString StdString)
    (node : NodeUnderConstruction) : Prop :=
  (parseKeyValue (identity node.name node.namespace_))["name".toList]? = some node.name ∧
    (parseKeyValue (identity node.name node.namespace_))["namespace".toList]? =
      some node.namespace_

instance (parseKeyValue : StdString → ExtTreeMap StdString StdString)
    (node : NodeUnderConstruction) : Decidable (ReadsBack parseKeyValue node) :=
  inferInstanceAs (Decidable (_ ∧ _))

/-- `get_key` and `get_names` take each participant for that of its own node. -/
def Attributes (s : ParticipantFactory)
    (parseKeyValue : StdString → ExtTreeMap StdString StdString) : Prop :=
  ∀ participant ∈ s.participants, ∃ node, s.nodes[participant.creator]? = some node ∧
    (∀ name namespace_,
      matchUserData parseKeyValue participant.qos.buffer name namespace_ = true ↔
        name = node.name ∧ namespace_ = node.namespace_) ∧
    reportedNames parseKeyValue participant.qos.userData = some (node.name, node.namespace_)

/-- A participant is created while the default QoS is what a node of the same
identity has written. -/
def CreatesOwn (s : ParticipantFactory) : FactoryCall → Prop
  | .createParticipant k true => ∀ j, s.lastSet = some j → s.nodeIdentity j = s.nodeIdentity k
  | _ => True

@[simp] theorem nodeIdentity_advance (s : ParticipantFactory) (k j : ℕ)
    (phase : ConstructionPhase) : (s.advance k phase).nodeIdentity j = s.nodeIdentity j := by
  simp only [nodeIdentity, advance, List.getElem?_modify, Option.map_eq_map, Option.map_map]
  congr 1
  funext node
  simp only [Function.comp_apply]
  split <;> rfl

theorem phaseOf_advance (s : ParticipantFactory) (k j : ℕ) (phase : ConstructionPhase) :
    (s.advance k phase).phaseOf j =
      if k = j then (s.phaseOf j).map fun _ => phase else s.phaseOf j := by
  simp only [phaseOf, advance, List.getElem?_modify, Option.map_eq_map, Option.map_map]
  split
  · congr 1
  · congr 1

theorem createsOwn_of_ne {s : ParticipantFactory} {i : FactoryCall}
    (other : ∀ k, i ≠ .createParticipant k true) : s.CreatesOwn i := by
  cases i with
  | createParticipant k given =>
    cases given with
    | true => exact absurd rfl (other k)
    | false => trivial
  | _ => trivial

theorem step_cases {s s' : ParticipantFactory} {i : FactoryCall} (taken : s.step i = some s') :
    ((∀ k, i ≠ .createParticipant k true) ∧
      ((∃ added, (∀ node ∈ added, node.phase = .begun) ∧
          s' = { s with nodes := s.nodes ++ added }) ∨
        ∃ k phase, phase ≠ .setDefaultQos ∧ s' = s.advance k phase)) ∨
    (∃ k qos, i = .setDefaultParticipantQos k true ∧ s.nodeIdentity k = some qos.userData ∧
      s' = { s.advance k .setDefaultQos with defaultQos := qos, lastSet := some k }) ∨
    ∃ k, i = .createParticipant k true ∧ s.phaseOf k = some .setDefaultQos ∧
      s' = { s.advance k .created with participants := s.participants ++ [⟨k, s.defaultQos⟩] } := by
  cases i with
  | rmwCreateNode name namespace_ =>
    refine .inl ⟨fun _ same => (nomatch same), .inl ?_⟩
    simp only [step] at taken
    split at taken
    · cases taken
      exact ⟨[], fun _ member => (nomatch member), by rw [List.append_nil]⟩
    · rename_i name' namespace' _
      cases taken
      exact ⟨[⟨name', namespace', .begun⟩], by simp, rfl⟩
  | getDefaultParticipantQos k given =>
    refine .inl ⟨fun _ same => (nomatch same), .inr ?_⟩
    simp only [step] at taken
    split at taken
    · cases taken
      refine ⟨k, _, ?_, rfl⟩
      cases given <;> simp
    · cases taken
  | setDefaultParticipantQos k given =>
    simp only [step] at taken
    split at taken
    · rename_i name namespace_ qos there
      split at taken
      · rename_i qos' written
        cases taken
        refine .inr (.inl ⟨k, qos', rfl, ?_, rfl⟩)
        rw [nodeIdentity, there, Option.map_some, setUserData_eq_ok written]
      · cases taken
        exact .inl ⟨fun _ same => (nomatch same), .inr ⟨k, .failed, nofun, rfl⟩⟩
    · cases taken
  | refuse k =>
    simp only [step] at taken
    split at taken
    · cases taken
      exact .inl ⟨fun _ same => (nomatch same), .inr ⟨k, .failed, nofun, rfl⟩⟩
    · cases taken
  | createParticipant k given =>
    simp only [step] at taken
    split at taken
    · rename_i ready
      cases given with
      | true =>
        cases taken
        exact .inr (.inr ⟨k, rfl, ready, rfl⟩)
      | false =>
        cases taken
        exact .inl ⟨fun _ same => (nomatch same), .inr ⟨k, .failed, nofun, rfl⟩⟩
    · cases taken

/-- The default QoS carries the identity of the construction that wrote it last, and
somebody has written it where a construction is past its second call. -/
structure Tracked (s : ParticipantFactory) : Prop where
  last : ∀ j, s.lastSet = some j → s.nodeIdentity j = some s.defaultQos.userData
  written : ∀ k, s.phaseOf k = some .setDefaultQos → s.lastSet.isSome

theorem tracked_start (initial : ParticipantQos) : (start initial).Tracked :=
  ⟨fun _ none => (nomatch none), fun _ none => (nomatch none)⟩

theorem nodeIdentity_append {s : ParticipantFactory} {k : ℕ} {text : StdString}
    (known : s.nodeIdentity k = some text) (added : List NodeUnderConstruction) :
    ({ s with nodes := s.nodes ++ added } : ParticipantFactory).nodeIdentity k = some text := by
  obtain ⟨node, there, rfl⟩ := Option.map_eq_some_iff.mp known
  have short := (List.getElem?_eq_some_iff.mp there).1
  rw [nodeIdentity, List.getElem?_append_left short, there]
  rfl

theorem Tracked.step {s s' : ParticipantFactory} {i : FactoryCall} (inv : s.Tracked)
    (taken : s.step i = some s') : s'.Tracked := by
  obtain ⟨-, ⟨added, new, rfl⟩ | ⟨k, phase, other, rfl⟩⟩ | ⟨k, qos, -, same, rfl⟩ |
    ⟨k, -, ready, rfl⟩ := step_cases taken
  · refine ⟨fun j last => nodeIdentity_append (inv.last j last) added, fun k ready => ?_⟩
    obtain ⟨node, there, phase⟩ := Option.map_eq_some_iff.mp ready
    by_cases old : k < s.nodes.length
    · rw [List.getElem?_append_left old] at there
      exact inv.written k (by rw [phaseOf, there, Option.map_some, phase])
    · rw [List.getElem?_append_right (Nat.le_of_not_lt old)] at there
      have begun := new node (List.mem_of_getElem? there)
      rw [begun] at phase
      cases phase
  · refine ⟨fun j last => ?_, fun j ready => ?_⟩
    · rw [nodeIdentity_advance]
      exact inv.last j last
    · rw [phaseOf_advance] at ready
      split at ready
      · obtain ⟨_, -, same⟩ := Option.map_eq_some_iff.mp ready
        exact absurd same other
      · exact inv.written j ready
  · refine ⟨fun j last => ?_, fun _ _ => rfl⟩
    obtain rfl : k = j := Option.some.inj last
    exact (s.nodeIdentity_advance k k .setDefaultQos).trans same
  · refine ⟨fun j last => ?_, fun _ _ => inv.written k ready⟩
    exact (s.nodeIdentity_advance k j .created).trans (inv.last j last)

theorem Advertises.append {s : ParticipantFactory} (own : s.Advertises)
    (added : List NodeUnderConstruction) :
    ({ s with nodes := s.nodes ++ added } : ParticipantFactory).Advertises :=
  fun participant member => nodeIdentity_append (own participant member) added

theorem advertises_step {s s' : ParticipantFactory} {i : FactoryCall} (inv : s.Tracked)
    (own : s.Advertises) (taken : s.step i = some s') : s'.Advertises ↔ s.CreatesOwn i := by
  obtain ⟨other, ⟨added, -, rfl⟩ | ⟨k, phase, -, rfl⟩⟩ | ⟨k, qos, rfl, -, rfl⟩ |
    ⟨k, rfl, ready, rfl⟩ := step_cases taken
  · exact iff_of_true (own.append added) (createsOwn_of_ne other)
  · refine iff_of_true (fun participant member => ?_) (createsOwn_of_ne other)
    rw [nodeIdentity_advance]
    exact own participant member
  · refine iff_of_true (fun participant member => ?_) trivial
    exact (s.nodeIdentity_advance k _ _).trans (own participant member)
  · have same : ∀ j, ({ s.advance k .created with
        participants := s.participants ++ [⟨k, s.defaultQos⟩] } :
          ParticipantFactory).nodeIdentity j = s.nodeIdentity j :=
      fun j => s.nodeIdentity_advance k j .created
    constructor
    · intro advertised j last
      have created := advertised ⟨k, s.defaultQos⟩ (by simp)
      rw [same] at created
      rw [inv.last j last, created]
    · intro createsOwn participant member
      rw [same]
      obtain old | new := List.mem_append.mp member
      · exact own participant old
      · obtain ⟨j, last⟩ := Option.isSome_iff_exists.mp (inv.written k ready)
        rw [List.mem_singleton.mp new, ← createsOwn j last]
        exact inv.last j last

structure OwnSoFar (s : ParticipantFactory) : Prop extends Tracked s where
  own : s.Advertises

theorem ownSoFar_start (initial : ParticipantQos) : (start initial).OwnSoFar :=
  ⟨tracked_start initial, fun _ member => (nomatch member)⟩

theorem ownSoFar_step (s : ParticipantFactory) (i : FactoryCall) (s' : ParticipantFactory)
    (inv : s.OwnSoFar) (createsOwn : s.CreatesOwn i) (taken : s.step i = some s') : s'.OwnSoFar :=
  ⟨inv.toTracked.step taken, (advertises_step inv.toTracked inv.own taken).mpr createsOwn⟩

theorem Advertises.attributes {s : ParticipantFactory} (own : s.Advertises)
    {parseKeyValue : StdString → ExtTreeMap StdString StdString}
    (readsBack : ∀ node ∈ s.nodes, ReadsBack parseKeyValue node) : s.Attributes parseKeyValue := by
  intro participant member
  obtain ⟨node, there, carried⟩ := Option.map_eq_some_iff.mp (own participant member)
  obtain ⟨name, namespace_⟩ := readsBack node (List.mem_of_getElem? there)
  have written : participant.qos.buffer = some (identity node.name node.namespace_) := by
    rw [ParticipantQos.buffer, ← carried, if_neg (by simp [identity])]
  refine ⟨node, there, fun n ns => ?_, ?_⟩
  · rw [written, matchUserData_iff, name, namespace_, Option.some_inj, Option.some_inj, eq_comm,
      @eq_comm _ ns]
  · rw [← carried]
    simp only [reportedNames, readMap, name, namespace_, Option.map_some]

/-- Along a run every participant carries its node's identity exactly if each is
created while the default QoS is what a node of that identity wrote last. Where they
do, and user data is read back as it was written, each is attributed to its node. -/
theorem identity_advertised (parseKeyValue : StdString → ExtTreeMap StdString StdString)
    (initial : ParticipantQos) (is : List FactoryCall)
    (enabled : ((calls initial).run is).isSome) :
    ((calls initial).Throughout Advertises (start initial) is ↔
      (calls initial).Along CreatesOwn (start initial) is) ∧
    ∀ s, (calls initial).run is = some s → s.Advertises →
      (∀ node ∈ s.nodes, ReadsBack parseKeyValue node) → s.Attributes parseKeyValue := by
  constructor
  · refine (calls initial).throughout_iff_along ownSoFar_step (fun _ inv => inv.own) ?_
      (ownSoFar_start initial) enabled
    intro s i s' inv taken advertised
    exact (advertises_step inv.toTracked inv.own taken).mp advertised
  · intro s _ own readsBack
    exact own.attributes readsBack

def readTalkerListener (userData : StdString) : ExtTreeMap StdString StdString :=
  let node (name : StdString) : ExtTreeMap StdString StdString :=
    (ExtTreeMap.insert ∅ "name".toList name).insert "namespace".toList "/".toList
  if userData = identity "talker".toList "/".toList then node "talker".toList
  else if userData = identity "listener".toList "/".toList then node "listener".toList
  else ∅

def inTurn : List FactoryCall :=
  [.rmwCreateNode (some "talker".toList) (some "/".toList), .getDefaultParticipantQos 0 true,
    .setDefaultParticipantQos 0 true, .createParticipant 0 true,
    .rmwCreateNode (some "listener".toList) (some "/".toList), .getDefaultParticipantQos 1 true,
    .setDefaultParticipantQos 1 true, .createParticipant 1 true]

theorem identity_advertised_inTurn :
    ((calls ⟨[], true⟩).Throughout Advertises (start ⟨[], true⟩) inTurn ↔
      (calls ⟨[], true⟩).Along CreatesOwn (start ⟨[], true⟩) inTurn) ∧
    ∀ s, (calls ⟨[], true⟩).run inTurn = some s → s.Attributes readTalkerListener := by
  have law := identity_advertised readTalkerListener ⟨[], true⟩ inTurn (by decide)
  refine ⟨law.1, fun s run => law.2 s run ?_ ?_⟩
  · have outcome : ((calls ⟨[], true⟩).run inTurn).all fun s => s.Advertises := by decide
    rw [run] at outcome
    exact of_decide_eq_true outcome
  · have outcome : ((calls ⟨[], true⟩).run inTurn).all fun s =>
        ∀ node ∈ s.nodes, ReadsBack readTalkerListener node := by decide
    rw [run] at outcome
    exact of_decide_eq_true outcome

/-- The second construction writes the default QoS before the first has created its
participant. -/
def overtaken : List FactoryCall :=
  [.rmwCreateNode (some "talker".toList) (some "/".toList),
    .rmwCreateNode (some "listener".toList) (some "/".toList),
    .getDefaultParticipantQos 0 true, .setDefaultParticipantQos 0 true,
    .getDefaultParticipantQos 1 true, .setDefaultParticipantQos 1 true,
    .createParticipant 0 true]

/-- The participant of the talker carries the identity of the listener. -/
theorem other_identity_advertised :
    ¬ ∀ (is : List FactoryCall) (s : ParticipantFactory),
      (calls ⟨[], true⟩).run is = some s → s.Advertises := by
  intro claim
  have outcome : ((calls ⟨[], true⟩).run overtaken).map (fun s =>
      (s.nodeIdentity 0, s.participants)) =
      some (some (identity "talker".toList "/".toList),
        [⟨0, identity "listener".toList "/".toList, true⟩]) := by decide
  obtain ⟨s, run, reads⟩ := Option.map_eq_some_iff.mp outcome
  obtain ⟨own, created⟩ := Prod.mk.inj reads
  have carried := claim overtaken s run ⟨0, identity "listener".toList "/".toList, true⟩
    (by simp [created])
  rw [own] at carried
  exact absurd carried (by decide)

end ParticipantFactory
end RmwOpendds
