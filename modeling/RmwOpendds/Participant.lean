import RmwOpendds.Library.Exits
import RmwOpendds.Library.OrderedMap
import RmwOpendds.Library.StdString

/-! A domain participant as the endpoints of a node use it. Whether DDS or an
allocator gives what it is asked for is an argument of each operation. Entities
stay until a `delete_*` call; releasing a `_var` reference is none, so that it
has no counterpart here. -/

namespace RmwOpendds

open Std Library

inductive EntityKind where
  | participant | publisher | subscriber | dataWriter | dataReader | readCondition
  deriving DecidableEq, Repr

/-- The identity of an entity; a participant numbers what it creates. -/
structure InstanceHandle where
  kind : EntityKind
  serial : ℕ
  deriving DecidableEq, Repr

structure Entity where
  handle : InstanceHandle
  listener : Option ℕ
  deriving DecidableEq, Repr

/-- `topics` maps names to type names; `listeners` are the listener objects that
exist, the process's rather than the participant's. -/
structure Participant where
  topics : ExtTreeMap StdString StdString
  contained : List Entity
  listeners : List ℕ
  nextSerial : ℕ

namespace Participant

def handle : InstanceHandle := ⟨.participant, 0⟩

def create : Participant := ⟨∅, [], [], 1⟩

def addEntity (p : Participant) (kind : EntityKind) (listener : Option ℕ) : Entity × Participant :=
  let entity : Entity := ⟨⟨kind, p.nextSerial⟩, listener⟩
  (entity, { p with contained := entity :: p.contained, nextSerial := p.nextSerial + 1 })

/-- A `create_*` call whose null result is answered by throwing. -/
def createEntity (kind : EntityKind) (listener : Option ℕ) (created : Bool) (failure : String) :
    EStateM String Participant Entity := do
  if created then
    modifyGet fun p => p.addEntity kind listener
  else throw failure

def addListener (p : Participant) : Participant :=
  { p with listeners := p.nextSerial :: p.listeners, nextSerial := p.nextSerial + 1 }

def createListener (allocated : Bool) : EStateM String Participant (Option ℕ) :=
  if allocated then modifyGet fun p => (some p.nextSerial, p.addListener) else pure none

/-- `Raf::destroy(listener_)` on the participant's side; a null pointer is passed over. -/
def withoutListener (p : Participant) : Option ℕ → Participant
  | none => p
  | some listener => { p with listeners := p.listeners.erase listener }

@[simp] theorem contained_withoutListener (p : Participant) (listener : Option ℕ) :
    (p.withoutListener listener).contained = p.contained := by
  cases listener <;> rfl

@[simp] theorem topics_withoutListener (p : Participant) (listener : Option ℕ) :
    (p.withoutListener listener).topics = p.topics := by
  cases listener <;> rfl

@[simp] theorem nextSerial_withoutListener (p : Participant) (listener : Option ℕ) :
    (p.withoutListener listener).nextSerial = p.nextSerial := by
  cases listener <;> rfl

def destroyListener (listener : Option ℕ) : EStateM String Participant PUnit :=
  modify fun p => p.withoutListener listener

def withoutEntities (p : Participant) (deleted : List Entity) : Participant :=
  { p with contained := p.contained.filter (· ∉ deleted) }

def withTopic (p : Participant) (name type : StdString) : Participant :=
  { p with topics := p.topics.insertIfNew name type }

variable {p : Participant} {throws : String → Participant → Prop}

@[simp] theorem exits_createEntity {returns : Entity → Participant → Prop} (kind : EntityKind)
    (listener : Option ℕ) (created : Bool) (failure : String) :
    Exits (createEntity kind listener created failure) p returns throws ↔
      if created then returns (p.addEntity kind listener).1 (p.addEntity kind listener).2
      else throws failure p := by
  cases created <;> simp [createEntity]

@[simp] theorem exits_createListener {returns : Option ℕ → Participant → Prop} (allocated : Bool) :
    Exits (createListener allocated) p returns throws ↔
      if allocated then returns (some p.nextSerial) p.addListener else returns none p := by
  cases allocated <;> simp [createListener]

@[simp] theorem exits_destroyListener {returns : PUnit → Participant → Prop}
    (listener : Option ℕ) :
    Exits (destroyListener listener) p returns throws ↔
      returns ⟨⟩ (p.withoutListener listener) := by
  simp [destroyListener]

theorem withTopic_known {name type typeName : StdString}
    (known : p.topics[name]? = some (typeName : StdString)) : p.withTopic name type = p := by
  have same : p.topics.insertIfNew name type = p.topics := by
    apply ExtTreeMap.ext_getElem?
    intro other
    rw [ExtTreeMap.getElem?_insertIfNew]
    split
    · rename_i added
      have absent := added.2
      rw [ExtTreeMap.mem_iff_isSome_getElem?, known] at absent
      simp at absent
    · rfl
  rw [withTopic, same]

theorem withTopic_unknown {name type : StdString} (unknown : p.topics[name]? = none) :
    p.withTopic name type = { p with topics := p.topics.insert name type } := by
  have absent : name ∉ p.topics := by
    rw [ExtTreeMap.mem_iff_isSome_getElem?, unknown]
    simp
  have same : p.topics.insertIfNew name type = p.topics.insert name type := by
    apply ExtTreeMap.ext_getElem?
    intro other
    rw [ExtTreeMap.getElem?_insertIfNew, ExtTreeMap.getElem?_insert]
    simp [absent]
  rw [withTopic, same]

end Participant
end RmwOpendds
