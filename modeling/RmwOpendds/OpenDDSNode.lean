import RmwOpendds.Listener

/-! The graph side of `OpenDDSNode`: its two listeners and the operations that
enter the node's own endpoints into their caches. Both listeners trigger the one
graph guard condition of the node; an update says whether it does. -/

namespace RmwOpendds

@[ext] structure OpenDDSNode (GUID : Type*) [LinearOrder GUID] where
  pubListener : CustomDataReaderListener GUID
  subListener : CustomDataReaderListener GUID

open Library

namespace OpenDDSNode

variable {GUID Handle Key : Type*} [LinearOrder GUID]

def create : OpenDDSNode GUID := ⟨.create, .create⟩

def listener (n : OpenDDSNode GUID) : EntityType → CustomDataReaderListener GUID
  | .publisher => n.pubListener
  | .subscriber => n.subListener

def setListener (n : OpenDDSNode GUID) (l : CustomDataReaderListener GUID) :
    EntityType → OpenDDSNode GUID
  | .publisher => { n with pubListener := l }
  | .subscriber => { n with subListener := l }

@[simp] theorem listener_setListener (n : OpenDDSNode GUID) (l : CustomDataReaderListener GUID)
    (entityType : EntityType) : (n.setListener l entityType).listener entityType = l := by
  cases entityType <;> rfl

theorem listener_setListener_of_ne (n : OpenDDSNode GUID) (l : CustomDataReaderListener GUID)
    {entityType entityType' : EntityType} (other : entityType' ≠ entityType) :
    (n.setListener l entityType).listener entityType' = n.listener entityType' := by
  cases entityType <;> cases entityType' <;> first | rfl | exact absurd rfl other

@[simp] theorem setListener_setListener (n : OpenDDSNode GUID)
    (l l' : CustomDataReaderListener GUID) (entityType : EntityType) :
    (n.setListener l entityType).setListener l' entityType = n.setListener l' entityType := by
  cases entityType <;> rfl

@[simp] theorem setListener_listener (n : OpenDDSNode GUID) (entityType : EntityType) :
    n.setListener (n.listener entityType) entityType = n := by
  cases entityType <;> rfl

structure GraphUpdate (GUID : Type*) [LinearOrder GUID] where
  node : OpenDDSNode GUID
  triggered : Bool

variable (ids : Identities Handle Key GUID) (dp : Handle)

def addPub (n : OpenDDSNode GUID) (pub : Handle) (topicName typeName : StdString) :
    GraphUpdate GUID :=
  let partGuid := ids.getRepoid dp
  let guid := ids.getRepoid pub
  let u := n.pubListener.addInformation partGuid guid topicName typeName .publisher
  ⟨{ n with pubListener := u.listener }, true⟩

def addSub (n : OpenDDSNode GUID) (sub : Handle) (topicName typeName : StdString) :
    GraphUpdate GUID :=
  let partGuid := ids.getRepoid dp
  let guid := ids.getRepoid sub
  let u := n.subListener.addInformation partGuid guid topicName typeName .subscriber
  ⟨{ n with subListener := u.listener }, true⟩

/-- The returned bool is always true and is left out. -/
def removePub (n : OpenDDSNode GUID) (pub : Handle) : GraphUpdate GUID :=
  let u := n.pubListener.removeInformation (ids.getRepoid pub) .publisher
  ⟨{ n with pubListener := u.listener }, u.success⟩

def removeSub (n : OpenDDSNode GUID) (sub : Handle) : GraphUpdate GUID :=
  let u := n.subListener.removeInformation (ids.getRepoid sub) .subscriber
  ⟨{ n with subListener := u.listener }, u.success⟩

structure Count where
  ret : RmwRet
  error : Option String
  count : Option Nat
  deriving DecidableEq, Repr

/-- The common body of `count_publishers` and `count_subscribers`. -/
def countIn (l : CustomDataReaderListener GUID) (topicName : Option StdString)
    (count : Option Nat) : Count :=
  match topicName with
  | none => ⟨.error, some "topic name is null", count⟩
  | some name =>
    match count with
    | none => ⟨.error, some "count is null", none⟩
    | some _ => ⟨.ok, none, some (l.countTopic name)⟩

def countPublishers (n : OpenDDSNode GUID) (topicName : Option StdString) (count : Option Nat) :
    Count :=
  countIn n.pubListener topicName count

def countSubscribers (n : OpenDDSNode GUID) (topicName : Option StdString) (count : Option Nat) :
    Count :=
  countIn n.subListener topicName count

end OpenDDSNode
end RmwOpendds
