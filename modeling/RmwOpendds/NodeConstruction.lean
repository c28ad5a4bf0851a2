import RmwOpendds.Library.Fallible
import RmwOpendds.Library.StdString

/-! The constructor of `OpenDDSNode` as a sequence of requests, each of which may
be refused, and the identity that it puts in the user data of its participant. -/

namespace RmwOpendds

open Library

/-- `OpenDDSNode::validate_name_namespace`; null arguments are `none`. -/
def validateNameNamespace (nodeName nodeNamespace : Option StdString) :
    Except String (StdString × StdString) :=
  match nodeName with
  | none | some [] => .error "node_name is null or empty"
  | some name =>
    match nodeNamespace with
    | none | some [] => .error "node_namespace is null or empty"
    | some namespace_ => .ok (name, namespace_)

/-- `DDS::DomainParticipantQos`, its user data as a string of octets. -/
structure ParticipantQos where
  userData : StdString
  autoenableCreatedEntities : Bool
  deriving DecidableEq, Repr

def identityText (name namespace_ : StdString) : StdString :=
  "name=".toList ++ name ++ ";namespace=".toList ++ namespace_ ++ ";".toList

/-- The octets that `snprintf` leaves in the buffer, its null character included. -/
def identity (name namespace_ : StdString) : StdString :=
  identityText name namespace_ ++ [Char.ofNat 0]

/-- What `snprintf` returns, negative where the length is no `int`, and the octets it
leaves in a buffer of the size. -/
def snprintf (size : ℕ) (text : StdString) : ℤ × StdString :=
  (if text.length < 2 ^ 31 then text.length else -1, text.take (size - 1) ++ [Char.ofNat 0])

def userDataLength (name namespace_ : StdString) : ℕ :=
  name.length + namespace_.length + "name=;namespace=;".toList.length + 1

/-- How `set_default_participant_qos` fills `user_data`. The length becomes an `int` for
the check. -/
def writeUserData (name namespace_ : StdString) : Except String StdString :=
  let length := userDataLength name namespace_
  let value := List.replicate length (Char.ofNat 0)
  let (written, octets) := snprintf length (identityText name namespace_)
  if written < 0 ∨ Int.bmod length (2 ^ 32) - 1 < written then
    .error "failed to set qos.user_data"
  else .ok (octets ++ value.drop octets.length)

theorem length_identityText (name namespace_ : StdString) :
    (identityText name namespace_).length + 1 = userDataLength name namespace_ := by
  have parts : ∀ first second last all : StdString,
      first.length + second.length + last.length = all.length →
      (first ++ name ++ second ++ namespace_ ++ last).length + 1 =
        name.length + namespace_.length + all.length + 1 := by
    intro first second last all sizes
    simp only [List.length_append]
    omega
  exact parts _ _ _ _ (by decide)

theorem length_identity (name namespace_ : StdString) :
    (identity name namespace_).length = userDataLength name namespace_ := by
  rw [← length_identityText, identity, List.length_append, List.length_singleton]

theorem writeUserData_eq (name namespace_ : StdString) :
    writeUserData name namespace_ =
      if userDataLength name namespace_ < 2 ^ 31 then .ok (identity name namespace_)
      else .error "failed to set qos.user_data" := by
  have size := length_identityText name namespace_
  have whole : (identityText name namespace_).take (userDataLength name namespace_ - 1) =
      identityText name namespace_ := by
    rw [← size, Nat.add_sub_cancel, List.take_length]
  have filled : (List.replicate (userDataLength name namespace_) (Char.ofNat 0)).drop
      (identity name namespace_).length = [] := by
    rw [length_identity, List.drop_replicate, Nat.sub_self, List.replicate_zero]
  unfold writeUserData snprintf
  dsimp only
  rw [whole, ← identity, filled, List.append_nil]
  generalize userDataLength name namespace_ = length at size
  by_cases short : length < 2 ^ 31
  · have as_int : Int.bmod length (2 ^ 32) = length :=
      Int.bmod_eq_of_le_mul_two (by omega) (by omega)
    have fits : (identityText name namespace_).length < 2 ^ 31 := by omega
    rw [if_pos fits, as_int, if_pos short, if_neg (by omega)]
  · rw [if_neg short, if_pos]
    split
    · have least : length = 2 ^ 31 := by omega
      have as_int : Int.bmod length (2 ^ 32) = -2 ^ 31 := by
        rw [least]
        decide
      right
      omega
    · exact .inl (by decide)

def setUserData (qos : ParticipantQos) (name namespace_ : StdString) :
    Except String ParticipantQos := do
  let value ← writeUserData name namespace_
  return { qos with userData := value }

theorem setUserData_eq_ok {qos qos' : ParticipantQos} {name namespace_ : StdString}
    (written : setUserData qos name namespace_ = .ok qos') :
    qos'.userData = identity name namespace_ := by
  rw [setUserData, writeUserData_eq] at written
  split at written
  · cases written
    rfl
  · cases written

/-- What the DDS implementation and the allocator give `rmw_create_node`. -/
structure NodeOutcome where
  nodeAllocated : Bool
  objectAllocated : Bool
  defaultQosGot : Option ParticipantQos
  defaultQosSet : Bool
  guardConditionCreated : Bool
  pubListenerCreated : Bool
  subListenerCreated : Bool
  participantCreated : Bool
  participantNarrowed : Bool
  transportConfigured : Bool
  builtinSubscriberGiven : Bool
  publicationReaderGiven : Bool
  subscriptionReaderGiven : Bool
  deriving DecidableEq, Repr

/-- A request whose refusal is answered by throwing. -/
def require (given : Bool) (failure : String) : Except String PUnit :=
  if given then .ok ⟨⟩ else .error failure

def setDefaultParticipantQos (name namespace_ : StdString) (dds : NodeOutcome) :
    Except String PUnit := do
  match dds.defaultQosGot with
  | none => .error "get_default_participant_qos failed"
  | some qos =>
    let _ ← setUserData qos name namespace_
    require dds.defaultQosSet "set_default_participant_qos failed"

def constructNode (name namespace_ : StdString) (dds : NodeOutcome) : Except String PUnit := do
  require (name ≠ []) "node name_ is null"
  require (namespace_ ≠ []) "node namespace_ is null"
  setDefaultParticipantQos name namespace_ dds
  require dds.guardConditionCreated "create_guard_condition failed"
  require dds.pubListenerCreated "CustomPublisherListener failed"
  require dds.subListenerCreated "CustomSubscriberListener failed"
  require dds.participantCreated "create_participant failed"
  require dds.participantNarrowed "casting to DomainParticipantImpl failed"
  require dds.transportConfigured "configureTransport failed"
  require dds.builtinSubscriberGiven "get_builtin_subscriber failed"
  require dds.publicationReaderGiven "builtin publication datareader is null"
  require dds.subscriptionReaderGiven "builtin subscription datareader is null"

def NodeOutcome.granted (dds : NodeOutcome) (name namespace_ : StdString) : Bool :=
  dds.nodeAllocated && dds.objectAllocated && dds.defaultQosGot.isSome &&
    (identity name namespace_).length < 2 ^ 31 && dds.defaultQosSet &&
    dds.guardConditionCreated && dds.pubListenerCreated && dds.subListenerCreated &&
    dds.participantCreated && dds.participantNarrowed && dds.transportConfigured &&
    dds.builtinSubscriberGiven && dds.publicationReaderGiven && dds.subscriptionReaderGiven

def NodeOutcome.allGranted : NodeOutcome where
  nodeAllocated := true
  objectAllocated := true
  defaultQosGot := some ⟨[], true⟩
  defaultQosSet := true
  guardConditionCreated := true
  pubListenerCreated := true
  subListenerCreated := true
  participantCreated := true
  participantNarrowed := true
  transportConfigured := true
  builtinSubscriberGiven := true
  publicationReaderGiven := true
  subscriptionReaderGiven := true

@[simp] theorem require_isOk (given : Bool) (failure : String) :
    (require given failure).isOk = given := by
  cases given <;> rfl

theorem setDefaultParticipantQos_isOk (name namespace_ : StdString) (dds : NodeOutcome) :
    (setDefaultParticipantQos name namespace_ dds).isOk =
      (dds.defaultQosGot.isSome && decide ((identity name namespace_).length < 2 ^ 31) &&
        dds.defaultQosSet) := by
  unfold setDefaultParticipantQos
  cases dds.defaultQosGot with
  | none => rfl
  | some qos =>
    have written : (setUserData qos name namespace_).isOk =
        decide ((identity name namespace_).length < 2 ^ 31) := by
      rw [setUserData, writeUserData_eq, length_identity]
      split
      · rename_i short
        exact (decide_eq_true short).symm
      · rename_i long
        exact (decide_eq_false long).symm
    simp [written]

theorem constructNode_isOk {name namespace_ : StdString} (named : name ≠ [])
    (placed : namespace_ ≠ []) (dds : NodeOutcome) :
    (dds.nodeAllocated && (dds.objectAllocated && (constructNode name namespace_ dds).isOk)) =
      dds.granted name namespace_ := by
  simp [constructNode, NodeOutcome.granted, setDefaultParticipantQos_isOk, named, placed,
    Bool.and_assoc]

theorem validateNameNamespace_eq_ok {nodeName nodeNamespace : Option StdString}
    {name namespace_ : StdString} :
    validateNameNamespace nodeName nodeNamespace = .ok (name, namespace_) ↔
      nodeName = some name ∧ nodeNamespace = some namespace_ ∧ name ≠ [] ∧ namespace_ ≠ [] := by
  cases nodeName with
  | none => simp [validateNameNamespace]
  | some text =>
    cases text with
    | nil =>
      refine iff_of_false (by simp [validateNameNamespace]) ?_
      rintro ⟨same, -, named, -⟩
      exact named (Option.some.inj same).symm
    | cons c text =>
      cases nodeNamespace with
      | none => simp [validateNameNamespace]
      | some place =>
        cases place with
        | nil =>
          refine iff_of_false (by simp [validateNameNamespace]) ?_
          rintro ⟨-, same, -, placed⟩
          exact placed (Option.some.inj same).symm
        | cons d place =>
          simp only [validateNameNamespace, Except.ok.injEq, Prod.mk.injEq, Option.some.injEq]
          constructor
          · rintro ⟨rfl, rfl⟩
            simp
          · rintro ⟨rfl, rfl, -, -⟩
            simp

end RmwOpendds
