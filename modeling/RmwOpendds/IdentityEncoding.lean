import RmwOpendds.Library.Separator
import RmwOpendds.NodeLookup

/-! The name and the namespace of a node as one text in its user data: how the text is
written, when it tells two nodes apart, and which names are found in it. -/

namespace RmwOpendds

open Std Library Library.Separator

/-- A pair that `rmw_create_node` accepts. Its arguments are C strings. -/
@[ext] structure AcceptedNode where
  name : StdString
  namespace_ : StdString
  accepted : validateNameNamespace (some name) (some namespace_) = .ok (name, namespace_)
  name_ends : Char.ofNat 0 ∉ name
  namespace_ends : Char.ofNat 0 ∉ namespace_

def identitySeparator : StdString := ";namespace=".toList

theorem unbordered_identitySeparator : Unbordered identitySeparator := by
  unfold Unbordered
  decide

theorem identity_eq_iff {name namespace_ name' namespace' : StdString} :
    identity name' namespace' = identity name namespace_ ↔
      name' ++ identitySeparator ++ namespace' = name ++ identitySeparator ++ namespace_ := by
  have parts : ∀ first second last : StdString,
      first ++ name' ++ second ++ namespace' ++ last =
          first ++ name ++ second ++ namespace_ ++ last ↔
        name' ++ second ++ namespace' = name ++ second ++ namespace_ := by
    intro first second last
    rw [List.append_left_inj]
    simp only [List.append_assoc, List.append_right_inj]
  rw [identity, identity, List.append_left_inj]
  exact parts _ _ _

namespace AcceptedNode

variable (i : AcceptedNode)

def userData : StdString := identity i.name i.namespace_

theorem nonempty : i.name ≠ [] ∧ i.namespace_ ≠ [] :=
  (validateNameNamespace_eq_ok.mp i.accepted).2.2

def Separated : Prop :=
  ¬ identitySeparator <:+: i.name.tail ∧ ¬ identitySeparator <:+: i.namespace_.dropLast

theorem exists_of_cut {name namespace_ : StdString} (named : name ≠ []) (placed : namespace_ ≠ [])
    (same : name ++ identitySeparator ++ namespace_ =
      i.name ++ identitySeparator ++ i.namespace_) :
    ∃ j : AcceptedNode, j.name = name ∧ j.namespace_ = namespace_ := by
  have ends : Char.ofNat 0 ∉ name ++ identitySeparator ++ namespace_ := by
    have between : Char.ofNat 0 ∉ identitySeparator := by decide
    rw [same]
    simp only [List.mem_append, i.name_ends, between, i.namespace_ends, or_self, not_false_iff]
  simp only [List.mem_append, not_or] at ends
  exact ⟨⟨name, namespace_, validateNameNamespace_eq_ok.mpr ⟨rfl, rfl, named, placed⟩, ends.1.1,
    ends.2⟩, rfl, rfl⟩

theorem unambiguous_iff : (∀ j : AcceptedNode, j.userData = i.userData → j = i) ↔ i.Separated := by
  obtain ⟨named, placed⟩ := i.nonempty
  constructor
  · intro unambiguous
    by_contra imitated
    rw [Separated, ← not_or, not_not] at imitated
    obtain ⟨name, namespace_, named', placed', same, differs⟩ :=
      exists_other_join imitated named placed (by decide)
    obtain ⟨j, rfl, rfl⟩ := i.exists_of_cut named' placed' same
    exact differs (congrArg AcceptedNode.name (unambiguous j (identity_eq_iff.mpr same)))
  · rintro ⟨first, second⟩ j same
    obtain ⟨names, namespaces⟩ := join_unique unbordered_identitySeparator first second
      j.nonempty.1 j.nonempty.2 (identity_eq_iff.mp same)
    exact AcceptedNode.ext names namespaces

theorem written (short : i.userData.length < 2 ^ 31) :
    writeUserData i.name i.namespace_ = .ok i.userData := by
  rw [userData, length_identity] at short
  rw [writeUserData_eq, if_pos short, userData]

/-- Its user data are a well-formed sequence of pairs, of whatever keys. -/
def Formatted : Prop :=
  ∃ pairs, UserData.WellFormed pairs ∧
    i.userData = KeyValue.text '=' ';' pairs ++ [Char.ofNat 0]

section Pairs

variable {pairs : List (StdString × StdString)} (formed : UserData.WellFormed pairs)
  (written : i.userData = KeyValue.text '=' ';' pairs ++ [Char.ofNat 0])

include formed in
theorem key_fresh {c : Char} (other : ¬ c.isAlphanum) : ∀ pair ∈ pairs, c ∉ pair.1 :=
  fun pair listed inside => other (List.all_eq_true.mp (formed.keys pair listed).2 c inside)

include written in
theorem text_eq : KeyValue.text '=' ';' pairs =
    "name".toList ++ '=' :: (i.name ++ ';' ::
      ("namespace".toList ++ '=' :: (i.namespace_ ++ [';']))) := by
  rw [userData, UserData.identity_eq] at written
  rw [← List.append_cancel_right written, KeyValue.text_cons, KeyValue.text_cons]
  rfl

include formed written

theorem exists_name : ∃ v later, pairs = ("name".toList, v) :: later ∧
    v ++ ';' :: KeyValue.text '=' ';' later =
      i.name ++ ';' :: ("namespace".toList ++ '=' :: (i.namespace_ ++ [';'])) :=
  KeyValue.exists_cons_of_text (key_fresh formed (by decide)) (by decide) (i.text_eq written)

theorem exists_namespace : ∃ w, ("namespace".toList, w) ∈ pairs := by
  have cut : KeyValue.text '=' ';' pairs = ("name".toList ++ '=' :: i.name) ++ ';' ::
      ("namespace".toList ++ '=' :: (i.namespace_ ++ [';'])) := by
    rw [i.text_eq written, List.append_assoc, List.cons_append]
  obtain ⟨later, suffix, rest⟩ := KeyValue.text_after_terminator (by decide)
    (fun pair listed =>
      ⟨key_fresh formed (by decide) pair listed, (formed.values pair listed).2.1⟩) cut
  obtain ⟨w, _, rfl, -⟩ := KeyValue.exists_cons_of_text
    (fun pair listed => key_fresh formed (by decide) pair (suffix.subset listed)) (by decide)
    rest.symm
  exact ⟨w, suffix.subset List.mem_cons_self⟩

theorem plain_of_formed (named : ';' ∉ i.name) (placed : ';' ∉ i.namespace_) :
    UserData.Plain i.name ∧ UserData.Plain i.namespace_ := by
  obtain ⟨v, later, rfl, first⟩ := i.exists_name formed written
  obtain ⟨plain, values⟩ := List.forall_mem_cons.mp formed.values
  obtain ⟨rfl, rest⟩ := KeyValue.cut_unique plain.2.1 named first
  obtain ⟨w, last, rfl, second⟩ := KeyValue.exists_cons_of_text
    (fun pair listed => key_fresh formed (by decide) pair (List.mem_cons_of_mem _ listed))
    (by decide) rest
  obtain ⟨plain', -⟩ := List.forall_mem_cons.mp values
  obtain ⟨rfl, -⟩ := KeyValue.cut_unique plain'.2.1 placed second
  exact ⟨plain, plain'⟩

end Pairs

section Matching

variable (parseKeyValue : StdString → ExtTreeMap StdString StdString)

/-- Its user data are its own, are written as a whole, and match no other names. -/
structure Identified : Prop where
  unambiguous : ∀ j : AcceptedNode, j.userData = i.userData → j = i
  written : i.userData.length < 2 ^ 31 → writeUserData i.name i.namespace_ = .ok i.userData
  matched : ∀ n ns, matchUserData parseKeyValue (some i.userData) n ns →
    n = i.name ∧ ns = i.namespace_

variable {parseKeyValue}

theorem identified_of_plain (parses : UserData.Parses parseKeyValue)
    (named : UserData.Plain i.name) (placed : UserData.Plain i.namespace_) :
    i.Identified parseKeyValue ∧
      matchUserData parseKeyValue (some i.userData) i.name i.namespace_ := by
  obtain ⟨name, namespace_, -⟩ := parses.identity named placed
  have terminated : ';' ∈ identitySeparator := by decide
  have separated : i.Separated := by
    constructor <;> intro inside
    · exact named.2.1 (List.mem_of_mem_tail (inside.subset terminated))
    · exact placed.2.1 (List.mem_of_mem_dropLast (inside.subset terminated))
  refine ⟨⟨i.unambiguous_iff.mpr separated, i.written, fun n ns found => ?_⟩,
    matchUserData_iff.mpr ⟨name, namespace_⟩⟩
  obtain ⟨found_name, found_ns⟩ := matchUserData_iff.mp found
  exact ⟨Option.some.inj (found_name.symm.trans name),
    Option.some.inj (found_ns.symm.trans namespace_)⟩

theorem Identified.no_terminator (identified : i.Identified parseKeyValue)
    (parses : UserData.Parses parseKeyValue) (formatted : i.Formatted) :
    ';' ∉ i.name ∧ ';' ∉ i.namespace_ := by
  obtain ⟨pairs, formed, written⟩ := formatted
  obtain ⟨v, later, rfl, -⟩ := i.exists_name formed written
  obtain ⟨w, listed⟩ := i.exists_namespace formed written
  obtain ⟨found, -⟩ := parses _ formed [Char.ofNat 0] (.inr rfl)
  rw [← written] at found
  obtain ⟨rfl, rfl⟩ := identified.matched v w
    (matchUserData_iff.mpr ⟨found _ _ List.mem_cons_self, found _ _ listed⟩)
  exact ⟨(formed.values _ List.mem_cons_self).2.1, (formed.values _ listed).2.1⟩

/-- Where the octets are of the format, or are shared, the names are told apart and found
exactly if neither contains the terminator. -/
theorem identified_iff_fresh (parses : UserData.Parses parseKeyValue)
    (known : i.Formatted ∨ ¬ i.Separated) :
    i.Identified parseKeyValue ↔ ';' ∉ i.name ∧ ';' ∉ i.namespace_ := by
  constructor
  · intro identified
    obtain formatted | shared := known
    · exact identified.no_terminator i parses formatted
    · exact absurd (i.unambiguous_iff.mp identified.unambiguous) shared
  · rintro ⟨named, placed⟩
    have terminated : ';' ∈ identitySeparator := by decide
    obtain ⟨pairs, formed, written⟩ | shared := known
    · obtain ⟨plain_name, plain_ns⟩ := i.plain_of_formed formed written named placed
      exact (i.identified_of_plain parses plain_name plain_ns).1
    · refine absurd ⟨fun inside => ?_, fun inside => ?_⟩ shared
      · exact named (List.mem_of_mem_tail (inside.subset terminated))
      · exact placed (List.mem_of_mem_dropLast (inside.subset terminated))

end Matching

end AcceptedNode

structure LookupPeers {Handle Key GUID : Type} (q : NodeQuery Handle Key GUID) where
  self : AcceptedNode
  owner : Handle → AcceptedNode
  own : q.participant.qos.2 = some self.userData
  others : ∀ handle ∈ q.participant.discoveredParticipants.2,
    (q.participant.discoveredParticipantData handle).2.userData = some (owner handle).userData

namespace LookupPeers

variable {Handle Key GUID : Type} {q : NodeQuery Handle Key GUID} (peers : LookupPeers q)

def AllIdentified : Prop :=
  peers.self.Identified q.parseKeyValue ∧
    ∀ handle ∈ q.participant.discoveredParticipants.2,
      (peers.owner handle).Identified q.parseKeyValue

def Named (_ : LookupPeers q) (i : AcceptedNode) : Prop :=
  q.nodeName = i.name ∧ q.nodeNamespace = i.namespace_

def Resolved : Prop :=
  (q.getKey.key = q.ids.getRepoid q.participant.instanceHandle ∧ peers.Named peers.self) ∨
    ∃ handle ∈ q.participant.discoveredParticipants.2, q.getKey.key = q.keyOf handle ∧
      peers.Named (peers.owner handle)

theorem resolved_of_ok (identified : peers.AllIdentified) (found : q.getKey.ret = .ok) :
    peers.Resolved := by
  obtain ⟨matched, key⟩ | ⟨handle, listed, advertised, key⟩ := NodeQuery.getKey_ok found
  · refine .inl ⟨key, identified.1.matched _ _ ?_⟩
    rw [← peers.own]
    obtain ⟨userData, given, found⟩ := NodeQuery.ownMatch_iff.mp matched
    rw [given]
    exact found
  · refine .inr ⟨handle, listed, key, (identified.2 handle listed).matched _ _ ?_⟩
    rw [← peers.others handle listed]
    exact advertised.2

end LookupPeers

namespace AcceptedNode

def listenerNode : AcceptedNode where
  name := "listener".toList
  namespace_ := "/".toList
  accepted := by decide
  name_ends := by decide
  namespace_ends := by decide

def pairInName : AcceptedNode where
  name := "listener;enclave=a".toList
  namespace_ := "/".toList
  accepted := by decide
  name_ends := by decide
  namespace_ends := by decide

/-- `a;namespace=b` in `/c`, and `a` in `b;namespace=/c`. -/
def imitatingName : AcceptedNode where
  name := "a;namespace=b".toList
  namespace_ := "/c".toList
  accepted := by decide
  name_ends := by decide
  namespace_ends := by decide

def imitatingNamespace : AcceptedNode where
  name := "a".toList
  namespace_ := "b;namespace=/c".toList
  accepted := by decide
  name_ends := by decide
  namespace_ends := by decide

end AcceptedNode
end RmwOpendds
