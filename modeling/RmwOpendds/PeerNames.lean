import RmwOpendds.Library.KeyValue
import RmwOpendds.NamesSafety
import RmwOpendds.ParticipantIdentity

/-! What `get_names` reports for a peer that is a node of this implementation, beside
what that peer reports of itself. -/

namespace RmwOpendds

open Std Library

namespace UserData

def Plain (s : StdString) : Prop := s ≠ [] ∧ ';' ∉ s ∧ '=' ∉ s ∧ Char.ofNat 0 ∉ s

instance (s : StdString) : Decidable (Plain s) := inferInstanceAs (Decidable (_ ∧ _))

structure WellFormed (pairs : List (StdString × StdString)) : Prop where
  distinct : (pairs.map Prod.fst).Nodup
  keys : ∀ pair ∈ pairs, pair.1 ≠ [] ∧ pair.1.all Char.isAlphanum
  values : ∀ pair ∈ pairs, Plain pair.2

/-- `parse_key_value` gives the pairs of a well-formed sequence, and ignores a null
character behind it. -/
def Parses (parseKeyValue : StdString → ExtTreeMap StdString StdString) : Prop :=
  ∀ pairs, WellFormed pairs → ∀ ending, ending = [] ∨ ending = [Char.ofNat 0] →
    let map := parseKeyValue (KeyValue.text '=' ';' pairs ++ ending)
    (∀ key value, (key, value) ∈ pairs → map[key]? = some value) ∧
      ∀ key, key ∉ pairs.map Prod.fst → map[key]? = none

def parse (kv : StdString) : ExtTreeMap StdString StdString :=
  ExtTreeMap.ofList (KeyValue.read '=' ';' kv)

theorem parse_parses : Parses parse := by
  intro pairs formed ending trailing
  have fresh : ∀ pair ∈ pairs, '=' ∉ pair.1 ∧ ';' ∉ pair.2 := by
    intro pair member
    constructor
    · intro assigned
      have word := List.all_eq_true.mp (formed.keys pair member).2
      exact absurd (word _ assigned) (by decide)
    · exact (formed.values pair member).2.1
  have unassigned : '=' ∉ ending := by
    rcases trailing with rfl | rfl <;> decide
  have pairwise : pairs.Pairwise fun a b => ¬ compare a.1 b.1 = .eq := by
    have distinct := List.pairwise_map.mp formed.distinct
    exact distinct.imp fun differ same => differ (Std.compare_eq_iff_eq.mp same)
  simp only [parse, KeyValue.read_text fresh unassigned]
  constructor
  · intro key value member
    exact ExtTreeMap.getElem?_ofList_of_mem (Std.compare_eq_iff_eq.mpr rfl) pairwise member
  · intro key absent
    exact ExtTreeMap.getElem?_ofList_of_contains_eq_false (by simpa using absent)

theorem identity_eq (name namespace_ : StdString) :
    identity name namespace_ = KeyValue.text '=' ';'
      [("name".toList, name), ("namespace".toList, namespace_)] ++ [Char.ofNat 0] := by
  have first : "name=".toList = "name".toList ++ ['='] := by decide
  have second : ";namespace=".toList = ';' :: ("namespace".toList ++ ['=']) := by decide
  have last : ";".toList = [';'] := by decide
  unfold identity identityText KeyValue.text
  rw [first, second, last]
  generalize "name".toList = a, "namespace".toList = b
  simp only [List.flatMap_cons, List.flatMap_nil, List.append_assoc,
    List.cons_append, List.nil_append]

theorem wellFormed_identity {name namespace_ : StdString} (named : Plain name)
    (placed : Plain namespace_) :
    WellFormed [("name".toList, name), ("namespace".toList, namespace_)] where
  distinct := by
    have distinct : ["name".toList, "namespace".toList].Nodup := by decide
    exact distinct
  keys := by
    have first : "name".toList ≠ [] ∧ "name".toList.all Char.isAlphanum := by decide
    have second : "namespace".toList ≠ [] ∧ "namespace".toList.all Char.isAlphanum := by decide
    exact List.forall_mem_cons.mpr ⟨first, List.forall_mem_singleton.mpr second⟩
  values := List.forall_mem_cons.mpr ⟨named, List.forall_mem_singleton.mpr placed⟩

theorem Parses.identity {parseKeyValue : StdString → ExtTreeMap StdString StdString}
    (law : Parses parseKeyValue) {name namespace_ : StdString} (named : Plain name)
    (placed : Plain namespace_) :
    (parseKeyValue (identity name namespace_))["name".toList]? = some name ∧
      (parseKeyValue (identity name namespace_))["namespace".toList]? = some namespace_ ∧
      (parseKeyValue (identity name namespace_))["enclave".toList]? = none := by
  obtain ⟨found, absent⟩ := law _ (wellFormed_identity named placed) [Char.ofNat 0] (.inr rfl)
  have enclave : "enclave".toList ∉ ["name".toList, "namespace".toList] := by decide
  rw [identity_eq]
  exact ⟨found _ _ List.mem_cons_self, found _ _ (List.mem_cons_of_mem _ List.mem_cons_self),
    absent _ enclave⟩

end UserData

def NameArrays.triple (arrays : NameArrays) (i : ℕ) : NameRow :=
  fun k => (arrays k).bind fun a => a.texts[i]?.join

namespace NamedNode

variable {H H' : Type} {fns : StringArrayFunctions H} {fns' : StringArrayFunctions H'}
  {Handle Key Handle' Key' : Type}
  {parseKeyValue parseKeyValue' : StdString → ExtTreeMap StdString StdString}

theorem triple_of_filled {given : NameList → Bool} {rest : Multiset ℕ} {rows : List NameRow}
    {s : NameArrays × H} (filled : Filled fns given rest rows s) {k : NameList}
    (present : given k = true) (i : ℕ) :
    s.1.triple i k = (rows[i]?.map fun row => row k).join := by
  obtain ⟨a, slot⟩ := Option.isSome_iff_exists.mp ((filled.given k).trans present)
  rw [NameArrays.triple, slot, Option.bind_some, filled.shows k a slot, List.getElem?_map]

theorem triple_of_ok (law : fns.Lawful) {node : NamedNode Handle Key} {h : H}
    {out : NamesResult H} (result : getNames fns parseKeyValue node zeroArrays h = some out)
    (ok : out.ret = .ok) :
    out.arrays.triple 0 = node.texts ∧ ∀ i handle, node.handles[i]? = some handle →
      out.arrays.triple (i + 1) = node.row parseKeyValue handle := by
  have filled := filled_of_ok law (fun _ slot => (Option.some.inj slot).symm) result ok
  constructor
  · funext k
    rw [triple_of_filled filled (by simp)]
    simp
  · intro i handle at_i
    funext k
    rw [triple_of_filled filled (by simp)]
    simp [at_i]

theorem row_of_delivered (parses : UserData.Parses parseKeyValue) {node : NamedNode Handle Key}
    {name namespace_ : StdString} (named : UserData.Plain name) (placed : UserData.Plain namespace_)
    {handle : Handle} {key : Key} (delivered : node.participant.discoveredParticipantData handle =
      (.ok, ⟨key, some (identity name namespace_)⟩)) :
    node.row parseKeyValue handle =
      copiedTexts (PeerNames.texts ⟨name, namespace_, []⟩) := by
  obtain ⟨gave_name, gave_ns, no_enclave⟩ := parses.identity named placed
  have read : node.read parseKeyValue handle = some ⟨name, namespace_, []⟩ := by
    rw [NamedNode.read, delivered]
    change readMap (parseKeyValue (identity name namespace_)) = _
    rw [readMap, gave_name, gave_ns, no_enclave]
    rfl
  rw [row, NamedNode.named, read]
  simp [Option.filter, named.1]

/-- What a node reports for a peer has the name and the namespace that the peer reports
for itself, and never its enclave, which no user data holds. -/
theorem peer_enclave_lost (law : fns.Lawful) (law' : fns'.Lawful)
    (parses : UserData.Parses parseKeyValue) {A : NamedNode Handle Key}
    {B : NamedNode Handle' Key'} {enclave : StdString} (named : UserData.Plain B.name)
    (placed : UserData.Plain B.namespace_) (inside : B.enclave = some enclave)
    (enclosed : UserData.Plain enclave) {qos written : ParticipantQos}
    (write : setUserData qos B.name B.namespace_ = .ok written) {i : ℕ} {handle : Handle}
    (discovered : A.handles[i]? = some handle) {key : Key}
    (delivered : A.participant.discoveredParticipantData handle =
      (.ok, ⟨key, some written.userData⟩)) {h : H} {h' : H'} {out : NamesResult H}
    {out' : NamesResult H'} (result : getNames fns parseKeyValue A zeroArrays h = some out)
    (ok : out.ret = .ok) (result' : getNames fns' parseKeyValue' B zeroArrays h' = some out')
    (ok' : out'.ret = .ok) :
    out.arrays.triple (i + 1) .names = out'.arrays.triple 0 .names ∧
      out.arrays.triple (i + 1) .namespaces = out'.arrays.triple 0 .namespaces ∧
      out.arrays.triple (i + 1) ≠ out'.arrays.triple 0 := by
  have own := (triple_of_ok law' result' ok').1
  have peer := (triple_of_ok law result ok).2 i handle discovered
  rw [setUserData_eq_ok write] at delivered
  rw [row_of_delivered parses named placed delivered] at peer
  rw [own, peer]
  refine ⟨congrArg some B.plain_name, congrArg some B.plain_namespace, fun same => ?_⟩
  have at_enclaves : some [] = B.enclave := congrFun same .enclaves
  rw [inside] at at_enclaves
  exact enclosed.1 (Option.some.inj at_enclaves).symm

def listener : NamedNode Unit Unit where
  name := "listener".toList
  namespace_ := "/".toList
  enclave := some "/robot".toList
  participant := ⟨(), (.ok, []), fun _ => (.error, ⟨(), none⟩)⟩
  plain_name := by decide
  plain_namespace := cStr_root
  plain_enclave := by decide
  handles_lt := by simp

def nearListener : NamedNode Unit Unit := withPeer (identity "listener".toList "/".toList)

def namesNear (node : NamedNode Unit Unit) : Option (NamesResult BlockPool) :=
  getNames BlockPool.stringArrays UserData.parse node zeroArrays ⟨0, 0, 20⟩

theorem namesNear_ok (node : NamedNode Unit Unit)
    (calls : (namesNear node).map (fun out => out.ret) = some .ok) :
    ∃ out, namesNear node = some out ∧ out.ret = .ok :=
  Option.map_eq_some_iff.mp calls

theorem peer_enclave_lost_listener :
    ∃ out out', namesNear nearListener = some out ∧ namesNear listener = some out' ∧
      out.arrays.triple 1 .names = out'.arrays.triple 0 .names ∧
      out.arrays.triple 1 .namespaces = out'.arrays.triple 0 .namespaces ∧
      out.arrays.triple 1 ≠ out'.arrays.triple 0 := by
  obtain ⟨out, result, ok⟩ := namesNear_ok nearListener (by decide +kernel)
  obtain ⟨out', result', ok'⟩ := namesNear_ok listener (by decide +kernel)
  refine ⟨out, out', result, result', ?_⟩
  have write : setUserData ⟨[], true⟩ listener.name listener.namespace_ =
      .ok ⟨identity listener.name listener.namespace_, true⟩ := by decide
  exact peer_enclave_lost BlockPool.stringArrays_lawful BlockPool.stringArrays_lawful
    UserData.parse_parses (by decide) (by decide) rfl (by decide) write rfl rfl result ok result'
    ok'

/-- The peer is reported with an empty enclave. -/
theorem enclave_empty_at_peer :
    ¬ ∀ out out', namesNear nearListener = some out → namesNear listener = some out' →
      out.arrays.triple 1 = out'.arrays.triple 0 := by
  intro claim
  have near : (namesNear nearListener).map (fun out => out.arrays.triple 1 .enclaves) =
      some (some []) := by decide +kernel
  have own : (namesNear listener).map (fun out => out.arrays.triple 0 .enclaves) =
      some (some "/robot".toList) := by decide +kernel
  obtain ⟨out, result, empty⟩ := Option.map_eq_some_iff.mp near
  obtain ⟨out', result', enclave⟩ := Option.map_eq_some_iff.mp own
  rw [claim out out' result result', enclave] at empty
  exact absurd empty (by decide)

end NamedNode
end RmwOpendds
