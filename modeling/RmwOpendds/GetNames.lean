import RmwOpendds.NamesAndTypes
import RmwOpendds.TopicEndpointInfo

/-! `OpenDDSNode::get_names` and the two functions of `rmw_node.cpp` that call it.
What C++ leaves undefined, the end of a map being dereferenced or an entry being
stored outside an array, ends the call without a result. Exceptions of the C++
library are left out, and with them the second handler. -/

namespace RmwOpendds

open Std Library

inductive NameList where
  | names | namespaces | enclaves
  deriving DecidableEq, Repr

abbrev NameArrays := NameList → Option StringArray

inductive NamesStop where
  | thrown (text : String)
  | undefined
  deriving DecidableEq, Repr

abbrev Naming (H : Type) := EStateM NamesStop (NameArrays × H)

structure StringArrayFunctions (H : Type) extends Rcutils H where
  checkZeroStringArray : Option StringArray → RmwRet
  stringArrayFini : StringArray → H → RcutilsRet × StringArray × H

structure StringArrayFunctions.Lawful {H : Type} (fns : StringArrayFunctions H) : Prop extends
    fns.toRcutils.Lawful where
  checkZeroStringArray : ∀ a, fns.checkZeroStringArray a = .ok ↔ a = some .zero
  stringArrayFini : ∀ a h rest, fns.live h = a.blocks + rest →
    ∃ ret h', fns.stringArrayFini a h = (ret, .zero, h') ∧ fns.live h' = rest

/-- A node as `get_names` reads it. Its names and its enclave were C strings, and the
length of a CORBA sequence is a `CORBA::ULong`. The enclave stands for what is read
through `context_`, a reference that is modelled with the contexts and may dangle. -/
structure NamedNode (Handle Key : Type) where
  name : StdString
  namespace_ : StdString
  enclave : Option StdString
  participant : DomainParticipant Handle Key
  plain_name : cStr name = name
  plain_namespace : cStr namespace_ = namespace_
  plain_enclave : enclave.map cStr = enclave
  handles_lt : participant.discoveredParticipants.2.length < 2 ^ 32

structure PeerNames where
  name : StdString
  ns : StdString
  enclave : StdString
  deriving DecidableEq, Repr

def PeerNames.texts (peer : PeerNames) : NameList → Option StdString
  | .names => some peer.name
  | .namespaces => some peer.ns
  | .enclaves => some peer.enclave

section Reading

variable {Handle Key : Type} (parseKeyValue : StdString → ExtTreeMap StdString StdString)

/-- What a map says; `none` where the source dereferences the end of the map. -/
def readMap (map : ExtTreeMap StdString StdString) : Option PeerNames :=
  let enclave := (map["enclave".toList]?).getD []
  match map["name".toList]?, map["namespace".toList]? with
  | none, _ => some ⟨[], [], enclave⟩
  | some name, some ns => some ⟨name, ns, enclave⟩
  -- the source tests `name_found` a second time, and not `ns_found`
  | some _, none => none

def readPeer : ReturnCode × ParticipantBuiltinTopicData Key → Option PeerNames
  | (.ok, pbtd) => readMap (parseKeyValue (pbtd.userData.getD []))
  | _ => some ⟨[], [], []⟩

end Reading

namespace NamedNode

variable {Handle Key : Type} (node : NamedNode Handle Key)

def texts : NameList → Option StdString
  | .names => some node.name
  | .namespaces => some node.namespace_
  | .enclaves => node.enclave

def handles : List Handle := node.participant.discoveredParticipants.2

/-- `handles.length() + 1` on `CORBA::ULong` -/
def length : ℕ := (node.handles.length + 1) % 2 ^ 32

end NamedNode

section Fill

variable {H : Type} (fns : StringArrayFunctions H)

/-- The names and namespaces are always given where this is called for them. -/
def initArray (k : NameList) (length : ℕ) : Naming H PUnit := fun (arrays, h) =>
  match arrays k with
  | none => .ok ⟨⟩ (arrays, h)
  | some array =>
    match fns.stringArrayInit array length h with
    | (ret, array, h) =>
      let arrays := Function.update arrays k (some array)
      if ret = .ok then .ok ⟨⟩ (arrays, h)
      else .error (.thrown (fns.errorString h)) (arrays, h)

def initArrays (length : ℕ) : Naming H PUnit := do
  initArray fns .names length
  initArray fns .namespaces length
  initArray fns .enclaves length

def storeEntry (k : NameList) (index : ℕ) (value : Option CString) : Naming H PUnit :=
  fun (arrays, h) =>
    match arrays k with
    | none => .ok ⟨⟩ (arrays, h)
    | some array =>
      if index < array.data.length then
        let array := { array with data := array.data.set index value }
        .ok ⟨⟩ (Function.update arrays k (some array), h)
      else .error .undefined (arrays, h)

/-- `rcutils_strdup`, which gives null for null. -/
def copyText (text : Option StdString) : Naming H (Option CString) := fun (arrays, h) =>
  match text with
  | none => .ok none (arrays, h)
  | some text =>
    match fns.strdup (cStr text) h with
    | (copied, h) => .ok copied (arrays, h)

def storeText (k : NameList) (index : ℕ) (text : Option StdString) (failure : String) :
    Naming H PUnit := do
  if ((← get).1 k).isSome then
    let copied ← copyText fns text
    storeEntry k index copied
    if copied = none then throw (.thrown failure)

def storeRow (index : ℕ) (texts : NameList → Option StdString) (noEnclave : String) :
    Naming H PUnit := do
  storeText fns .names index (texts .names) "could not allocate memory for node name"
  storeText fns .namespaces index (texts .namespaces) "could not allocate memory for node namespace"
  storeText fns .enclaves index (texts .enclaves) noEnclave

variable {Handle Key : Type} (parseKeyValue : StdString → ExtTreeMap StdString StdString)
  (node : NamedNode Handle Key)

def storePeer (index : ℕ) (handle : Handle) : Naming H PUnit :=
  match readPeer parseKeyValue (node.participant.discoveredParticipantData handle) with
  | none => throw .undefined
  | some peer =>
    if peer.name = [] then do
      storeEntry .names index none
      storeEntry .namespaces index none
    else storeRow fns index peer.texts "could not allocate memory for enclave namespace"

def storePeers : List Handle → ℕ → Naming H PUnit
  | [], _ => pure ⟨⟩
  | handle :: handles, index => do
    storePeer fns parseKeyValue node index handle
    storePeers handles (index + 1)

/-- The `try` block. Its loop runs while the index is below `length`. -/
def fillNames : Naming H PUnit := do
  initArrays fns node.length
  storeRow fns 0 node.texts "could not allocate memory for a enclave name"
  storePeers fns parseKeyValue node (node.handles.take (node.length - 1)) 1

def finiArray (k : NameList) : NameArrays × H → NameArrays × H := fun (arrays, h) =>
  match arrays k with
  | none => (arrays, h)
  | some array =>
    match fns.stringArrayFini array h with
    | (_, array, h) => (Function.update arrays k (some array), h)

def finiArrays (s : NameArrays × H) : NameArrays × H :=
  finiArray fns .enclaves (finiArray fns .namespaces (finiArray fns .names s))

/-- What a call returns, the error it sets, the arrays and the allocator after it. -/
structure NamesResult (H : Type) where
  ret : RmwRet
  error : Option String
  arrays : NameArrays
  heap : H

/-- The call has no result where its behaviour is undefined. -/
def getNames (arrays : NameArrays) (h : H) : Option (NamesResult H) :=
  if fns.checkZeroStringArray (arrays .names) ≠ .ok then
    some ⟨.invalidArgument, some "rmw_check_zero_rmw_string_array(names) failed.", arrays, h⟩
  else if fns.checkZeroStringArray (arrays .namespaces) ≠ .ok then
    some ⟨.invalidArgument, some "rmw_check_zero_rmw_string_array(namespaces) failed.", arrays, h⟩
  else if node.participant.discoveredParticipants.1 ≠ .ok then
    some ⟨.error, some "unable to fetch discovered participants.", arrays, h⟩
  else
    match (fillNames fns parseKeyValue node).run (arrays, h) with
    | .ok _ (arrays, h) => some ⟨.ok, none, arrays, h⟩
    | .error (.thrown text) s =>
      let s := finiArrays fns s
      some ⟨.error, some text, s.1, s.2⟩
    | .error .undefined _ => none

def NameArrays.of (names namespaces enclaves : Option StringArray) : NameArrays
  | .names => names
  | .namespaces => namespaces
  | .enclaves => enclaves

def getNodeNames (handle : Option (RmwHandle (NamedNode Handle Key))) (arrays : NameArrays)
    (h : H) : Option (NamesResult H) :=
  match RmwHandle.fromHandle "node is null" "dds_node is null" handle with
  | .error text => some ⟨.invalidArgument, some text, arrays, h⟩
  | .ok node => getNames fns parseKeyValue node arrays h

def rmwGetNodeNames (handle : Option (RmwHandle (NamedNode Handle Key)))
    (nodeNames nodeNamespaces : Option StringArray) (h : H) : Option (NamesResult H) :=
  getNodeNames fns parseKeyValue handle (.of nodeNames nodeNamespaces none) h

def rmwGetNodeNamesWithEnclaves (handle : Option (RmwHandle (NamedNode Handle Key)))
    (nodeNames nodeNamespaces enclaves : Option StringArray) (h : H) : Option (NamesResult H) :=
  let arrays := NameArrays.of nodeNames nodeNamespaces enclaves
  if fns.checkZeroStringArray enclaves ≠ .ok then some ⟨.invalidArgument, none, arrays, h⟩
  else getNodeNames fns parseKeyValue handle arrays h

end Fill
end RmwOpendds
