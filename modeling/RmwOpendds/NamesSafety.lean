import RmwOpendds.AlignedNames
import RmwOpendds.BlockPool

/-! What a call of `get_names` does for arbitrary peers: exactly when it stays within
what C++ defines, and what it returns then. -/

namespace RmwOpendds

open Std Library

namespace BlockPool

def stringArrays : StringArrayFunctions BlockPool where
  toRcutils := rcutils
  checkZeroStringArray
    | none => .invalidArgument
    | some a => if a = .zero then .ok else .invalidArgument
  stringArrayFini a p := (.ok, .zero, { p with live := p.live - a.blocks })

theorem stringArrays_lawful : stringArrays.Lawful where
  toLawful := lawful
  checkZeroStringArray a := by
    cases a with
    | none => simp [stringArrays]
    | some a => by_cases zero : a = .zero <;> simp [stringArrays, zero]
  stringArrayFini a p rest held := by
    refine ⟨.ok, { p with live := p.live - a.blocks }, rfl, ?_⟩
    have total : p.live = a.blocks + rest := held
    change p.live - a.blocks = rest
    rw [total, add_tsub_cancel_left]

end BlockPool

variable {H : Type} {fns : StringArrayFunctions H} {given : NameList → Bool}
  {rest : Multiset ℕ} {Handle Key : Type}
  {parseKeyValue : StdString → ExtTreeMap StdString StdString} {node : NamedNode Handle Key}

namespace NamedNode

theorem length_cases (node : NamedNode Handle Key) :
    node.length = 0 ∨ node.length = node.handles.length + 1 := by
  have bound : node.handles.length < 2 ^ 32 := node.handles_lt
  unfold length
  omega

theorem copiedTexts_texts (node : NamedNode Handle Key) : copiedTexts node.texts = node.texts := by
  funext k
  cases k with
  | names => exact congrArg some node.plain_name
  | namespaces => exact congrArg some node.plain_namespace
  | enclaves => exact node.plain_enclave

variable (given parseKeyValue) in
def requestsFor (node : NamedNode Handle Key) (handles : List Handle) : List Request :=
  arrayRequests given node.length ++
    (rowRequestsOf given node.texts ++ handles.flatMap (node.peerRequests given parseKeyValue))

variable (given) in
def Unenclosed (node : NamedNode Handle Key) : Prop := given .enclaves = true ∧ node.enclave = none

theorem missing_iff {k : NameList} :
    Missing given k (node.texts k) ↔ k = .enclaves ∧ node.Unenclosed given := by
  cases k <;> simp [Missing, Unenclosed, texts]

variable (fns given parseKeyValue) in
/-- The call leaves what C++ defines: the arrays it got have no first entry, or it
comes to a participant whose map it misreads. -/
def Undefined (node : NamedNode Handle Key) (h : H) : Prop :=
  (node.length = 0 ∧ fns.serve (arrayRequests given node.length) h ≠ none) ∨
    (¬ node.Unenclosed given ∧ ∃ before handle after, node.handles = before ++ handle :: after ∧
      node.read parseKeyValue handle = none ∧
      fns.serve (node.requestsFor given parseKeyValue before) h ≠ none)

theorem not_undefined_of_refused {h : H}
    (refused : fns.serve (arrayRequests given node.length) h = none) :
    ¬ node.Undefined fns given parseKeyValue h := by
  simp [Undefined, requestsFor, Rcutils.serve_append, refused]

theorem undefined_iff {h h' : H} (some_entry : node.length ≠ 0)
    (served : fns.serve (arrayRequests given node.length) h = some h') :
    node.Undefined fns given parseKeyValue h ↔ ¬ node.Unenclosed given ∧
      ∃ h'', fns.serve (rowRequestsOf given node.texts) h' = some h'' ∧
        Misreads fns given parseKeyValue node node.handles h'' := by
  unfold Undefined Misreads requestsFor
  simp only [some_entry, false_and, false_or, Rcutils.serve_append, served, Option.bind_some]
  refine and_congr_right fun _ => ?_
  cases own : fns.serve (rowRequestsOf given node.texts) h' with
  | none => simp
  | some h'' => simp

end NamedNode

variable (parseKeyValue node) in
theorem fillNames_exits (law : fns.Lawful) (names : given .names = true) {s : NameArrays × H}
    (zero : ∀ k a, s.1 k = some a → a = .zero) (held : Holding fns given rest s) :
    let requests := node.requestsFor given parseKeyValue node.handles
    Exits (fillNames fns parseKeyValue node) s
      (fun _ t => node.length ≠ 0 ∧
        (∀ handle ∈ node.handles, node.read parseKeyValue handle ≠ none) ∧
        fns.serve requests s.2 = some t.2 ∧
        Filled fns given rest (node.texts :: node.handles.map (node.row parseKeyValue)) t)
      (fun e t => Stops (node.Undefined fns given parseKeyValue s.2)
        (Holding fns given rest t) e) := by
  intro requests
  simp only [requests, NamedNode.requestsFor, Rcutils.serve_append]
  unfold fillNames
  simp only [exits_bind]
  refine Exits.mono (initArrays_serves law node.length zero held) ?_ ?_
  · rintro _ t₁ ⟨served₁, filled₁⟩
    rcases node.length_cases with wrapped | whole
    · rw [wrapped, List.replicate_zero] at filled₁
      refine (storeRow_outside filled₁ names).mono (fun _ _ => False.elim) ?_
      rintro e t rfl
      exact .inl ⟨wrapped, by rw [served₁]; exact Option.some_ne_none _⟩
    · have some_entry : node.length ≠ 0 := by omega
      have start : Filled fns given rest
          ([] ++ .blank :: List.replicate node.handles.length .blank) t₁ := by
        rwa [whole, List.replicate_succ] at filled₁
      rw [served₁, Option.bind_some, NamedNode.undefined_iff some_entry served₁]
      by_cases unenclosed : node.Unenclosed given
      · have missing := NamedNode.missing_iff.mpr ⟨rfl, unenclosed⟩
        have supplied : ∀ k, k ≠ .enclaves → ¬ Missing given k (node.texts k) :=
          fun k other missing => other (NamedNode.missing_iff.mp missing).1
        have ends := storeRow_missing law supplied missing
          "could not allocate memory for a enclave name" start
        refine ends.mono (fun _ _ => False.elim) ?_
        rintro e t ⟨⟨text, rfl⟩, held⟩
        exact ⟨fun undefined => undefined.1 unenclosed, held⟩
      · have supplied : ∀ k, ¬ Missing given k (node.texts k) :=
          fun k missing => unenclosed (NamedNode.missing_iff.mp missing).2
        have stores := storeRow_serves law supplied
          "could not allocate memory for a enclave name" start
        refine Exits.mono stores ?_ ?_
        · rintro _ t₂ ⟨served₂, filled₂⟩
          have all : node.handles.take (node.length - 1) = node.handles := by
            rw [whole, Nat.add_sub_cancel, List.take_length]
          rw [node.copiedTexts_texts] at filled₂
          have loop := storePeers_exits parseKeyValue node law node.handles [node.texts] filled₂
          have hazard : Misreads fns given parseKeyValue node node.handles t₂.2 ↔
              ¬ node.Unenclosed given ∧
                ∃ h'', fns.serve (rowRequestsOf given node.texts) t₁.2 = some h'' ∧
                  Misreads fns given parseKeyValue node node.handles h'' := by
            simp [unenclosed, served₂]
          rw [all, served₂, Option.bind_some, ← served₂]
          refine loop.mono ?_ fun e t stops => stops.mono hazard And.right
          exact fun _ t done => ⟨some_entry, done⟩
        · rintro e t ⟨refused, ⟨text, rfl⟩, held⟩
          refine ⟨?_, held⟩
          rintro ⟨-, h'', served, -⟩
          cases refused.symm.trans served
  · rintro e t ⟨refused, ⟨text, rfl⟩, held⟩
    exact ⟨NamedNode.not_undefined_of_refused refused, held⟩

namespace NamedNode

section Safety

variable (parseKeyValue) (node)

def gave (key : String) (handle : Handle) : StdString :=
  match node.participant.discoveredParticipantData handle with
  | (.ok, pbtd) => ((parseKeyValue (pbtd.userData.getD []))[key.toList]?).getD []
  | _ => []

def entry (key : String) (handle : Handle) : Option StdString :=
  if node.gave parseKeyValue "name" handle = [] then none
  else some (cStr (node.gave parseKeyValue key handle))

structure Aligned (given : NameList → Bool) (arrays : NameArrays) : Prop where
  given : ∀ k, (arrays k).isSome = given k
  length : ∀ k a, arrays k = some a → a.data.length = 1 + node.handles.length
  own : ∀ k a, arrays k = some a → a.texts[0]? = some (node.texts k)
  names : ∀ a, arrays .names = some a → ∀ i handle, node.handles[i]? = some handle →
    a.texts[i + 1]? = some (node.entry parseKeyValue "name" handle)
  namespaces : ∀ a, arrays .namespaces = some a → ∀ i handle, node.handles[i]? = some handle →
    a.texts[i + 1]? = some (node.entry parseKeyValue "namespace" handle)

def Enters (arrays : NameArrays) : Prop :=
  arrays .names = some .zero ∧ arrays .namespaces = some .zero ∧
    node.participant.discoveredParticipants.1 = .ok

variable (fns) in
structure Finalised (arrays : NameArrays) (h : H) (out : NamesResult H) : Prop where
  ret : out.ret = .error
  arrays : ∀ k, out.arrays k = (arrays k).map fun _ => .zero
  live : fns.live out.heap = fns.live h

variable (fns) in
/-- The call stays within what C++ defines. Its arrays are aligned if it succeeds,
and it has finalised them if a request of it was refused. -/
def Safe (arrays : NameArrays) (h : H) : Prop :=
  ∃ out, getNames fns parseKeyValue node arrays h = some out ∧
    (out.ret = .ok → node.Aligned parseKeyValue (fun k => (arrays k).isSome) out.arrays) ∧
    (node.Enters arrays →
      fns.serve (node.requestsFor (fun k => (arrays k).isSome) parseKeyValue node.handles) h =
        none ∨ out.ret ≠ .ok → Finalised fns arrays h out)

def LacksNamespace (handle : Handle) : Prop :=
  ∃ pbtd, node.participant.discoveredParticipantData handle = (.ok, pbtd) ∧
    "name".toList ∈ parseKeyValue (pbtd.userData.getD []) ∧
    "namespace".toList ∉ parseKeyValue (pbtd.userData.getD [])

variable (fns) in
def Guarded (arrays : NameArrays) (h : H) : Prop :=
  node.Enters arrays →
    (node.length ≠ 0 ∨
      fns.serve (arrayRequests (fun k => (arrays k).isSome) node.length) h = none) ∧
    ((arrays .enclaves = none ∨ node.enclave ≠ none) →
      ∀ before handle after, node.handles = before ++ handle :: after →
        node.LacksNamespace parseKeyValue handle →
        fns.serve (node.requestsFor (fun k => (arrays k).isSome) parseKeyValue before) h = none)

end Safety

theorem readMap_eq_none {map : ExtTreeMap StdString StdString} :
    readMap map = none ↔ "name".toList ∈ map ∧ "namespace".toList ∉ map := by
  rw [ExtTreeMap.mem_iff_isSome_getElem?, ExtTreeMap.mem_iff_isSome_getElem?]
  unfold readMap
  cases map["name".toList]? <;> cases map["namespace".toList]? <;> simp

theorem readPeer_of_ne {ret : ReturnCode} (failed : ret ≠ .ok)
    (pbtd : ParticipantBuiltinTopicData Key) :
    readPeer parseKeyValue (ret, pbtd) = some ⟨[], [], []⟩ := by
  cases ret with
  | ok => exact absurd rfl failed
  | _ => rfl

theorem gave_of_ok {handle : Handle} {pbtd : ParticipantBuiltinTopicData Key} (key : String)
    (data : node.participant.discoveredParticipantData handle = (.ok, pbtd)) :
    node.gave parseKeyValue key handle =
      ((parseKeyValue (pbtd.userData.getD []))[key.toList]?).getD [] := by
  rw [gave, data]

theorem gave_of_ne {handle : Handle} (key : String)
    (failed : (node.participant.discoveredParticipantData handle).1 ≠ .ok) :
    node.gave parseKeyValue key handle = [] := by
  unfold gave
  split
  · rename_i data
    exact absurd (congrArg Prod.fst data) failed
  · rfl

theorem read_eq_none {handle : Handle} :
    node.read parseKeyValue handle = none ↔ node.LacksNamespace parseKeyValue handle := by
  unfold read LacksNamespace
  cases data : node.participant.discoveredParticipantData handle with
  | mk ret pbtd =>
    by_cases got : ret = .ok
    · subst got
      simpa [readPeer] using readMap_eq_none
    · simp [readPeer_of_ne got, got]

theorem of_readMap {map : ExtTreeMap StdString StdString} {peer : PeerNames}
    (read : readMap map = some peer) :
    peer.name = (map["name".toList]?).getD [] ∧
      (peer.name ≠ [] → peer.ns = (map["namespace".toList]?).getD []) ∧
      peer.enclave = (map["enclave".toList]?).getD [] := by
  unfold readMap at read
  revert read
  cases map["name".toList]? with
  | none =>
    rintro ⟨⟩
    exact ⟨rfl, fun named => absurd rfl named, rfl⟩
  | some name =>
    cases map["namespace".toList]? with
    | none => exact fun absent => absurd absent.symm (Option.some_ne_none peer)
    | some ns =>
      rintro ⟨⟩
      exact ⟨rfl, fun _ => rfl, rfl⟩

theorem of_read {handle : Handle} {peer : PeerNames}
    (read : node.read parseKeyValue handle = some peer) :
    peer.name = node.gave parseKeyValue "name" handle ∧
      (peer.name ≠ [] → peer.ns = node.gave parseKeyValue "namespace" handle) ∧
      peer.enclave = node.gave parseKeyValue "enclave" handle := by
  unfold NamedNode.read at read
  cases data : node.participant.discoveredParticipantData handle with
  | mk ret pbtd =>
    rw [data] at read
    by_cases got : ret = .ok
    · subst got
      simp only [gave_of_ok _ data]
      exact of_readMap read
    · have failed : (node.participant.discoveredParticipantData handle).1 ≠ .ok := by rwa [data]
      rw [readPeer_of_ne got] at read
      obtain rfl := Option.some.inj read
      simp [gave_of_ne _ failed]

theorem row_of_read {handle : Handle} (read : node.read parseKeyValue handle ≠ none) :
    node.row parseKeyValue handle .names = node.entry parseKeyValue "name" handle ∧
      node.row parseKeyValue handle .namespaces = node.entry parseKeyValue "namespace" handle := by
  obtain ⟨peer, found⟩ := Option.ne_none_iff_exists'.mp read
  obtain ⟨name, ns, -⟩ := of_read found
  unfold row named entry
  rw [found, ← name]
  by_cases unnamed : peer.name = []
  · simp [unnamed, Option.filter, NameRow.blank]
  · simp [unnamed, Option.filter, copiedTexts, PeerNames.texts, ns unnamed]

theorem guarded_iff {arrays : NameArrays} (enters : node.Enters arrays) {h : H} :
    node.Guarded fns parseKeyValue arrays h ↔
      ¬ node.Undefined fns (fun k => (arrays k).isSome) parseKeyValue h := by
  have enclosed : (arrays .enclaves = none ∨ node.enclave ≠ none) ↔
      ¬ node.Unenclosed fun k => (arrays k).isSome := by
    rw [Unenclosed, not_and_or, Bool.not_eq_true, Option.isSome_eq_false_iff,
      Option.isNone_iff_eq_none]
  unfold Guarded Undefined
  simp only [enters, true_imp_iff, enclosed, ← read_eq_none, not_or, not_and_or, not_not,
    not_exists]
  refine and_congr Iff.rfl ?_
  rw [imp_iff_not_or, not_not]
  refine or_congr Iff.rfl ?_
  simp only [imp_iff_not_or]

theorem aligned_of_filled {given : NameList → Bool} {s : NameArrays × H}
    (read : ∀ handle ∈ node.handles, node.read parseKeyValue handle ≠ none)
    (filled : Filled fns given rest (node.texts :: node.handles.map (node.row parseKeyValue)) s) :
    node.Aligned parseKeyValue given s.1 where
  given := filled.given
  length k a slot := by
    rw [← StringArray.length_texts, filled.shows k a slot]
    simp [Nat.add_comm]
  own k a slot := by simp [filled.shows k a slot]
  names a slot i handle at_i := by
    have row := (row_of_read (read handle (List.mem_of_getElem? at_i))).1
    simp [filled.shows _ a slot, at_i, row]
  namespaces a slot i handle at_i := by
    have row := (row_of_read (read handle (List.mem_of_getElem? at_i))).2
    simp [filled.shows _ a slot, at_i, row]

theorem holding_start (fns : StringArrayFunctions H) {arrays : NameArrays}
    (zero : ∀ k a, arrays k = some a → a = .zero) (h : H) :
    Holding fns (fun k => (arrays k).isSome) (fns.live h) (arrays, h) where
  given _ := rfl
  accounts := by
    have empty : ∀ k, NameArrays.heldBy (arrays k) = 0 := by
      intro k
      cases slot : arrays k with
      | none => rfl
      | some a =>
        obtain rfl := zero k a slot
        rfl
    simp [NameArrays.blocks, empty]

variable (parseKeyValue) in
/-- A call that passes the checks is undefined, or succeeds with aligned arrays, or
has finalised them. -/
theorem getNames_cases (law : fns.Lawful) {arrays : NameArrays} (enters : node.Enters arrays)
    (zero : ∀ a, arrays .enclaves = some a → a = .zero) (h : H) :
    let given := fun k => (arrays k).isSome
    (node.Undefined fns given parseKeyValue h ∧ getNames fns parseKeyValue node arrays h = none) ∨
      (¬ node.Undefined fns given parseKeyValue h ∧
        ∃ out, getNames fns parseKeyValue node arrays h = some out ∧
          ((out.ret = .ok ∧
              fns.serve (node.requestsFor given parseKeyValue node.handles) h = some out.heap ∧
              Filled fns given (fns.live h)
                (node.texts :: node.handles.map (node.row parseKeyValue)) (out.arrays, out.heap) ∧
              node.Aligned parseKeyValue given out.arrays) ∨
            Finalised fns arrays h out)) := by
  intro given
  obtain ⟨names, namespaces, got⟩ := enters
  have zeros : ∀ k a, arrays k = some a → a = .zero := by
    intro k a slot
    cases k with
    | names => exact (Option.some.inj (names.symm.trans slot)).symm
    | namespaces => exact (Option.some.inj (namespaces.symm.trans slot)).symm
    | enclaves => exact zero a slot
  have loop := fillNames_exits parseKeyValue node law (by rw [names]; rfl) (s := (arrays, h))
    zeros (holding_start fns zeros h)
  have names_ok := (law.checkZeroStringArray _).mpr names
  have namespaces_ok := (law.checkZeroStringArray _).mpr namespaces
  unfold getNames
  simp only [names_ok, namespaces_ok, got, ne_eq, not_true_eq_false, if_false]
  cases run : (fillNames fns parseKeyValue node).run (arrays, h) with
  | ok _ t =>
    obtain ⟨some_entry, read, served, filled⟩ := loop.of_ok run
    refine .inr ⟨?_, _, rfl, .inl ⟨rfl, served, filled, aligned_of_filled read filled⟩⟩
    rintro (⟨wrapped, -⟩ | ⟨-, before, handle, after, whole, misread, -⟩)
    · exact some_entry wrapped
    · exact read handle (by simp [whole]) misread
  | error e t =>
    cases e with
    | thrown text =>
      obtain ⟨defined, held⟩ := loop.of_error run
      obtain ⟨slots, live⟩ := finiArrays_spec law held
      refine .inr ⟨defined, _, rfl, .inr ⟨rfl, fun k => ?_, live⟩⟩
      refine (slots k).trans ?_
      cases arrays k <;> rfl
    | undefined => exact .inl ⟨loop.of_error run, rfl⟩

theorem getNames_of_not_enters (law : fns.Lawful)
    (parseKeyValue : StdString → ExtTreeMap StdString StdString) {arrays : NameArrays}
    (refused : ¬ node.Enters arrays) (h : H) :
    ∃ out, getNames fns parseKeyValue node arrays h = some out ∧ out.ret ≠ .ok := by
  unfold getNames
  split
  · exact ⟨_, rfl, by simp⟩
  · rename_i names
    split
    · exact ⟨_, rfl, by simp⟩
    · rename_i namespaces
      split
      · exact ⟨_, rfl, by simp⟩
      · rename_i got
        rw [not_not, law.checkZeroStringArray] at names namespaces
        exact absurd ⟨names, namespaces, not_not.mp got⟩ refused

theorem filled_of_ok (law : fns.Lawful) {arrays : NameArrays}
    (zero : ∀ a, arrays .enclaves = some a → a = .zero) {h : H} {out : NamesResult H}
    (result : getNames fns parseKeyValue node arrays h = some out) (ok : out.ret = .ok) :
    Filled fns (fun k => (arrays k).isSome) (fns.live h)
      (node.texts :: node.handles.map (node.row parseKeyValue)) (out.arrays, out.heap) := by
  by_cases enters : node.Enters arrays
  · rcases getNames_cases parseKeyValue law enters zero h with
      ⟨-, nothing⟩ | ⟨-, out', result', outcome⟩
    · cases result.symm.trans nothing
    · obtain rfl := Option.some.inj (result'.symm.trans result)
      rcases outcome with ⟨-, -, filled, -⟩ | finalised
      · exact filled
      · cases finalised.ret.symm.trans ok
  · obtain ⟨out', result', failed⟩ := getNames_of_not_enters law parseKeyValue enters h
    obtain rfl := Option.some.inj (result'.symm.trans result)
    exact absurd ok failed

theorem filled_of_getNodeNames (law : fns.Lawful)
    {handle : Option (RmwHandle (NamedNode Handle Key))} {arrays : NameArrays}
    (zero : ∀ a, arrays .enclaves = some a → a = .zero) {h : H} {out : NamesResult H}
    (result : getNodeNames fns parseKeyValue handle arrays h = some out) (ok : out.ret = .ok) :
    ∃ node, RmwHandle.fromHandle "node is null" "dds_node is null" handle = .ok node ∧
      Filled fns (fun k => (arrays k).isSome) (fns.live h)
        (node.texts :: node.handles.map (node.row parseKeyValue)) (out.arrays, out.heap) := by
  unfold getNodeNames at result
  cases held : RmwHandle.fromHandle "node is null" "dds_node is null" handle with
  | error text =>
    rw [held] at result
    obtain rfl := Option.some.inj result
    cases ok
  | ok node =>
    rw [held] at result
    exact ⟨node, rfl, filled_of_ok law zero result ok⟩

/-- Neither call of `rmw_node.cpp` gets that far with an array of enclaves that is not zero. -/
theorem filled_of_rmwGetNodeNames (law : fns.Lawful)
    {handle : Option (RmwHandle (NamedNode Handle Key))}
    {nodeNames nodeNamespaces : Option StringArray} {h : H} {out : NamesResult H}
    (result : rmwGetNodeNames fns parseKeyValue handle nodeNames nodeNamespaces h = some out)
    (ok : out.ret = .ok) :
    ∃ node, RmwHandle.fromHandle "node is null" "dds_node is null" handle = .ok node ∧
      Filled fns (fun k => (NameArrays.of nodeNames nodeNamespaces none k).isSome) (fns.live h)
        (node.texts :: node.handles.map (node.row parseKeyValue)) (out.arrays, out.heap) := by
  refine filled_of_getNodeNames law (fun a slot => ?_) result ok
  cases slot

theorem filled_of_rmwGetNodeNamesWithEnclaves (law : fns.Lawful)
    {handle : Option (RmwHandle (NamedNode Handle Key))}
    {nodeNames nodeNamespaces enclaves : Option StringArray} {h : H} {out : NamesResult H}
    (result : rmwGetNodeNamesWithEnclaves fns parseKeyValue handle nodeNames nodeNamespaces
      enclaves h = some out) (ok : out.ret = .ok) :
    ∃ node, RmwHandle.fromHandle "node is null" "dds_node is null" handle = .ok node ∧
      Filled fns (fun k => (NameArrays.of nodeNames nodeNamespaces enclaves k).isSome)
        (fns.live h) (node.texts :: node.handles.map (node.row parseKeyValue))
        (out.arrays, out.heap) := by
  unfold rmwGetNodeNamesWithEnclaves at result
  by_cases zero : enclaves = some .zero
  · have passes := (law.checkZeroStringArray enclaves).mpr zero
    rw [if_neg (not_not.mpr passes)] at result
    refine filled_of_getNodeNames law (fun a slot => ?_) result ok
    exact Option.some.inj (slot.symm.trans zero)
  · rw [if_pos (mt (law.checkZeroStringArray enclaves).mp zero)] at result
    obtain rfl := Option.some.inj result
    cases ok

/-- A call is safe exactly if the length does not wrap and no participant gave a name
without a namespace, or a request was refused before it mattered. -/
theorem get_names_safe_iff (law : fns.Lawful)
    (parseKeyValue : StdString → ExtTreeMap StdString StdString) (node : NamedNode Handle Key)
    {arrays : NameArrays} (zero : ∀ a, arrays .enclaves = some a → a = .zero) (h : H) :
    node.Safe fns parseKeyValue arrays h ↔ node.Guarded fns parseKeyValue arrays h := by
  by_cases enters : node.Enters arrays
  · rw [guarded_iff enters]
    unfold Safe
    rcases getNames_cases parseKeyValue law enters zero h with
      ⟨undefined, nothing⟩ | ⟨defined, out, result, outcome⟩
    · simp [undefined, nothing]
    · refine iff_of_true ⟨out, result, ?_⟩ defined
      rcases outcome with ⟨ok, served, -, aligned⟩ | finalised
      · refine ⟨fun _ => aligned, fun _ failed => ?_⟩
        simp [ok, served] at failed
      · refine ⟨fun ok => ?_, fun _ _ => finalised⟩
        cases finalised.ret.symm.trans ok
  · refine iff_of_true ?_ fun entered => absurd entered enters
    obtain ⟨out, result, failed⟩ := getNames_of_not_enters law parseKeyValue enters h
    exact ⟨out, result, fun ok => absurd ok failed, fun entered => absurd entered enters⟩

theorem cStr_root : cStr "/".toList = "/".toList := by decide

def withPeer (userData : StdString) : NamedNode Unit Unit where
  name := "talker".toList
  namespace_ := "/".toList
  enclave := some "/".toList
  participant := ⟨(), (.ok, [()]), fun _ => (.ok, ⟨(), some userData⟩)⟩
  plain_name := by decide
  plain_namespace := cStr_root
  plain_enclave := congrArg some cStr_root
  handles_lt := by simp

def zeroArrays : NameArrays := .of (some .zero) (some .zero) (some .zero)

@[simp] theorem zeroArrays_eq (k : NameList) : zeroArrays k = some .zero := by
  cases k <;> rfl

/-- The participant gave both a name and a namespace. -/
theorem get_names_safe_listener :
    (withPeer []).Safe BlockPool.stringArrays
      (fun _ => (ExtTreeMap.insert ∅ "name".toList "listener".toList).insert
        "namespace".toList "/".toList) zeroArrays ⟨0, 0, 20⟩ := by
  refine (get_names_safe_iff BlockPool.stringArrays_lawful _ (withPeer []) ?_ _).mpr ?_
  · rintro _ ⟨⟩
    rfl
  · intro _
    refine ⟨.inl (by decide), ?_⟩
    rintro _ _ handle _ - ⟨pbtd, -, -, absent⟩
    exact absurd absent (by simp)

/-- The end of a map is dereferenced where a participant gave a name alone. -/
theorem name_alone_misread :
    ¬ ∀ (parseKeyValue : StdString → ExtTreeMap StdString StdString) (arrays : NameArrays)
      (h : BlockPool), (∀ a, arrays .enclaves = some a → a = .zero) →
      (withPeer []).Safe BlockPool.stringArrays parseKeyValue arrays h := by
  intro claim
  obtain ⟨out, result, -⟩ := claim (fun _ => ExtTreeMap.insert ∅ "name".toList "listener".toList)
    zeroArrays ⟨0, 0, 20⟩ fun _ slot => (Option.some.inj slot).symm
  have nothing : (getNames BlockPool.stringArrays
      (fun _ => ExtTreeMap.insert ∅ "name".toList "listener".toList) (withPeer []) zeroArrays
      ⟨0, 0, 20⟩).isNone := by decide
  rw [result] at nothing
  cases nothing

end NamedNode
end RmwOpendds
