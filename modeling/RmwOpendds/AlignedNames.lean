import RmwOpendds.GetNames
import RmwOpendds.NamesAndTypesCopy

/-! The arrays of `get_names` are kept in step: between two statements they show the
same rows, the last of them part of one, and the allocator holds what they hold. -/

namespace RmwOpendds

open Std Library

abbrev NameRow := NameList → Option StdString

def NameRow.blank : NameRow := fun _ => none

namespace StringArray

theorem split_at_null {a : StringArray} {before after : List (Option StdString)}
    (texts : a.texts = before ++ none :: after) :
    ∃ data data', a.data = data ++ none :: data' ∧ data.length = before.length ∧
      data.map (Option.map CString.text) = before ∧
      data'.map (Option.map CString.text) = after := by
  obtain ⟨data, tail, whole, first, second⟩ := List.map_eq_append_iff.mp texts
  obtain ⟨entry, data', rfl, empty, last⟩ := List.map_eq_cons_iff.mp second
  obtain rfl : entry = none := Option.map_eq_none_iff.mp empty
  exact ⟨data, data', whole, by rw [← first, List.length_map], first, last⟩

theorem store_null {a : StringArray} {before after : List (Option StdString)}
    (texts : a.texts = before ++ none :: after) :
    { a with data := a.data.set before.length none } = a := by
  obtain ⟨data, data', whole, length, -, -⟩ := split_at_null texts
  rw [whole, ← length, set_at, ← whole]

theorem texts_store {a : StringArray} {before after : List (Option StdString)}
    (texts : a.texts = before ++ none :: after) (c : CString) :
    StringArray.texts { a with data := a.data.set before.length (some c) } =
      before ++ some c.text :: after := by
  obtain ⟨data, data', whole, length, first, last⟩ := split_at_null texts
  rw [whole, ← length, set_at, StringArray.texts, List.map_append, List.map_cons, first, last]
  rfl

theorem blocks_store {a : StringArray} {before after : List (Option StdString)}
    (texts : a.texts = before ++ none :: after) (c : CString) :
    blocks { a with data := a.data.set before.length (some c) } = {c.block} + a.blocks := by
  obtain ⟨data, data', whole, length, -, -⟩ := split_at_null texts
  simp only [blocks, whole, ← length, set_at, List.reduceOption_append,
    List.reduceOption_cons_of_some, List.reduceOption_cons_of_none, List.map_append, List.map_cons,
    ← Multiset.coe_add, ← Multiset.cons_coe, ← Multiset.singleton_add]
  abel

theorem length_texts (a : StringArray) : a.texts.length = a.data.length := List.length_map _

end StringArray

namespace NameArrays

def heldBy (array : Option StringArray) : Multiset ℕ := array.elim 0 StringArray.blocks

def blocks (arrays : NameArrays) : Multiset ℕ :=
  heldBy (arrays .names) + heldBy (arrays .namespaces) + heldBy (arrays .enclaves)

theorem blocks_update {arrays : NameArrays} {k : NameList} {a a' : StringArray}
    {added : Multiset ℕ} (slot : arrays k = some a) (grown : a'.blocks = added + a.blocks) :
    blocks (Function.update arrays k (some a')) = added + arrays.blocks := by
  cases k <;> simp [blocks, heldBy, slot, grown] <;> abel

def Shows (arrays : NameArrays) (rows : List NameRow) : Prop :=
  ∀ k a, arrays k = some a → a.texts = rows.map fun row => row k

end NameArrays

section Invariant

variable {H : Type} {fns : StringArrayFunctions H} {given : NameList → Bool}
  {rest : Multiset ℕ}

/-- The arrays are those given, and the allocator holds what they hold and the rest. -/
structure Holding (fns : StringArrayFunctions H) (given : NameList → Bool) (rest : Multiset ℕ)
    (s : NameArrays × H) : Prop where
  given : ∀ k, (s.1 k).isSome = given k
  accounts : fns.live s.2 = s.1.blocks + rest

structure Filled (fns : StringArrayFunctions H) (given : NameList → Bool) (rest : Multiset ℕ)
    (rows : List NameRow) (s : NameArrays × H) : Prop extends Holding fns given rest s where
  shows : s.1.Shows rows

theorem Holding.update {arrays : NameArrays} {h h' : H} {k : NameList} {a a' : StringArray}
    {added : Multiset ℕ} (holding : Holding fns given rest (arrays, h)) (slot : arrays k = some a)
    (grown : a'.blocks = added + a.blocks) (live : fns.live h' = added + fns.live h) :
    Holding fns given rest (Function.update arrays k (some a'), h') where
  given j := by
    by_cases same : j = k
    · subst same
      simpa [slot] using holding.given j
    · simpa [same] using holding.given j
  accounts := by
    have before : fns.live h = arrays.blocks + rest := holding.accounts
    change fns.live h' = NameArrays.blocks _ + rest
    rw [live, before, NameArrays.blocks_update slot grown, add_assoc]

theorem Filled.store {before after : List NameRow} {row : NameRow} {arrays : NameArrays} {h h' : H}
    {k : NameList} {a : StringArray}
    (filled : Filled fns given rest (before ++ row :: after) (arrays, h)) (free : row k = none)
    (slot : arrays k = some a) {c : CString} (live : fns.live h' = c.block ::ₘ fns.live h) :
    Filled fns given rest (before ++ Function.update row k (some c.text) :: after)
      (Function.update arrays k
        (some { a with data := a.data.set before.length (some c) }), h') := by
  have texts : a.texts = before.map (fun row => row k) ++ none :: after.map fun row => row k := by
    simpa [free] using filled.shows k a slot
  have stored := StringArray.texts_store texts c
  have larger := StringArray.blocks_store texts c
  rw [List.length_map] at stored larger
  refine ⟨filled.toHolding.update slot larger (by rw [live, Multiset.singleton_add]), ?_⟩
  intro j b slot'
  by_cases same : j = k
  · subst same
    obtain rfl : { a with data := a.data.set before.length (some c) } = b := by simpa using slot'
    rw [stored]
    simp
  · have other := filled.shows j b (by simpa [same] using slot')
    simpa [same] using other

theorem Filled.store_null {before after : List NameRow} {row : NameRow} {arrays : NameArrays}
    {h : H} {k : NameList} {a : StringArray}
    (filled : Filled fns given rest (before ++ row :: after) (arrays, h)) (free : row k = none)
    (slot : arrays k = some a) :
    Function.update arrays k (some { a with data := a.data.set before.length none }) = arrays := by
  have texts : a.texts = before.map (fun row => row k) ++ none :: after.map fun row => row k := by
    simpa [free] using filled.shows k a slot
  have same := StringArray.store_null texts
  rw [List.length_map] at same
  rw [same, ← slot, Function.update_eq_self]

theorem Filled.length {rows : List NameRow} {arrays : NameArrays} {h : H} {k : NameList}
    {a : StringArray} (filled : Filled fns given rest rows (arrays, h)) (slot : arrays k = some a) :
    a.data.length = rows.length := by
  rw [← StringArray.length_texts, filled.shows k a slot, List.length_map]

def Missing (given : NameList → Bool) (k : NameList) (text : Option StdString) : Prop :=
  given k = true ∧ text = none

def textRequests (given : NameList → Bool) (k : NameList) (text : Option StdString) :
    List Request :=
  if given k then (text.map fun text => .string (cStr text)).toList else []

def Thrown (fns : StringArrayFunctions H) (given : NameList → Bool) (rest : Multiset ℕ)
    (e : NamesStop) (s : NameArrays × H) : Prop :=
  (∃ text, e = .thrown text) ∧ Holding fns given rest s

theorem storeText_serves (law : fns.Lawful) {before after : List NameRow} {row : NameRow}
    {k : NameList} (free : row k = none) {text : Option StdString}
    (supplied : ¬ Missing given k text) (failure : String) {s : NameArrays × H}
    (filled : Filled fns given rest (before ++ row :: after) s) :
    fns.Serves (textRequests given k text) (storeText fns k before.length text failure) s
      (fun _ t => Filled fns given rest
        (before ++ Function.update row k (text.map cStr) :: after) t)
      (Thrown fns given rest) := by
  obtain ⟨arrays, h⟩ := s
  have here : (arrays k).isSome = given k := filled.given k
  unfold Missing at supplied
  unfold Rcutils.Serves storeText textRequests
  simp only [exits_bind, exits_get, exits_ite, exits_pure, exits_throw]
  cases slot : arrays k with
  | none =>
    rw [slot, Option.isSome_none] at here
    simp only [← here, Option.isSome_none, Bool.false_eq_true, false_imp_iff, not_false_iff,
      true_imp_iff, true_and, if_false]
    refine ⟨rfl, filled.toHolding, ?_⟩
    intro j a slot'
    have other : j ≠ k := by
      rintro rfl
      cases slot.symm.trans slot'
    simpa [other] using filled.shows j a slot'
  | some a =>
    rw [slot, Option.isSome_some] at here
    obtain ⟨text, rfl⟩ := Option.ne_none_iff_exists'.mp fun none => supplied ⟨here.symm, none⟩
    have inside : before.length < a.data.length := by
      rw [filled.length slot]
      simp
    have kept := filled.store_null free slot
    simp only [← here, Option.isSome_some, true_imp_iff, not_true_eq_false, false_imp_iff, and_true,
      if_true]
    unfold Exits EStateM.run copyText storeEntry
    obtain ⟨h', refused, same⟩ | ⟨b, h', granted, grown⟩ := law.strdup (cStr text) h
    · have held : Holding fns given rest (arrays, h') :=
        ⟨filled.given, same.trans filled.accounts⟩
      simp [refused, slot, inside, kept, held, Thrown, Rcutils.serve_singleton, Rcutils.grant]
    · have stored := filled.store free slot (c := ⟨b, cStr text⟩) grown
      simp [granted, slot, inside, stored, Rcutils.serve_singleton, Rcutils.grant]

theorem storeText_missing {before after : List NameRow} {row : NameRow} {k : NameList}
    (free : row k = none) {text : Option StdString} (missing : Missing given k text)
    (failure : String) {s : NameArrays × H}
    (filled : Filled fns given rest (before ++ row :: after) s) :
    Exits (storeText fns k before.length text failure) s (fun _ _ => False)
      (Thrown fns given rest) := by
  obtain ⟨arrays, h⟩ := s
  obtain ⟨present, rfl⟩ := missing
  obtain ⟨a, slot⟩ := Option.isSome_iff_exists.mp ((filled.given k).trans present)
  have slot' : arrays k = some a := slot
  have inside : before.length < a.data.length := by
    rw [filled.length slot']
    simp
  have kept := filled.store_null free slot'
  unfold storeText
  simp only [exits_bind, exits_get, exits_ite, exits_pure, exits_throw, slot', Option.isSome_some]
  unfold Exits EStateM.run copyText storeEntry
  simp [slot', inside, kept, Thrown, filled.toHolding]

def rowRequestsOf (given : NameList → Bool) (texts : NameList → Option StdString) :
    List Request :=
  textRequests given .names (texts .names) ++
    (textRequests given .namespaces (texts .namespaces) ++
      textRequests given .enclaves (texts .enclaves))

def copiedTexts (texts : NameList → Option StdString) : NameRow := fun k => (texts k).map cStr

theorem storeRow_serves (law : fns.Lawful) {before after : List NameRow}
    {texts : NameList → Option StdString} (supplied : ∀ k, ¬ Missing given k (texts k))
    (noEnclave : String) {s : NameArrays × H}
    (filled : Filled fns given rest (before ++ .blank :: after) s) :
    fns.Serves (rowRequestsOf given texts) (storeRow fns before.length texts noEnclave) s
      (fun _ t => Filled fns given rest (before ++ copiedTexts texts :: after) t)
      (Thrown fns given rest) := by
  unfold storeRow rowRequestsOf
  refine (storeText_serves law rfl (supplied .names) _ filled).bind ?_
  intro _ t₁ filled₁
  refine (storeText_serves law rfl (supplied .namespaces) _ filled₁).bind ?_
  intro _ t₂ filled₂
  refine (storeText_serves law rfl (supplied .enclaves) _ filled₂).mono ?_ fun _ _ => id
  intro _ t filled
  have row : Function.update (Function.update (Function.update NameRow.blank .names
      ((texts .names).map cStr)) .namespaces ((texts .namespaces).map cStr)) .enclaves
      ((texts .enclaves).map cStr) = copiedTexts texts := by
    funext k
    cases k <;> rfl
  rwa [row] at filled

theorem storeRow_missing (law : fns.Lawful) {before after : List NameRow}
    {texts : NameList → Option StdString}
    (supplied : ∀ k, k ≠ .enclaves → ¬ Missing given k (texts k))
    (missing : Missing given .enclaves (texts .enclaves)) (noEnclave : String)
    {s : NameArrays × H} (filled : Filled fns given rest (before ++ .blank :: after) s) :
    Exits (storeRow fns before.length texts noEnclave) s (fun _ _ => False)
      (Thrown fns given rest) := by
  unfold storeRow
  simp only [exits_bind]
  refine Exits.mono (storeText_serves law rfl (supplied .names (by decide)) _ filled) ?_
    fun _ _ => And.right
  rintro _ t₁ ⟨-, filled₁⟩
  refine Exits.mono (storeText_serves law rfl (supplied .namespaces (by decide)) _ filled₁) ?_
    fun _ _ => And.right
  rintro _ t₂ ⟨-, filled₂⟩
  exact storeText_missing rfl missing _ filled₂

theorem storeEntry_null_exits {before after : List NameRow} {row : NameRow} {k : NameList}
    (free : row k = none) {s : NameArrays × H}
    (filled : Filled fns given rest (before ++ row :: after) s) :
    Exits (storeEntry k before.length none : Naming H PUnit) s (fun _ t => t = s)
      fun _ _ => False := by
  obtain ⟨arrays, h⟩ := s
  unfold Exits EStateM.run storeEntry
  cases slot : arrays k with
  | none => simp [slot]
  | some a =>
    have inside : before.length < a.data.length := by
      rw [filled.length slot]
      simp
    simp [slot, inside, filled.store_null free slot]

section Peers

variable {Handle Key : Type} {parseKeyValue : StdString → ExtTreeMap StdString StdString}
  {node : NamedNode Handle Key}

namespace NamedNode

variable (parseKeyValue node) in
/-- What a pass of the loop reads; `none` where it dereferences the end of a map. -/
def read (handle : Handle) : Option PeerNames :=
  readPeer parseKeyValue (node.participant.discoveredParticipantData handle)

variable (parseKeyValue node) in
def named (handle : Handle) : Option PeerNames :=
  (node.read parseKeyValue handle).filter fun peer => peer.name ≠ []

variable (parseKeyValue node) in
def row (handle : Handle) : NameRow :=
  match node.named parseKeyValue handle with
  | none => .blank
  | some peer => copiedTexts peer.texts

variable (given parseKeyValue node) in
def peerRequests (handle : Handle) : List Request :=
  match node.named parseKeyValue handle with
  | none => []
  | some peer => rowRequestsOf given peer.texts

end NamedNode

def Stops (hazard failed : Prop) : NamesStop → Prop
  | .thrown _ => ¬ hazard ∧ failed
  | .undefined => hazard

theorem Stops.mono {hazard hazard' failed failed' : Prop} (same : hazard ↔ hazard')
    (implied : failed → failed') {e : NamesStop} (stops : Stops hazard failed e) :
    Stops hazard' failed' e := by
  cases e with
  | thrown text => exact ⟨mt same.mpr stops.1, implied stops.2⟩
  | undefined => exact same.mp stops

theorem not_missing_peer (peer : PeerNames) (k : NameList) :
    ¬ Missing given k (peer.texts k) := by
  rintro ⟨-, absent⟩
  cases k <;> cases absent

theorem storePeer_exits (law : fns.Lawful) {before after : List NameRow} (handle : Handle)
    {s : NameArrays × H} (filled : Filled fns given rest (before ++ .blank :: after) s) :
    Exits (storePeer fns parseKeyValue node before.length handle) s
      (fun _ t => node.read parseKeyValue handle ≠ none ∧
        fns.serve (node.peerRequests given parseKeyValue handle) s.2 = some t.2 ∧
        Filled fns given rest (before ++ node.row parseKeyValue handle :: after) t)
      (fun e t => Stops (node.read parseKeyValue handle = none)
        (fns.serve (node.peerRequests given parseKeyValue handle) s.2 = none ∧
          Holding fns given rest t) e) := by
  unfold storePeer NamedNode.peerRequests NamedNode.row NamedNode.named
  change Exits (match node.read parseKeyValue handle with | none => _ | some peer => _) s _ _
  cases node.read parseKeyValue handle with
  | none => exact rfl
  | some peer =>
    by_cases unnamed : peer.name = []
    · simp only [unnamed, Option.filter, ne_eq, not_true_eq_false, decide_false, if_true,
        exits_bind]
      refine (storeEntry_null_exits rfl filled).mono ?_ fun _ _ => False.elim
      rintro _ t rfl
      refine (storeEntry_null_exits rfl filled).mono ?_ fun _ _ => False.elim
      rintro _ t rfl
      exact ⟨Option.some_ne_none peer, rfl, filled⟩
    · simp only [unnamed, Option.filter, ne_eq, not_false_eq_true, decide_true, if_true, if_false]
      refine Exits.mono (storeRow_serves law (not_missing_peer peer) _ filled) ?_ ?_
      · exact fun _ t done => ⟨Option.some_ne_none peer, done⟩
      · rintro e t ⟨refused, ⟨text, rfl⟩, held⟩
        exact ⟨Option.some_ne_none peer, refused, held⟩

variable (fns given parseKeyValue node) in
/-- The loop comes to a participant whose map it misreads. -/
def Misreads (handles : List Handle) (h : H) : Prop :=
  ∃ before handle after, handles = before ++ handle :: after ∧
    node.read parseKeyValue handle = none ∧
    fns.serve (before.flatMap (node.peerRequests given parseKeyValue)) h ≠ none

theorem misreads_cons {handle : Handle} {handles : List Handle} {h : H} :
    Misreads fns given parseKeyValue node (handle :: handles) h ↔
      node.read parseKeyValue handle = none ∨
        ∃ h', fns.serve (node.peerRequests given parseKeyValue handle) h = some h' ∧
          Misreads fns given parseKeyValue node handles h' := by
  constructor
  · rintro ⟨before, other, after, whole, misread, served⟩
    cases before with
    | nil =>
      obtain ⟨rfl, -⟩ := List.cons_eq_cons.mp whole
      exact .inl misread
    | cons first before =>
      obtain ⟨rfl, rfl⟩ := List.cons_eq_cons.mp whole
      rw [List.flatMap_cons, Rcutils.serve_append] at served
      cases reached : fns.serve (node.peerRequests given parseKeyValue handle) h with
      | none => simp [reached] at served
      | some h' =>
        rw [reached, Option.bind_some] at served
        exact .inr ⟨h', rfl, before, other, after, rfl, misread, served⟩
  · rintro (misread | ⟨h', reached, before, other, after, rfl, misread, served⟩)
    · exact ⟨[], handle, handles, rfl, misread, by simp⟩
    · refine ⟨handle :: before, other, after, rfl, misread, ?_⟩
      rwa [List.flatMap_cons, Rcutils.serve_append, reached, Option.bind_some]

variable (parseKeyValue node) in
theorem storePeers_exits (law : fns.Lawful) (handles : List Handle) (done : List NameRow)
    {s : NameArrays × H}
    (filled : Filled fns given rest (done ++ List.replicate handles.length .blank) s) :
    let requests := handles.flatMap (node.peerRequests given parseKeyValue)
    Exits (storePeers fns parseKeyValue node handles done.length) s
      (fun _ t => (∀ handle ∈ handles, node.read parseKeyValue handle ≠ none) ∧
        fns.serve requests s.2 = some t.2 ∧
        Filled fns given rest (done ++ handles.map (node.row parseKeyValue)) t)
      (fun e t => Stops (Misreads fns given parseKeyValue node handles s.2)
        (fns.serve requests s.2 = none ∧ Holding fns given rest t) e) := by
  induction handles generalizing done s with
  | nil => exact ⟨by simp, rfl, by simpa using filled⟩
  | cons handle handles ih =>
    intro requests
    simp only [requests, List.flatMap_cons, Rcutils.serve_append]
    rw [storePeers, exits_bind]
    refine (storePeer_exits law handle filled).mono ?_ ?_
    · rintro _ t ⟨read, served, filled⟩
      have next := ih (done ++ [node.row parseKeyValue handle]) (s := t) (by simpa using filled)
      rw [List.length_append, List.length_singleton] at next
      have later : Misreads fns given parseKeyValue node handles t.2 ↔
          Misreads fns given parseKeyValue node (handle :: handles) s.2 := by
        rw [misreads_cons, or_iff_right read, served]
        simp
      rw [served, Option.bind_some]
      refine next.mono ?_ fun e t' stops => stops.mono later id
      rintro _ t' ⟨fine, served, filled⟩
      exact ⟨List.forall_mem_cons.mpr ⟨read, fine⟩, served, by simpa using filled⟩
    · intro e t stops
      cases e with
      | thrown text =>
        obtain ⟨read, refused, held⟩ := stops
        refine ⟨?_, by rw [refused, Option.bind_none], held⟩
        rw [misreads_cons, refused]
        simpa using read
      | undefined => exact misreads_cons.mpr (.inl stops)

end Peers

section Start

def arrayRequest (given : NameList → Bool) (length : ℕ) (k : NameList) : List Request :=
  if given k then [.array length] else []

def arrayRequests (given : NameList → Bool) (length : ℕ) : List Request :=
  arrayRequest given length .names ++
    (arrayRequest given length .namespaces ++ arrayRequest given length .enclaves)

theorem initArray_serves (law : fns.Lawful) {k : NameList} (length : ℕ) {s : NameArrays × H}
    (zero : ∀ a, s.1 k = some a → a = .zero) (held : Holding fns given rest s) :
    fns.Serves (arrayRequest given length k) (initArray fns k length) s
      (fun _ t => Holding fns given rest t ∧ (∀ j, j ≠ k → t.1 j = s.1 j) ∧
        ∀ a, t.1 k = some a → a.texts = List.replicate length none)
      (Thrown fns given rest) := by
  obtain ⟨arrays, h⟩ := s
  have here : (arrays k).isSome = given k := held.given k
  unfold Rcutils.Serves Exits EStateM.run initArray arrayRequest
  cases slot : arrays k with
  | none =>
    rw [slot, Option.isSome_none] at here
    simp [slot, ← here, held]
  | some a =>
    rw [slot, Option.isSome_some] at here
    obtain rfl := zero a slot
    obtain ⟨ret, h', refused, failed, same⟩ | ⟨b, h', granted, grown⟩ :=
      law.stringArrayInit length h
    · have kept : Function.update arrays k (some .zero) = arrays := by
        rw [← slot, Function.update_eq_self]
      have held' : Holding fns given rest (arrays, h') := ⟨held.given, same.trans held.accounts⟩
      simp [slot, ← here, refused, failed, kept, held', Thrown, Rcutils.serve_singleton,
        Rcutils.grant]
    · have live : fns.live h' = {b} + fns.live h := by rw [grown, Multiset.singleton_add]
      have held' := held.update slot (StringArray.blocks_fresh b length) live
      simp only [slot, ← here, granted, if_true, Rcutils.serve_singleton, Rcutils.grant]
      refine ⟨trivial, held', fun j other => Function.update_of_ne other _ _, ?_⟩
      intro a slot'
      obtain rfl : (⟨some b, List.replicate length none⟩ : StringArray) = a := by simpa using slot'
      simp [StringArray.texts]

theorem initArrays_serves (law : fns.Lawful) (length : ℕ) {s : NameArrays × H}
    (zero : ∀ k a, s.1 k = some a → a = .zero) (held : Holding fns given rest s) :
    fns.Serves (arrayRequests given length) (initArrays fns length) s
      (fun _ t => Filled fns given rest (List.replicate length .blank) t)
      (Thrown fns given rest) := by
  unfold initArrays arrayRequests
  refine (initArray_serves law length (zero .names) held).bind ?_
  rintro _ t₁ ⟨held₁, kept₁, names⟩
  have zero₁ : ∀ a, t₁.1 .namespaces = some a → a = .zero := by
    rw [kept₁ .namespaces (by decide)]
    exact zero .namespaces
  refine (initArray_serves law length zero₁ held₁).bind ?_
  rintro _ t₂ ⟨held₂, kept₂, namespaces⟩
  have zero₂ : ∀ a, t₂.1 .enclaves = some a → a = .zero := by
    rw [kept₂ .enclaves (by decide), kept₁ .enclaves (by decide)]
    exact zero .enclaves
  refine (initArray_serves law length zero₂ held₂).mono ?_ fun _ _ => id
  rintro _ t ⟨held, kept, enclaves⟩
  refine ⟨held, fun k a slot => ?_⟩
  rw [List.map_replicate]
  cases k with
  | names => exact names a (by rwa [← kept₂ .names (by decide), ← kept .names (by decide)])
  | namespaces => exact namespaces a (by rwa [← kept .namespaces (by decide)])
  | enclaves => exact enclaves a slot

theorem copyText_exits (text : Option StdString) (s : NameArrays × H) :
    Exits (copyText fns text) s (fun _ t => t.1 = s.1) fun _ _ => False := by
  obtain ⟨arrays, h⟩ := s
  cases text <;> rfl

theorem storeRow_outside {texts : NameList → Option StdString} {noEnclave : String}
    {s : NameArrays × H} (filled : Filled fns given rest [] s) (names : given .names = true) :
    Exits (storeRow fns 0 texts noEnclave) s (fun _ _ => False) fun e _ => e = .undefined := by
  have present := filled.given .names
  rw [names] at present
  unfold storeRow storeText
  simp only [exits_bind, exits_get, present, if_true]
  refine (copyText_exits (texts .names) s).mono ?_ fun _ _ => False.elim
  rintro copied ⟨arrays, h⟩ same
  obtain ⟨a, slot⟩ := Option.isSome_iff_exists.mp present
  have slot' : arrays .names = some a := (congrFun same .names).trans slot
  have empty : a.data.length = 0 := filled.length slot
  unfold Exits EStateM.run storeEntry
  simp [slot', empty]

theorem finiArray_spec (law : fns.Lawful) (k : NameList) {s : NameArrays × H}
    (held : Holding fns given rest s) :
    Holding fns given rest (finiArray fns k s) ∧
      (∀ j, j ≠ k → (finiArray fns k s).1 j = s.1 j) ∧
      ∀ a, (finiArray fns k s).1 k = some a → a = .zero := by
  obtain ⟨arrays, h⟩ := s
  unfold finiArray
  cases slot : arrays k with
  | none => simp [slot, held]
  | some a =>
    have back : Function.update (Function.update arrays k (some .zero)) k (some a) = arrays := by
      rw [Function.update_idem, ← slot, Function.update_eq_self]
    have parts : arrays.blocks =
        a.blocks + NameArrays.blocks (Function.update arrays k (some .zero)) := by
      conv_lhs => rw [← back]
      exact NameArrays.blocks_update (Function.update_self k _ arrays) (by simp)
    have accounts : fns.live h = arrays.blocks + rest := held.accounts
    rw [parts, add_assoc] at accounts
    obtain ⟨ret, h', released, left⟩ := law.stringArrayFini a h _ accounts
    simp only [slot, released]
    refine ⟨⟨fun j => ?_, left⟩, fun j other => Function.update_of_ne other _ _, ?_⟩
    · by_cases same : j = k
      · subst same
        simpa [slot] using held.given j
      · simpa [same] using held.given j
    · intro b zero
      simpa using zero.symm

theorem finiArrays_spec (law : fns.Lawful) {s : NameArrays × H}
    (held : Holding fns given rest s) :
    (∀ k, (finiArrays fns s).1 k = if given k then some .zero else none) ∧
      fns.live (finiArrays fns s).2 = rest := by
  obtain ⟨held₁, kept₁, names⟩ := finiArray_spec law .names held
  obtain ⟨held₂, kept₂, namespaces⟩ := finiArray_spec law .namespaces held₁
  obtain ⟨held₃, kept₃, enclaves⟩ := finiArray_spec law .enclaves held₂
  have zero : ∀ k a, (finiArrays fns s).1 k = some a → a = .zero := by
    intro k a slot
    cases k with
    | names => exact names a (by rwa [← kept₂ .names (by decide), ← kept₃ .names (by decide)])
    | namespaces => exact namespaces a (by rwa [← kept₃ .namespaces (by decide)])
    | enclaves => exact enclaves a slot
  have slots : ∀ k, (finiArrays fns s).1 k = if given k then some .zero else none := by
    intro k
    have there : ((finiArrays fns s).1 k).isSome = given k := held₃.given k
    cases slot : (finiArrays fns s).1 k with
    | none => simp [← there, slot]
    | some a => simp [← there, slot, zero k a slot]
  have empty : ∀ k, NameArrays.heldBy ((finiArrays fns s).1 k) = 0 := by
    intro k
    rw [slots]
    split <;> rfl
  refine ⟨slots, ?_⟩
  have accounts : fns.live (finiArrays fns s).2 = (finiArrays fns s).1.blocks + rest :=
    held₃.accounts
  rw [accounts, NameArrays.blocks, empty, empty, empty]
  simp

end Start
end Invariant
end RmwOpendds
