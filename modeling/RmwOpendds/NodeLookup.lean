import RmwOpendds.Library.Search
import RmwOpendds.PeerNames

/-! `OpenDDSNode::get_key`: the participant of a node is looked up by the name and the
namespace in its user data, in the order in which participants were discovered. -/

namespace RmwOpendds

open Std Library

/-- The participant of the node that looks up, and the user data that `get_qos` gives. -/
structure LookupParticipant (Handle Key : Type*) extends DomainParticipant Handle Key where
  qos : ReturnCode × Option StdString

/-- The participants cannot be listed, or one of them cannot be read. -/
def LookupParticipant.Unread {Handle Key : Type*} (participant : LookupParticipant Handle Key) :
    Prop :=
  participant.discoveredParticipants.1 ≠ .ok ∨
    ∃ handle ∈ participant.discoveredParticipants.2,
      (participant.discoveredParticipantData handle).1 ≠ .ok

structure KeyLookup (GUID : Type*) where
  ret : RmwRet
  error : Option String
  key : GUID
  deriving DecidableEq, Repr

def KeyLookup.outcome {GUID : Type*} (l : KeyLookup GUID) : RmwRet × GUID := (l.ret, l.key)

structure NodeQuery (Handle Key GUID : Type*) where
  ids : Identities Handle Key GUID
  parseKeyValue : StdString → ExtTreeMap StdString StdString
  participant : LookupParticipant Handle Key
  key : GUID
  nodeName : StdString
  nodeNamespace : StdString

namespace NodeQuery

variable {Handle Key GUID : Type*} (q : NodeQuery Handle Key GUID)

def isMatch (userData : Option StdString) : Bool :=
  matchUserData q.parseKeyValue userData q.nodeName q.nodeNamespace

def findKey : List Handle → KeyLookup GUID
  | [] =>
    let text := "Node name not found: ns='" ++ String.ofList q.nodeNamespace ++ "', name='" ++
      String.ofList q.nodeName
    ⟨.nodeNameNonExistent, some text, q.key⟩
  | handle :: handles =>
    match q.participant.discoveredParticipantData handle with
    | (.ok, pbtd) =>
      if q.isMatch pbtd.userData then ⟨.ok, none, q.ids.builtinTopicKeyToGuid pbtd.key⟩
      else findKey handles
    | _ => ⟨.error, some "unable to fetch discovered participants data.", q.key⟩

def ownMatch : Bool :=
  match q.participant.qos with
  | (.ok, userData) => q.isMatch userData
  | _ => false

def getKey : KeyLookup GUID :=
  if q.ownMatch then ⟨.ok, none, q.ids.getRepoid q.participant.instanceHandle⟩
  else
    match q.participant.discoveredParticipants with
    | (.ok, handles) => q.findKey handles
    | _ => ⟨.error, some "unable to fetch discovered participants.", q.key⟩

def Advertises (handle : Handle) : Prop :=
  let data := q.participant.discoveredParticipantData handle
  data.1 = .ok ∧ q.isMatch data.2.userData

def probe (handle : Handle) : Option (KeyLookup GUID) :=
  match q.participant.discoveredParticipantData handle with
  | (.ok, pbtd) =>
    if q.isMatch pbtd.userData then some ⟨.ok, none, q.ids.builtinTopicKeyToGuid pbtd.key⟩
    else none
  | _ => some ⟨.error, some "unable to fetch discovered participants data.", q.key⟩

def keyOf (handle : Handle) : GUID :=
  q.ids.builtinTopicKeyToGuid (q.participant.discoveredParticipantData handle).2.key

def withHandles (handles : List Handle) : NodeQuery Handle Key GUID :=
  { q with participant := { q.participant with discoveredParticipants := (.ok, handles) } }

variable {q}

theorem ownMatch_iff : q.ownMatch ↔
    ∃ userData, q.participant.qos = (.ok, userData) ∧ q.isMatch userData := by
  unfold ownMatch
  split
  · rename_i userData given
    simp [given]
  · rename_i failed
    refine iff_of_false Bool.false_ne_true ?_
    rintro ⟨userData, given, -⟩
    exact failed userData given

theorem findKey_cons (handle : Handle) (handles : List Handle) :
    q.findKey (handle :: handles) = (q.probe handle).getD (q.findKey handles) := by
  unfold probe
  rw [findKey]
  split
  · split <;> rfl
  · rfl

theorem findKey_eq (handles : List Handle) :
    q.findKey handles = (handles.findSome? q.probe).getD (q.findKey []) := by
  induction handles with
  | nil => rfl
  | cons handle handles ih =>
    rw [findKey_cons, List.findSome?_cons]
    cases q.probe handle with
    | none => exact ih
    | some answer => rfl

theorem probe_of_advertises {handle : Handle} (advertised : q.Advertises handle) :
    q.probe handle = some ⟨.ok, none, q.keyOf handle⟩ := by
  obtain ⟨ok, found⟩ := advertised
  unfold probe keyOf
  cases read : q.participant.discoveredParticipantData handle with
  | mk ret data =>
    rw [read] at ok found
    cases ok
    exact if_pos found

theorem probe_of_failure {handle : Handle}
    (failed : (q.participant.discoveredParticipantData handle).1 ≠ .ok) :
    q.probe handle =
      some ⟨.error, some "unable to fetch discovered participants data.", q.key⟩ := by
  unfold probe
  split
  · rename_i pbtd read
    rw [read] at failed
    exact absurd rfl failed
  · rfl

theorem probe_eq_some {handle : Handle} {answer : KeyLookup GUID}
    (ended : q.probe handle = some answer) :
    q.Advertises handle ∨ (q.participant.discoveredParticipantData handle).1 ≠ .ok := by
  by_contra other
  rw [not_or, not_not] at other
  obtain ⟨quiet, ok⟩ := other
  unfold probe at ended
  split at ended
  · rename_i pbtd read
    split at ended
    · rename_i found
      refine quiet ⟨ok, ?_⟩
      rw [read]
      exact found
    · cases ended
  · rename_i failed
    exact failed _ (Prod.ext ok rfl)

theorem probe_eq_none {handle : Handle} (silent : q.probe handle = none) :
    (q.participant.discoveredParticipantData handle).1 = .ok ∧ ¬ q.Advertises handle := by
  constructor
  · by_contra failed
    rw [probe_of_failure failed] at silent
    cases silent
  · intro advertised
    rw [probe_of_advertises advertised] at silent
    cases silent

theorem findKey_cases (handles : List Handle) :
    (∃ handle ∈ handles, q.Advertises handle ∧
      q.findKey handles = ⟨.ok, none, q.keyOf handle⟩) ∨
    ((∀ handle ∈ handles, (q.participant.discoveredParticipantData handle).1 = .ok ∧
        ¬ q.Advertises handle) ∧ q.findKey handles = q.findKey []) ∨
    ∃ handle ∈ handles, (q.participant.discoveredParticipantData handle).1 ≠ .ok ∧
      q.findKey handles =
        ⟨.error, some "unable to fetch discovered participants data.", q.key⟩ := by
  rw [findKey_eq]
  cases first : handles.findSome? q.probe with
  | none =>
    refine .inr (.inl ⟨fun handle listed => probe_eq_none ?_, rfl⟩)
    exact List.findSome?_eq_none_iff.mp first handle listed
  | some answer =>
    obtain ⟨handle, listed, ended⟩ := List.exists_of_findSome?_eq_some first
    obtain advertised | failed := probe_eq_some ended
    · obtain rfl := Option.some.inj (ended.symm.trans (probe_of_advertises advertised))
      exact .inl ⟨handle, listed, advertised, rfl⟩
    · obtain rfl := Option.some.inj (ended.symm.trans (probe_of_failure failed))
      exact .inr (.inr ⟨handle, listed, failed, rfl⟩)

theorem getKey_cases :
    (q.ownMatch ∧ q.getKey = ⟨.ok, none, q.ids.getRepoid q.participant.instanceHandle⟩) ∨
    (∃ handle ∈ q.participant.discoveredParticipants.2, q.Advertises handle ∧
      q.getKey = ⟨.ok, none, q.keyOf handle⟩) ∨
    (q.ownMatch = false ∧ ¬ q.participant.Unread ∧
      (∀ handle ∈ q.participant.discoveredParticipants.2, ¬ q.Advertises handle) ∧
      q.getKey = q.findKey []) ∨
    q.ownMatch = false ∧ q.participant.Unread ∧ ∃ text, q.getKey = ⟨.error, some text, q.key⟩ := by
  cases own : q.ownMatch with
  | true => exact .inl ⟨rfl, if_pos own⟩
  | false =>
    have loop : q.getKey = match q.participant.discoveredParticipants with
        | (.ok, handles) => q.findKey handles
        | _ => ⟨.error, some "unable to fetch discovered participants.", q.key⟩ :=
      if_neg (by simp [own])
    rw [loop, LookupParticipant.Unread]
    obtain ⟨ret, handles⟩ := q.participant.discoveredParticipants
    by_cases listed : ret = .ok
    · subst listed
      obtain ⟨handle, member, advertised, found⟩ | ⟨all, missing⟩ | ⟨handle, member, failed, met⟩ :=
        q.findKey_cases handles
      · exact .inr (.inl ⟨handle, member, advertised, found⟩)
      · refine .inr (.inr (.inl ⟨rfl, ?_, fun handle member => (all handle member).2, missing⟩))
        rintro (unlisted | ⟨handle, member, failed⟩)
        · exact unlisted rfl
        · exact failed (all handle member).1
      · exact .inr (.inr (.inr ⟨rfl, .inr ⟨handle, member, failed⟩, _, met⟩))
    · refine .inr (.inr (.inr ⟨rfl, .inl listed, "unable to fetch discovered participants.", ?_⟩))
      cases ret <;> first | rfl | exact absurd rfl listed

theorem getKey_ok (found : q.getKey.ret = .ok) :
    (q.ownMatch ∧ q.getKey.key = q.ids.getRepoid q.participant.instanceHandle) ∨
    ∃ handle ∈ q.participant.discoveredParticipants.2, q.Advertises handle ∧
      q.getKey.key = q.keyOf handle := by
  obtain ⟨own, key⟩ | ⟨handle, listed, advertised, key⟩ | ⟨-, -, -, missing⟩ |
    ⟨-, -, text, failed⟩ := q.getKey_cases
  · exact .inl ⟨own, congrArg KeyLookup.key key⟩
  · exact .inr ⟨handle, listed, advertised, congrArg KeyLookup.key key⟩
  · rw [missing] at found
    cases found
  · rw [failed] at found
    cases found

theorem getKey_own (own : q.ownMatch) (handles : List Handle) :
    (q.withHandles handles).getKey =
      ⟨.ok, none, q.ids.getRepoid q.participant.instanceHandle⟩ :=
  if_pos own

theorem findKey_withHandles (handles handles' : List Handle) :
    (q.withHandles handles).findKey handles' = q.findKey handles' := by
  induction handles' with
  | nil => rfl
  | cons handle handles' ih =>
    rw [findKey_cons, findKey_cons, ih]
    rfl

theorem getKey_withHandles (other : q.ownMatch = false) (handles : List Handle) :
    (q.withHandles handles).getKey = (handles.findSome? q.probe).getD (q.findKey []) := by
  have unmatched : (q.withHandles handles).ownMatch = false := other
  rw [← findKey_eq, ← findKey_withHandles handles, getKey, unmatched]
  rfl

variable (q) in
def OneAdvertiser (handles : List Handle) : Prop :=
  ∀ a ∈ handles, ∀ b ∈ handles, q.Advertises a → q.Advertises b → a = b

variable (q) in
/-- A lookup finds the participant that advertises the node, whatever else has been
discovered and in whatever order. -/
structure Stable (handles : List Handle) : Prop where
  own : q.ownMatch → (q.withHandles handles).getKey.outcome =
    (.ok, q.ids.getRepoid q.participant.instanceHandle)
  discovered : q.ownMatch = false → ∀ handle ∈ handles, q.Advertises handle →
    (q.withHandles handles).getKey.outcome = (.ok, q.keyOf handle)
  permuted : ∀ handles', handles.Perm handles' →
    (q.withHandles handles').getKey.outcome = (q.withHandles handles).getKey.outcome

/-- With an unread participant beside the one that is looked for, either can end the
search. -/
theorem not_stable {handles : List Handle} (other : q.ownMatch = false)
    {advertiser unread : Handle} (listed : advertiser ∈ handles) (listed' : unread ∈ handles)
    (advertised : q.Advertises advertiser)
    (failed : (q.participant.discoveredParticipantData unread).1 ≠ .ok) :
    ¬ q.Stable handles := by
  intro stable
  obtain ⟨found_first, perm, found⟩ :=
    exists_perm_findSome? listed (probe_of_advertises advertised)
  obtain ⟨failed_first, perm', fails⟩ := exists_perm_findSome? listed' (probe_of_failure failed)
  have same := (stable.permuted _ perm).trans (stable.permuted _ perm').symm
  rw [getKey_withHandles other, getKey_withHandles other, found, fails] at same
  have codes : RmwRet.ok = RmwRet.error := congrArg Prod.fst same
  exact absurd codes (by decide)

theorem stable_of_agree {handles : List Handle} (other : q.ownMatch = false)
    (agree : ∀ a ∈ handles, ∀ b ∈ handles, ∀ x y, q.probe a = some x → q.probe b = some y →
      x = y) : q.Stable handles where
  own own := absurd (own.symm.trans other) (by decide)
  discovered _ handle listed advertised := by
    have answer := probe_of_advertises advertised
    obtain ⟨answer', found⟩ := Option.isSome_iff_exists.mp
      (List.findSome?_isSome_iff.mpr ⟨handle, listed, Option.isSome_iff_exists.mpr ⟨_, answer⟩⟩)
    obtain ⟨handle', listed', ended⟩ := List.exists_of_findSome?_eq_some found
    rw [getKey_withHandles other, found, agree handle' listed' handle listed _ _ ended answer]
    rfl
  permuted handles' perm := by
    rw [getKey_withHandles other, getKey_withHandles other, findSome?_perm perm agree]

/-- A lookup is stable exactly if it ends at the node's own participant, or no discovered
one advertises the node, or all are read. -/
theorem lookup_stable_iff {handles : List Handle} (unique : q.OneAdvertiser handles) :
    q.Stable handles ↔ q.ownMatch ∨ (∀ handle ∈ handles, ¬ q.Advertises handle) ∨
      ∀ handle ∈ handles, (q.participant.discoveredParticipantData handle).1 = .ok := by
  cases own : q.ownMatch with
  | true =>
    refine ⟨fun _ => .inl rfl, fun _ => ⟨fun _ => ?_, fun other => ?_, fun handles' _ => ?_⟩⟩
    · rw [getKey_own own]
      rfl
    · exact absurd (own.symm.trans other) (by decide)
    · rw [getKey_own own, getKey_own own]
  | false =>
    rw [or_iff_right Bool.false_ne_true]
    constructor
    · intro stable
      by_contra mixed
      simp only [not_or, not_forall, not_not] at mixed
      obtain ⟨⟨advertiser, listed, advertised⟩, unread, listed', failed⟩ := mixed
      exact not_stable own listed listed' advertised failed stable
    · rintro (quiet | complete)
      · refine stable_of_agree own fun a listed b listed' x y ended ended' => ?_
        have failed := (probe_eq_some ended).resolve_left (quiet a listed)
        have failed' := (probe_eq_some ended').resolve_left (quiet b listed')
        rw [probe_of_failure failed] at ended
        rw [probe_of_failure failed'] at ended'
        exact Option.some.inj (ended.symm.trans ended')
      · refine stable_of_agree own fun a listed b listed' x y ended ended' => ?_
        have found := (probe_eq_some ended).resolve_right (not_not_intro (complete a listed))
        have found' := (probe_eq_some ended').resolve_right (not_not_intro (complete b listed'))
        rw [unique a listed b listed' found found'] at ended
        exact Option.some.inj (ended.symm.trans ended')

/-- `listener` looks for `talker`, near its participant and one that has disappeared since
it was listed. -/
def besideVanished : NodeQuery Bool ℕ ℕ where
  ids := ⟨fun _ => 2, fun key => key⟩
  parseKeyValue := UserData.parse
  participant :=
    { instanceHandle := true
      discoveredParticipants := (.ok, [false, true])
      discoveredParticipantData := fun handle =>
        if handle then (.ok, ⟨1, some (identity "talker".toList "/".toList)⟩)
        else (.alreadyDeleted, ⟨0, none⟩)
      qos := (.ok, some (identity "listener".toList "/".toList)) }
  key := 0
  nodeName := "talker".toList
  nodeNamespace := "/".toList

theorem besideVanished_advertises : besideVanished.Advertises true := ⟨rfl, by decide +kernel⟩

def besideCamera : NodeQuery Bool ℕ ℕ :=
  { besideVanished with participant :=
    { besideVanished.participant with
      discoveredParticipantData := fun handle =>
        if handle then (.ok, ⟨1, some (identity "talker".toList "/".toList)⟩)
        else (.ok, ⟨3, some (identity "camera".toList "/".toList)⟩) } }

theorem lookup_stable_iff_camera :
    besideCamera.Stable [false, true] ∧
      (besideCamera.withHandles [false, true]).getKey = ⟨.ok, none, 1⟩ ∧
      (besideCamera.withHandles [true, false]).getKey = ⟨.ok, none, 1⟩ := by
  have camera : ¬ besideCamera.Advertises false := fun found => by
    have wrong : besideCamera.isMatch (some (identity "camera".toList "/".toList)) = false := by
      decide +kernel
    exact Bool.false_ne_true (wrong.symm.trans found.2)
  refine ⟨(lookup_stable_iff fun a _ b _ found found' => ?_).mpr
    (.inr (.inr fun handle _ => ?_)), by decide +kernel, by decide +kernel⟩
  · cases a <;> cases b
    · rfl
    · exact absurd found camera
    · exact absurd found' camera
    · rfl
  · cases handle <;> rfl

/-- Whether `talker` is found depends on where the other participant is listed. -/
theorem vanished_participant_hides_node :
    ¬ ∀ handles, besideVanished.OneAdvertiser handles → besideVanished.Stable handles := by
  intro claim
  have other : besideVanished.ownMatch = false := by decide +kernel
  have unread : ¬ besideVanished.Advertises false :=
    fun advertised => absurd advertised.1 (by decide)
  refine not_stable other (List.mem_cons_of_mem _ List.mem_cons_self) List.mem_cons_self
    besideVanished_advertises (by decide) (claim [false, true] fun a _ b _ found found' => ?_)
  cases a <;> cases b
  · rfl
  · exact absurd found unread
  · exact absurd found' unread
  · rfl

end NodeQuery
end RmwOpendds
