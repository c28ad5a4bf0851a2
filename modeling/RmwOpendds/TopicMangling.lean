import RmwOpendds.Demangling

/-! The topics of publishers, subscriptions and services as one family of manglings:
they are inverted by the demanglings and never meet. A foreign topic is taken for a
service topic as soon as it contains the suffix. -/

namespace RmwOpendds.Names

open Library StdString

inductive Mangling where
  | topic | request | reply
  deriving DecidableEq, Repr

namespace Mangling

def create (q : RmwQosProfile) (name : StdString) : Mangling → Except String StdString
  | .topic => createTopicName (some name) (some q)
  | .request => createRequestName name (some q)
  | .reply => createReplyName name (some q)

def mangled (name : StdString) : Mangling → StdString
  | .topic => rosTopicPrefix ++ name
  | .request => requestTopic name
  | .reply => replyTopic name

theorem create_eq_ok {q : RmwQosProfile} (ros : q.avoidRosNamespaceConventions = false)
    {m : Mangling} {name t : StdString} (created : m.create q name = .ok t) :
    t = m.mangled name := by
  cases m with
  | topic =>
    cases name with
    | nil => cases created
    | cons c tail =>
      simp only [create, createTopicName, ros] at created
      exact (Except.ok.inj created).symm
  | request =>
    rw [create, createRequestName_eq _ ros] at created
    exact (Except.ok.inj created).symm
  | reply =>
    rw [create, createReplyName_eq _ ros] at created
    exact (Except.ok.inj created).symm

/-- The second character tells the manglings apart. -/
theorem mangled_inj {m m' : Mangling} {name name' : StdString}
    (same : m.mangled name = m'.mangled name') : m = m' ∧ name = name' := by
  have second : ∀ (m : Mangling) name, (m.mangled name)[1]? =
      some (match m with | .topic => 't' | .request => 'q' | .reply => 'r') := by
    intro m name
    cases m <;> rfl
  have tags := second m name
  rw [same, second m' name'] at tags
  cases m <;> cases m' <;> try exact absurd tags (by decide)
  · exact ⟨rfl, List.append_cancel_left same⟩
  · exact ⟨rfl, List.append_cancel_left (List.append_cancel_right same)⟩
  · exact ⟨rfl, List.append_cancel_left (List.append_cancel_right same)⟩

end Mangling

theorem demangleServiceFromTopic_topic {name : StdString} (qualified : FullyQualified name) :
    demangleServiceFromTopic (rosTopicPrefix ++ name) = [] := by
  have known : getRosPrefixIfExists (rosTopicPrefix ++ name) = rosTopicPrefix :=
    (getRosPrefixIfExists_eq_iff (by decide) _).mpr ⟨name, qualified, rfl⟩
  by_contra accepted
  have service := demangleServiceFromTopic_ne_nil accepted
  rw [known] at service
  exact absurd service (by decide)

/-- Each demangling inverts its mangling, and no text is built in two ways. -/
theorem demangling_inverts {q : RmwQosProfile} (ros : q.avoidRosNamespaceConventions = false) :
    (∀ name, FullyQualified name →
      (createTopicName (some name) (some q)).map demangleIfRosTopic = .ok name ∧
      (createRequestName name (some q)).map demangleServiceFromTopic = .ok name ∧
      (createReplyName name (some q)).map demangleServiceFromTopic = .ok name ∧
      (createTopicName (some name) (some q)).map demangleServiceFromTopic = .ok []) ∧
    ∀ (m m' : Mangling) name name' t, m.create q name = .ok t → m'.create q name' = .ok t →
      m = m' ∧ name = name' := by
  constructor
  · intro name qualified
    rw [createTopicName_eq qualified ros, createRequestName_eq name ros,
      createReplyName_eq name ros]
    refine ⟨congrArg Except.ok ?_, congrArg Except.ok ?_, congrArg Except.ok ?_,
      congrArg Except.ok ?_⟩
    · exact demangleIfRosTopic_append (by decide) qualified
    · exact demangleServiceFromTopic_requestTopic qualified
    · exact demangleServiceFromTopic_replyTopic qualified
    · exact demangleServiceFromTopic_topic qualified
  · intro m m' name name' t created created'
    have text := Mangling.create_eq_ok ros created
    have text' := Mangling.create_eq_ok ros created'
    exact Mangling.mangled_inj (text.symm.trans text')

theorem demangling_inverts_nested :
    let q : RmwQosProfile :=
      { history := .keepLast, depth := 10, reliability := .reliable, durability := .volatile
        deadline := ⟨0, 0⟩, lifespan := ⟨0, 0⟩, liveliness := .systemDefault
        livelinessLeaseDuration := ⟨0, 0⟩, avoidRosNamespaceConventions := false }
    (createRequestName "/rq/RequestRequest".toList (some q)).map demangleServiceFromTopic =
      .ok "/rq/RequestRequest".toList :=
  ((demangling_inverts rfl).1 "/rq/RequestRequest".toList rfl).2.1

/-- A service topic whose last suffix is followed by nothing, if there is one. -/
def SuffixAtEnd (t : StdString) : Prop :=
  ∀ pre ∈ [rosServiceResponsePrefix, rosServiceRequesterPrefix], pre ++ "/".toList <+: t →
    serviceSuffix pre <:+: t → serviceSuffix pre <:+ t

/-- A topic that is taken for one of a service is what `Service` builds for it. -/
def ReEncodes (t : StdString) : Prop :=
  let name := demangleServiceFromTopic t
  name ≠ [] → FullyQualified name ∧ (t = requestTopic name ∨ t = replyTopic name)

section ForeignTopics

variable {pre : StdString} (service : pre ∈ [rosServiceResponsePrefix, rosServiceRequesterPrefix])
include service

/-- The suffix starts with a capital, so that it begins behind the prefix and the slash. -/
theorem suffix_behind_slash {stem rest : StdString} (slashed : pre ++ "/".toList <+: stem ++ rest)
    (suffix : serviceSuffix pre <+: rest) : pre ++ "/".toList <+: stem := by
  have apart : ∀ k < (pre ++ "/".toList).length,
      (pre ++ "/".toList)[k]? ≠ (serviceSuffix pre)[0]? := by
    clear slashed suffix
    revert service
    revert pre
    decide
  refine List.prefix_of_prefix_length_le slashed (List.prefix_append stem rest) ?_
  by_contra short
  have nonempty := List.length_pos_iff.mpr (serviceSuffix_ne_nil service)
  obtain ⟨more, rfl⟩ := suffix
  obtain ⟨tail, whole⟩ := slashed
  have at_stem := congrArg (fun s => s[stem.length]?) whole
  simp only [List.getElem?_append_right le_rfl, Nat.sub_self,
    List.getElem?_append_left (not_le.mp short), List.getElem?_append_left nonempty] at at_stem
  exact apart stem.length (not_le.mp short) at_stem

theorem suffix_position_bounds {t : StdString} (slashed : pre ++ "/".toList <+: t) {i : ℕ}
    (found : rfind (serviceSuffix pre) t = some i) : pre.length ≤ i ∧ i < t.length := by
  obtain ⟨stem, rest, rfl, rfl⟩ := append_of_rfind found
  have nonempty := List.length_pos_iff.mpr (serviceSuffix_ne_nil service)
  rw [List.append_assoc] at slashed
  have behind := (suffix_behind_slash service slashed (List.prefix_append _ _)).length_le
  simp only [List.length_append] at behind ⊢
  omega

theorem demangleServiceFromTopic_of_infix {t : StdString} (slashed : pre ++ "/".toList <+: t)
    (occurs : serviceSuffix pre <:+: t) :
    ∃ rest, FullyQualified (demangleServiceFromTopic t) ∧
      t = pre ++ demangleServiceFromTopic t ++ serviceSuffix pre ++ rest := by
  obtain ⟨i, found⟩ := Option.isSome_iff_exists.mp (rfind_isSome.mpr occurs)
  obtain ⟨stem, rest, rfl, rfl⟩ := append_of_rfind found
  rw [List.append_assoc] at slashed
  obtain ⟨tail, rfl⟩ := suffix_behind_slash service slashed (List.prefix_append _ _)
  have qualified : FullyQualified ("/".toList ++ tail) := rfl
  rw [List.append_assoc pre] at found ⊢
  rw [demangleServiceFromTopic_of_last service qualified found]
  exact ⟨rest, qualified, rfl⟩

end ForeignTopics

theorem demangleServiceFromTopic_ne_nil_iff (t : StdString) :
    demangleServiceFromTopic t ≠ [] ↔
      ∃ pre ∈ [rosServiceResponsePrefix, rosServiceRequesterPrefix], pre ++ "/".toList <+: t ∧
        serviceSuffix pre <:+: t := by
  constructor
  · intro accepted
    have service := demangleServiceFromTopic_ne_nil accepted
    refine ⟨_, service, getRosPrefixIfExists_slashed (service_ros service), ?_⟩
    by_contra absent
    have missing := rfind_eq_none.mpr absent
    simp only [demangleServiceFromTopic, missing, ite_self, ne_eq, not_true] at accepted
  · rintro ⟨pre, service, slashed, occurs⟩
    obtain ⟨-, qualified, -⟩ := demangleServiceFromTopic_of_infix service slashed occurs
    exact qualified.ne_nil

theorem getRosPrefixIfExists_requestTopic {name : StdString} (qualified : FullyQualified name) :
    getRosPrefixIfExists (requestTopic name) = rosServiceRequesterPrefix :=
  getRosPrefixIfExists_append (by decide) qualified _

theorem getRosPrefixIfExists_replyTopic {name : StdString} (qualified : FullyQualified name) :
    getRosPrefixIfExists (replyTopic name) = rosServiceResponsePrefix :=
  getRosPrefixIfExists_append (by decide) qualified _

theorem mangled_of_suffixAtEnd {t : StdString} (ending : SuffixAtEnd t)
    (accepted : demangleServiceFromTopic t ≠ []) :
    FullyQualified (demangleServiceFromTopic t) ∧
      t = getRosPrefixIfExists t ++ demangleServiceFromTopic t ++
        serviceSuffix (getRosPrefixIfExists t) := by
  obtain ⟨pre, service, slashed, occurs⟩ := (demangleServiceFromTopic_ne_nil_iff t).mp accepted
  obtain ⟨stem, rfl⟩ := ending pre service slashed occurs
  obtain ⟨tail, rfl⟩ := suffix_behind_slash service slashed List.prefix_rfl
  have qualified : FullyQualified ("/".toList ++ tail) := rfl
  rw [List.append_assoc pre, demangleServiceFromTopic_append service qualified,
    getRosPrefixIfExists_append (service_ros service) qualified]
  exact ⟨qualified, rfl⟩

theorem reEncodes_iff (t : StdString) : ReEncodes t ↔ SuffixAtEnd t := by
  constructor
  · intro rebuilt pre service slashed occurs
    obtain ⟨rest, qualified, mangled⟩ := demangleServiceFromTopic_of_infix service slashed occurs
    have known : getRosPrefixIfExists t = pre := by
      rw [mangled, List.append_assoc]
      exact getRosPrefixIfExists_append (service_ros service) qualified _
    obtain ⟨-, request | reply⟩ := rebuilt qualified.ne_nil
    · rw [request, getRosPrefixIfExists_requestTopic qualified] at known
      rw [request, ← known]
      exact List.suffix_append _ _
    · rw [reply, getRosPrefixIfExists_replyTopic qualified] at known
      rw [reply, ← known]
      exact List.suffix_append _ _
  · intro ending accepted
    obtain ⟨qualified, mangled⟩ := mangled_of_suffixAtEnd ending accepted
    have service := demangleServiceFromTopic_ne_nil accepted
    refine ⟨qualified, ?_⟩
    generalize getRosPrefixIfExists t = pre at service mangled
    simp only [List.mem_cons, List.not_mem_nil, or_false] at service
    obtain rfl | rfl := service
    · exact .inr mangled
    · exact .inl mangled

/-- A topic is rebuilt from the service it is listed as exactly if its last suffix is at
its end. Two such request topics, or reply topics, of one service are the same. -/
theorem service_topics_reencode (t : StdString) :
    (ReEncodes t ↔ SuffixAtEnd t) ∧
    ∀ t', SuffixAtEnd t → SuffixAtEnd t' → getRosPrefixIfExists t = getRosPrefixIfExists t' →
      demangleServiceFromTopic t = demangleServiceFromTopic t' →
      demangleServiceFromTopic t ≠ [] → t = t' := by
  refine ⟨reEncodes_iff t, fun t' ending ending' alike same accepted => ?_⟩
  obtain ⟨-, mangled⟩ := mangled_of_suffixAtEnd ending accepted
  obtain ⟨-, mangled'⟩ := mangled_of_suffixAtEnd ending' (same ▸ accepted)
  rw [mangled, mangled', alike, same]

/-- `rq/sumRequest_v2`, a foreign topic, is listed as the service `/sum`. -/
theorem foreign_topic_listed : ¬ ∀ t, ReEncodes t := by
  intro claim
  have listed : demangleServiceFromTopic "rq/sumRequest_v2".toList = "/sum".toList := by decide
  obtain ⟨-, mangled⟩ := claim "rq/sumRequest_v2".toList (by rw [listed]; decide)
  rw [listed] at mangled
  exact absurd mangled (by decide)

end RmwOpendds.Names
