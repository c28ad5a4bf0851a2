import RmwOpendds.Names

/-! Demangling of topic names, and of the names that `Service` builds: the three
scans of a request or reply topic (prefix test, last occurrence of the suffix,
removal of both) give back a fully qualified service name, whatever it contains. -/

namespace RmwOpendds.Names

open Library StdString

def FullyQualified (name : StdString) : Prop := name.head? = some '/'

def requestTopic (name : StdString) : StdString :=
  rosServiceRequesterPrefix ++ name ++ "Request".toList

def replyTopic (name : StdString) : StdString :=
  rosServiceResponsePrefix ++ name ++ "Reply".toList

theorem FullyQualified.ne_nil {name : StdString} (qualified : FullyQualified name) : name ≠ [] := by
  rintro rfl
  cases qualified

theorem createTopicName_eq {name : StdString} (qualified : FullyQualified name)
    {q : RmwQosProfile} (ros : q.avoidRosNamespaceConventions = false) :
    createTopicName (some name) (some q) = .ok (rosTopicPrefix ++ name) := by
  obtain ⟨tail, rfl⟩ := List.head?_eq_some_iff.mp qualified
  simp [createTopicName, ros]

theorem createRequestName_eq (name : StdString) {q : RmwQosProfile}
    (ros : q.avoidRosNamespaceConventions = false) :
    createRequestName name (some q) = .ok (requestTopic name) := by
  simp [createRequestName, createServiceTopicName, ros, requestTopic]

theorem createReplyName_eq (name : StdString) {q : RmwQosProfile}
    (ros : q.avoidRosNamespaceConventions = false) :
    createReplyName name (some q) = .ok (replyTopic name) := by
  simp [createReplyName, createServiceTopicName, ros, replyTopic]

theorem rosPrefix_length {pre : StdString} (ros : pre ∈ rosPrefixes) :
    pre ≠ [] ∧ pre.length = rosTopicPrefix.length := by
  revert ros
  revert pre
  decide

theorem getRosPrefixIfExists_append {pre : StdString} (ros : pre ∈ rosPrefixes)
    {name : StdString} (qualified : FullyQualified name) (rest : StdString) :
    getRosPrefixIfExists (pre ++ name ++ rest) = pre := by
  obtain ⟨tail, rfl⟩ : ∃ tail, name = '/' :: tail := List.head?_eq_some_iff.mp qualified
  simp only [rosPrefixes, rosTopicPrefix, rosServiceRequesterPrefix, rosServiceResponsePrefix,
    List.mem_cons, List.not_mem_nil, or_false] at ros
  obtain rfl | rfl | rfl := ros <;> rfl

theorem getRosPrefixIfExists_eq_iff {pre : StdString} (ros : pre ∈ rosPrefixes) (t : StdString) :
    getRosPrefixIfExists t = pre ↔ ∃ name, FullyQualified name ∧ t = pre ++ name := by
  have nonempty := (rosPrefix_length ros).1
  constructor
  · intro same
    unfold getRosPrefixIfExists at same
    cases found : rosPrefixes.find? fun pre => (pre ++ "/".toList).isPrefixOf t with
    | none =>
      rw [found] at same
      exact absurd same.symm nonempty
    | some pre' =>
      rw [found] at same
      obtain rfl : pre' = pre := same
      obtain ⟨rest, rfl⟩ := List.isPrefixOf_iff_prefix.mp
        (by simpa using List.find?_some found : (pre' ++ "/".toList).isPrefixOf t = true)
      exact ⟨'/' :: rest, rfl, by simp⟩
  · rintro ⟨name, qualified, rfl⟩
    simpa using getRosPrefixIfExists_append ros qualified []

theorem getRosPrefixIfExists_slashed {t : StdString} (ros : getRosPrefixIfExists t ∈ rosPrefixes) :
    getRosPrefixIfExists t ++ "/".toList <+: t := by
  obtain ⟨name, qualified, mangled⟩ := (getRosPrefixIfExists_eq_iff ros t).mp rfl
  obtain ⟨tail, rfl⟩ := List.head?_eq_some_iff.mp qualified
  refine ⟨tail, ?_⟩
  rw [List.append_assoc]
  exact mangled.symm

theorem demangleIfRosTopic_append {pre : StdString} (ros : pre ∈ rosPrefixes) {name : StdString}
    (qualified : FullyQualified name) : demangleIfRosTopic (pre ++ name) = name := by
  have known := (getRosPrefixIfExists_eq_iff ros _).mpr ⟨name, qualified, rfl⟩
  obtain ⟨nonempty, two⟩ := rosPrefix_length ros
  rw [demangleIfRosTopic, known, if_pos nonempty, ← two, List.drop_left]

theorem getRosPrefixIfExists_mem (t : StdString) :
    getRosPrefixIfExists t = [] ∨ getRosPrefixIfExists t ∈ rosPrefixes := by
  unfold getRosPrefixIfExists
  cases found : rosPrefixes.find? fun pre => (pre ++ "/".toList).isPrefixOf t with
  | none => exact .inl rfl
  | some pre => exact .inr (List.mem_of_find?_eq_some found)

theorem getRosPrefixIfExists_qualified {name : StdString} (qualified : FullyQualified name) :
    getRosPrefixIfExists name = [] := by
  obtain ⟨tail, rfl⟩ := List.head?_eq_some_iff.mp qualified
  rfl

theorem demangleIfRosTopic_eq_iff {name : StdString} (qualified : FullyQualified name)
    (t : StdString) :
    demangleIfRosTopic t = name ↔ t = name ∨ ∃ pre ∈ rosPrefixes, t = pre ++ name := by
  constructor
  · intro same
    obtain none | ros := getRosPrefixIfExists_mem t
    · left
      simpa [demangleIfRosTopic, none] using same
    · obtain ⟨name', qualified', mangled⟩ := (getRosPrefixIfExists_eq_iff ros t).mp rfl
      rw [mangled, demangleIfRosTopic_append ros qualified'] at same
      exact .inr ⟨_, ros, same ▸ mangled⟩
  · rintro (rfl | ⟨pre, ros, rfl⟩)
    · simp [demangleIfRosTopic, getRosPrefixIfExists_qualified qualified]
    · exact demangleIfRosTopic_append ros qualified

theorem getRosPrefixIfExists_demangleIfRosTopic (t : StdString) :
    getRosPrefixIfExists (demangleIfRosTopic t) = [] := by
  obtain none | ros := getRosPrefixIfExists_mem t
  · simp [demangleIfRosTopic, none]
  · obtain ⟨name, qualified, mangled⟩ := (getRosPrefixIfExists_eq_iff ros t).mp rfl
    rw [mangled, demangleIfRosTopic_append ros qualified]
    exact getRosPrefixIfExists_qualified qualified

theorem demangleIfRosTopic_ne_mangled {pre : StdString} (ros : pre ∈ rosPrefixes)
    {name : StdString} (qualified : FullyQualified name) (t : StdString) :
    demangleIfRosTopic t ≠ pre ++ name := by
  intro same
  have none := getRosPrefixIfExists_demangleIfRosTopic t
  rw [same, (getRosPrefixIfExists_eq_iff ros _).mpr ⟨name, qualified, rfl⟩] at none
  subst none
  exact absurd ros (by decide)

theorem service_ros {pre : StdString}
    (service : pre ∈ [rosServiceResponsePrefix, rosServiceRequesterPrefix]) :
    pre ∈ rosPrefixes := by
  revert service
  revert pre
  decide

theorem serviceSuffix_ne_nil {pre : StdString}
    (service : pre ∈ [rosServiceResponsePrefix, rosServiceRequesterPrefix]) :
    serviceSuffix pre ≠ [] := by
  revert service
  revert pre
  decide

theorem demangleServiceFromTopic_of_last {pre : StdString}
    (service : pre ∈ [rosServiceResponsePrefix, rosServiceRequesterPrefix])
    {name : StdString} (qualified : FullyQualified name) {rest : StdString}
    (last : rfind (serviceSuffix pre) (pre ++ name ++ serviceSuffix pre ++ rest) =
      some (pre ++ name).length) :
    demangleServiceFromTopic (pre ++ name ++ serviceSuffix pre ++ rest) = name := by
  have ros := service_ros service
  have nonempty := (rosPrefix_length ros).1
  have suffixed := List.length_pos_iff.mpr (serviceSuffix_ne_nil service)
  have known : getRosPrefixIfExists (pre ++ name ++ serviceSuffix pre ++ rest) = pre := by
    rw [List.append_assoc]
    exact getRosPrefixIfExists_append ros qualified _
  have stripped : substr (pre ++ name ++ serviceSuffix pre ++ rest) 0 ((pre ++ name).length + 1) =
      pre ++ name ++ (serviceSuffix pre).take 1 := by
    rw [substr, List.drop_zero, List.append_assoc, List.take_length_add_append,
      List.take_append_of_le_length suffixed]
  have size : sizeSub (sizeSub (pre ++ name ++ (serviceSuffix pre).take 1).length 1) pre.length =
      name.length := by
    rw [List.length_append, List.length_take_of_le suffixed, sizeSub_add_right,
      List.length_append, sizeSub_add_left]
  rw [demangleServiceFromTopic, known]
  simp only [nonempty, if_false, service, not_true, last, stripped]
  rw [size, substr_between]

theorem demangleServiceFromTopic_append {pre : StdString}
    (service : pre ∈ [rosServiceResponsePrefix, rosServiceRequesterPrefix])
    {name : StdString} (qualified : FullyQualified name) :
    demangleServiceFromTopic (pre ++ name ++ serviceSuffix pre) = name := by
  have last := rfind_append_self (serviceSuffix_ne_nil service) (pre ++ name)
  rw [← List.append_nil (pre ++ name ++ serviceSuffix pre)] at last ⊢
  exact demangleServiceFromTopic_of_last service qualified last

theorem demangleServiceFromTopic_requestTopic {name : StdString}
    (qualified : FullyQualified name) : demangleServiceFromTopic (requestTopic name) = name :=
  demangleServiceFromTopic_append (by decide) qualified

theorem demangleServiceFromTopic_replyTopic {name : StdString}
    (qualified : FullyQualified name) : demangleServiceFromTopic (replyTopic name) = name :=
  demangleServiceFromTopic_append (by decide) qualified

theorem demangleServiceFromTopic_ne_nil {topicName : StdString}
    (service : demangleServiceFromTopic topicName ≠ []) :
    getRosPrefixIfExists topicName ∈ [rosServiceResponsePrefix, rosServiceRequesterPrefix] := by
  unfold demangleServiceFromTopic at service
  by_contra other
  simp only [other, not_false_iff, if_true, ite_self, ne_eq, not_true] at service

/-- `<pkg>::srv::dds_::<T>_Request_` and `<pkg>::srv::dds_::<T>_Response_` -/
def IsServiceType (typeName : StdString) : Prop :=
  ∃ pkg name, ∃ suffix ∈ typeSuffixes, typeName = pkg ++ serviceNsSubstring ++ name ++ suffix

/-- The suffix loop finds the suffix at the end; an earlier "_Response_" is passed over. -/
theorem findTypeSuffix_append (stem : StdString) {suffix : StdString}
    (known : suffix ∈ typeSuffixes) :
    findTypeSuffix (stem ++ suffix) typeSuffixes none = some stem.length := by
  have nonempty : suffix ≠ [] := by
    revert known
    revert suffix
    decide
  have last := rfind_append_self nonempty stem
  have ending : sizeSub (sizeSub (stem ++ suffix).length stem.length) suffix.length = 0 := by
    simp only [List.length_append, sizeSub_add_left, sizeSub_of_le le_rfl, Nat.sub_self]
  simp only [typeSuffixes, List.mem_cons, List.not_mem_nil, or_false] at known
  obtain rfl | rfl := known
  · simp only [typeSuffixes, findTypeSuffix, last, ending, ne_eq, not_true, if_false]
  · have other : ¬ "_Response_".toList <:+ stem ++ "_Request_".toList := by
      intro both
      have shorter : "_Request_".toList <:+ "_Response_".toList :=
        List.suffix_of_suffix_length_le (List.suffix_append _ _) both (by decide)
      exact absurd shorter (by decide)
    simp only [typeSuffixes, findTypeSuffix, last, ending, ne_eq, not_true, if_false]
    cases early : rfind "_Response_".toList (stem ++ "_Request_".toList) with
    | none => rfl
    | some i =>
      have behind := mt (suffix_of_rfind early) other
      simp only [behind, not_false_iff, if_true]

theorem demangleServiceTypeOnly_ne_nil {typeName : StdString} (service : IsServiceType typeName) :
    demangleServiceTypeOnly typeName ≠ [] := by
  obtain ⟨pkg, name, suffix, known, rfl⟩ := service
  obtain ⟨i, -, first⟩ := find_append_le pkg serviceNsSubstring (name ++ suffix)
  have found := findTypeSuffix_append (pkg ++ serviceNsSubstring ++ name) known
  rw [← List.append_assoc] at first
  simp only [demangleServiceTypeOnly, first, found]
  simp

def serviceTypeName (pkg name suffix : StdString) : StdString :=
  pkg ++ serviceNsSubstring ++ name ++ suffix

theorem demangleServiceTypeOnly_of_first {pkg name suffix : StdString}
    (known : suffix ∈ typeSuffixes)
    (first : find serviceNsSubstring (serviceTypeName pkg name suffix) = some pkg.length) :
    demangleServiceTypeOnly (serviceTypeName pkg name suffix) = pkg ++ "/".toList ++ name := by
  have found := findTypeSuffix_append (pkg ++ serviceNsSubstring ++ name) known
  have size : sizeSub (pkg ++ serviceNsSubstring ++ name).length
      (pkg.length + serviceNsSubstring.length) = name.length := by
    rw [List.length_append, List.length_append, sizeSub_add_left]
  have pkgPart : substr (serviceTypeName pkg name suffix) 0 pkg.length = pkg := by
    rw [serviceTypeName, List.append_assoc, List.append_assoc, substr_left]
  have namePart : substr (serviceTypeName pkg name suffix)
      (pkg.length + serviceNsSubstring.length) name.length = name := by
    rw [serviceTypeName, ← List.length_append, substr_between]
  rw [demangleServiceTypeOnly, first]
  simp only [serviceTypeName] at found size pkgPart namePart ⊢
  simp only [found, size, pkgPart, namePart]

theorem demangleServiceTypeOnly_serviceTypeName {pkg : StdString} (noColon : ':' ∉ pkg)
    (name : StdString) {suffix : StdString} (known : suffix ∈ typeSuffixes) :
    demangleServiceTypeOnly (serviceTypeName pkg name suffix) = pkg ++ "/".toList ++ name := by
  refine demangleServiceTypeOnly_of_first known ?_
  have cut : serviceTypeName pkg name suffix =
      pkg ++ serviceNsSubstring ++ (name ++ suffix) := List.append_assoc _ _ _
  rw [cut]
  exact find_append_of_fresh noColon (":srv::dds_::".toList) (name ++ suffix)

theorem infix_replyTopic (name : StdString) :
    "Request".toList <:+: replyTopic name ↔ "Request".toList <:+: name :=
  infix_between (by decide) (by decide) name

theorem infix_requestTopic (name : StdString) :
    "Reply".toList <:+: requestTopic name ↔ "Reply".toList <:+: name :=
  infix_between (by decide) (by decide) name

end RmwOpendds.Names
