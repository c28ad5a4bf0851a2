import RmwOpendds.Demangling

/-! Type names. A service type is accepted by its two scans, of which the second looks
for a suffix anywhere; a message type is accepted by its marker, which names one kind
of interface only. -/

namespace RmwOpendds.Names

open Library StdString

section ServiceTypes

theorem marker_not_in_suffix {suffix : StdString} (known : suffix ∈ typeSuffixes) :
    ':' ∉ suffix := by
  revert known
  revert suffix
  decide

theorem isServiceType_iff (t : StdString) :
    IsServiceType t ↔ serviceNsSubstring <:+: t ∧ ∃ suffix ∈ typeSuffixes, suffix <:+ t := by
  constructor
  · rintro ⟨pkg, name, suffix, known, rfl⟩
    refine ⟨⟨pkg, name ++ suffix, ?_⟩, suffix, known, List.suffix_append _ _⟩
    rw [List.append_assoc _ name]
  · rintro ⟨marked, suffix, known, stem, rfl⟩
    have split : serviceNsSubstring = "::srv::dds_:".toList ++ [':'] := by decide
    rw [split, infix_append_of_fresh_last (marker_not_in_suffix known), ← split] at marked
    obtain ⟨pkg, name, rfl⟩ := marked
    exact ⟨pkg, name, suffix, known, rfl⟩

theorem IsServiceType.at_first {t : StdString} (service : IsServiceType t) :
    ∃ pkg name, ∃ suffix ∈ typeSuffixes, t = serviceTypeName pkg name suffix ∧
      find serviceNsSubstring t = some pkg.length := by
  obtain ⟨pkg₀, name₀, suffix, known, rfl⟩ := service
  obtain ⟨i, early, first⟩ := find_append_le pkg₀ serviceNsSubstring (name₀ ++ suffix)
  rw [← List.append_assoc] at first
  obtain ⟨pkg, rest, cut, rfl⟩ := append_of_find first
  have ending : suffix <:+ rest := by
    refine List.suffix_of_suffix_length_le (List.suffix_append _ _) ⟨_, cut.symm⟩ ?_
    have sizes := congrArg List.length cut
    simp only [List.length_append] at sizes
    omega
  obtain ⟨name, rfl⟩ := ending
  refine ⟨pkg, name, suffix, known, ?_, first⟩
  rw [cut, serviceTypeName, List.append_assoc _ name]

theorem findTypeSuffix_of_not_suffix {t : StdString} (other : ¬ "_Response_".toList <:+ t) :
    findTypeSuffix t typeSuffixes none = rfind "_Request_".toList t := by
  have last : ∀ suffixPosition, findTypeSuffix t ["_Request_".toList] suffixPosition =
      rfind "_Request_".toList t := by
    intro suffixPosition
    rw [findTypeSuffix]
    cases rfind "_Request_".toList t with
    | none => rfl
    | some i =>
      dsimp only
      split <;> rfl
  rw [typeSuffixes, findTypeSuffix]
  cases early : rfind "_Response_".toList t with
  | none => exact last none
  | some i =>
    have behind := mt (suffix_of_rfind early) other
    simp only [ne_eq, behind, not_false_iff, if_true]
    exact last (some i)

theorem findTypeSuffix_isSome (t : StdString) :
    (findTypeSuffix t typeSuffixes none).isSome ↔
      "_Response_".toList <:+ t ∨ "_Request_".toList <:+: t := by
  by_cases response : "_Response_".toList <:+ t
  · obtain ⟨stem, rfl⟩ := response
    rw [findTypeSuffix_append stem (by decide)]
    simp
  · rw [findTypeSuffix_of_not_suffix response, rfind_isSome]
    exact (or_iff_right response).symm

theorem demangleServiceTypeOnly_ne_nil_iff (t : StdString) :
    demangleServiceTypeOnly t ≠ [] ↔ serviceNsSubstring <:+: t ∧
      ("_Response_".toList <:+ t ∨ "_Request_".toList <:+: t) := by
  rw [← find_isSome, ← findTypeSuffix_isSome, demangleServiceTypeOnly]
  cases find serviceNsSubstring t with
  | none => simp
  | some i => cases findTypeSuffix t typeSuffixes none <;> simp

/-- The format is accepted and nothing else, and an accepted type is cut at its first
marker and its suffix. -/
def FormatExact (t : StdString) : Prop :=
  (demangleServiceTypeOnly t ≠ [] ↔ IsServiceType t) ∧
    (IsServiceType t → ∃ pkg name, ∃ suffix ∈ typeSuffixes, t = serviceTypeName pkg name suffix ∧
      find serviceNsSubstring t = some pkg.length ∧
      demangleServiceTypeOnly t = pkg ++ "/".toList ++ name)

def TypeSuffixAtEnd (t : StdString) : Prop :=
  serviceNsSubstring <:+: t → "_Request_".toList <:+: t → ∃ suffix ∈ typeSuffixes, suffix <:+ t

/-- The format is recognised exactly if a marked type that contains the suffix of a
request ends with a suffix. -/
theorem service_type_format_iff (t : StdString) : FormatExact t ↔ TypeSuffixAtEnd t := by
  constructor
  · rintro ⟨accepts, -⟩ marked requested
    have accepted := (demangleServiceTypeOnly_ne_nil_iff t).mpr ⟨marked, .inr requested⟩
    exact ((isServiceType_iff t).mp (accepts.mp accepted)).2
  · intro ending
    refine ⟨⟨fun accepted => ?_, demangleServiceTypeOnly_ne_nil⟩, fun service => ?_⟩
    · obtain ⟨marked, response | requested⟩ := (demangleServiceTypeOnly_ne_nil_iff t).mp accepted
      · exact (isServiceType_iff t).mpr ⟨marked, _, by decide, response⟩
      · exact (isServiceType_iff t).mpr ⟨marked, ending marked requested⟩
    · obtain ⟨pkg, name, suffix, known, rfl, first⟩ := service.at_first
      exact ⟨pkg, name, suffix, known, rfl, first, demangleServiceTypeOnly_of_first known first⟩

/-- `_Request_` in the middle of a type is taken for its end. -/
theorem suffix_in_the_middle : ¬ ∀ t, FormatExact t := by
  intro claim
  have accepted : demangleServiceTypeOnly "pkg::srv::dds_::Sum_Request_v2".toList ≠ [] := by
    decide
  have service := (claim _).1.mp accepted
  have ending := ((isServiceType_iff _).mp service).2
  exact absurd ending (by decide)

end ServiceTypes

def IsWord (s : StdString) : Prop := s ≠ [] ∧ ∀ c ∈ s, c.isAlphanum ∨ c = '_'

theorem IsWord.fresh {s : StdString} (word : IsWord s) {c : Char}
    (other : ¬ (c.isAlphanum ∨ c = '_')) : c ∉ s := fun member => other (word.2 c member)

/-- An interface that `DDSTopic::create_type_name` registers a type for. -/
@[ext] structure InterfaceType where
  pkg : StdString
  kind : StdString
  name : StdString
  pkg_word : IsWord pkg
  kind_word : IsWord kind
  name_word : IsWord name

namespace InterfaceType

variable (i : InterfaceType)

def typeName : StdString := createTypeName (i.pkg ++ "::".toList ++ i.kind) i.name

def msgMarker : StdString := "::msg::dds_::".toList

theorem typeName_eq : i.typeName =
    i.pkg ++ ':' :: ':' :: (i.kind ++ ':' :: (":dds_::".toList ++ (i.name ++ "_".toList))) := by
  simp [typeName, createTypeName]

theorem msgMarker_eq : msgMarker = ':' :: ':' :: ("msg".toList ++ ':' :: ":dds_::".toList) := by
  decide

theorem typeName_of_msg (msg : i.kind = "msg".toList) :
    i.typeName = i.pkg ++ msgMarker ++ (i.name ++ "_".toList) := by
  rw [typeName_eq, msg, msgMarker_eq]
  simp only [List.append_assoc, List.cons_append]

theorem colon_fresh : ':' ∉ i.pkg ∧ ':' ∉ i.kind ∧ ':' ∉ i.name :=
  ⟨i.pkg_word.fresh (by decide), i.kind_word.fresh (by decide), i.name_word.fresh (by decide)⟩

/-- A type name has no more colons than the marker, which can therefore only be at the
kind of the interface. -/
theorem msgMarker_infix_iff : msgMarker <:+: i.typeName ↔ i.kind = "msg".toList := by
  obtain ⟨pkg_fresh, kind_fresh, name_fresh⟩ := i.colon_fresh
  constructor
  · rintro ⟨u, v, whole⟩
    have colons := congrArg (List.count ':') whole
    have six : msgMarker.count ':' = 6 := by decide
    have four : (":dds_::".toList).count ':' = 3 ∧ ("_".toList).count ':' = 0 := by decide
    have none := List.count_eq_zero.mpr pkg_fresh
    have none' := List.count_eq_zero.mpr kind_fresh
    have none'' := List.count_eq_zero.mpr name_fresh
    simp only [typeName_eq, List.count_append, List.count_cons_self, six, four, none, none',
      none''] at colons
    have fresh : ':' ∉ u := List.count_eq_zero.mp (by omega)
    rw [msgMarker_eq, typeName_eq] at whole
    simp only [List.append_assoc, List.cons_append] at whole
    obtain ⟨-, rest⟩ := append_cons_inj_of_fresh fresh pkg_fresh whole
    have kinds := (List.cons.inj rest).2
    exact (append_cons_inj_of_fresh (by decide) kind_fresh kinds).1.symm
  · intro msg
    exact ⟨i.pkg, i.name ++ "_".toList, (i.typeName_of_msg msg).symm⟩

theorem demangleIfRosType_of_find {t : StdString} {p : ℕ} (first : find msgMarker t = some p)
    (ending : t.getLast? = some '_') :
    demangleIfRosType t = substr t 0 p ++ "/".toList ++ substr t (p + msgMarker.length)
      (sizeSub (sizeSub t.length 1) (p + msgMarker.length)) := by
  unfold msgMarker at first
  simp only [demangleIfRosType, first, ending, if_true]
  rfl

theorem demangleIfRosType_msg (msg : i.kind = "msg".toList) :
    demangleIfRosType i.typeName = i.pkg ++ "/".toList ++ i.name := by
  have first : find msgMarker (i.pkg ++ msgMarker ++ (i.name ++ "_".toList)) =
      some i.pkg.length := by
    exact find_append_of_fresh i.colon_fresh.1 (":msg::dds_::".toList) (i.name ++ "_".toList)
  have ending : (i.pkg ++ msgMarker ++ (i.name ++ "_".toList)).getLast? = some '_' := by
    rw [← List.append_assoc]
    exact List.getLast?_concat
  have size : sizeSub (sizeSub (i.pkg ++ msgMarker ++ (i.name ++ "_".toList)).length 1)
      (i.pkg.length + msgMarker.length) = i.name.length := by
    have one : "_".toList.length = 1 := rfl
    rw [← List.append_assoc, List.length_append, one, sizeSub_add_right, List.length_append,
      List.length_append, sizeSub_add_left]
  have pkgPart : substr (i.pkg ++ msgMarker ++ (i.name ++ "_".toList)) 0 i.pkg.length =
      i.pkg := by
    rw [List.append_assoc, substr_left]
  have namePart : substr (i.pkg ++ msgMarker ++ (i.name ++ "_".toList))
      (i.pkg.length + msgMarker.length) i.name.length = i.name := by
    rw [← List.length_append, ← List.append_assoc, substr_between]
  rw [i.typeName_of_msg msg, demangleIfRosType_of_find first ending, size, pkgPart, namePart]

theorem demangleIfRosType_other (other : i.kind ≠ "msg".toList) :
    demangleIfRosType i.typeName = i.typeName := by
  have absent : find "::msg::dds_::".toList i.typeName = none :=
    find_eq_none (mt i.msgMarker_infix_iff.mp other)
  rw [demangleIfRosType, absent]

theorem colon_not_in_slashed : ':' ∉ i.pkg ++ "/".toList ++ i.name := by
  obtain ⟨pkg_fresh, -, name_fresh⟩ := i.colon_fresh
  have slash : ':' ∉ "/".toList := by decide
  simp only [List.mem_append, pkg_fresh, slash, name_fresh, or_self, not_false_iff]

theorem dds_infix_typeName : "::dds_::".toList <:+: i.typeName :=
  ⟨_, i.name ++ "_".toList, (List.append_assoc _ _ _).symm⟩

/-- The type is shown without its DDS namespace, a message as `pkg/Name`. -/
def Demangled : Prop :=
  ¬ "::dds_::".toList <:+: demangleIfRosType i.typeName ∧
    (i.kind = "msg".toList → demangleIfRosType i.typeName = i.pkg ++ "/".toList ++ i.name)

theorem demangled_iff : i.Demangled ↔ i.kind = "msg".toList := by
  constructor
  · rintro ⟨plain, -⟩
    by_contra other
    rw [i.demangleIfRosType_other other] at plain
    exact plain i.dds_infix_typeName
  · intro msg
    have shown := i.demangleIfRosType_msg msg
    refine ⟨fun occurs => i.colon_not_in_slashed ?_, fun _ => shown⟩
    rw [shown] at occurs
    exact occurs.subset (by decide)

theorem typeName_inj {i j : InterfaceType} (same : i.typeName = j.typeName) : i = j := by
  obtain ⟨pkg_fresh, kind_fresh, -⟩ := i.colon_fresh
  obtain ⟨pkg_fresh', kind_fresh', -⟩ := j.colon_fresh
  rw [typeName_eq, typeName_eq] at same
  obtain ⟨pkgs, rest⟩ := append_cons_inj_of_fresh pkg_fresh pkg_fresh' same
  obtain ⟨kinds, rest⟩ :=
    append_cons_inj_of_fresh kind_fresh kind_fresh' (List.cons.inj rest).2
  exact InterfaceType.ext pkgs kinds
    (List.append_cancel_right (List.append_cancel_left rest))

theorem slashed_inj {i j : InterfaceType}
    (same : i.pkg ++ "/".toList ++ i.name = j.pkg ++ "/".toList ++ j.name) :
    i.pkg = j.pkg ∧ i.name = j.name := by
  rw [List.append_assoc, List.append_assoc] at same
  exact append_cons_inj_of_fresh (i.pkg_word.fresh (by decide)) (j.pkg_word.fresh (by decide)) same

theorem demangleIfRosType_inj {i j : InterfaceType}
    (same : demangleIfRosType i.typeName = demangleIfRosType j.typeName) : i = j := by
  have colon : ∀ k : InterfaceType, ':' ∈ k.typeName :=
    fun k => k.dds_infix_typeName.subset (by decide)
  by_cases msg : i.kind = "msg".toList <;> by_cases msg' : j.kind = "msg".toList
  · rw [i.demangleIfRosType_msg msg, j.demangleIfRosType_msg msg'] at same
    obtain ⟨pkgs, names⟩ := slashed_inj same
    exact InterfaceType.ext pkgs (msg.trans msg'.symm) names
  · rw [i.demangleIfRosType_msg msg, j.demangleIfRosType_other msg'] at same
    exact absurd (same ▸ colon j) i.colon_not_in_slashed
  · rw [i.demangleIfRosType_other msg, j.demangleIfRosType_msg msg'] at same
    exact absurd (same ▸ colon i) j.colon_not_in_slashed
  · rw [i.demangleIfRosType_other msg, j.demangleIfRosType_other msg'] at same
    exact typeName_inj same

/-- Of the types that are registered, those of messages are demangled, and no two types
are shown alike. -/
theorem registered_type_demangled_iff :
    (i.Demangled ↔ i.kind = "msg".toList) ∧ ∀ j : InterfaceType,
      demangleIfRosType j.typeName = demangleIfRosType i.typeName → j = i :=
  ⟨i.demangled_iff, fun _ => demangleIfRosType_inj⟩

def sumFeedback : InterfaceType where
  pkg := "pkg".toList
  kind := "action".toList
  name := "Sum_Feedback".toList
  pkg_word := by simp [IsWord]
  kind_word := by simp [IsWord]
  name_word := by simp [IsWord]

theorem action_type_stays_mangled : ¬ ∀ i : InterfaceType, i.Demangled := by
  intro claim
  have msg := (demangled_iff sumFeedback).mp (claim sumFeedback)
  exact absurd msg (by decide)

end InterfaceType

end RmwOpendds.Names
