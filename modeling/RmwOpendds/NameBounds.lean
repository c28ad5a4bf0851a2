import RmwOpendds.Library.CheckedString
import RmwOpendds.TopicMangling
import RmwOpendds.TypeMangling

/-! `namespace_prefix.cpp` and `demangle.cpp` once more, with every access to a
character, every start of a substring and every difference of sizes checked. -/

namespace RmwOpendds.Names

open Library StdString

namespace Checked

open Library.Checked

/-- The loop of `_get_ros_prefix_if_exists`, which accesses no character by itself. -/
def findRosPrefix (topicName : StdString) : List StdString → Checked StdString
  | [] => pure []
  | pre :: rest =>
    if (pre ++ "/".toList).isPrefixOf topicName then pure pre
    else findRosPrefix topicName rest

def getRosPrefixIfExists (topicName : StdString) : Checked StdString :=
  findRosPrefix topicName rosPrefixes

def stripFirst (topicName : StdString) : List StdString → Checked StdString
  | [] => pure topicName
  | pre :: rest =>
    if pre.isPrefixOf topicName then do
      if (← charAt topicName pre.length) = '/' then substrFrom topicName pre.length
      else stripFirst topicName rest
    else stripFirst topicName rest

def stripRosPrefixIfExists (topicName : StdString) : Checked StdString :=
  stripFirst topicName rosPrefixes

def demangleIfRosTopic (topicName : StdString) : Checked StdString := do
  let pre ← getRosPrefixIfExists topicName
  if pre ≠ [] then substrFrom topicName rosTopicPrefix.length else pure topicName

def demangleIfRosType (ddsTypeString : StdString) : Checked StdString := do
  let substring := "::msg::dds_::".toList
  let last ← index ddsTypeString (← sub ddsTypeString.length 1)
  match find substring ddsTypeString with
  | some substringPosition =>
    if last = '_' then
      let pkg ← substr ddsTypeString 0 substringPosition
      let start := substringPosition + substring.length
      let typeName ← substr ddsTypeString start (← sub (← sub ddsTypeString.length 1) start)
      pure (pkg ++ "/".toList ++ typeName)
    else pure ddsTypeString
  | none => pure ddsTypeString

def demangleServiceFromTopic (topicName : StdString) : Checked StdString := do
  let pre ← getRosPrefixIfExists topicName
  if pre = [] then pure []
  else if [rosServiceResponsePrefix, rosServiceRequesterPrefix].all (pre ≠ ·) then pure []
  else
    match rfind (serviceSuffix pre) topicName with
    | none => pure []
    | some suffixPosition =>
      let serviceName ← substr topicName 0 (suffixPosition + 1)
      let start := pre.length
      substr serviceName start (← sub (← sub serviceName.length 1) start)

def findTypeSuffix (ddsTypeName : StdString) :
    List StdString → Option ℕ → Checked (Option ℕ)
  | [], suffixPosition => pure suffixPosition
  | suffix :: rest, _ =>
    match rfind suffix ddsTypeName with
    | none => findTypeSuffix ddsTypeName rest none
    | some suffixPosition => do
      if (← sub (← sub ddsTypeName.length suffixPosition) suffix.length) ≠ 0 then
        findTypeSuffix ddsTypeName rest (some suffixPosition)
      else pure (some suffixPosition)

def demangleServiceTypeOnly (ddsTypeName : StdString) : Checked StdString :=
  match find serviceNsSubstring ddsTypeName with
  | none => pure []
  | some nsSubstringPosition => do
    match ← findTypeSuffix ddsTypeName typeSuffixes none with
    | none => pure []
    | some suffixPosition =>
      let pkg ← substr ddsTypeName 0 nsSubstringPosition
      let start := nsSubstringPosition + serviceNsSubstring.length
      let typeName ← substr ddsTypeName start (← sub suffixPosition start)
      pure (pkg ++ "/".toList ++ typeName)

theorem getRosPrefixIfExists_eq (t : StdString) :
    getRosPrefixIfExists t = pure (Names.getRosPrefixIfExists t) := by
  have search : ∀ pres, findRosPrefix t pres =
      pure ((pres.find? fun pre => (pre ++ "/".toList).isPrefixOf t).getD []) := by
    intro pres
    induction pres with
    | nil => rfl
    | cons pre pres ih =>
      rw [findRosPrefix, List.find?_cons]
      cases (pre ++ "/".toList).isPrefixOf t with
      | true => rfl
      | false => exact ih
  exact search rosPrefixes

theorem demangleIfRosTopic_eq (t : StdString) :
    demangleIfRosTopic t = pure (Names.demangleIfRosTopic t) := by
  rw [demangleIfRosTopic, getRosPrefixIfExists_eq, pure_bind, Names.demangleIfRosTopic]
  obtain none | ros := getRosPrefixIfExists_mem t
  · simp only [none, ne_eq, not_true, if_false]
  · obtain ⟨name, -, mangled⟩ := (getRosPrefixIfExists_eq_iff ros t).mp rfl
    have sizes := congrArg List.length mangled
    rw [List.length_append, (rosPrefix_length ros).2] at sizes
    have inside : rosTopicPrefix.length ≤ t.length := by omega
    rw [substrFrom_eq inside]
    split <;> rfl

/-- Behind a prefix without anything behind it, `at` throws. -/
theorem stripRosPrefixIfExists_of_mem {t : StdString} (bare : t ∈ rosPrefixes) :
    stripRosPrefixIfExists t = throw .outOfRange := by
  revert bare
  revert t
  decide

theorem stripFirst_cons {t pre : StdString} (longer : t ≠ pre) (rest : List StdString) :
    stripFirst t (pre :: rest) =
      if (pre ++ "/".toList).isPrefixOf t then pure (t.drop pre.length)
      else stripFirst t rest := by
  rw [stripFirst]
  by_cases here : pre <+: t
  · obtain ⟨tail, rfl⟩ := here
    cases tail with
    | nil => exact absurd (List.append_nil pre) longer
    | cons c tail =>
      have char : charAt (pre ++ c :: tail) pre.length = pure c := charAt_eq (by simp)
      have slashed : (pre ++ "/".toList).isPrefixOf (pre ++ c :: tail) = decide (c = '/') := by
        rw [Bool.eq_iff_iff, List.isPrefixOf_iff_prefix, List.prefix_append_right_inj]
        simp [List.cons_prefix_cons, eq_comm]
      have inside : pre.length ≤ (pre ++ c :: tail).length := by simp
      rw [if_pos (List.isPrefixOf_iff_prefix.mpr (List.prefix_append _ _)), char, pure_bind,
        slashed, substrFrom_eq inside]
      simp only [decide_eq_true_eq]
  · have other : ¬ pre ++ "/".toList <+: t := fun slashed =>
      here ((List.prefix_append _ _).trans slashed)
    rw [if_neg (by simpa using here), if_neg (by simpa using other)]

theorem stripRosPrefixIfExists_eq {t : StdString} (longer : t ∉ rosPrefixes) :
    stripRosPrefixIfExists t = pure (Names.demangleIfRosTopic t) := by
  have search : ∀ pres ⊆ rosPrefixes, stripFirst t pres = pure
      (if (pres.find? fun pre => (pre ++ "/".toList).isPrefixOf t).getD [] ≠ [] then
        t.drop rosTopicPrefix.length else t) := by
    intro pres ros
    induction pres with
    | nil => rfl
    | cons pre pres ih =>
      obtain ⟨here, later⟩ := List.cons_subset.mp ros
      obtain ⟨nonempty, two⟩ := rosPrefix_length here
      have other : t ≠ pre := by
        rintro rfl
        exact longer here
      rw [stripFirst_cons other, List.find?_cons]
      cases (pre ++ "/".toList).isPrefixOf t with
      | true => simp only [if_true, Option.getD_some, ne_eq, nonempty, not_false_iff, two]
      | false => exact ih later
  exact search rosPrefixes (List.Subset.refl _)

/-- The last character is behind the marker, which ends with another. -/
theorem msgMarker_before_last {t : StdString} {p : ℕ}
    (first : find InterfaceType.msgMarker t = some p) (ending : t.getLast? = some '_') :
    p + InterfaceType.msgMarker.length ≤ t.length - 1 := by
  obtain ⟨pre, rest, rfl, rfl⟩ := append_of_find first
  have behind : rest ≠ [] := by
    rintro rfl
    have colon : InterfaceType.msgMarker.getLast? = some ':' := by decide
    rw [List.append_nil, List.getLast?_append, colon] at ending
    exact absurd (Option.some.inj ending) (by decide)
  have := List.length_pos_iff.mpr behind
  simp only [List.length_append]
  omega

theorem demangleIfRosType_eq {t : StdString} (nonempty : t ≠ []) :
    demangleIfRosType t = pure (Names.demangleIfRosType t) := by
  have length : 1 ≤ t.length := List.length_pos_iff.mpr nonempty
  have last : t[sizeSub t.length 1]? = some (t.getLast nonempty) := by
    rw [sizeSub_of_le length, ← List.getLast?_eq_getElem?, List.getLast?_eq_some_getLast]
  have known := List.getLast?_eq_some_getLast nonempty
  rw [demangleIfRosType, sub_eq length, pure_bind, index_eq last, pure_bind,
    Names.demangleIfRosType, known]
  dsimp only
  cases first : find "::msg::dds_::".toList t with
  | none => rfl
  | some p =>
    by_cases ending : t.getLast nonempty = '_'
    · rw [ending] at known
      have start : p + "::msg::dds_::".toList.length ≤ t.length - 1 :=
        msgMarker_before_last first known
      have bound : p + "::msg::dds_::".toList.length ≤ sizeSub t.length 1 := by
        rwa [sizeSub_of_le length]
      dsimp only
      rw [if_pos ending, if_pos (congrArg some ending), substr_eq (Nat.zero_le _), pure_bind,
        pure_bind, sub_eq bound, pure_bind, substr_eq (start.trans (Nat.sub_le _ _)), pure_bind]
    · simp only [ending, if_false, Option.some.injEq]

theorem demangleIfRosType_nil : demangleIfRosType [] = throw .wrapped := rfl

theorem demangleServiceFromTopic_eq (t : StdString) :
    demangleServiceFromTopic t = pure (Names.demangleServiceFromTopic t) := by
  rw [demangleServiceFromTopic, getRosPrefixIfExists_eq, pure_bind,
    Names.demangleServiceFromTopic]
  have none_of : [rosServiceResponsePrefix, rosServiceRequesterPrefix].all
      (Names.getRosPrefixIfExists t ≠ ·) ↔
        Names.getRosPrefixIfExists t ∉ [rosServiceResponsePrefix, rosServiceRequesterPrefix] := by
    simp
  dsimp only
  obtain none | ros := getRosPrefixIfExists_mem t
  · simp only [none, if_true]
  by_cases service : Names.getRosPrefixIfExists t ∈
      [rosServiceResponsePrefix, rosServiceRequesterPrefix]
  · rw [if_neg (rosPrefix_length ros).1, if_neg (rosPrefix_length ros).1,
      if_neg (mt none_of.mp (not_not_intro service)), if_neg (not_not_intro service)]
    cases found : rfind (serviceSuffix (Names.getRosPrefixIfExists t)) t with
    | none => rfl
    | some i =>
      obtain ⟨behind, inside⟩ :=
        suffix_position_bounds service (getRosPrefixIfExists_slashed ros) found
      have size : (StdString.substr t 0 (i + 1)).length = i + 1 := by
        rw [StdString.substr, List.drop_zero, List.length_take_of_le inside]
      dsimp only
      rw [substr_eq (Nat.zero_le _), pure_bind, size, sub_eq (Nat.le_add_left 1 i), pure_bind,
        sizeSub_add_right, sub_eq behind, pure_bind, substr_eq]
      rw [size]
      exact behind.trans (Nat.le_succ i)
  · rw [if_pos (none_of.mpr service), if_pos service, ite_self, ite_self]

theorem findTypeSuffix_eq (t : StdString) (suffixes : List StdString) (position : Option ℕ) :
    findTypeSuffix t suffixes position = pure (Names.findTypeSuffix t suffixes position) := by
  induction suffixes generalizing position with
  | nil => rfl
  | cons suffix suffixes ih =>
    rw [findTypeSuffix, Names.findTypeSuffix]
    cases found : rfind suffix t with
    | none => exact ih none
    | some i =>
      obtain ⟨inside, occurs⟩ := prefix_drop_of_rfind found
      have fits := occurs.length_le
      rw [List.length_drop, ← sizeSub_of_le inside] at fits
      dsimp only
      rw [sub_eq inside, pure_bind, sub_eq fits, pure_bind, ih]
      split <;> rfl

section FirstMarker

variable {t : StdString} {p j : ℕ} (first : find serviceNsSubstring t = some p)
  (found : Names.findTypeSuffix t typeSuffixes none = some j)
include first found

theorem demangleServiceTypeOnly_of_le (behind : p + serviceNsSubstring.length ≤ j) :
    demangleServiceTypeOnly t = pure (Names.demangleServiceTypeOnly t) := by
  obtain ⟨pre, rest, whole, size⟩ := append_of_find first
  have inside : p + serviceNsSubstring.length ≤ t.length := by
    rw [whole, ← size]
    simp only [List.length_append]
    omega
  rw [demangleServiceTypeOnly, Names.demangleServiceTypeOnly, first]
  dsimp only
  rw [findTypeSuffix_eq, found, pure_bind]
  dsimp only
  rw [substr_eq (Nat.zero_le _), pure_bind, sub_eq behind, pure_bind, substr_eq inside, pure_bind]

theorem demangleServiceTypeOnly_of_lt (before : j < p + serviceNsSubstring.length) :
    demangleServiceTypeOnly t = throw .wrapped := by
  rw [demangleServiceTypeOnly, first]
  dsimp only
  rw [findTypeSuffix_eq, found, pure_bind]
  dsimp only
  rw [substr_eq (Nat.zero_le _), pure_bind, sub_eq_wrapped before]
  rfl

end FirstMarker

theorem demangleServiceTypeOnly_of_none {t : StdString}
    (unfound : find serviceNsSubstring t = none ∨
      Names.findTypeSuffix t typeSuffixes none = none) :
    demangleServiceTypeOnly t = pure (Names.demangleServiceTypeOnly t) := by
  rw [demangleServiceTypeOnly, Names.demangleServiceTypeOnly]
  cases first : find serviceNsSubstring t with
  | none => rfl
  | some p =>
    have missing := unfound.resolve_left (by rw [first]; exact Option.some_ne_none p)
    dsimp only
    rw [findTypeSuffix_eq, missing]
    rfl

theorem demangleServiceTypeOnly_of_service {t : StdString} (service : IsServiceType t) :
    demangleServiceTypeOnly t = pure (Names.demangleServiceTypeOnly t) := by
  obtain ⟨pkg, name, suffix, known, rfl, first⟩ := service.at_first
  have found := findTypeSuffix_append (pkg ++ serviceNsSubstring ++ name) known
  refine demangleServiceTypeOnly_of_le first found ?_
  rw [List.length_append, List.length_append]
  exact Nat.le_add_right _ _

end Checked

/-- A type in which `_Request_` occurs only before the first marker ends with
`_Response_`. -/
def SuffixBehindMarker (t : StdString) : Prop :=
  ∀ p, find serviceNsSubstring t = some p → "_Request_".toList <:+: t →
    "_Request_".toList <:+: t.drop (p + serviceNsSubstring.length) ∨ "_Response_".toList <:+ t

theorem behind_marker_iff {t sub : StdString} {p j : ℕ}
    (first : find serviceNsSubstring t = some p) (found : rfind sub t = some j) :
    p + serviceNsSubstring.length ≤ j ↔ sub <:+: t.drop (p + serviceNsSubstring.length) := by
  obtain ⟨pkg, rest, rfl, rfl⟩ := append_of_find first
  rw [← List.length_append, List.drop_left]
  exact le_rfind_iff found

/-- The scans of a service type stay in bounds exactly if the suffix they settle on is
behind the first marker. -/
theorem demangleServiceTypeOnly_in_bounds_iff (t : StdString) :
    Checked.demangleServiceTypeOnly t = pure (demangleServiceTypeOnly t) ↔
      SuffixBehindMarker t := by
  cases first : find serviceNsSubstring t with
  | none =>
    refine iff_of_true (Checked.demangleServiceTypeOnly_of_none (.inl first)) fun p marked => ?_
    rw [first] at marked
    cases marked
  | some p =>
    by_cases response : "_Response_".toList <:+ t
    · have marked : serviceNsSubstring <:+: t := find_isSome.mp (first ▸ rfl)
      have service := (isServiceType_iff t).mpr ⟨marked, _, by decide, response⟩
      exact iff_of_true (Checked.demangleServiceTypeOnly_of_service service)
        fun _ _ _ => .inr response
    · have last := findTypeSuffix_of_not_suffix response
      cases found : rfind "_Request_".toList t with
      | none =>
        refine iff_of_true (Checked.demangleServiceTypeOnly_of_none (.inr (last.trans found)))
          fun p' _ requested => ?_
        exact absurd requested (rfind_eq_none.mp found)
      | some j =>
        have settled := last.trans found
        constructor
        · intro safe p' first' requested
          obtain rfl := Option.some.inj (first.symm.trans first')
          refine .inl ((behind_marker_iff first found).mp (not_lt.mp fun before => ?_))
          rw [Checked.demangleServiceTypeOnly_of_lt first settled before] at safe
          cases safe
        · intro safe
          have requested : "_Request_".toList <:+: t := rfind_isSome.mp (found ▸ rfl)
          have later := (safe p first requested).resolve_right response
          exact Checked.demangleServiceTypeOnly_of_le first settled
            ((behind_marker_iff first found).mpr later)

/-- On a topic name every check passes, and stripping gives what demangling gives. -/
def TopicInBounds (t : StdString) : Prop :=
  Checked.getRosPrefixIfExists t = pure (getRosPrefixIfExists t) ∧
    Checked.demangleIfRosTopic t = pure (demangleIfRosTopic t) ∧
    Checked.demangleServiceFromTopic t = pure (demangleServiceFromTopic t) ∧
    Checked.stripRosPrefixIfExists t = pure (demangleIfRosTopic t)

def TypeInBounds (t : StdString) : Prop :=
  Checked.demangleIfRosType t = pure (demangleIfRosType t) ∧
    Checked.demangleServiceTypeOnly t = pure (demangleServiceTypeOnly t)

theorem topicInBounds_iff (t : StdString) : TopicInBounds t ↔ t ∉ rosPrefixes := by
  constructor
  · rintro ⟨-, -, -, stripped⟩ bare
    rw [Checked.stripRosPrefixIfExists_of_mem bare] at stripped
    cases stripped
  · intro longer
    exact ⟨Checked.getRosPrefixIfExists_eq t, Checked.demangleIfRosTopic_eq t,
      Checked.demangleServiceFromTopic_eq t, Checked.stripRosPrefixIfExists_eq longer⟩

theorem typeInBounds_iff (t : StdString) : TypeInBounds t ↔ t ≠ [] ∧ SuffixBehindMarker t := by
  rw [TypeInBounds, demangleServiceTypeOnly_in_bounds_iff]
  refine and_congr_left fun _ => ⟨?_, Checked.demangleIfRosType_eq⟩
  rintro checked rfl
  rw [Checked.demangleIfRosType_nil] at checked
  cases checked

/-- The names that are handled within bounds. -/
theorem names_in_bounds_iff (topicName typeName : StdString) :
    TopicInBounds topicName ∧ TypeInBounds typeName ↔
      topicName ∉ rosPrefixes ∧ typeName ≠ [] ∧ SuffixBehindMarker typeName := by
  rw [topicInBounds_iff, typeInBounds_iff]

/-- Out of bounds are the topic `rt`, the type without a name, and a type whose suffix is
before the marker. -/
theorem degenerate_names_out_of_bounds : ¬ TopicInBounds "rt".toList ∧ ¬ TypeInBounds [] ∧
    ¬ TypeInBounds "sum_Request_::srv::dds_::Sum".toList := by
  refine ⟨?_, ?_, ?_⟩
  · rintro ⟨-, -, -, stripped⟩
    exact absurd stripped (by decide)
  · rintro ⟨checked, -⟩
    exact absurd checked (by decide)
  · rintro ⟨-, checked⟩
    exact absurd checked (by decide)

end RmwOpendds.Names
