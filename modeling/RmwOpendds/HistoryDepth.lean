import RmwOpendds.Library.Narrowing
import RmwOpendds.QosRoundTrip
import Mathlib

/-! The history depth on its way into `CORBA::Long`. The limit the source checks
is that of `CORBA::ULong`, so a depth whose low 32 bits have the sign bit set
arrives negative. -/

namespace RmwOpendds.Qos

open Library

def AssertionFails (result : Except QosFailure EntityQos) : Prop :=
  ∃ text, result = .error (.assertionFailed text)

/-- The assertion on the depth holds, and a `KEEP_LAST` depth that is accepted is
at least the requested one, and that one where the profile gives it. -/
structure DepthKept (q : RmwQosProfile) (d : EntityQos) : Prop where
  asserted : ¬ AssertionFails (rmwQosToDdsQos false q d)
  kept : q.history = .keepLast → ∀ ndebug w, rmwQosToDdsQos ndebug q d = .ok w →
    0 ≤ w.historyDepth.toInt ∧ q.depth.toNat ≤ w.historyDepth.toInt ∧
      (q.depth ≠ depthSystemDefault → w.historyDepth.toInt = q.depth.toNat)

def assignedDepth (rmw : UInt64) (dds : Int32) : Int32 :=
  if rmw ≠ depthSystemDefault then rmw.toUInt32.toInt32 else dds

theorem assignedDepth_nonneg_iff (rmw : UInt64) {dds : Int32} (nonneg : 0 ≤ dds.toInt) :
    0 ≤ (assignedDepth rmw dds).toInt ↔ rmw.toNat % 2 ^ 32 < 2 ^ 31 := by
  unfold assignedDepth
  split_ifs with given
  · exact narrow_nonneg_iff rmw
  · have zero : rmw = 0 := not_not.mp given
    simp [zero, nonneg]

theorem depth_assertionFails_iff (kind : HistoryKind) {rmw : UInt64} {dds : Int32} :
    (∃ text, ddsHistoryDepth false kind rmw dds = .error (.assertionFailed text)) ↔
      (assignedDepth rmw dds).toInt < 0 := by
  have spelled : assignedDepth rmw dds < 0 ↔ (assignedDepth rmw dds).toInt < 0 :=
    Int32.lt_iff_toInt_lt
  unfold ddsHistoryDepth
  simp only [← assignedDepth.eq_1]
  by_cases negative : assignedDepth rmw dds < 0
  · simp [negative, spelled.mp negative]
  · have other := mt spelled.mpr negative
    simp only [Bool.not_false, negative, decide_false, Bool.and_false, Bool.false_eq_true,
      if_false, other, iff_false, not_exists]
    intro text
    split_ifs <;> simp

theorem assignedDepth_of_nonneg {rmw : UInt64} {dds : Int32} (given : rmw ≠ depthSystemDefault)
    (nonneg : 0 ≤ (assignedDepth rmw dds).toInt) :
    (assignedDepth rmw dds).toInt = rmw.toNat % 2 ^ 32 := by
  rw [assignedDepth, if_pos given] at nonneg ⊢
  rw [toInt_narrow, if_pos ((narrow_nonneg_iff rmw).mp nonneg)]

/-- A `KEEP_LAST` depth that is stored non-negative is the requested one: the
second store never runs, since a depth beyond 2^32 is refused and a smaller one
is not above itself. -/
theorem depth_kept {ndebug : Bool} {rmw : UInt64} {dds depth : Int32}
    (nonneg : 0 ≤ (assignedDepth rmw dds).toInt)
    (made : ddsHistoryDepth ndebug .keepLast rmw dds = .ok depth) :
    0 ≤ depth.toInt ∧ rmw.toNat ≤ depth.toInt ∧
      (rmw ≠ depthSystemDefault → depth.toInt = rmw.toNat) := by
  have widened := toNat_widen nonneg
  have residue := fun given => assignedDepth_of_nonneg given nonneg
  unfold ddsHistoryDepth at made
  simp only [← assignedDepth.eq_1, true_and] at made
  split_ifs at made with negative above beyond
  · -- the second store
    have given : rmw ≠ depthSystemDefault := fun zero => by
      rw [zero] at above
      exact UInt64.not_lt_zero above
    have above := UInt64.lt_iff_toNat_lt.mp above
    have within : rmw.toNat ≤ 4294967295 := UInt64.le_iff_toNat_le.mp (UInt64.not_lt.mp beyond)
    have := residue given
    omega
  · have same := Except.ok.inj made
    subst same
    have below := UInt64.le_iff_toNat_le.mp (UInt64.not_lt.mp above)
    refine ⟨nonneg, by omega, fun given => ?_⟩
    have := residue given
    omega

theorem ddsHistoryKind_isError_iff {r : RmwHistory} {d : HistoryKind} {e : QosFailure} :
    ddsHistoryKind r d = .error e ↔
      r = .unknown ∧ e = .errorMsg "Unknown QoS history policy" := by
  cases r <;> simp [ddsHistoryKind, eq_comm]

theorem ddsReliabilityKind_ne_assertion {r : RmwReliability} {d : ReliabilityKind} {text : String} :
    ddsReliabilityKind r d ≠ .error (.assertionFailed text) := by
  cases r <;> simp [ddsReliabilityKind]

theorem ddsDurabilityKind_ne_assertion {r : RmwDurability} {d : DurabilityKind} {text : String} :
    ddsDurabilityKind r d ≠ .error (.assertionFailed text) := by
  cases r <;> simp [ddsDurabilityKind]

theorem ddsLivelinessKind_ne_assertion {r : RmwLiveliness} {d : LivelinessKind} {text : String} :
    ddsLivelinessKind r d ≠ .error (.assertionFailed text) := by
  cases r <;> simp [ddsLivelinessKind]

theorem assertionFails_iff {q : RmwQosProfile} {d : EntityQos} :
    AssertionFails (rmwQosToDdsQos false q d) ↔
      q.history ≠ .unknown ∧ (assignedDepth q.depth d.historyDepth).toInt < 0 := by
  constructor
  · rintro ⟨text, fails⟩
    unfold rmwQosToDdsQos at fails
    obtain fails | ⟨kind, made, fails⟩ := bind_eq_error.mp fails
    · exact absurd (ddsHistoryKind_isError_iff.mp fails).2 (by simp)
    obtain fails | ⟨depth, -, fails⟩ := bind_eq_error.mp fails
    · refine ⟨fun unknown => ?_, (depth_assertionFails_iff kind).mp ⟨text, fails⟩⟩
      rw [unknown] at made
      cases made
    obtain fails | ⟨_, -, fails⟩ := bind_eq_error.mp fails
    · exact absurd fails ddsReliabilityKind_ne_assertion
    obtain fails | ⟨_, -, fails⟩ := bind_eq_error.mp fails
    · exact absurd fails ddsDurabilityKind_ne_assertion
    obtain fails | ⟨_, -, fails⟩ := bind_eq_error.mp fails
    · exact absurd fails ddsLivelinessKind_ne_assertion
    · cases fails
  · rintro ⟨known, negative⟩
    cases made : ddsHistoryKind q.history d.historyKind with
    | error e => exact absurd (ddsHistoryKind_isError_iff.mp made).1 known
    | ok kind =>
      obtain ⟨text, fails⟩ := (depth_assertionFails_iff kind).mpr negative
      refine ⟨text, bind_eq_error.mpr (.inr ⟨kind, made, bind_eq_error.mpr (.inl fails)⟩)⟩

/-- With a default that is itself a depth, the requested depth arrives exactly when
its low 32 bits are below 2^31, or when the profile is refused before the depth is
looked at. -/
theorem depthKept_iff (q : RmwQosProfile) (d : EntityQos) (nonneg : 0 ≤ d.historyDepth.toInt) :
    DepthKept q d ↔ q.history = .unknown ∨ q.depth.toNat % 2 ^ 32 < 2 ^ 31 := by
  have stored := assignedDepth_nonneg_iff q.depth nonneg
  constructor
  · intro kept
    by_contra other
    rw [not_or] at other
    refine kept.asserted (assertionFails_iff.mpr ⟨other.1, ?_⟩)
    exact Int.not_le.mp (mt stored.mp other.2)
  · intro fits
    refine ⟨fun fails => ?_, fun keepLast ndebug w made => ?_⟩
    · obtain ⟨known, negative⟩ := assertionFails_iff.mp fails
      have := stored.mpr (fits.resolve_left known)
      omega
    · have low := fits.resolve_left (by simp [keepLast])
      obtain ⟨kind, depth, -⟩ := rmwQosToDdsQos_ok made
      have same : w.historyKind = .keepLast := by
        rw [keepLast] at kind
        exact (Except.ok.inj kind).symm
      rw [same] at depth
      exact depth_kept (stored.mpr low) depth

theorem depthKept_ten : DepthKept (profileWithDeadline ⟨0, 0⟩) specifiedDefault.toEntityQos :=
  (depthKept_iff _ _ (by decide)).mpr (.inr (by decide))

/-- A depth of 2^31 aborts, or without assertions is stored as the least number of
the DDS type. -/
theorem depth_stored_negative :
    ¬ ∀ (q : RmwQosProfile) (d : EntityQos), 0 ≤ d.historyDepth.toInt → DepthKept q d := by
  intro claim
  have kept := claim { profileWithDeadline ⟨0, 0⟩ with depth := 2147483648 }
    specifiedDefault.toEntityQos (by decide)
  have stored := (kept.kept rfl true
    { specifiedDefault.toEntityQos with
      historyDepth := -2147483648, reliabilityKind := .reliable } (by decide)).1
  exact absurd stored (by decide)

end RmwOpendds.Qos
