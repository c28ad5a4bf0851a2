import RmwOpendds.Library.Narrowing
import RmwOpendds.QosRoundTrip
import RmwOpendds.Wait
import Mathlib

/-! Durations on their way to DDS: `time_to_dds` for the liveliness lease and the
timeout of `rmw_wait`. Both cut the seconds and the nanoseconds to 32 bits, each
for itself. Durations are compared in nanoseconds. -/

namespace RmwOpendds.Qos

open Library Wait

def requested (t : RmwTime) : ℤ := t.sec.toNat * 10 ^ 9 + t.nsec.toNat

def nanoseconds (d : Duration) : ℤ := d.sec.toInt * 10 ^ 9 + d.nanosec.toNat

def denoted (d : Duration) : WithTop ℤ :=
  if d = durationInfinite then ⊤ else (nanoseconds d : WithTop ℤ)

def durationLargest : Duration := ⟨0x7fffffff, 999999999⟩

def Fits (t : RmwTime) : Prop := requested t < 2 ^ 31 * 10 ^ 9

def Faithful (t : RmwTime) (d : Duration) : Prop :=
  (0 ≤ denoted d ∧ denoted d = requested t) ∨
    (¬ Fits t ∧ (d = durationInfinite ∨ d = durationLargest))

structure DurationsKept (t t' : RmwTime) : Prop where
  leaseFaithful : Faithful t (timeToDds t) ∧ Faithful t' (timeToDds t')
  timeoutFaithful : Faithful t (timeout (some t)) ∧ Faithful t' (timeout (some t'))
  leaseMonotone : requested t ≤ requested t' → denoted (timeToDds t) ≤ denoted (timeToDds t')
  timeoutMonotone :
    requested t ≤ requested t' → denoted (timeout (some t)) ≤ denoted (timeout (some t'))
  roundTrip : (Fits t → requested (timeToRmw (timeToDds t)) = requested t) ∧
    (Fits t' → requested (timeToRmw (timeToDds t')) = requested t')

/-- The low 32 bits of the seconds and of the nanoseconds. -/
def CutTo (t : RmwTime) (sec nsec : ℕ) : Prop :=
  t.sec.toNat % 2 ^ 32 = sec ∧ t.nsec.toNat % 2 ^ 32 = nsec

instance (t : RmwTime) (sec nsec : ℕ) : Decidable (CutTo t sec nsec) :=
  inferInstanceAs (Decidable (_ ∧ _))

abbrev CutToInfinite (t : RmwTime) : Prop := CutTo t (2 ^ 31 - 1) (2 ^ 31 - 1)

abbrev CutToLargest (t : RmwTime) : Prop := CutTo t (2 ^ 31 - 1) (10 ^ 9 - 1)

/-- Both numbers fit their fields, or the time is too long for DDS and what is left
of it is by chance infinite or the longest duration. -/
def Narrowable (t : RmwTime) : Prop :=
  (t.sec.toNat < 2 ^ 31 ∧ t.nsec.toNat < 2 ^ 32) ∨
    (¬ Fits t ∧ (CutToInfinite t ∨ CutToLargest t))

/-- A time that becomes infinite is followed by such times only; one that becomes
the longest duration is preceded only by times that fit or become that too. -/
def Ordered (t t' : RmwTime) : Prop :=
  requested t ≤ requested t' →
    (CutToInfinite t → CutToInfinite t') ∧ (CutToLargest t' → Fits t ∨ CutToLargest t)

theorem timeToDds_eq_iff {t : RmwTime} {sec : Int32} {nanosec : UInt32} (nonneg : 0 ≤ sec.toInt) :
    timeToDds t = ⟨sec, nanosec⟩ ↔ CutTo t sec.toInt.toNat nanosec.toNat := by
  have upper : sec.toInt < 2 ^ 31 := sec.toInt_lt
  have low : t.nsec.toUInt32.toNat = t.nsec.toNat % 2 ^ 32 := by simp
  rw [timeToDds, Duration.mk.injEq, ← Int32.toInt_inj, ← UInt32.toNat_inj, toInt_narrow, low, CutTo]
  split_ifs <;> omega

theorem timeToDds_infinite {t : RmwTime} : timeToDds t = durationInfinite ↔ CutToInfinite t :=
  timeToDds_eq_iff (by decide)

theorem timeToDds_largest {t : RmwTime} : timeToDds t = durationLargest ↔ CutToLargest t :=
  timeToDds_eq_iff (by decide)

theorem denoted_timeToDds (t : RmwTime) :
    denoted (timeToDds t) =
      if CutToInfinite t then ⊤ else (nanoseconds (timeToDds t) : WithTop ℤ) := by
  simp only [denoted, timeToDds_infinite]

theorem nanoseconds_timeToDds (t : RmwTime) :
    nanoseconds (timeToDds t) =
      (if t.sec.toNat % 2 ^ 32 < 2 ^ 31 then (t.sec.toNat % 2 ^ 32 : ℤ)
       else (t.sec.toNat % 2 ^ 32 : ℤ) - 2 ^ 32) * 10 ^ 9 + t.nsec.toNat % 2 ^ 32 := by
  have low : t.nsec.toUInt32.toNat = t.nsec.toNat % 2 ^ 32 := by simp
  simp only [nanoseconds, timeToDds, toInt_narrow, low]
  push_cast
  rfl

theorem nanoseconds_eq_iff (t : RmwTime) :
    nanoseconds (timeToDds t) = requested t ↔ t.sec.toNat < 2 ^ 31 ∧ t.nsec.toNat < 2 ^ 32 := by
  rw [nanoseconds_timeToDds, requested]
  split_ifs <;> omega

theorem faithful_iff (t : RmwTime) : Faithful t (timeToDds t) ↔ Narrowable t := by
  have exact := nanoseconds_eq_iff t
  rw [Faithful, timeToDds_infinite, timeToDds_largest, denoted_timeToDds, Narrowable]
  constructor
  · rintro (⟨-, same⟩ | other)
    · split_ifs at same with infinite
      · cases same
      · exact .inl (exact.mp (WithTop.coe_inj.mp same))
    · exact .inr other
  · rintro (fits | other)
    · by_cases infinite : CutToInfinite t
      · refine .inr ⟨?_, .inl infinite⟩
        rw [Fits, requested]
        unfold CutToInfinite CutTo at infinite
        omega
      · refine .inl ?_
        rw [if_neg infinite, exact.mpr fits]
        refine ⟨?_, rfl⟩
        have nonneg : 0 ≤ requested t := by
          rw [requested]
          omega
        exact_mod_cast nonneg
    · exact .inr other

theorem roundTrip {t : RmwTime} (narrowable : Narrowable t) (fits : Fits t) :
    requested (timeToRmw (timeToDds t)) = requested t := by
  obtain ⟨sec, nsec⟩ := narrowable.resolve_right fun other => other.1 fits
  rw [timeToRmw, timeToDds]
  dsimp only
  rw [toUInt64_toInt32 sec, toUInt64_toUInt32 nsec]

theorem not_largest_of_infinite {t : RmwTime} (infinite : CutToInfinite t) : ¬ CutToLargest t := by
  unfold CutToInfinite CutTo at infinite
  unfold CutToLargest CutTo
  omega

theorem nanoseconds_of_narrowable {t : RmwTime} (narrowable : Narrowable t)
    (finite : ¬ CutToInfinite t) :
    nanoseconds (timeToDds t) = requested t ∨
      ¬ Fits t ∧ CutToLargest t ∧ nanoseconds (timeToDds t) = 2 ^ 31 * 10 ^ 9 - 1 := by
  obtain fits | ⟨long, infinite | largest⟩ := narrowable
  · exact .inl ((nanoseconds_eq_iff t).mpr fits)
  · exact absurd infinite finite
  · refine .inr ⟨long, largest, ?_⟩
    rw [timeToDds_largest.mpr largest]
    rfl

theorem fits_of_exact {t : RmwTime} (exact : nanoseconds (timeToDds t) = requested t)
    (largest : CutToLargest t) : Fits t := by
  rw [timeToDds_largest.mpr largest] at exact
  rw [Fits, ← exact]
  decide

theorem monotone_iff {t t' : RmwTime} (narrowable : Narrowable t) (narrowable' : Narrowable t') :
    (requested t ≤ requested t' → denoted (timeToDds t) ≤ denoted (timeToDds t')) ↔
      Ordered t t' := by
  rw [denoted_timeToDds, denoted_timeToDds, Ordered]
  refine imp_congr_right fun below => ?_
  by_cases infinite' : CutToInfinite t'
  · simp [infinite', not_largest_of_infinite infinite']
  by_cases infinite : CutToInfinite t
  · simp [infinite, infinite']
  rw [if_neg infinite, if_neg infinite', WithTop.coe_le_coe]
  have before := nanoseconds_of_narrowable narrowable infinite
  have after := nanoseconds_of_narrowable narrowable' infinite'
  refine Iff.trans ?_ (and_iff_right (fun h => absurd h infinite)).symm
  constructor
  · intro ordered largest'
    obtain exact | ⟨-, largest, -⟩ := before
    · have top : nanoseconds (timeToDds t') = 2 ^ 31 * 10 ^ 9 - 1 := by
        rw [timeToDds_largest.mpr largest']
        rfl
      refine .inl ?_
      rw [Fits]
      omega
    · exact .inr largest
  · intro ordered
    obtain exact | ⟨long, largest, top⟩ := before
    · obtain exact' | ⟨long', largest', top'⟩ := after
      · omega
      · obtain fits | largest := ordered largest'
        · rw [Fits] at fits
          omega
        · have fits := fits_of_exact exact largest
          rw [Fits] at fits
          omega
    · rw [Fits] at long
      obtain exact' | ⟨-, -, top'⟩ := after <;> omega

/-- The two times are handed on to DDS as they should be exactly if each is cut to
something that stands for it, and the order between them is kept. -/
theorem durationsKept_iff (t t' : RmwTime) :
    DurationsKept t t' ↔ Narrowable t ∧ Narrowable t' ∧ Ordered t t' := by
  constructor
  · intro kept
    have narrowable := (faithful_iff t).mp kept.leaseFaithful.1
    have narrowable' := (faithful_iff t').mp kept.leaseFaithful.2
    exact ⟨narrowable, narrowable', (monotone_iff narrowable narrowable').mp kept.leaseMonotone⟩
  · rintro ⟨narrowable, narrowable', ordered⟩
    have faithful := And.intro ((faithful_iff t).mpr narrowable) ((faithful_iff t').mpr narrowable')
    have monotone := (monotone_iff narrowable narrowable').mpr ordered
    exact ⟨faithful, faithful, monotone, monotone, roundTrip narrowable, roundTrip narrowable'⟩

/-- A lease or timeout of 2^31 seconds is handed on as a negative one. -/
theorem duration_negative : ¬ ∀ t t', DurationsKept t t' := by
  intro claim
  have faithful := (claim ⟨2147483648, 0⟩ ⟨2147483648, 0⟩).leaseFaithful.1
  obtain ⟨nonneg, -⟩ | ⟨-, infinite | largest⟩ := faithful
  · exact absurd nonneg (by decide)
  · exact absurd infinite (by decide)
  · exact absurd largest (by decide)

end RmwOpendds.Qos
