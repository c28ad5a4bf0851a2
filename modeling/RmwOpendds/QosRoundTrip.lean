import RmwOpendds.Library.Fallible
import RmwOpendds.Qos
import Mathlib

/-! What `get_rmw_qos` reports for an entity created from a profile. Each policy
has its own lemma about its switch; the deadline and the lifespan have none,
since `rmw_qos_to_dds_qos` never sets them. -/

namespace RmwOpendds.Qos

open Library

theorem rmwQosToDdsQos_ok {ndebug : Bool} {q : RmwQosProfile} {d w : EntityQos}
    (h : rmwQosToDdsQos ndebug q d = .ok w) :
    ddsHistoryKind q.history d.historyKind = .ok w.historyKind ∧
    ddsHistoryDepth ndebug w.historyKind q.depth d.historyDepth = .ok w.historyDepth ∧
    ddsReliabilityKind q.reliability d.reliabilityKind = .ok w.reliabilityKind ∧
    ddsDurabilityKind q.durability d.durabilityKind = .ok w.durabilityKind ∧
    ddsLivelinessKind q.liveliness d.livelinessKind = .ok w.livelinessKind ∧
    w.livelinessLeaseDuration =
      (if !isDefault q.livelinessLeaseDuration then timeToDds q.livelinessLeaseDuration
       else d.livelinessLeaseDuration) ∧
    w.deadlinePeriod = d.deadlinePeriod := by
  unfold rmwQosToDdsQos at h
  obtain ⟨historyKind, hk, h⟩ := bind_eq_ok.mp h
  obtain ⟨historyDepth, hd, h⟩ := bind_eq_ok.mp h
  obtain ⟨reliabilityKind, hr, h⟩ := bind_eq_ok.mp h
  obtain ⟨durabilityKind, hu, h⟩ := bind_eq_ok.mp h
  obtain ⟨livelinessKind, hl, h⟩ := bind_eq_ok.mp h
  have hw := Except.ok.inj h
  subst hw
  exact ⟨hk, hd, hr, hu, hl, rfl, rfl⟩

theorem rmwHistory_of_ok {r : RmwHistory} {d k : HistoryKind} (h : ddsHistoryKind r d = .ok k) :
    rmwHistory k = if r = .systemDefault then rmwHistory d else r := by
  cases r <;> simp [ddsHistoryKind] at h <;> subst h <;> rfl

theorem rmwReliability_of_ok {r : RmwReliability} {d k : ReliabilityKind}
    (h : ddsReliabilityKind r d = .ok k) :
    rmwReliability k = if r = .systemDefault then rmwReliability d else r := by
  cases r <;> simp [ddsReliabilityKind] at h <;> subst h <;> rfl

theorem rmwDurability_of_ok {r : RmwDurability} {d k : DurabilityKind}
    (h : ddsDurabilityKind r d = .ok k) :
    rmwDurability k = if r = .systemDefault then rmwDurability d else r := by
  cases r <;> simp [ddsDurabilityKind] at h <;> subst h <;> rfl

theorem rmwLiveliness_of_ok {r : RmwLiveliness} {d k : LivelinessKind}
    (h : ddsLivelinessKind r d = .ok k) :
    rmwLiveliness k = if r = .systemDefault then rmwLiveliness d else r := by
  cases r <;> simp [ddsLivelinessKind] at h <;> subst h <;> rfl

theorem toUInt64_toInt32 {n : UInt64} (fits : n.toNat < 2 ^ 31) :
    n.toUInt32.toInt32.toInt64.toUInt64 = n := by
  have low : n.toNat % 4294967296 = n.toNat := Nat.mod_eq_of_lt (by omega)
  apply UInt64.toBitVec_inj.mp
  apply BitVec.eq_of_toNat_eq
  simp [BitVec.toNat_signExtend, BitVec.toNat_setWidth, BitVec.msb_eq_decide]
  rw [low]
  split <;> omega

theorem toUInt64_toUInt32 {n : UInt64} (fits : n.toNat < 2 ^ 32) : n.toUInt32.toUInt64 = n := by
  apply UInt64.toNat_inj.mp
  simp
  omega

def Representable (t : RmwTime) : Prop := t.sec.toNat < 2 ^ 31 ∧ t.nsec.toNat < 10 ^ 9

instance (t : RmwTime) : Decidable (Representable t) := inferInstanceAs (Decidable (_ ∧ _))

theorem timeToRmw_timeToDds {t : RmwTime} (fits : Representable t) :
    timeToRmw (timeToDds t) = t := by
  obtain ⟨sec, nsec⟩ := fits
  rw [timeToRmw, timeToDds]
  dsimp only
  rw [toUInt64_toInt32 sec, toUInt64_toUInt32 (by omega)]

theorem depth_of_ok {ndebug : Bool} {kind : HistoryKind} {rmw : UInt64} {dds depth : Int32}
    (fits : rmw.toNat < 2 ^ 31) (h : ddsHistoryDepth ndebug kind rmw dds = .ok depth) :
    depth.toInt64.toUInt64 =
      if rmw = depthSystemDefault then dds.toInt64.toUInt64 else rmw := by
  have back := toUInt64_toInt32 fits
  unfold ddsHistoryDepth at h
  by_cases zero : rmw = depthSystemDefault
  · subst zero
    have never : ∀ n : UInt64, ¬ n < depthSystemDefault := fun n => UInt64.not_lt_zero
    simp only [ne_eq, not_true_eq_false, if_false, never, and_false] at h
    split at h
    · cases h
    · rw [if_pos rfl, Except.ok.inj h]
  · simp only [ne_eq, zero, not_false_eq_true, if_true, back, UInt64.lt_irrefl, and_false,
      if_false] at h
    split at h
    · cases h
    · rw [if_neg zero, ← Except.ok.inj h, back]

/-- What a profile asks for, policy by policy: its own value, or the default's
where it leaves the policy to the system. The lifespan is apart, since readers
have none. -/
structure ReportsRequested (q dflt reported : RmwQosProfile) : Prop where
  history : reported.history = if q.history = .systemDefault then dflt.history else q.history
  depth : reported.depth = if q.depth = depthSystemDefault then dflt.depth else q.depth
  reliability : reported.reliability =
    if q.reliability = .systemDefault then dflt.reliability else q.reliability
  durability : reported.durability =
    if q.durability = .systemDefault then dflt.durability else q.durability
  deadline : reported.deadline = if isDefault q.deadline then dflt.deadline else q.deadline
  liveliness : reported.liveliness =
    if q.liveliness = .systemDefault then dflt.liveliness else q.liveliness
  livelinessLeaseDuration : reported.livelinessLeaseDuration =
    if isDefault q.livelinessLeaseDuration then dflt.livelinessLeaseDuration
    else q.livelinessLeaseDuration

def ReportsLifespan (q dflt reported : RmwQosProfile) : Prop :=
  reported.lifespan = if isDefault q.lifespan then dflt.lifespan else q.lifespan

theorem value_eq_request_iff {dflt request : RmwTime} :
    (dflt = if isDefault request then dflt else request) ↔
      (isDefault request ∨ request = dflt) := by
  cases h : isDefault request with
  | true => simp
  | false => simpa using eq_comm

theorem reportsRequested_iff {ndebug : Bool} {q : RmwQosProfile} {d w : EntityQos}
    (depth_fits : q.depth.toNat < 2 ^ 31) (lease_fits : Representable q.livelinessLeaseDuration)
    (made : rmwQosToDdsQos ndebug q d = .ok w) (caller : RmwQosProfile) :
    ReportsRequested q (dataReaderQosToRmwQos d caller) (dataReaderQosToRmwQos w caller) ↔
      (isDefault q.deadline ∨ q.deadline = timeToRmw d.deadlinePeriod) := by
  obtain ⟨history, depth, reliability, durability, liveliness, lease, deadline⟩ :=
    rmwQosToDdsQos_ok made
  have same : (dataReaderQosToRmwQos w caller).deadline = timeToRmw d.deadlinePeriod :=
    congrArg timeToRmw deadline
  constructor
  · intro h
    exact value_eq_request_iff.mp (same.symm.trans h.deadline)
  · intro h
    refine ⟨rmwHistory_of_ok history, depth_of_ok depth_fits depth,
      rmwReliability_of_ok reliability, rmwDurability_of_ok durability,
      same.trans (value_eq_request_iff.mpr h), rmwLiveliness_of_ok liveliness, ?_⟩
    change timeToRmw w.livelinessLeaseDuration = _
    rw [lease]
    cases zero : isDefault q.livelinessLeaseDuration with
    | true => simp [dataReaderQosToRmwQos, ddsQosToRmwQos]
    | false => simp [timeToRmw_timeToDds lease_fits]

theorem reportsRequested_writer (q caller : RmwQosProfile) (d w : DataWriterQos) :
    ReportsRequested q (dataWriterQosToRmwQos d caller) (dataWriterQosToRmwQos w caller) ↔
      ReportsRequested q (dataReaderQosToRmwQos d.toEntityQos caller)
        (dataReaderQosToRmwQos w.toEntityQos caller) :=
  ⟨fun h => ⟨h.1, h.2, h.3, h.4, h.5, h.6, h.7⟩, fun h => ⟨h.1, h.2, h.3, h.4, h.5, h.6, h.7⟩⟩

theorem getDatawriterQos_ok {ndebug : Bool} {q : RmwQosProfile} {d w : DataWriterQos}
    (h : getDatawriterQos ndebug (some d) q = .ok w) :
    rmwQosToDdsQos ndebug q d.toEntityQos = .ok w.toEntityQos ∧
      w.lifespanDuration = d.lifespanDuration := by
  obtain ⟨entityQos, made, h⟩ := bind_eq_ok.mp h
  have hw := Except.ok.inj h
  subst hw
  exact ⟨made, rfl⟩

/-- For a writer and a reader made from a profile that fits the DDS types, what
`get_rmw_qos` reports is the profile completed by the defaults exactly when the
profile asks for no deadline (for a writer: nor lifespan) other than the default's. -/
theorem actual_qos_iff (ndebug : Bool) (q caller : RmwQosProfile) (d w : DataWriterQos)
    (e r : DataReaderQos) (depth_fits : q.depth.toNat < 2 ^ 31)
    (lease_fits : Representable q.livelinessLeaseDuration)
    (writer_made : getDatawriterQos ndebug (some d) q = .ok w)
    (reader_made : getDatareaderQos ndebug (some e) q = .ok r) :
    (getRmwQosOfWriter (some w) caller).1 = .ok ∧
    (getRmwQosOfReader (some r) caller).1 = .ok ∧
    (ReportsRequested q (dataWriterQosToRmwQos d caller) (getRmwQosOfWriter (some w) caller).2 ∧
      ReportsLifespan q (dataWriterQosToRmwQos d caller) (getRmwQosOfWriter (some w) caller).2 ↔
        (isDefault q.deadline ∨ q.deadline = timeToRmw d.deadlinePeriod) ∧
        (isDefault q.lifespan ∨ q.lifespan = timeToRmw d.lifespanDuration)) ∧
    (ReportsRequested q (dataReaderQosToRmwQos e caller) (getRmwQosOfReader (some r) caller).2 ↔
      (isDefault q.deadline ∨ q.deadline = timeToRmw e.deadlinePeriod)) := by
  obtain ⟨made, lifespan⟩ := getDatawriterQos_ok writer_made
  refine ⟨rfl, rfl, and_congr ?_ ?_, reportsRequested_iff depth_fits lease_fits reader_made caller⟩
  · exact (reportsRequested_writer q caller d w).trans
      (reportsRequested_iff depth_fits lease_fits made caller)
  · have same : (dataWriterQosToRmwQos w caller).lifespan = timeToRmw d.lifespanDuration :=
      congrArg timeToRmw lifespan
    rw [ReportsLifespan, getRmwQosOfWriter, same]
    exact value_eq_request_iff

def profileWithDeadline (deadline : RmwTime) : RmwQosProfile where
  history := .keepLast
  depth := 10
  reliability := .reliable
  durability := .systemDefault
  deadline := deadline
  lifespan := ⟨0, 0⟩
  liveliness := .systemDefault
  livelinessLeaseDuration := ⟨0, 0⟩
  avoidRosNamespaceConventions := false

/-- The default QoS of the DDS specification, with infinite durations. -/
def specifiedDefault : DataWriterQos where
  historyKind := .keepLast
  historyDepth := 1
  reliabilityKind := .bestEffort
  durabilityKind := .volatile
  deadlinePeriod := ⟨0x7fffffff, 0x7fffffff⟩
  livelinessKind := .automatic
  livelinessLeaseDuration := ⟨0x7fffffff, 0x7fffffff⟩
  lifespanDuration := ⟨0x7fffffff, 0x7fffffff⟩

theorem actual_qos_iff_no_deadline :
    ∃ w r, getDatawriterQos false (some specifiedDefault) (profileWithDeadline ⟨0, 0⟩) = .ok w ∧
      getDatareaderQos false (some specifiedDefault.toEntityQos)
        (profileWithDeadline ⟨0, 0⟩) = .ok r ∧
      ReportsRequested (profileWithDeadline ⟨0, 0⟩)
        (dataWriterQosToRmwQos specifiedDefault (profileWithDeadline ⟨0, 0⟩))
        (getRmwQosOfWriter (some w) (profileWithDeadline ⟨0, 0⟩)).2 := by
  refine ⟨{ specifiedDefault with historyDepth := 10, reliabilityKind := .reliable },
    { specifiedDefault.toEntityQos with historyDepth := 10, reliabilityKind := .reliable },
    rfl, rfl, ?_⟩
  exact ((actual_qos_iff false _ _ _ _ specifiedDefault.toEntityQos _ (by decide) (by decide)
    rfl rfl).2.2.1.mpr (by decide)).1

/-- A deadline of five seconds is not reported. -/
theorem actual_qos_deadline_lost :
    ¬ ∀ (ndebug : Bool) (q caller : RmwQosProfile) (d w : DataWriterQos),
      q.depth.toNat < 2 ^ 31 → Representable q.deadline → Representable q.lifespan →
      Representable q.livelinessLeaseDuration → getDatawriterQos ndebug (some d) q = .ok w →
      ReportsRequested q (dataWriterQosToRmwQos d caller)
        (getRmwQosOfWriter (some w) caller).2 := by
  intro claim
  have reported := claim false (profileWithDeadline ⟨5, 0⟩) (profileWithDeadline ⟨0, 0⟩)
    specifiedDefault { specifiedDefault with historyDepth := 10, reliabilityKind := .reliable }
    (by decide) (by decide) (by decide) (by decide) rfl
  exact absurd reported.deadline (by decide)

end RmwOpendds.Qos
