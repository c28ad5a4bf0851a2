import RmwOpendds.ReturnCodes

/-! QoS translation of `qos.hpp` and `qos.cpp`. `size_t` and `uint64_t` are
`UInt64`, `CORBA::Long` is `Int32`, `CORBA::ULong` is `UInt32`; conversions wrap
and sign-extend as in C++. The two templates touch the same fields of both DDS
entity QoS types, so they are written once on these fields; the overload for
`lifespan`, which only the writer QoS has, is an argument. -/

namespace RmwOpendds

structure RmwTime where
  sec : UInt64
  nsec : UInt64
  deriving DecidableEq, Repr

structure Duration where
  sec : Int32
  nanosec : UInt32
  deriving DecidableEq, Repr

inductive RmwHistory where
  | systemDefault | keepLast | keepAll | unknown
  deriving DecidableEq, Repr

inductive RmwReliability where
  | systemDefault | reliable | bestEffort | unknown
  deriving DecidableEq, Repr

inductive RmwDurability where
  | systemDefault | transientLocal | volatile | unknown
  deriving DecidableEq, Repr

inductive RmwLiveliness where
  | systemDefault | automatic | manualByNode | manualByTopic | unknown
  deriving DecidableEq, Repr

structure RmwQosProfile where
  history : RmwHistory
  depth : UInt64
  reliability : RmwReliability
  durability : RmwDurability
  deadline : RmwTime
  lifespan : RmwTime
  liveliness : RmwLiveliness
  livelinessLeaseDuration : RmwTime
  avoidRosNamespaceConventions : Bool
  deriving DecidableEq, Repr

inductive HistoryKind where
  | keepLast | keepAll
  deriving DecidableEq, Repr

inductive ReliabilityKind where
  | bestEffort | reliable
  deriving DecidableEq, Repr

inductive DurabilityKind where
  | volatile | transientLocal | transient | persistent
  deriving DecidableEq, Repr

inductive LivelinessKind where
  | automatic | manualByParticipant | manualByTopic
  deriving DecidableEq, Repr

/-- The policies that `DataWriterQos` and `DataReaderQos` share. -/
structure EntityQos where
  historyKind : HistoryKind
  historyDepth : Int32
  reliabilityKind : ReliabilityKind
  durabilityKind : DurabilityKind
  deadlinePeriod : Duration
  livelinessKind : LivelinessKind
  livelinessLeaseDuration : Duration
  deriving DecidableEq, Repr

abbrev DataReaderQos := EntityQos

structure DataWriterQos extends EntityQos where
  lifespanDuration : Duration
  deriving DecidableEq, Repr

/-- Why a conversion gives no QoS: an error message is set and false returned,
or the assertion aborts the process. -/
inductive QosFailure where
  | errorMsg (text : String)
  | assertionFailed (text : String)
  deriving DecidableEq, Repr

namespace Qos

def depthSystemDefault : UInt64 := 0

def isDefault (t : RmwTime) : Bool := t.sec == 0 && t.nsec == 0

def timeToDds (rmw : RmwTime) : Duration := ⟨rmw.sec.toUInt32.toInt32, rmw.nsec.toUInt32⟩

def timeToRmw (dds : Duration) : RmwTime := ⟨dds.sec.toInt64.toUInt64, dds.nanosec.toUInt64⟩

def ddsHistoryKind (rmw : RmwHistory) (dds : HistoryKind) : Except QosFailure HistoryKind :=
  match rmw with
  | .keepLast => .ok .keepLast
  | .keepAll => .ok .keepAll
  | .systemDefault => .ok dds
  | .unknown => .error (.errorMsg "Unknown QoS history policy")

/-- The depth part of `rmw_qos_to_dds_qos`; `ndebug` tells whether the assertion
is compiled out. -/
def ddsHistoryDepth (ndebug : Bool) (kind : HistoryKind) (rmw : UInt64) (dds : Int32) :
    Except QosFailure Int32 :=
  let depth := if rmw ≠ depthSystemDefault then rmw.toUInt32.toInt32 else dds
  if !ndebug && depth < 0 then
    .error (.assertionFailed "dds_qos.history.depth >= 0")
  else if kind = .keepLast ∧ depth.toInt64.toUInt64 < rmw then
    if rmw > 4294967295 then
      .error (.errorMsg
        "failed to set history depth since the requested queue size exceeds the DDS type")
    else .ok rmw.toUInt32.toInt32
  else .ok depth

def ddsReliabilityKind (rmw : RmwReliability) (dds : ReliabilityKind) :
    Except QosFailure ReliabilityKind :=
  match rmw with
  | .bestEffort => .ok .bestEffort
  | .reliable => .ok .reliable
  | .systemDefault => .ok dds
  | .unknown => .error (.errorMsg "Unknown QoS reliability policy")

def ddsDurabilityKind (rmw : RmwDurability) (dds : DurabilityKind) :
    Except QosFailure DurabilityKind :=
  match rmw with
  | .transientLocal => .ok .transientLocal
  | .volatile => .ok .volatile
  | .systemDefault => .ok dds
  | .unknown => .error (.errorMsg "Unknown QoS durability policy")

def ddsLivelinessKind (rmw : RmwLiveliness) (dds : LivelinessKind) :
    Except QosFailure LivelinessKind :=
  match rmw with
  | .automatic => .ok .automatic
  | .manualByTopic => .ok .manualByTopic
  | .systemDefault => .ok dds
  | .manualByNode | .unknown => .error (.errorMsg "Unknown QoS liveliness policy")

def rmwQosToDdsQos (ndebug : Bool) (rmwQos : RmwQosProfile) (ddsQos : EntityQos) :
    Except QosFailure EntityQos := do
  let historyKind ← ddsHistoryKind rmwQos.history ddsQos.historyKind
  let historyDepth ← ddsHistoryDepth ndebug historyKind rmwQos.depth ddsQos.historyDepth
  let reliabilityKind ← ddsReliabilityKind rmwQos.reliability ddsQos.reliabilityKind
  let durabilityKind ← ddsDurabilityKind rmwQos.durability ddsQos.durabilityKind
  let livelinessKind ← ddsLivelinessKind rmwQos.liveliness ddsQos.livelinessKind
  let livelinessLeaseDuration :=
    if !isDefault rmwQos.livelinessLeaseDuration then timeToDds rmwQos.livelinessLeaseDuration
    else ddsQos.livelinessLeaseDuration
  -- the source sets neither the deadline nor the lifespan
  return { ddsQos with
    historyKind, historyDepth, reliabilityKind, durabilityKind, livelinessKind,
    livelinessLeaseDuration }

def rmwHistory : HistoryKind → RmwHistory
  | .keepLast => .keepLast
  | .keepAll => .keepAll

def rmwReliability : ReliabilityKind → RmwReliability
  | .bestEffort => .bestEffort
  | .reliable => .reliable

def rmwDurability : DurabilityKind → RmwDurability
  | .transientLocal => .transientLocal
  | .volatile => .volatile
  | .transient | .persistent => .unknown

def rmwLiveliness : LivelinessKind → RmwLiveliness
  | .automatic => .automatic
  | .manualByParticipant => .manualByTopic
  | .manualByTopic => .manualByTopic

def ddsQosToRmwQos (qosLifespanToRmw : RmwQosProfile → RmwQosProfile) (ddsQos : EntityQos)
    (rmwQos : RmwQosProfile) : RmwQosProfile :=
  qosLifespanToRmw { rmwQos with
    history := rmwHistory ddsQos.historyKind
    depth := ddsQos.historyDepth.toInt64.toUInt64
    reliability := rmwReliability ddsQos.reliabilityKind
    durability := rmwDurability ddsQos.durabilityKind
    deadline := timeToRmw ddsQos.deadlinePeriod
    liveliness := rmwLiveliness ddsQos.livelinessKind
    livelinessLeaseDuration := timeToRmw ddsQos.livelinessLeaseDuration }

def dataWriterQosToRmwQos (ddsQos : DataWriterQos) (rmwQos : RmwQosProfile) : RmwQosProfile :=
  ddsQosToRmwQos (fun q => { q with lifespan := timeToRmw ddsQos.lifespanDuration })
    ddsQos.toEntityQos rmwQos

def dataReaderQosToRmwQos (ddsQos : DataReaderQos) (rmwQos : RmwQosProfile) : RmwQosProfile :=
  ddsQosToRmwQos id ddsQos rmwQos

/-- `get_datareader_qos`; the argument is what `get_default_datareader_qos` yields, if it
succeeds. -/
def getDatareaderQos (ndebug : Bool) (default : Option DataReaderQos) (qosProfile : RmwQosProfile) :
    Except QosFailure DataReaderQos :=
  match default with
  | none => .error (.errorMsg "failed to get default datareader qos")
  | some datareaderQos => rmwQosToDdsQos ndebug qosProfile datareaderQos

/-- `get_datawriter_qos`; the argument is what `get_default_datawriter_qos` yields, if it
succeeds. -/
def getDatawriterQos (ndebug : Bool) (default : Option DataWriterQos) (qosProfile : RmwQosProfile) :
    Except QosFailure DataWriterQos :=
  match default with
  | none => .error (.errorMsg "failed to get default datawriter qos")
  | some datawriterQos => do
    let entityQos ← rmwQosToDdsQos ndebug qosProfile datawriterQos.toEntityQos
    return { datawriterQos with toEntityQos := entityQos }

/-- `DDSPublisher::get_rmw_qos`; the first argument is what `writer_->get_qos` yields, if it
succeeds. -/
def getRmwQosOfWriter (writerQos : Option DataWriterQos) (qos : RmwQosProfile) :
    RmwRet × RmwQosProfile :=
  match writerQos with
  | some ddsQos => (.ok, dataWriterQosToRmwQos ddsQos qos)
  | none => (.error, qos)

/-- `DDSSubscriber::get_rmw_qos`; the first argument is what `reader_->get_qos` yields, if it
succeeds. -/
def getRmwQosOfReader (readerQos : Option DataReaderQos) (qos : RmwQosProfile) :
    RmwRet × RmwQosProfile :=
  match readerQos with
  | some ddsQos => (.ok, dataReaderQosToRmwQos ddsQos qos)
  | none => (.error, qos)

end Qos
end RmwOpendds
