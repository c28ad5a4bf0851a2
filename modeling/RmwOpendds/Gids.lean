import RmwOpendds.Endpoints
import RmwOpendds.Take

/-! Publisher gids: what `DDSPublisher` puts in its own, what `rmw_take_with_info`
reports for a sample, and `rmw_compare_gids_equal`. Both gids carry an instance
handle, and a handle is a name that one participant gives. -/

namespace RmwOpendds

open Take

structure IdentifiedPublisher extends DDSPublisher where
  publisherGid : Gid

/-- The last statement of the constructor: the handle is the writer's. -/
def DDSPublisher.identified (writerInstanceHandle : Int32) (pub : DDSPublisher) :
    IdentifiedPublisher :=
  { pub with publisherGid :=
      { implementationIdentifier := .opendds
        publicationHandle := writerInstanceHandle
        rest := List.replicate (rmwGidStorageSize - 4) 0 } }

structure GidForPublisher where
  ret : RmwRet
  error : Option String
  gid : Option Gid
  deriving DecidableEq, Repr

def rmwGetGidForPublisher (publisher : Option (RmwHandle IdentifiedPublisher)) (gid : Option Gid) :
    GidForPublisher :=
  match RmwHandle.fromHandle "rmw_publisher is null" "dds_pub is null" publisher with
  | .error text => ⟨.error, some text, gid⟩
  | .ok ddsPub =>
    match gid with
    | none => ⟨.error, some "gid is null", none⟩
    | some _ => ⟨.ok, none, some ddsPub.publisherGid⟩

structure GidComparison where
  ret : RmwRet
  error : Option String
  result : Option Bool
  deriving DecidableEq, Repr

/-- The data of a gid is an array in it, so that its address is not null. -/
def rmwCompareGidsEqual (gid1 gid2 : Option Gid) (result : Option Bool) : GidComparison :=
  match gid1, gid2, result with
  | none, _, result => ⟨.invalidArgument, some "gid1 is null", result⟩
  | some _, none, result => ⟨.invalidArgument, some "gid2 is null", result⟩
  | some _, some _, none => ⟨.invalidArgument, some "result is null", none⟩
  | some gid1, some gid2, some result =>
    match checkImplId gid1.implementationIdentifier with
    | .error text => ⟨.incorrectRmwImplementation, some text, some result⟩
    | .ok _ =>
      match checkImplId gid2.implementationIdentifier with
      | .error text => ⟨.incorrectRmwImplementation, some text, some result⟩
      | .ok _ => ⟨.ok, none, some (gid1.publicationHandle = gid2.publicationHandle)⟩

variable {Participant GUID Message : Type}

/-- The instance handles that each participant has given to the endpoints it knows. -/
structure HandleAssignment (Participant GUID : Type) where
  handle : Participant → GUID → Option Int32
  injective : ∀ p guid guid' h, handle p guid = some h → handle p guid' = some h → guid = guid'

structure Publisher (a : HandleAssignment Participant GUID) where
  participant : Participant
  writer : GUID
  writerHandle : Int32
  own : a.handle participant writer = some writerHandle
  pub : DDSPublisher

namespace Publisher

variable {a : HandleAssignment Participant GUID}

def rmwPublisher (P : Publisher a) : RmwHandle IdentifiedPublisher :=
  ⟨.opendds, some (P.pub.identified P.writerHandle)⟩

def wrote (P : Publisher a) (messageInfo : Option MessageInfo) (gid : Gid) (result : Bool) :
    GidComparison :=
  rmwCompareGidsEqual (messageInfo.map MessageInfo.publisherGid)
    (rmwGetGidForPublisher (some P.rmwPublisher) (some gid)).gid (some result)

end Publisher

structure TakeWithInfo (Message : Type) where
  sample : Sample
  allocates : Bool
  subscriber : Take.DDSSubscriber Message
  rosMessage : Message
  taken : Bool
  messageInfo : MessageInfo

def TakeWithInfo.call (t : TakeWithInfo Message) : RmwTaken Message :=
  rmwTakeWithInfo (some (.sample t.sample)) t.allocates (some ⟨.opendds, some t.subscriber⟩)
    (some t.rosMessage) (some t.taken) (some t.messageInfo)

theorem TakeWithInfo.call_eq (t : TakeWithInfo Message) :
    t.call.taken = some (deliver (.sample t.sample) t.allocates ⟨none, 0, 0⟩
      (some t.messageInfo)).taken ∧
    t.call.messageInfo = (deliver (.sample t.sample) t.allocates ⟨none, 0, 0⟩
      (some t.messageInfo)).messageInfo := by
  simp only [call, rmwTakeWithInfo, take, fromSubscription, RmwHandle.fromHandle_valid,
    takeSerialized]
  split
  · exact ⟨rfl, rfl⟩
  · exact ⟨rfl, rfl⟩

theorem TakeWithInfo.messageInfo_of_taken (t : TakeWithInfo Message)
    (taken : t.call.taken = some true) :
    t.call.messageInfo = some (publisherInfo t.sample t.messageInfo) := by
  rw [t.call_eq.1, Option.some.injEq] at taken
  rw [t.call_eq.2]
  unfold deliver at taken ⊢
  by_cases valid : t.sample.validData = true
  · have bound : t.sample.serializedData.length ≤ bufferMax := t.sample.length_le
    cases allocates : t.allocates with
    | true => simp [valid, bound]
    | false => simp [valid, bound, allocates] at taken
  · simp [valid] at taken

namespace Publisher

variable {a : HandleAssignment Participant GUID}

theorem wrote_taken (P : Publisher a) (t : TakeWithInfo Message)
    (taken : t.call.taken = some true) (gid : Gid) (result : Bool) :
    P.wrote t.call.messageInfo gid result =
      ⟨.ok, none, some (t.sample.publicationHandle = P.writerHandle)⟩ := by
  rw [t.messageInfo_of_taken taken]
  rfl

/-- Every sample that the participant receives is attributed to the publisher
exactly if the publisher wrote it. -/
def Identified (Message : Type) (P : Publisher a) (receiver : Participant) : Prop :=
  ∀ (t : TakeWithInfo Message) (writer : GUID) (gid : Gid) (result : Bool),
    a.handle receiver writer = some t.sample.publicationHandle → t.call.taken = some true →
    ((P.wrote t.call.messageInfo gid result).result = some true ↔ writer = P.writer)

/-- The receiver calls the publisher's writer as the publisher's own participant
does, or does not know it and calls no writer so. -/
def SameName (P : Publisher a) (receiver : Participant) : Prop :=
  (∀ h, a.handle receiver P.writer = some h → h = P.writerHandle) ∧
    (a.handle receiver P.writer = none → ∀ writer, a.handle receiver writer ≠ some P.writerHandle)

theorem sameName_own (P : Publisher a) : P.SameName P.participant := by
  constructor
  · intro h known
    rw [P.own, Option.some.injEq] at known
    exact known.symm
  · intro unknown
    rw [P.own] at unknown
    cases unknown

def takeOf (subscriber : Take.DDSSubscriber Message) (message : Message) (h : Int32) :
    TakeWithInfo Message where
  sample := ⟨[], Nat.zero_le _, true, h⟩
  allocates := true
  subscriber := subscriber
  rosMessage := message
  taken := false
  messageInfo := ⟨⟨.null, 0, []⟩⟩

theorem takeOf_taken (subscriber : Take.DDSSubscriber Message) (message : Message) (h : Int32) :
    (takeOf subscriber message h).call.taken = some true := by
  rw [(takeOf subscriber message h).call_eq.1]
  rfl

/-- Gids identify a publisher to a receiver exactly if both participants have the
same name for it, and always to its own participant. -/
theorem identified_iff [Inhabited Message] (P : Publisher a) :
    P.Identified Message P.participant ∧
      ∀ receiver, P.Identified Message receiver ↔ P.SameName receiver := by
  let subscriber : Take.DDSSubscriber Message := ⟨fun _ message => (true, message)⟩
  have criterion : ∀ receiver, P.Identified Message receiver ↔ P.SameName receiver := by
    intro receiver
    constructor
    · intro identified
      have law : ∀ writer h, a.handle receiver writer = some h →
          (h = P.writerHandle ↔ writer = P.writer) := by
        intro writer h known
        have taken := takeOf_taken subscriber default h
        have right := identified (takeOf subscriber default h) writer ⟨.null, 0, []⟩ false known
          taken
        rw [P.wrote_taken _ taken, Option.some.injEq, decide_eq_true_eq] at right
        exact right
      refine ⟨fun h known => (law P.writer h known).mpr rfl, fun unknown writer known => ?_⟩
      obtain rfl := (law writer P.writerHandle known).mp rfl
      rw [unknown] at known
      cases known
    · rintro ⟨same, foreign⟩ t writer gid result known taken
      simp only [P.wrote_taken t taken, Option.some.injEq, decide_eq_true_eq]
      constructor
      · intro equal
        rw [equal] at known
        cases knows : a.handle receiver P.writer with
        | none => exact absurd known (foreign knows writer)
        | some h =>
          rw [same h knows] at knows
          exact a.injective receiver writer P.writer P.writerHandle known knows
      · rintro rfl
        exact same _ known
  exact ⟨(criterion P.participant).mpr P.sameName_own, criterion⟩

end Publisher

/-- Two participants that number their own writer 1 and the other's 2. -/
def twoParticipants : HandleAssignment Bool Bool where
  handle p guid := some (if p = guid then 1 else 2)
  injective p guid guid' h known known' := by
    have same := known.trans known'.symm
    clear known known'
    revert p guid guid'
    decide

def publisherOf (p : Bool) : Publisher twoParticipants where
  participant := p
  writer := p
  writerHandle := 1
  own := by simp [twoParticipants]
  pub :=
    { topic := ⟨"rt/chatter".toList, "String".toList, ⟨"rt/chatter".toList, "String".toList⟩⟩
      listener := some 1
      publisher := ⟨⟨.publisher, 2⟩, some 1⟩
      writer := ⟨⟨.dataWriter, 3⟩, none⟩ }

/-- A sample of another participant's writer is taken for the publisher's. -/
theorem foreign_writer_identified :
    ¬ ∀ (a : HandleAssignment Bool Bool) (P : Publisher a) (receiver : Bool),
      P.Identified Unit receiver := by
  intro claim
  let subscriber : Take.DDSSubscriber Unit := ⟨fun _ message => (true, message)⟩
  have right := claim twoParticipants (publisherOf false) true (Publisher.takeOf subscriber () 1)
    true ⟨.null, 0, []⟩ false rfl (by decide)
  exact absurd (right.mp (by decide)) (by decide)

end RmwOpendds
