import RmwOpendds.Library.Machine
import RmwOpendds.Library.Mailbox
import RmwOpendds.Publish
import RmwOpendds.TakeSerialized

/-! Publishers and subscriptions of one topic under any interleaving of the publishing
and the taking functions, with whatever arguments. Each publisher reaches each reader
over a link of its own; DDS may lose samples there and in the queue of the reader (best
effort, a history that keeps the last samples), but it neither repeats nor reorders those
of one publication. What `reader->take`, `writer->write` and the allocator answer is part
of a call. -/

namespace RmwOpendds.Messaging

open Library Take Publish

variable {ι κ Message : Type}

def designated {α : Type} : Option (RmwHandle α) → Option α
  | some ⟨.opendds, data⟩ => data
  | _ => none

theorem fromHandle_eq_ok {α : Type} {handleNull dataNull : String}
    {handle : Option (RmwHandle α)} {data : α} :
    RmwHandle.fromHandle handleNull dataNull handle = .ok data ↔ designated handle = some data := by
  match handle with
  | none => simp [RmwHandle.fromHandle, designated]
  | some ⟨.null, _⟩ => simp [RmwHandle.fromHandle, designated, checkImplId, bind, Except.bind]
  | some ⟨.foreign text, _⟩ =>
    simp [RmwHandle.fromHandle, designated, checkImplId, bind, Except.bind]
  | some ⟨.opendds, none⟩ => simp [RmwHandle.fromHandle, designated, checkImplId, bind, Except.bind]
  | some ⟨.opendds, some held⟩ => simp [designated]

theorem fromHandle_of_not_designated {α : Type} {handle : Option (RmwHandle α)}
    (nothing : designated handle = none) (handleNull dataNull : String) :
    ∃ text, RmwHandle.fromHandle handleNull dataNull handle = .error text := by
  cases found : RmwHandle.fromHandle handleNull dataNull handle with
  | error text => exact ⟨text, rfl⟩
  | ok data =>
    rw [fromHandle_eq_ok.mp found] at nothing
    cases nothing

def object {α β : Type} (objects : α → β) (handle : Option (RmwHandle α)) : Option (RmwHandle β) :=
  handle.map fun h => ⟨h.implementationIdentifier, h.data.map objects⟩

theorem designated_object {α β : Type} (objects : α → β) (handle : Option (RmwHandle α)) :
    designated (object objects handle) = (designated handle).map objects := by
  match handle with
  | none => rfl
  | some ⟨.null, _⟩ => rfl
  | some ⟨.foreign _, _⟩ => rfl
  | some ⟨.opendds, _⟩ => rfl

inductive TakeCall (κ Message : Type) where
  | rmwTake (subscription : Option (RmwHandle κ)) (rosMessage : Option Message)
      (taken : Option Bool)
  | rmwTakeWithInfo (subscription : Option (RmwHandle κ)) (rosMessage : Option Message)
      (taken : Option Bool) (messageInfo : Option MessageInfo)
  | rmwTakeSerializedMessage (subscription : Option (RmwHandle κ))
      (serializedMsg : Option SerializedMessage) (taken : Option Bool)
  | rmwTakeSerializedMessageWithInfo (subscription : Option (RmwHandle κ))
      (serializedMsg : Option SerializedMessage) (taken : Option Bool)
      (messageInfo : Option MessageInfo)
  deriving DecidableEq, Repr

inductive TakeResult (Message : Type) where
  | message (r : RmwTaken Message)
  | serialized (r : Taken)
  deriving DecidableEq, Repr

namespace TakeCall

def subscription : TakeCall κ Message → Option (RmwHandle κ)
  | rmwTake subscription _ _ => subscription
  | rmwTakeWithInfo subscription _ _ _ => subscription
  | rmwTakeSerializedMessage subscription _ _ => subscription
  | rmwTakeSerializedMessageWithInfo subscription _ _ _ => subscription

/-- Whether no argument besides the handle keeps the call from the reader. -/
def complete : TakeCall κ Message → Bool
  | rmwTake _ rosMessage taken => rosMessage.isSome && taken.isSome
  | rmwTakeWithInfo _ rosMessage taken messageInfo =>
    rosMessage.isSome && taken.isSome && messageInfo.isSome
  | rmwTakeSerializedMessage _ serializedMsg taken => serializedMsg.isSome && taken.isSome
  | rmwTakeSerializedMessageWithInfo _ serializedMsg taken messageInfo =>
    serializedMsg.isSome && taken.isSome && messageInfo.isSome

/-- The subscription whose reader the call takes from, if it gets that far. -/
def target (c : TakeCall κ Message) : Option κ :=
  if c.complete then designated c.subscription else none

/-- The call, where `reader` is the answer of the reader it takes from. -/
def perform (subs : κ → Take.DDSSubscriber Message) (reader : Option ReaderTake)
    (allocates : Bool) : TakeCall κ Message → Option (TakeResult Message)
  | rmwTake subscription rosMessage taken =>
    some (.message (Take.rmwTake reader allocates (object subs subscription) rosMessage taken))
  | rmwTakeWithInfo subscription rosMessage taken messageInfo =>
    some (.message (Take.rmwTakeWithInfo reader allocates (object subs subscription) rosMessage
      taken messageInfo))
  | rmwTakeSerializedMessage subscription serializedMsg taken =>
    (Take.rmwTakeSerializedMessage reader allocates (object subs subscription) serializedMsg
      taken).map .serialized
  | rmwTakeSerializedMessageWithInfo subscription serializedMsg taken messageInfo =>
    (Take.rmwTakeSerializedMessageWithInfo reader allocates (object subs subscription)
      serializedMsg taken messageInfo).map .serialized

end TakeCall

/-- A message that a call gave to its caller: the bytes it was made from, the message
if the call is a typed one and, where the caller asked for it, the publication handle. -/
structure Obtained (Message : Type) where
  serializedData : List UInt8
  rosMessage : Option Message
  publicationHandle : Option Int32
  deriving DecidableEq, Repr

namespace TakeResult

def ret : TakeResult Message → RmwRet
  | message r => r.ret
  | serialized r => r.ret

def obtained : TakeResult Message → Option (Obtained Message)
  | message r =>
    if r.ret = .ok ∧ r.taken = some true then
      some ⟨((r.decoded.head?.bind (·.buffer))).getD [], r.rosMessage,
        r.messageInfo.map (·.publisherGid.publicationHandle)⟩
    else none
  | serialized r =>
    if r.ret = .ok ∧ r.taken then
      some ⟨(r.cdrStream.bind (·.buffer)).getD [], none,
        r.messageInfo.map (·.publisherGid.publicationHandle)⟩
    else none

theorem obtained_of_error {r : TakeResult Message} (failed : r.ret = .error) :
    r.obtained = none := by
  cases r with
  | message r =>
    have failed : r.ret = .error := failed
    simp [obtained, failed]
  | serialized r =>
    have failed : r.ret = .error := failed
    simp [obtained, failed]

theorem ret_of_obtained {r : TakeResult Message} {got : Obtained Message}
    (obtained : r.obtained = some got) : r.ret = .ok := by
  cases r with
  | message r =>
    simp only [TakeResult.obtained] at obtained
    split at obtained
    · exact (‹_ ∧ _›).1
    · cases obtained
  | serialized r =>
    simp only [TakeResult.obtained] at obtained
    split at obtained
    · exact (‹_ ∧ _›).1
    · cases obtained

end TakeResult

structure Conveys (sub : Take.DDSSubscriber Message) (s : Sample) (got : Obtained Message) :
    Prop where
  valid : s.validData
  data : got.serializedData = s.serializedData
  rosMessage : ∀ m ∈ got.rosMessage, ∃ before, sub.toMessage (streamOf s) before = (true, m)
  handle : ∀ h ∈ got.publicationHandle, h = s.publicationHandle

/-- What the answer of the reader means to the caller: a sample is obtained or the call
fails, and without a sample nothing is obtained. -/
def Faithful (sub : Take.DDSSubscriber Message) (reader : Option ReaderTake)
    (r : TakeResult Message) : Prop :=
  match reader with
  | some (.sample s) => r.ret = .error ∨ ∃ got, r.obtained = some got ∧ Conveys sub s got
  | _ => r.obtained = none

section Outcomes

variable {sub : Take.DDSSubscriber Message} {allocates flag : Bool} {stream : SerializedMessage}
  {messageInfo : Option MessageInfo}

theorem Faithful.of_idle {reader : Option ReaderTake} {r : TakeResult Message}
    (idle : ∀ s, reader ≠ some (.sample s)) (nothing : r.obtained = none) :
    Faithful sub reader r := by
  match reader with
  | some (.sample s) => exact absurd rfl (idle s)
  | some .noData => exact nothing
  | some .failed => exact nothing
  | none => exact nothing

theorem Faithful.of_error {reader : Option ReaderTake} {r : TakeResult Message}
    (failed : r.ret = .error) : Faithful sub reader r := by
  by_cases sample : ∃ s, reader = some (.sample s)
  · obtain ⟨s, rfl⟩ := sample
    exact .inl failed
  · exact .of_idle (fun s same => sample ⟨s, same⟩) (TakeResult.obtained_of_error failed)

theorem takeSerialized_gives {s : Sample} (valid : s.validData) :
    takeSerialized (some (.sample s)) true (some stream) flag messageInfo =
      ⟨.ok, none, some (streamOf s), true, messageInfo.map (publisherInfo s)⟩ := by
  simp [takeSerialized, deliver, valid, s.length_le, streamOf]

theorem takeSerialized_loses {s : Sample} (lost : ¬ (s.validData ∧ allocates)) :
    (takeSerialized (some (.sample s)) allocates (some stream) flag messageInfo).ret = .error := by
  have bound : s.serializedData.length ≤ bufferMax := s.length_le
  cases valid : s.validData with
  | false => simp [takeSerialized, deliver, valid]
  | true =>
    have refused : allocates = false := by simpa [valid] using lost
    simp [takeSerialized, deliver, valid, refused, bound]

theorem takeSerialized_idle {reader : Option ReaderTake}
    (idle : ∀ s, reader ≠ some (.sample s)) :
    (takeSerialized reader allocates (some stream) flag messageInfo).taken = false := by
  match reader with
  | none => rfl
  | some .noData => rfl
  | some .failed => rfl
  | some (.sample s) => exact absurd rfl (idle s)

theorem faithful_takeSerialized (reader : Option ReaderTake) :
    Faithful sub reader
      (.serialized (takeSerialized reader allocates (some stream) flag messageInfo)) := by
  by_cases sample : ∃ s, reader = some (.sample s)
  · obtain ⟨s, rfl⟩ := sample
    by_cases given : s.validData ∧ allocates
    · obtain ⟨valid, rfl⟩ := given
      rw [takeSerialized_gives valid]
      refine .inr ⟨_, rfl, valid, rfl, by simp, ?_⟩
      cases messageInfo <;> simp [publisherInfo]
    · exact .inl (takeSerialized_loses given)
  · have idle : ∀ s, reader ≠ some (.sample s) := fun s same => sample ⟨s, same⟩
    refine Faithful.of_idle idle ?_
    simp [TakeResult.obtained, takeSerialized_idle idle]

/-- The typed `take` behind its null checks: the callback sees what the serialized one
returns with success, also the null stream of an empty queue. -/
theorem take_eq (reader : Option ReaderTake) (rosMessage : Message)
    {subscription : Option (RmwHandle (Take.DDSSubscriber Message))}
    (valid : fromSubscription subscription = .ok sub) :
    take reader allocates (some rosMessage) subscription (some flag) messageInfo =
      let out := takeSerialized reader allocates (some ⟨none, 0, 0⟩) flag messageInfo
      let stream := out.cdrStream.getD ⟨none, 0, 0⟩
      if out.ret = .ok then
        ⟨(toRosMessage sub stream rosMessage).1, (toRosMessage sub stream rosMessage).2.1,
          some (toRosMessage sub stream rosMessage).2.2, some out.taken, out.messageInfo, [stream]⟩
      else ⟨out.ret, out.error, some rosMessage, some out.taken, out.messageInfo, []⟩ := by
  simp [take, valid]

theorem faithful_take (reader : Option ReaderTake)
    (rosMessage : Message) {subscription : Option (RmwHandle (Take.DDSSubscriber Message))}
    (valid : fromSubscription subscription = .ok sub) :
    Faithful sub reader (.message
      (take reader allocates (some rosMessage) subscription (some flag) messageInfo)) := by
  rw [take_eq reader rosMessage valid]
  by_cases sample : ∃ s, reader = some (.sample s)
  · obtain ⟨s, rfl⟩ := sample
    by_cases given : s.validData ∧ allocates
    · obtain ⟨validData, rfl⟩ := given
      rw [takeSerialized_gives validData]
      match converted : sub.toMessage (streamOf s) rosMessage with
      | (false, after) => exact .inl (by simp [TakeResult.ret, toRosMessage, converted])
      | (true, after) =>
        simp only [if_true, Option.getD_some, toRosMessage, converted]
        refine .inr ⟨_, rfl, validData, rfl, ?_, ?_⟩
        · rintro m ⟨⟩
          exact ⟨rosMessage, converted⟩
        · cases messageInfo <;> simp [publisherInfo]
    · have lost : (takeSerialized (some (.sample s)) allocates (some ⟨none, 0, 0⟩) flag
          messageInfo).ret = .error := takeSerialized_loses given
      exact .inl (by simp [TakeResult.ret, lost])
  · have idle : ∀ s, reader ≠ some (.sample s) := fun s same => sample ⟨s, same⟩
    have down : (takeSerialized reader allocates (some ⟨none, 0, 0⟩) flag messageInfo).taken =
      false := takeSerialized_idle idle
    refine Faithful.of_idle idle ?_
    simp only [down]
    split <;> simp [TakeResult.obtained]

end Outcomes

theorem take_refused {reader : Option ReaderTake} {allocates : Bool} {rosMessage : Option Message}
    {subscription : Option (RmwHandle (Take.DDSSubscriber Message))} {taken : Option Bool}
    {messageInfo : Option MessageInfo}
    (refusal : (rosMessage.isSome && taken.isSome) = false ∨
      ∃ text, fromSubscription subscription = .error text) :
    (take reader allocates rosMessage subscription taken messageInfo).ret = .error := by
  cases rosMessage with
  | none => rfl
  | some message =>
    cases handle : fromSubscription subscription with
    | error text => simp [take, handle]
    | ok sub =>
      obtain rfl : taken = none := by simpa [handle] using refusal
      simp [take, handle]

theorem rmwTakeSerializedMessage_error {reader : Option ReaderTake} {allocates : Bool}
    {subscription : Option (RmwHandle (Take.DDSSubscriber Message))}
    {serializedMsg : Option SerializedMessage} {taken : Option Bool}
    (refusal : (serializedMsg.isSome && taken.isSome) = false ∨
      ∃ text, fromSubscription subscription = .error text) {r : Taken}
    (returned : Take.rmwTakeSerializedMessage reader allocates subscription serializedMsg taken =
      some r) : r.ret = .error := by
  unfold Take.rmwTakeSerializedMessage at returned
  cases handle : fromSubscription subscription with
  | error text =>
    rw [handle] at returned
    obtain rfl := Option.some.inj returned
    rfl
  | ok sub =>
    rw [handle] at returned
    obtain ⟨flag, rfl, rfl⟩ := Option.map_eq_some_iff.mp returned
    obtain rfl : serializedMsg = none := by simpa [handle] using refusal
    rfl

theorem rmwTakeSerializedMessageWithInfo_error {reader : Option ReaderTake} {allocates : Bool}
    {subscription : Option (RmwHandle (Take.DDSSubscriber Message))}
    {serializedMsg : Option SerializedMessage} {taken : Option Bool}
    {messageInfo : Option MessageInfo}
    (refusal : (serializedMsg.isSome && taken.isSome && messageInfo.isSome) = false ∨
      ∃ text, fromSubscription subscription = .error text) {r : Taken}
    (returned : Take.rmwTakeSerializedMessageWithInfo reader allocates subscription serializedMsg
      taken messageInfo = some r) : r.ret = .error := by
  unfold Take.rmwTakeSerializedMessageWithInfo at returned
  cases handle : fromSubscription subscription with
  | error text =>
    rw [handle] at returned
    obtain rfl := Option.some.inj returned
    rfl
  | ok sub =>
    rw [handle] at returned
    cases messageInfo with
    | none =>
      obtain rfl := Option.some.inj returned
      rfl
    | some info =>
      obtain ⟨flag, rfl, rfl⟩ := Option.map_eq_some_iff.mp returned
      obtain rfl : serializedMsg = none := by simpa [handle] using refusal
      rfl

theorem perform_refused (subs : κ → Take.DDSSubscriber Message) (reader : Option ReaderTake)
    (allocates : Bool) {c : TakeCall κ Message} (nothing : c.target = none)
    {r : TakeResult Message} (returned : c.perform subs reader allocates = some r) :
    r.ret = .error := by
  have refusal : c.complete = false ∨
      ∃ text, fromSubscription (object subs c.subscription) = .error text := by
    cases complete : c.complete with
    | false => exact .inl rfl
    | true =>
      have absent : designated c.subscription = none := by
        simpa [TakeCall.target, complete] using nothing
      exact .inr (fromHandle_of_not_designated (by rw [designated_object, absent]; rfl) _ _)
  cases c with
  | rmwTake subscription rosMessage taken =>
    obtain rfl := Option.some.inj returned
    exact take_refused refusal
  | rmwTakeWithInfo subscription rosMessage taken messageInfo =>
    obtain rfl := Option.some.inj returned
    cases messageInfo with
    | none => rfl
    | some info =>
      exact take_refused (refusal.imp_left fun h => by simpa [TakeCall.complete] using h)
  | rmwTakeSerializedMessage subscription serializedMsg taken =>
    obtain ⟨r, gave, rfl⟩ := Option.map_eq_some_iff.mp returned
    exact rmwTakeSerializedMessage_error refusal gave
  | rmwTakeSerializedMessageWithInfo subscription serializedMsg taken messageInfo =>
    obtain ⟨r, gave, rfl⟩ := Option.map_eq_some_iff.mp returned
    exact rmwTakeSerializedMessageWithInfo_error refusal gave

theorem perform_faithful (subs : κ → Take.DDSSubscriber Message) (reader : Option ReaderTake)
    (allocates : Bool) (c : TakeCall κ Message) {k : κ}
    (found : designated c.subscription = some k) {r : TakeResult Message}
    (returned : c.perform subs reader allocates = some r) : Faithful (subs k) reader r := by
  by_cases complete : c.complete
  case neg =>
    have target : c.target = none := by simp [TakeCall.target, complete]
    exact .of_error (perform_refused subs reader allocates target returned)
  case pos =>
    have handle : fromSubscription (object subs c.subscription) = .ok (subs k) :=
      fromHandle_eq_ok.mpr (by rw [designated_object, found]; rfl)
    have opened : (fromSubscription (object subs c.subscription)).isOk := by rw [handle]; rfl
    cases c with
    | rmwTake subscription rosMessage taken =>
      obtain rfl := Option.some.inj returned
      obtain ⟨given, flagged⟩ : rosMessage.isSome ∧ taken.isSome := by
        simpa [TakeCall.complete] using complete
      obtain ⟨message, rfl⟩ := Option.isSome_iff_exists.mp given
      obtain ⟨flag, rfl⟩ := Option.isSome_iff_exists.mp flagged
      exact faithful_take reader message handle
    | rmwTakeWithInfo subscription rosMessage taken messageInfo =>
      obtain rfl := Option.some.inj returned
      obtain ⟨⟨given, flagged⟩, informed⟩ :
          (rosMessage.isSome ∧ taken.isSome) ∧ messageInfo.isSome := by
        simpa [TakeCall.complete] using complete
      obtain ⟨message, rfl⟩ := Option.isSome_iff_exists.mp given
      obtain ⟨flag, rfl⟩ := Option.isSome_iff_exists.mp flagged
      obtain ⟨info, rfl⟩ := Option.isSome_iff_exists.mp informed
      exact faithful_take reader message handle
    | rmwTakeSerializedMessage subscription serializedMsg taken =>
      obtain ⟨given, flagged⟩ : serializedMsg.isSome ∧ taken.isSome := by
        simpa [TakeCall.complete] using complete
      obtain ⟨stream, rfl⟩ := Option.isSome_iff_exists.mp given
      obtain ⟨flag, rfl⟩ := Option.isSome_iff_exists.mp flagged
      have reached : ¬ Refused (object subs subscription) (some stream) := by
        rintro (shut | absent)
        · exact absurd opened (by simp [TakeCall.subscription, shut])
        · cases absent
      rw [TakeCall.perform, (rmwTakeSerializedMessage_reached reached).2] at returned
      obtain rfl := Option.some.inj returned
      exact faithful_takeSerialized reader
    | rmwTakeSerializedMessageWithInfo subscription serializedMsg taken messageInfo =>
      obtain ⟨⟨given, flagged⟩, informed⟩ :
          (serializedMsg.isSome ∧ taken.isSome) ∧ messageInfo.isSome := by
        simpa [TakeCall.complete] using complete
      obtain ⟨stream, rfl⟩ := Option.isSome_iff_exists.mp given
      obtain ⟨flag, rfl⟩ := Option.isSome_iff_exists.mp flagged
      obtain ⟨info, rfl⟩ := Option.isSome_iff_exists.mp informed
      have reached : ¬ (Refused (object subs subscription) (some stream) ∨ some info = none) := by
        rintro ((shut | absent) | absent)
        · exact absurd opened (by simp [TakeCall.subscription, shut])
        · cases absent
        · cases absent
      rw [TakeCall.perform, (rmwTakeSerializedMessageWithInfo_reached reached).2] at returned
      obtain rfl := Option.some.inj returned
      exact faithful_takeSerialized reader

end RmwOpendds.Messaging
