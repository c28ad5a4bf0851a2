import RmwOpendds.Take
import RmwOpendds.Topic

/-! `rmw_publish.cpp` without the loaned messages, which are not implemented there, and
`rmw_serialize.cpp`. The type support callbacks and the outcome of `writer->write` are
arguments; a read past the end of a buffer is `none`. Of the errors that one call sets
the last one stays. -/

namespace RmwOpendds.Publish

open Take

/-- The data of an `OpenDDSStaticSerializedData`, or the end of an instance, which the
reader sees as a sample without valid data. -/
structure Payload where
  validData : Bool
  serializedData : List UInt8
  length_le : serializedData.length ≤ bufferMax
  deriving Repr

/-- How the callback `to_cdr_stream` ends: with a flag or with an exception, which has a
text if it is a `std::exception`. -/
inductive Conversion where
  | returned (converted : Bool)
  | threw (what : Option String)
  deriving DecidableEq, Repr

/-- The part of `message_type_support_callbacks_t` that moves messages; both callbacks
write to their destination also where they fail. -/
structure SerializationCallbacks (Message : Type) where
  toCdrStream : Message → SerializedMessage → Conversion × SerializedMessage
  toMessage : SerializedMessage → Message → Bool × Message

variable {Message : Type}

/-- What publishing uses of a `DDSPublisher`: the callbacks of its topic, and whether its
writer narrows. -/
structure DDSPublisher (Message : Type) where
  callbacks : SerializationCallbacks Message
  narrows : Bool

def fromPublisher (publisher : Option (RmwHandle (DDSPublisher Message))) :
    Except String (DDSPublisher Message) :=
  RmwHandle.fromHandle "rmw_publisher is null" "dds_pub is null" publisher

/-- What an exception of the callback leaves, or the return code with its error. -/
def DDSPublisher.toCdrStream (pub : DDSPublisher Message) (rosMessage : Option Message)
    (cdrStream : SerializedMessage) :
    Except (Option String) (RmwRet × Option String) × SerializedMessage :=
  match rosMessage with
  | none => (.ok (.error, some "ros_message is null"), cdrStream)
  | some message =>
    match pub.callbacks.toCdrStream message cdrStream with
    | (.threw what, stream) => (.error what, stream)
    | (.returned true, stream) => (.ok (.ok, none), stream)
    | (.returned false, stream) => (.ok (.error, some "to_cdr_stream failed"), stream)

def contents (cdrStream : SerializedMessage) : Option (List UInt8) :=
  if cdrStream.bufferLength ≤ (cdrStream.buffer.getD []).length then
    some ((cdrStream.buffer.getD []).take cdrStream.bufferLength)
  else none

theorem length_contents {cdrStream : SerializedMessage} {bytes : List UInt8}
    (read : contents cdrStream = some bytes) : bytes.length = cdrStream.bufferLength := by
  unfold contents at read
  split at read
  · obtain rfl := Option.some.inj read
    simpa using ‹_›
  · cases read

structure Written where
  ok : Bool
  error : Option String
  payload : Option Payload
  deriving Repr

/-- The static `publish`; `status` is the answer of `writer->write`, which has written the
instance if it is `RETCODE_OK`. -/
def publish (narrows : Bool) (status : ReturnCode) (cdrStream : SerializedMessage) :
    Option Written :=
  if narrows then
    if bound : cdrStream.bufferLength ≤ bufferMax then
      match read : contents cdrStream with
      | none => none
      | some bytes =>
        let instance_ : Payload := ⟨true, bytes, (length_contents read).trans_le bound⟩
        some ⟨status = .ok, none, if status = .ok then some instance_ else none⟩
    else some ⟨false, some "cdr_stream->buffer_length > buffer_max", none⟩
  else some ⟨false, some "failed to narrow data writer", none⟩

/-- `leaked` is a buffer that the callback allocated and nobody frees. -/
structure Published where
  ret : RmwRet
  error : Option String
  payload : Option Payload
  leaked : Option (List UInt8)
  deriving Repr

def rmwPublish (publisher : Option (RmwHandle (DDSPublisher Message)))
    (rosMessage : Option Message) (status : ReturnCode) : Option Published :=
  match fromPublisher publisher with
  | .error text => some ⟨.error, some text, none, none⟩
  | .ok ddsPub =>
    match ddsPub.toCdrStream rosMessage ⟨none, 0, 0⟩ with
    | (.error what, _) => some ⟨.error, some (what.getD "rmw_publish failed"), none, none⟩
    | (.ok (ret, error), stream) =>
      -- this return passes by the deallocation at the end
      if ret ≠ .ok then some ⟨ret, error, none, stream.buffer⟩
      -- from here on an exception finds `ret` at `RMW_RET_OK`
      else if stream.bufferLength = 0 then some ⟨ret, some "no message length set", none, none⟩
      else if stream.buffer = none then
        some ⟨ret, some "no serialized message attached", none, none⟩
      else
        (publish ddsPub.narrows status stream).map fun w =>
          if w.ok then ⟨.ok, w.error, w.payload, none⟩
          else ⟨ret, some "failed to publish message", w.payload, none⟩

def rmwPublishSerializedMessage (publisher : Option (RmwHandle (DDSPublisher Message)))
    (serializedMessage : Option SerializedMessage) (status : ReturnCode) : Option Published :=
  match fromPublisher publisher with
  | .error text => some ⟨.error, some text, none, none⟩
  | .ok ddsPub =>
    match serializedMessage with
    | none => some ⟨.error, some "serialized message is null", none, none⟩
    | some message =>
      (publish ddsPub.narrows status message).map fun w =>
        if w.ok then ⟨.ok, w.error, w.payload, none⟩
        else ⟨.error, some "failed to publish message", w.payload, none⟩

theorem publish_spec {narrows : Bool} {status : ReturnCode} {cdrStream : SerializedMessage}
    {w : Written} (returned : publish narrows status cdrStream = some w) :
    w.ok = w.payload.isSome ∧ (w.ok → w.error = none) ∧
      ∀ p ∈ w.payload, p.validData ∧ contents cdrStream = some p.serializedData := by
  unfold publish at returned
  split at returned
  · split at returned
    · split at returned
      · cases returned
      · rename_i bytes read
        obtain rfl := Option.some.inj returned
        by_cases written : status = .ok <;> simp [written, read]
    · obtain rfl := Option.some.inj returned
      simp
  · obtain rfl := Option.some.inj returned
    simp

/-- The caller learns from the return code and the error together whether the sample
was written, and it is `offered` that was. -/
structure Reports (offered : Option (List UInt8)) (r : Published) : Prop where
  written : r.payload.isSome ↔ r.ret = .ok ∧ r.error = none
  payload : ∀ p ∈ r.payload, p.validData ∧ offered = some p.serializedData

theorem Reports.refused {offered : Option (List UInt8)} {r : Published} (payload : r.payload = none)
    (error : r.error ≠ none) : Reports offered r where
  written := by simp [payload, error]
  payload := by simp [payload]

theorem Reports.of_publish {narrows : Bool} {status : ReturnCode} {cdrStream : SerializedMessage}
    {ret : RmwRet} {r : Published}
    (returned : (publish narrows status cdrStream).map (fun w =>
      if w.ok then ⟨.ok, w.error, w.payload, none⟩
      else ⟨ret, some "failed to publish message", w.payload, none⟩) = some r) :
    Reports (contents cdrStream) r := by
  obtain ⟨w, published, rfl⟩ := Option.map_eq_some_iff.mp returned
  obtain ⟨ok, silent, payload⟩ := publish_spec published
  cases written : w.ok with
  | true =>
    refine ⟨?_, by simpa using payload⟩
    simp [silent written, ← ok, written]
  | false =>
    have nothing : w.payload = none := by simpa [written] using ok.symm
    exact .refused (by simp [nothing]) (by simp)

def offered (publisher : Option (RmwHandle (DDSPublisher Message))) (rosMessage : Option Message) :
    Option (List UInt8) := do
  let ddsPub ← (fromPublisher publisher).toOption
  let message ← rosMessage
  contents (ddsPub.callbacks.toCdrStream message ⟨none, 0, 0⟩).2

/-- A return of `rmw_publish` is a refusal with an error, or the return of the static
`publish` on the stream that the callback made. -/
theorem rmwPublish_reports {publisher : Option (RmwHandle (DDSPublisher Message))}
    {rosMessage : Option Message} {status : ReturnCode} {r : Published}
    (returned : rmwPublish publisher rosMessage status = some r) :
    Reports (offered publisher rosMessage) r := by
  unfold rmwPublish at returned
  unfold offered
  cases handle : fromPublisher publisher with
  | error text =>
    obtain rfl : _ = r := by simpa [handle] using returned
    exact .refused rfl (by simp)
  | ok ddsPub =>
    cases given : rosMessage with
    | none =>
      obtain rfl : _ = r := by simpa [handle, given, DDSPublisher.toCdrStream] using returned
      exact .refused rfl (by simp)
    | some message =>
      simp only [handle, given, DDSPublisher.toCdrStream] at returned
      simp only [Except.toOption, Option.bind_eq_bind, Option.bind_some]
      rcases made : ddsPub.callbacks.toCdrStream message ⟨none, 0, 0⟩ with ⟨conversion, stream⟩
      cases conversion with
      | threw what =>
        obtain rfl : _ = r := by simpa [made] using returned
        exact .refused rfl (by simp)
      | returned converted =>
        cases converted with
        | false =>
          obtain rfl : _ = r := by simpa [made] using returned
          exact .refused rfl (by simp)
        | true =>
          simp only [made, ne_eq, not_true_eq_false, if_false] at returned
          split at returned
          · obtain rfl := Option.some.inj returned
            exact .refused rfl (by simp)
          · split at returned
            · obtain rfl := Option.some.inj returned
              exact .refused rfl (by simp)
            · exact .of_publish returned

theorem rmwPublishSerializedMessage_reports
    {publisher : Option (RmwHandle (DDSPublisher Message))}
    {serializedMessage : Option SerializedMessage} {status : ReturnCode} {r : Published}
    (returned : rmwPublishSerializedMessage publisher serializedMessage status = some r) :
    Reports (serializedMessage.bind contents) r := by
  unfold rmwPublishSerializedMessage at returned
  cases handle : fromPublisher publisher with
  | error text =>
    obtain rfl : _ = r := by simpa [handle] using returned
    exact .refused rfl (by simp)
  | ok ddsPub =>
    cases given : serializedMessage with
    | none =>
      obtain rfl : _ = r := by simpa [handle, given] using returned
      exact .refused rfl (by simp)
    | some message =>
      simp only [handle, given] at returned
      exact .of_publish returned

/-- `rmw_get_message_type_support` and the null check of the callbacks after it. -/
def messageCallbacks (known : TypesupportIdentifiers)
    (typeSupport : Option (TypeSupport (SerializationCallbacks Message))) :
    Except String (SerializationCallbacks Message) :=
  TypeSupport.getCallbacks known "type support is null" "callbacks handle is null" typeSupport

/-- The return code, the error, and the stream after the call; an exception of the
callback leaves the function, and its text stands in place of the code. -/
def rmwSerialize (known : TypesupportIdentifiers) (rosMessage : Message)
    (typeSupport : Option (TypeSupport (SerializationCallbacks Message)))
    (serializedMessage : SerializedMessage) :
    Except (Option String) (RmwRet × Option String) × SerializedMessage :=
  match messageCallbacks known typeSupport with
  | .error text => (.ok (.error, some text), serializedMessage)
  | .ok callbacks =>
    match callbacks.toCdrStream rosMessage serializedMessage with
    | (.threw what, stream) => (.error what, stream)
    | (.returned true, stream) => (.ok (.ok, none), stream)
    | (.returned false, stream) =>
      (.ok (.error, some "failed to convert ros_message to cdr stream"), stream)

def rmwDeserialize (known : TypesupportIdentifiers) (serializedMessage : SerializedMessage)
    (typeSupport : Option (TypeSupport (SerializationCallbacks Message))) (rosMessage : Message) :
    RmwRet × Option String × Message :=
  match messageCallbacks known typeSupport with
  | .error text => (.error, some text, rosMessage)
  | .ok callbacks =>
    let (converted, message) := callbacks.toMessage serializedMessage rosMessage
    if converted then (.ok, none, message)
    else (.error, some "can't convert cdr stream to ros message", message)

end RmwOpendds.Publish
