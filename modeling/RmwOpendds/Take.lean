import Mathlib
import RmwOpendds.Identifier
import RmwOpendds.ReturnCodes

/-! `rmw_take.cpp` without the loaned messages, which are not implemented there.
The outcome of `reader->take` and of the allocator are arguments, as is the
type support callback `to_message`; a null pointer is `none`. -/

namespace RmwOpendds.Take

def bufferMax : Nat := 2 ^ 32 - 1

/-- A taken message with its `SampleInfo`; the length of an IDL sequence is a
`CORBA::ULong`. -/
structure Sample where
  serializedData : List UInt8
  length_le : serializedData.length ≤ bufferMax
  validData : Bool
  publicationHandle : Int32
  deriving DecidableEq, Repr

/-- `reader->take` of at most one sample. -/
inductive ReaderTake where
  | sample (s : Sample) | noData | failed
  deriving DecidableEq, Repr

/-- `rcutils_uint8_array_t` -/
structure SerializedMessage where
  buffer : Option (List UInt8)
  bufferLength : Nat
  bufferCapacity : Nat
  deriving DecidableEq, Repr

/-- `rmw_gid_t`; `data` is read as an `OpenDDSPublisherGID` and the bytes after it. -/
structure Gid where
  implementationIdentifier : ImplementationIdentifier
  publicationHandle : Int32
  rest : List UInt8
  deriving DecidableEq, Repr

def rmwGidStorageSize : Nat := 24

structure MessageInfo where
  publisherGid : Gid
  deriving DecidableEq, Repr

/-- The out-parameters of the serialized `take` and the error it sets. -/
structure Delivery where
  error : Option String
  cdrStream : SerializedMessage
  taken : Bool
  messageInfo : Option MessageInfo
  deriving DecidableEq, Repr

def publisherInfo (s : Sample) (_ : MessageInfo) : MessageInfo where
  publisherGid :=
    { implementationIdentifier := .opendds
      publicationHandle := s.publicationHandle
      rest := List.replicate (rmwGidStorageSize - 4) 0 }

def deliver (reader : ReaderTake) (allocates : Bool) (cdrStream : SerializedMessage)
    (messageInfo : Option MessageInfo) : Delivery :=
  match reader with
  | .noData => ⟨none, cdrStream, false, messageInfo⟩
  | .failed => ⟨some "take failed", cdrStream, false, messageInfo⟩
  | .sample s =>
    if s.validData then
      let length := s.serializedData.length
      if length ≤ bufferMax then
        if allocates then
          ⟨none, ⟨some s.serializedData, length, length⟩, true, messageInfo.map (publisherInfo s)⟩
        else
          -- the lengths are written before the allocation is known to succeed
          ⟨some "failed to allocate memory for uint8 array", ⟨none, length, length⟩, false,
            messageInfo⟩
      else ⟨some "dds message length > buffer_max", cdrStream, false, messageInfo⟩
    else ⟨none, cdrStream, false, messageInfo⟩

structure Taken where
  ret : RmwRet
  error : Option String
  cdrStream : Option SerializedMessage
  taken : Bool
  messageInfo : Option MessageInfo
  deriving DecidableEq, Repr

/-- `take(DDSSubscriber &, …)`; a reader that does not narrow is `none`. -/
def takeSerialized (reader : Option ReaderTake) (allocates : Bool)
    (cdrStream : Option SerializedMessage) (taken : Bool) (messageInfo : Option MessageInfo) :
    Taken :=
  match cdrStream with
  | none => ⟨.error, some "cdr_stream is null", none, taken, messageInfo⟩
  | some stream =>
    match reader with
    | none => ⟨.error, some "failed to narrow data reader", some stream, false, messageInfo⟩
    | some outcome =>
      let d := deliver outcome allocates stream messageInfo
      ⟨if d.taken || outcome = .noData then .ok else .error, d.error, some d.cdrStream, d.taken,
        d.messageInfo⟩

variable {Message : Type}

/-- What `take` uses of a `DDSSubscriber`: the callback `to_message`, which
writes to the message also where it fails. -/
structure DDSSubscriber (Message : Type) where
  toMessage : SerializedMessage → Message → Bool × Message

def fromSubscription (subscription : Option (RmwHandle (DDSSubscriber Message))) :
    Except String (DDSSubscriber Message) :=
  RmwHandle.fromHandle "rmw_subscription is null" "dds_sub is null" subscription

/-- What a call leaves behind; `decoded` lists the streams given to `to_message`. -/
structure RmwTaken (Message : Type) where
  ret : RmwRet
  error : Option String
  rosMessage : Option Message
  taken : Option Bool
  messageInfo : Option MessageInfo
  decoded : List SerializedMessage
  deriving DecidableEq, Repr

def toRosMessage (sub : DDSSubscriber Message) (cdrStream : SerializedMessage)
    (rosMessage : Message) : RmwRet × Option String × Message :=
  let (converted, message) := sub.toMessage cdrStream rosMessage
  if converted then (.ok, none, message)
  else (.error, some "to_ros_message failed", message)

/-- `take(void *, …)` -/
def take (reader : Option ReaderTake) (allocates : Bool) (rosMessage : Option Message)
    (subscription : Option (RmwHandle (DDSSubscriber Message))) (taken : Option Bool)
    (messageInfo : Option MessageInfo) : RmwTaken Message :=
  match rosMessage with
  | none => ⟨.error, some "ros_message is null", none, taken, messageInfo, []⟩
  | some message =>
    match fromSubscription subscription with
    | .error text => ⟨.error, some text, some message, taken, messageInfo, []⟩
    | .ok ddsSub =>
      match taken with
      | none => ⟨.error, some "taken is null", some message, none, messageInfo, []⟩
      | some flag =>
        let cdrStream : SerializedMessage := ⟨none, 0, 0⟩
        let out := takeSerialized reader allocates (some cdrStream) flag messageInfo
        -- the pointer is tested here, not the flag it points to
        if out.ret = .ok ∧ taken.isSome then
          let stream := out.cdrStream.getD cdrStream
          let (ret, error, message') := toRosMessage ddsSub stream message
          ⟨ret, error, some message', some out.taken, out.messageInfo, [stream]⟩
        else ⟨out.ret, out.error, some message, some out.taken, out.messageInfo, []⟩

def rmwTake (reader : Option ReaderTake) (allocates : Bool)
    (subscription : Option (RmwHandle (DDSSubscriber Message))) (rosMessage : Option Message)
    (taken : Option Bool) : RmwTaken Message :=
  take reader allocates rosMessage subscription taken none

def rmwTakeWithInfo (reader : Option ReaderTake) (allocates : Bool)
    (subscription : Option (RmwHandle (DDSSubscriber Message))) (rosMessage : Option Message)
    (taken : Option Bool) (messageInfo : Option MessageInfo) : RmwTaken Message :=
  match messageInfo with
  | none => ⟨.error, some "message info is null", rosMessage, taken, none, []⟩
  | some info => take reader allocates rosMessage subscription taken (some info)

end RmwOpendds.Take
