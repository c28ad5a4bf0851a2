import RmwOpendds.MessageOrder

/-! The typed calls as the serialized ones with a conversion before or after them. A
topic and the conversion functions find their callbacks in the same type support; they
differ in the texts of their errors only. -/

namespace RmwOpendds.Messaging

open Library Take Publish

variable {Message : Type} {known : TypesupportIdentifiers}
  {ts : Option (TypeSupport (SerializationCallbacks Message))}
  {callbacks : SerializationCallbacks Message}

theorem getCallbacks_eq_ok {Callbacks : Type} {ts : Option (TypeSupport Callbacks)}
    {cb : Callbacks} {isNull callbacksNull : String}
    (found : TypeSupport.getCallbacks known isNull callbacksNull ts = .ok cb)
    (isNull' callbacksNull' : String) :
    TypeSupport.getCallbacks known isNull' callbacksNull' ts = .ok cb := by
  unfold TypeSupport.getCallbacks TypeSupport.getTypeSupport at found ⊢
  cases ts with
  | none => cases found
  | some ts =>
    cases c : ts.forIdentifier known.c with
    | some data =>
      cases data with
      | none => simp [c, bind, Except.bind] at found
      | some cb' => simpa [c, bind, Except.bind] using found
    | none =>
      cases cpp : ts.forIdentifier known.cpp with
      | some data =>
        cases data with
        | none => simp [c, cpp, bind, Except.bind] at found
        | some cb' => simpa [c, cpp, bind, Except.bind] using found
      | none => simp [c, cpp, bind, Except.bind] at found

def topicCallbacks (known : TypesupportIdentifiers)
    (ts : Option (TypeSupport (SerializationCallbacks Message))) :
    Except String (SerializationCallbacks Message) :=
  TypeSupport.getCallbacks known "DDSTopic type support is null" "DDSTopic callbacks_ is null" ts

theorem rmwSerialize_eq (found : topicCallbacks known ts = .ok callbacks) (message : Message)
    (stream : SerializedMessage) :
    rmwSerialize known message ts stream =
      match callbacks.toCdrStream message stream with
      | (.threw what, stream') => (.error what, stream')
      | (.returned true, stream') => (.ok (.ok, none), stream')
      | (.returned false, stream') =>
        (.ok (.error, some "failed to convert ros_message to cdr stream"), stream') := by
  have lookup : messageCallbacks known ts = .ok callbacks := getCallbacks_eq_ok found _ _
  match made : callbacks.toCdrStream message stream with
  | (.threw what, _) => simp [rmwSerialize, lookup, made]
  | (.returned true, _) => simp [rmwSerialize, lookup, made]
  | (.returned false, _) => simp [rmwSerialize, lookup, made]

theorem rmwDeserialize_eq (found : topicCallbacks known ts = .ok callbacks) (message : Message)
    (stream : SerializedMessage) :
    (rmwDeserialize known stream ts message).1 =
        (if (callbacks.toMessage stream message).1 then .ok else .error) ∧
      (rmwDeserialize known stream ts message).2.2 = (callbacks.toMessage stream message).2 := by
  have lookup : messageCallbacks known ts = .ok callbacks := getCallbacks_eq_ok found _ _
  rw [rmwDeserialize, lookup]
  cases converted : (callbacks.toMessage stream message).1 <;> simp [converted]

section Publishing

variable (known : TypesupportIdentifiers)
  (ts : Option (TypeSupport (SerializationCallbacks Message)))
  (publisher : Option (RmwHandle (Publish.DDSPublisher Message))) (status : ReturnCode)

/-- `rmw_publish` is `rmw_publish_serialized_message` of what `rmw_serialize` makes of the
message, except that it does not publish an empty serialization and that it then, and
when publishing fails, returns `RMW_RET_OK`. -/
def PublishFactors (rosMessage : Option Message) : Prop :=
  match fromPublisher publisher, rosMessage with
  | .error text, _ =>
    rmwPublish publisher rosMessage status = some ⟨.error, some text, none, none⟩ ∧
      ∀ message, rmwPublishSerializedMessage publisher message status =
        some ⟨.error, some text, none, none⟩
  | .ok _, none =>
    rmwPublish publisher none status = some ⟨.error, some "ros_message is null", none, none⟩ ∧
      rmwPublishSerializedMessage publisher none status =
        some ⟨.error, some "serialized message is null", none, none⟩
  | .ok _, some message =>
    match rmwSerialize known message ts ⟨none, 0, 0⟩ with
    | (.ok (.ok, _), stream) =>
      if stream.bufferLength = 0 ∨ stream.buffer = none then
        ∃ text, rmwPublish publisher (some message) status = some ⟨.ok, some text, none, none⟩
      else
        rmwPublish publisher (some message) status =
          (rmwPublishSerializedMessage publisher (some stream) status).map
            fun r => { r with ret := .ok }
    | _ =>
      ∃ text leaked, rmwPublish publisher (some message) status =
        some ⟨.error, some text, none, leaked⟩

variable {known ts publisher status}

theorem publishFactors_message {narrows : Bool} (found : topicCallbacks known ts = .ok callbacks)
    (handle : fromPublisher publisher = .ok ⟨callbacks, narrows⟩) (message : Message) :
    PublishFactors known ts publisher status (some message) := by
  simp only [PublishFactors, handle, rmwSerialize_eq found]
  match made : callbacks.toCdrStream message ⟨none, 0, 0⟩ with
  | (.threw what, stream) =>
    refine ⟨what.getD "rmw_publish failed", none, ?_⟩
    simp [rmwPublish, handle, Publish.DDSPublisher.toCdrStream, made]
  | (.returned false, stream) =>
    refine ⟨"to_cdr_stream failed", stream.buffer, ?_⟩
    simp [rmwPublish, handle, Publish.DDSPublisher.toCdrStream, made]
  | (.returned true, stream) =>
    by_cases hollow : stream.bufferLength = 0 ∨ stream.buffer = none
    · simp only [hollow, if_true, rmwPublish, handle, Publish.DDSPublisher.toCdrStream, made, ne_eq,
        not_true_eq_false, if_false]
      by_cases length : stream.bufferLength = 0
      · exact ⟨"no message length set", by simp [length]⟩
      · have null : stream.buffer = none := hollow.resolve_left length
        exact ⟨"no serialized message attached", by simp [length, null]⟩
    · obtain ⟨filled, attached⟩ := not_or.mp hollow
      simp only [rmwPublish, rmwPublishSerializedMessage, handle,
        Publish.DDSPublisher.toCdrStream, made, ne_eq, not_true_eq_false, if_false, filled,
        attached, Option.map_map]
      congr 1
      funext w
      cases written : w.ok <;> simp [written]

theorem publishFactors
    (made : ∀ pub, fromPublisher publisher = .ok pub → topicCallbacks known ts = .ok pub.callbacks)
    (rosMessage : Option Message) : PublishFactors known ts publisher status rosMessage := by
  cases handle : fromPublisher publisher with
  | error text =>
    simp only [PublishFactors, handle]
    exact ⟨by simp [rmwPublish, handle], by simp [rmwPublishSerializedMessage, handle]⟩
  | ok pub =>
    cases rosMessage with
    | none =>
      simp only [PublishFactors, handle]
      exact ⟨by simp [rmwPublish, handle, Publish.DDSPublisher.toCdrStream],
        by simp [rmwPublishSerializedMessage, handle]⟩
    | some message => exact publishFactors_message (made pub handle) handle message

end Publishing

section Taking

variable (known : TypesupportIdentifiers)
  (ts : Option (TypeSupport (SerializationCallbacks Message)))
  (reader : Option ReaderTake) (allocates : Bool)
  (subscription : Option (RmwHandle (Take.DDSSubscriber Message)))

/-- `rmw_take` is `rmw_deserialize` of what `rmw_take_serialized_message` leaves in a
fresh message whenever that call succeeds, with and without a sample. It checks the flag,
which the other call dereferences. -/
def TakeFactors (rosMessage : Option Message) (taken : Option Bool) : Prop :=
  let typed := rmwTake reader allocates subscription rosMessage taken
  let serialized :=
    rmwTakeSerializedMessage reader allocates subscription (some ⟨none, 0, 0⟩) taken
  match rosMessage, fromSubscription subscription, taken with
  | none, _, _ => typed = ⟨.error, some "ros_message is null", none, taken, none, []⟩
  | some message, .error text, _ =>
    typed = ⟨.error, some text, some message, taken, none, []⟩ ∧
      ∃ out, serialized = some out ∧ out.ret = .error ∧ out.error = some text
  | some message, .ok _, none =>
    typed = ⟨.error, some "taken is null", some message, none, none, []⟩ ∧ serialized = none
  | some message, .ok _, some _ =>
    ∃ out, serialized = some out ∧ typed.taken = some out.taken ∧
      if out.ret = .ok then
        ∃ stream, out.cdrStream = some stream ∧
          typed.ret = (rmwDeserialize known stream ts message).1 ∧
          typed.rosMessage = some (rmwDeserialize known stream ts message).2.2
      else typed.ret = out.ret ∧ typed.error = out.error ∧ typed.rosMessage = some message

variable {known ts reader allocates subscription}

theorem takeFactors_message {sub : Take.DDSSubscriber Message}
    (found : topicCallbacks known ts = .ok callbacks) (same : sub.toMessage = callbacks.toMessage)
    (handle : fromSubscription subscription = .ok sub) (message : Message) (flag : Bool) :
    TakeFactors known ts reader allocates subscription (some message) (some flag) := by
  simp only [TakeFactors, handle]
  refine ⟨takeSerialized reader allocates (some ⟨none, 0, 0⟩) flag none, ?_, ?_⟩
  · rw [rmwTakeSerializedMessage, handle]
    rfl
  rw [rmwTake, take_eq reader message handle]
  generalize result : takeSerialized reader allocates (some ⟨none, 0, 0⟩) flag none = out
  have present : ∃ stream, out.cdrStream = some stream := by
    rw [← result]
    cases reader <;> exact ⟨_, rfl⟩
  obtain ⟨stream, left⟩ := present
  obtain ⟨ret, after⟩ := rmwDeserialize_eq found message stream
  by_cases ok : out.ret = .ok
  · simp only [if_pos ok]
    refine ⟨trivial, stream, left, ?_, ?_⟩
    · rw [ret]
      cases converted : (callbacks.toMessage stream message).1 <;>
        simp [left, toRosMessage, same, converted]
    · rw [after]
      cases converted : (callbacks.toMessage stream message).1 <;>
        simp [left, toRosMessage, same, converted]
  · simp [if_neg ok]

theorem takeFactors
    (made : ∀ sub, fromSubscription subscription = .ok sub →
      ∃ callbacks, topicCallbacks known ts = .ok callbacks ∧ sub.toMessage = callbacks.toMessage)
    (rosMessage : Option Message) (taken : Option Bool) :
    TakeFactors known ts reader allocates subscription rosMessage taken := by
  cases rosMessage with
  | none => exact rfl
  | some message =>
    cases handle : fromSubscription subscription with
    | error text =>
      simp only [TakeFactors, handle]
      refine ⟨by simp [rmwTake, take, handle],
        ⟨.error, some text, some ⟨none, 0, 0⟩, taken.getD false, none⟩, ?_, rfl, rfl⟩
      rw [rmwTakeSerializedMessage, handle]
    | ok sub =>
      cases taken with
      | none =>
        simp only [TakeFactors, handle]
        exact ⟨by simp [rmwTake, take, handle], by simp [rmwTakeSerializedMessage, handle]⟩
      | some flag =>
        obtain ⟨callbacks, found, same⟩ := made sub handle
        exact takeFactors_message found same handle message flag

end Taking

/-- Bytes that are their own serialization, under the identifier of the C type support. -/
def bytesSupport : TypeSupport (SerializationCallbacks (List UInt8)) where
  typesupportIdentifier := "rosidl_typesupport_opendds_c"
  forIdentifier identifier :=
    if identifier = "rosidl_typesupport_opendds_c" then some (some (single.publishers ()).callbacks)
    else none

def identifiers : TypesupportIdentifiers :=
  ⟨"rosidl_typesupport_opendds_c", "rosidl_typesupport_opendds_cpp"⟩

end RmwOpendds.Messaging
