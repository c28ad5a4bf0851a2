import RmwOpendds.TakeQueue

/-! `rmw_take_serialized_message` and `rmw_take_serialized_message_with_info`. The
lengths and the buffer pointer of the caller's message are overwritten before the
allocation is known to succeed, the message info only after it. `taken` is
dereferenced unchecked behind the other checks, where the result is `none` if it is
null; a null `taken` of a refused call stays a flag that is not up. -/

namespace RmwOpendds.Take

variable {Message : Type}

def rmwTakeSerializedMessage (reader : Option ReaderTake) (allocates : Bool)
    (subscription : Option (RmwHandle (DDSSubscriber Message)))
    (serializedMsg : Option SerializedMessage) (taken : Option Bool) : Option Taken :=
  match fromSubscription subscription with
  | .error text => some ⟨.error, some text, serializedMsg, taken.getD false, none⟩
  | .ok _ => taken.map fun flag => takeSerialized reader allocates serializedMsg flag none

def rmwTakeSerializedMessageWithInfo (reader : Option ReaderTake) (allocates : Bool)
    (subscription : Option (RmwHandle (DDSSubscriber Message)))
    (serializedMsg : Option SerializedMessage) (taken : Option Bool)
    (messageInfo : Option MessageInfo) : Option Taken :=
  match fromSubscription subscription with
  | .error text => some ⟨.error, some text, serializedMsg, taken.getD false, messageInfo⟩
  | .ok _ =>
    match messageInfo with
    | none => some ⟨.error, some "message info is null", serializedMsg, taken.getD false, none⟩
    | some info =>
      taken.map fun flag => takeSerialized reader allocates serializedMsg flag (some info)

/-- A call that delivers nothing leaves the caller's buffers alone, and one that
delivers fills the message with a sample and succeeds. -/
structure LeavesAlone (reader : Option ReaderTake) (serializedMsg : Option SerializedMessage)
    (messageInfo : Option MessageInfo) (r : Taken) : Prop where
  nothing : r.taken = false → r.cdrStream = serializedMsg ∧ r.messageInfo = messageInfo
  delivered : r.taken = true → r.ret = .ok ∧
    ∃ s, reader = some (.sample s) ∧ r.cdrStream = some (streamOf s)

/-- The allocation for a valid sample fails, and the caller's message is not by
chance as the failure leaves it. -/
def Spoils (reader : Option ReaderTake) (allocates : Bool) (stream : SerializedMessage) : Prop :=
  ∃ s, reader = some (.sample s) ∧ s.validData ∧ allocates = false ∧
    stream ≠ ⟨none, s.serializedData.length, s.serializedData.length⟩

def Refused (subscription : Option (RmwHandle (DDSSubscriber Message)))
    (serializedMsg : Option SerializedMessage) : Prop :=
  (fromSubscription subscription).isOk = false ∨ serializedMsg = none

def Harmless (refused : Prop) (reader : Option ReaderTake) (allocates : Bool)
    (serializedMsg : Option SerializedMessage) (taken : Option Bool) : Prop :=
  (refused → taken ≠ some true) ∧ (¬ refused → taken ≠ none →
    ∀ stream, serializedMsg = some stream → ¬ Spoils reader allocates stream)

theorem leavesAlone_refused {reader : Option ReaderTake} {serializedMsg : Option SerializedMessage}
    {messageInfo : Option MessageInfo} {taken : Bool} {text : String} :
    LeavesAlone reader serializedMsg messageInfo
        ⟨.error, some text, serializedMsg, taken, messageInfo⟩ ↔ taken = false := by
  constructor
  · intro alone
    cases taken with
    | false => rfl
    | true => exact nomatch (alone.delivered rfl).1
  · rintro rfl
    exact ⟨fun _ => ⟨rfl, rfl⟩, nofun⟩

theorem leavesAlone_takeSerialized (reader : Option ReaderTake) (allocates : Bool)
    (stream : SerializedMessage) (taken : Bool) (messageInfo : Option MessageInfo) :
    LeavesAlone reader (some stream) messageInfo
        (takeSerialized reader allocates (some stream) taken messageInfo) ↔
      ¬ Spoils reader allocates stream := by
  have untaken : ∀ ret error, (∀ s, reader = some (.sample s) → s.validData = false) →
      (LeavesAlone reader (some stream) messageInfo
        ⟨ret, error, some stream, false, messageInfo⟩ ↔ ¬ Spoils reader allocates stream) := by
    intro ret error invalid
    refine iff_of_true ⟨fun _ => ⟨rfl, rfl⟩, by simp⟩ ?_
    rintro ⟨s, same, valid, -⟩
    simp [invalid s same] at valid
  match reader with
  | none => exact untaken _ _ (by simp)
  | some .noData => exact untaken _ _ (by simp)
  | some .failed => exact untaken _ _ (by simp)
  | some (.sample s) =>
    cases valid : s.validData with
    | false =>
      have given := untaken .error none fun s' same => by
        obtain rfl : s = s' := by simpa using same
        exact valid
      simpa [takeSerialized, deliver, valid] using given
    | true =>
      cases allocates with
      | true =>
        simp only [takeSerialized, deliver, valid, s.length_le, if_true]
        refine iff_of_true ⟨by simp, fun _ => ⟨rfl, s, rfl, rfl⟩⟩ ?_
        rintro ⟨_, _, _, fails, _⟩
        cases fails
      | false =>
        simp only [takeSerialized, deliver, valid, s.length_le, if_true]
        constructor
        · rintro alone ⟨s', same, -, -, differs⟩
          obtain rfl : s = s' := by simpa using same
          exact differs (Option.some.inj (alone.nothing rfl).1).symm
        · intro harmless
          refine ⟨fun _ => ⟨?_, rfl⟩, by simp⟩
          by_contra differs
          exact harmless ⟨s, rfl, valid, rfl, fun same => differs (congrArg some same.symm)⟩

theorem leavesAlone_of_reached {reader : Option ReaderTake} {allocates taken : Bool}
    {serializedMsg : Option SerializedMessage} {messageInfo : Option MessageInfo}
    (present : serializedMsg ≠ none) :
    LeavesAlone reader serializedMsg messageInfo
        (takeSerialized reader allocates serializedMsg taken messageInfo) ↔
      ∀ stream, serializedMsg = some stream → ¬ Spoils reader allocates stream := by
  cases serializedMsg with
  | none => exact absurd rfl present
  | some stream => simp [leavesAlone_takeSerialized]

theorem leavesAlone_iff {refused : Prop} {reader : Option ReaderTake} {allocates : Bool}
    {taken : Option Bool} {serializedMsg : Option SerializedMessage}
    {messageInfo : Option MessageInfo} {result : Option Taken}
    (early : refused → ∀ r ∈ result, ∃ text,
      r = ⟨.error, some text, serializedMsg, taken.getD false, messageInfo⟩)
    (returns : refused → taken.isSome → result.isSome)
    (late : ¬ refused → serializedMsg ≠ none ∧ result =
      taken.map fun flag => takeSerialized reader allocates serializedMsg flag messageInfo) :
    (∀ r ∈ result, LeavesAlone reader serializedMsg messageInfo r) ↔
      Harmless refused reader allocates serializedMsg taken := by
  unfold Harmless
  by_cases refusal : refused
  · simp only [refusal, true_imp_iff, not_true_eq_false, false_imp_iff, and_true]
    cases taken with
    | none =>
      refine iff_of_true (fun r member => ?_) nofun
      obtain ⟨text, rfl⟩ := early refusal r member
      exact leavesAlone_refused.mpr rfl
    | some flag =>
      obtain ⟨r, returned⟩ := Option.isSome_iff_exists.mp (returns refusal rfl)
      obtain ⟨text, rfl⟩ := early refusal r returned
      simp [returned, leavesAlone_refused]
  · obtain ⟨present, rfl⟩ := late refusal
    cases taken with
    | none => simp [refusal]
    | some flag => simp [leavesAlone_of_reached present, refusal]

section Entry

variable {reader : Option ReaderTake} {allocates : Bool} {taken : Option Bool}
  {subscription : Option (RmwHandle (DDSSubscriber Message))}
  {serializedMsg : Option SerializedMessage} {messageInfo : Option MessageInfo}

theorem rmwTakeSerializedMessage_refused (refused : Refused subscription serializedMsg) {r : Taken}
    (returned : rmwTakeSerializedMessage reader allocates subscription serializedMsg taken =
      some r) :
    ∃ text, r = ⟨.error, some text, serializedMsg, taken.getD false, none⟩ := by
  unfold rmwTakeSerializedMessage at returned
  cases handle : fromSubscription subscription with
  | error text =>
    rw [handle] at returned
    exact ⟨text, (Option.some.inj returned).symm⟩
  | ok sub =>
    obtain rfl := refused.resolve_left (by simp [handle, Except.isOk, Except.toBool])
    rw [handle] at returned
    obtain ⟨flag, rfl, rfl⟩ := Option.map_eq_some_iff.mp returned
    exact ⟨_, rfl⟩

theorem rmwTakeSerializedMessage_reached (reached : ¬ Refused subscription serializedMsg) :
    serializedMsg ≠ none ∧
      rmwTakeSerializedMessage reader allocates subscription serializedMsg taken =
        taken.map fun flag => takeSerialized reader allocates serializedMsg flag none := by
  obtain ⟨valid, present⟩ := not_or.mp reached
  unfold rmwTakeSerializedMessage
  cases handle : fromSubscription subscription with
  | error text => simp [handle, Except.isOk, Except.toBool] at valid
  | ok sub => exact ⟨present, rfl⟩

theorem rmwTakeSerializedMessage_returns (given : taken.isSome) :
    (rmwTakeSerializedMessage reader allocates subscription serializedMsg taken).isSome := by
  unfold rmwTakeSerializedMessage
  cases fromSubscription subscription with
  | error text => rfl
  | ok sub => rwa [Option.isSome_map]

theorem rmwTakeSerializedMessageWithInfo_refused
    (refused : Refused subscription serializedMsg ∨ messageInfo = none) {r : Taken}
    (returned : rmwTakeSerializedMessageWithInfo reader allocates subscription serializedMsg taken
      messageInfo = some r) :
    ∃ text, r = ⟨.error, some text, serializedMsg, taken.getD false, messageInfo⟩ := by
  unfold rmwTakeSerializedMessageWithInfo at returned
  cases handle : fromSubscription subscription with
  | error text =>
    rw [handle] at returned
    exact ⟨text, (Option.some.inj returned).symm⟩
  | ok sub =>
    rw [handle] at returned
    cases messageInfo with
    | none => exact ⟨_, (Option.some.inj returned).symm⟩
    | some info =>
      obtain (invalid | rfl) | absent := refused
      · simp [handle, Except.isOk, Except.toBool] at invalid
      · obtain ⟨flag, rfl, rfl⟩ := Option.map_eq_some_iff.mp returned
        exact ⟨_, rfl⟩
      · cases absent

theorem rmwTakeSerializedMessageWithInfo_reached
    (reached : ¬ (Refused subscription serializedMsg ∨ messageInfo = none)) :
    serializedMsg ≠ none ∧
      rmwTakeSerializedMessageWithInfo reader allocates subscription serializedMsg taken
        messageInfo =
        taken.map fun flag => takeSerialized reader allocates serializedMsg flag messageInfo := by
  obtain ⟨accepted, given⟩ := not_or.mp reached
  obtain ⟨valid, present⟩ := not_or.mp accepted
  obtain ⟨info, rfl⟩ := Option.ne_none_iff_exists'.mp given
  unfold rmwTakeSerializedMessageWithInfo
  cases handle : fromSubscription subscription with
  | error text => simp [handle, Except.isOk, Except.toBool] at valid
  | ok sub => exact ⟨present, rfl⟩

theorem rmwTakeSerializedMessageWithInfo_returns (given : taken.isSome) :
    (rmwTakeSerializedMessageWithInfo reader allocates subscription serializedMsg taken
      messageInfo).isSome := by
  unfold rmwTakeSerializedMessageWithInfo
  cases fromSubscription subscription with
  | error text => rfl
  | ok sub =>
    cases messageInfo with
    | none => rfl
    | some info => rwa [Option.isSome_map]

end Entry

/-- Both functions leave the caller's buffers alone, or fill them with a sample,
exactly if no allocation for a valid sample fails under a message that is not
already empty at the sample's length, and no refused call finds the flag up. -/
theorem take_serialized_iff (reader : Option ReaderTake) (allocates : Bool)
    (subscription : Option (RmwHandle (DDSSubscriber Message)))
    (serializedMsg : Option SerializedMessage) (taken : Option Bool)
    (messageInfo : Option MessageInfo) :
    ((∀ r ∈ rmwTakeSerializedMessage reader allocates subscription serializedMsg taken,
        LeavesAlone reader serializedMsg none r) ↔
      Harmless (Refused subscription serializedMsg) reader allocates serializedMsg taken) ∧
    ((∀ r ∈ rmwTakeSerializedMessageWithInfo reader allocates subscription serializedMsg taken
          messageInfo, LeavesAlone reader serializedMsg messageInfo r) ↔
      Harmless (Refused subscription serializedMsg ∨ messageInfo = none) reader allocates
        serializedMsg taken) :=
  ⟨leavesAlone_iff (fun refused _ => rmwTakeSerializedMessage_refused refused)
      (fun _ => rmwTakeSerializedMessage_returns) rmwTakeSerializedMessage_reached,
    leavesAlone_iff (fun refused _ => rmwTakeSerializedMessageWithInfo_refused refused)
      (fun _ => rmwTakeSerializedMessageWithInfo_returns)
      rmwTakeSerializedMessageWithInfo_reached⟩

/-- A message of one byte whose capacity of eight the failing allocation for two
bytes forgets, along with its buffer. -/
theorem allocation_failure_spoils :
    ¬ ∀ r ∈ rmwTakeSerializedMessage (some (.sample ⟨[1, 2], by decide, true, 1⟩)) false
        (some ⟨.opendds, some (⟨fun _ m => (true, m)⟩ : DDSSubscriber Unit)⟩)
        (some ⟨some [7], 1, 8⟩) (some false),
      LeavesAlone (some (.sample ⟨[1, 2], by decide, true, 1⟩)) (some ⟨some [7], 1, 8⟩) none r := by
  intro claim
  exact absurd ((claim _ rfl).nothing (by decide)).1 (by decide)

end RmwOpendds.Take
