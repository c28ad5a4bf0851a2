import RmwOpendds.Take

/-! A DataReader as a queue of samples under any sequence of `rmw_take` and
`rmw_take_with_info` calls. Allocation succeeds. A call on an empty queue hands
the null stream to `to_message`, and a call that meets a sample without valid
data fails; all other calls deliver the head of the queue. -/

namespace RmwOpendds.Take

variable {Message : Type}

inductive Call (Message : Type) where
  | rmwTake (rosMessage : Message) (taken : Bool)
  | rmwTakeWithInfo (rosMessage : Message) (taken : Bool) (messageInfo : MessageInfo)
  deriving DecidableEq, Repr

def Call.rosMessage : Call Message → Message
  | .rmwTake rosMessage _ => rosMessage
  | .rmwTakeWithInfo rosMessage _ _ => rosMessage

def Call.messageInfo : Call Message → Option MessageInfo
  | .rmwTake _ _ => none
  | .rmwTakeWithInfo _ _ messageInfo => some messageInfo

def readerTake : List Sample → ReaderTake
  | [] => .noData
  | s :: _ => .sample s

def call (sub : DDSSubscriber Message) (queue : List Sample) : Call Message → RmwTaken Message
  | .rmwTake rosMessage taken =>
    rmwTake (some (readerTake queue)) true (some ⟨.opendds, some sub⟩) (some rosMessage)
      (some taken)
  | .rmwTakeWithInfo rosMessage taken messageInfo =>
    rmwTakeWithInfo (some (readerTake queue)) true (some ⟨.opendds, some sub⟩) (some rosMessage)
      (some taken) (some messageInfo)

def run (sub : DDSSubscriber Message) :
    List Sample → List (Call Message) → List (Call Message × RmwTaken Message)
  | _, [] => []
  | queue, c :: calls => (c, call sub queue c) :: run sub queue.tail calls

def streamOf (s : Sample) : SerializedMessage :=
  ⟨some s.serializedData, s.serializedData.length, s.serializedData.length⟩

/-- `to_message` decodes the streams of the valid samples of the queue, whatever
the message was before. -/
def Decodes (sub : DDSSubscriber Message) (decode : List UInt8 → Message)
    (queue : List Sample) : Prop :=
  ∀ s ∈ queue, s.validData → ∀ m, sub.toMessage (streamOf s) m = (true, decode s.serializedData)

def Delivered (r : Call Message × RmwTaken Message) : Prop :=
  r.2.ret = .ok ∧ r.2.taken = some true

instance (r : Call Message × RmwTaken Message) : Decidable (Delivered r) :=
  inferInstanceAs (Decidable (_ ∧ _))

structure Untouched (r : Call Message × RmwTaken Message) : Prop where
  ret : r.2.ret = .ok
  taken : r.2.taken = some false
  decoded : r.2.decoded = []
  rosMessage : r.2.rosMessage = some r.1.rosMessage
  messageInfo : r.2.messageInfo = r.1.messageInfo

/-- The valid samples that the calls met are delivered in order and once each,
and every call that delivers nothing leaves its arguments alone. -/
structure Exact (decode : List UInt8 → Message) (queue : List Sample)
    (results : List (Call Message × RmwTaken Message)) : Prop where
  delivered : (results.filter (Delivered ·)).map (·.2.rosMessage) =
    ((queue.take results.length).filter (·.validData)).map (some <| decode ·.serializedData)
  others : ∀ r ∈ results, ¬ Delivered r → Untouched r

theorem call_eq (sub : DDSSubscriber Message) (queue : List Sample) (c : Call Message) :
    ∃ taken, call sub queue c =
      take (some (readerTake queue)) true (some c.rosMessage) (some ⟨.opendds, some sub⟩)
        (some taken) c.messageInfo := by
  cases c with
  | rmwTake rosMessage taken => exact ⟨taken, rfl⟩
  | rmwTakeWithInfo rosMessage taken messageInfo => exact ⟨taken, rfl⟩

theorem call_empty (sub : DDSSubscriber Message) (c : Call Message) :
    (call sub [] c).taken = some false ∧ (call sub [] c).decoded = [⟨none, 0, 0⟩] := by
  obtain ⟨taken, h⟩ := call_eq sub [] c
  rw [h]
  exact ⟨rfl, rfl⟩

theorem call_invalid (sub : DDSSubscriber Message) {s : Sample} (queue : List Sample)
    (invalid : s.validData = false) (c : Call Message) :
    (call sub (s :: queue) c).ret = .error := by
  obtain ⟨taken, h⟩ := call_eq sub (s :: queue) c
  rw [h]
  simp [take, fromSubscription, readerTake, takeSerialized, deliver, invalid]

theorem call_valid (sub : DDSSubscriber Message) {s : Sample} (queue : List Sample)
    (valid : s.validData = true) {message : Message}
    (decodes : ∀ m, sub.toMessage (streamOf s) m = (true, message)) (c : Call Message) :
    call sub (s :: queue) c =
      ⟨.ok, none, some message, some true, c.messageInfo.map (publisherInfo s), [streamOf s]⟩ := by
  obtain ⟨taken, h⟩ := call_eq sub (s :: queue) c
  have bound : s.serializedData.length ≤ bufferMax := s.length_le
  have decoded := decodes c.rosMessage
  rw [streamOf] at decoded
  rw [h]
  simp [take, fromSubscription, readerTake, takeSerialized, deliver, valid, bound, toRosMessage,
    decoded, streamOf]

theorem exact_nil (decode : List UInt8 → Message) (queue : List Sample) : Exact decode queue [] :=
  ⟨rfl, fun _ member => absurd member List.not_mem_nil⟩

theorem not_exact_empty (sub : DDSSubscriber Message) (decode : List UInt8 → Message)
    (c : Call Message) (calls : List (Call Message)) :
    ¬ Exact decode [] (run sub [] (c :: calls)) := by
  intro h
  have silent := call_empty sub c
  have undelivered : ¬ Delivered (c, call sub [] c) := by simp [Delivered, silent.1]
  have untouched := h.others _ List.mem_cons_self undelivered
  rw [Untouched.decoded untouched] at silent
  cases silent.2

theorem exact_cons_iff (sub : DDSSubscriber Message) {decode : List UInt8 → Message} {s : Sample}
    {rest : List Sample} (decodes : Decodes sub decode (s :: rest)) (c : Call Message)
    (calls : List (Call Message)) :
    Exact decode (s :: rest) (run sub (s :: rest) (c :: calls)) ↔
      s.validData ∧ Exact decode rest (run sub rest calls) := by
  cases valid : s.validData with
  | false =>
    refine iff_of_false (fun h => ?_) (fun h => nomatch h.1)
    have failed := call_invalid sub rest valid c
    have undelivered : ¬ Delivered (c, call sub (s :: rest) c) := by simp [Delivered, failed]
    have untouched := h.others _ List.mem_cons_self undelivered
    rw [Untouched.ret untouched] at failed
    cases failed
  | true =>
    have law := call_valid sub rest valid (decodes s List.mem_cons_self valid) c
    have hit : Delivered (c, call sub (s :: rest) c) := by simp [Delivered, law]
    have messages : ((run sub (s :: rest) (c :: calls)).filter (Delivered ·)).map (·.2.rosMessage) =
        some (decode s.serializedData) ::
          ((run sub rest calls).filter (Delivered ·)).map (·.2.rosMessage) := by
      rw [run, List.tail_cons, List.filter_cons_of_pos (by simpa using hit), List.map_cons, law]
    have expected : (((s :: rest).take (run sub (s :: rest) (c :: calls)).length).filter
          (·.validData)).map (some <| decode ·.serializedData) =
        some (decode s.serializedData) :: ((rest.take (run sub rest calls).length).filter
          (·.validData)).map (some <| decode ·.serializedData) := by
      simp [run, valid]
    constructor
    · intro h
      have all := h.delivered
      rw [messages, expected] at all
      exact ⟨rfl, List.tail_eq_of_cons_eq all,
        fun r member => h.others r (List.mem_cons_of_mem _ member)⟩
    · rintro ⟨-, h⟩
      refine ⟨?_, fun r member undelivered => ?_⟩
      · rw [messages, expected, h.delivered]
      · rw [run, List.tail_cons, List.mem_cons] at member
        obtain rfl | later := member
        · exact absurd hit undelivered
        · exact h.others r later undelivered

/-- A sequence of calls is exact if and only if there is a sample for every call
and all of these samples are valid. -/
theorem take_exact_iff (sub : DDSSubscriber Message) (decode : List UInt8 → Message)
    (queue : List Sample) (decodes : Decodes sub decode queue) (calls : List (Call Message)) :
    Exact decode queue (run sub queue calls) ↔
      calls.length ≤ queue.length ∧ ∀ s ∈ queue.take calls.length, s.validData := by
  induction calls generalizing queue with
  | nil => simp [run, exact_nil]
  | cons c calls ih =>
    cases queue with
    | nil => simp [not_exact_empty]
    | cons s rest =>
      have later : Decodes sub decode rest := fun x member =>
        decodes x (List.mem_cons_of_mem s member)
      rw [exact_cons_iff sub decodes, ih rest later]
      simp only [List.length_cons, List.take_succ_cons, List.forall_mem_cons,
        Nat.succ_le_succ_iff, and_left_comm]

def bytesOnly : DDSSubscriber (List UInt8) where
  toMessage stream message :=
    match stream.buffer with
    | none => (false, message)
    | some bytes => (true, bytes)

def twoBytes (validData : Bool) : Sample := ⟨[1, 2], by decide, validData, 7⟩

def twoSamples : List Sample := [twoBytes true, ⟨[3], by decide, true, 8⟩]

def twoCalls : List (Call (List UInt8)) :=
  [.rmwTake [] false, .rmwTakeWithInfo [] false ⟨⟨.null, 0, []⟩⟩]

theorem take_exact_iff_two :
    Exact id twoSamples (run bytesOnly twoSamples twoCalls) ∧
      (run bytesOnly twoSamples twoCalls).map (·.2.rosMessage) = [some [1, 2], some [3]] := by
  refine ⟨(take_exact_iff bytesOnly id twoSamples ?_ twoCalls).mpr (by decide), by decide⟩
  intro s member valid m
  obtain rfl | rfl : s = twoBytes true ∨ s = _ := by simpa [twoSamples] using member
  all_goals rfl

/-- An empty poll calls the callback with the null stream. -/
theorem empty_poll_decodes :
    ¬ ∀ (sub : DDSSubscriber (List UInt8)) (decode : List UInt8 → List UInt8)
      (queue : List Sample) (calls : List (Call (List UInt8))), Decodes sub decode queue →
      Exact decode queue (run sub queue calls) := by
  intro claim
  have exact := claim bytesOnly id [] [.rmwTake [] false]
    fun s member => absurd member List.not_mem_nil
  have untouched := exact.others _ List.mem_cons_self (by decide)
  exact absurd untouched.decoded (by decide)

end RmwOpendds.Take
