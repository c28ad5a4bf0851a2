import Mathlib.Data.List.Forall2
import RmwOpendds.Messaging

/-! What subscriptions obtain of what publishers sent, over all runs: every message
that a publisher knows to be accepted is in one place, and those that DDS did not lose are
in the order of their publisher. Such a message is on the way, or it was removed by one
taking call, which passed it on or failed. -/

namespace RmwOpendds.Messaging

open Library Take Publish

variable {ι κ Message : Type}

/-- The objects behind the handles, and the handle by which each reader knows each
publication. -/
structure Endpoints (ι κ Message : Type) where
  publishers : ι → Publish.DDSPublisher Message
  subscriptions : κ → Take.DDSSubscriber Message
  publicationHandle : κ → ι → Int32

/-- How far a taking call gets with its reader. -/
inductive Reading where
  | answers | fails | notNarrowed
  deriving DecidableEq, Repr

inductive Step (ι κ Message : Type) where
  | rmwPublish (publisher : Option (RmwHandle ι)) (rosMessage : Option Message)
      (status : ReturnCode)
  | rmwPublishSerializedMessage (publisher : Option (RmwHandle ι))
      (serializedMessage : Option SerializedMessage) (status : ReturnCode)
  | instanceEnds (i : ι)
  | arrive (i : ι) (k : κ)
  | lose (i : ι) (k : κ) (n : ℕ)
  | evict (k : κ) (n : ℕ)
  | take (c : TakeCall κ Message) (reading : Reading) (allocates : Bool)

/-- A sample that `reader->take` returned, and whether the call failed after that. -/
structure Removal (ι : Type) where
  entry : ι × Payload
  failed : Bool
  deriving Repr

/-- The queues of the readers and four histories: the messages of the publishing calls
that succeeded without an error, the samples that readers took from a queue, those that DDS
lost, and what the taking calls gave to their callers. -/
structure Network (ι κ Message : Type) where
  mailboxes : κ → Mailbox ι Payload
  accepted : ι → List (List UInt8)
  removed : κ → List (Removal ι)
  lost : κ → List (ι × Payload)
  obtained : κ → List (Obtained Message)

variable [DecidableEq ι] [DecidableEq κ]

namespace Network

def start : Network ι κ Message :=
  ⟨fun _ => .empty ι Payload, fun _ => [], fun _ => [], fun _ => [], fun _ => []⟩

def write (n : Network ι κ Message) (i : ι) (p : Payload) : Network ι κ Message :=
  { n with mailboxes := fun k => (n.mailboxes k).send i p }

/-- After a publishing call with the handle of `i`, which offered these bytes. -/
def published (n : Network ι κ Message) (i : ι) (offered : Option (List UInt8)) (r : Published) :
    Network ι κ Message :=
  let n' := r.payload.elim n (n.write i)
  if r.ret = .ok ∧ r.error = none then
    { n' with accepted :=
        Function.update n.accepted i (n.accepted i ++ offered.toList) }
  else n'

def sample (e : Endpoints ι κ Message) (k : κ) (entry : ι × Payload) : Sample :=
  ⟨entry.2.serializedData, entry.2.length_le, entry.2.validData, e.publicationHandle k entry.1⟩

def reader (e : Endpoints ι κ Message) (n : Network ι κ Message) (k : κ) :
    Reading → Option ReaderTake
  | .notNarrowed => none
  | .fails => some .failed
  | .answers =>
    some (match (n.mailboxes k).queue.head? with
      | none => .noData
      | some entry => .sample (sample e k entry))

/-- After a taking call with the handle of `k` that returned `r`. A sample leaves the queue
when the reader returns it, whatever becomes of it then. -/
def taken (n : Network ι κ Message) (k : κ) (c : TakeCall κ Message) (reading : Reading)
    (r : TakeResult Message) : Network ι κ Message :=
  let n' := { n with obtained :=
      Function.update n.obtained k (n.obtained k ++ r.obtained.toList) }
  if c.complete ∧ reading = .answers then
    { n' with
      mailboxes := Function.update n.mailboxes k (n.mailboxes k).remove
      removed := Function.update n.removed k
        (n.removed k ++ ((n.mailboxes k).queue.head?.map (⟨·, r.ret ≠ .ok⟩)).toList) }
  else n'

def dropped (n : Network ι κ Message) (k : κ) (left : Mailbox ι Payload × (ι × Payload)) :
    Network ι κ Message :=
  { n with
    mailboxes := Function.update n.mailboxes k left.1
    lost := Function.update n.lost k (n.lost k ++ [left.2]) }

def step (e : Endpoints ι κ Message) (n : Network ι κ Message) :
    Step ι κ Message → Option (Network ι κ Message)
  | .rmwPublish publisher rosMessage status =>
    let handle := object e.publishers publisher
    (Publish.rmwPublish handle rosMessage status).map fun r =>
      (designated publisher).elim n (n.published · (offered handle rosMessage) r)
  | .rmwPublishSerializedMessage publisher serializedMessage status =>
    let handle := object e.publishers publisher
    (Publish.rmwPublishSerializedMessage handle serializedMessage status).map fun r =>
      (designated publisher).elim n (n.published · (serializedMessage.bind contents) r)
  | .instanceEnds i => some (n.write i ⟨false, [], Nat.zero_le _⟩)
  | .arrive i k =>
    ((n.mailboxes k).arrive i).map fun mailbox =>
      { n with mailboxes := Function.update n.mailboxes k mailbox }
  | .lose i k position => ((n.mailboxes k).lose i position).map (n.dropped k)
  | .evict k position => ((n.mailboxes k).evict position).map (n.dropped k)
  | .take c reading allocates =>
    (c.perform e.subscriptions ((designated c.subscription).bind (n.reader e · reading))
      allocates).map fun r => (designated c.subscription).elim n (n.taken · c reading r)

end Network

def machine (e : Endpoints ι κ Message) : Machine (Network ι κ Message) (Step ι κ Message) :=
  ⟨Network.start, Network.step e⟩

def messages (payloads : List Payload) : List (List UInt8) :=
  (payloads.filter (·.validData)).map (·.serializedData)

def Gives (e : Endpoints ι κ Message) (k : κ) (got : Obtained Message) (r : Removal ι) : Prop :=
  Conveys (e.subscriptions k) (Network.sample e k r.entry) got

/-- The invariant; `written` is what the writers have written. -/
structure Ordered (e : Endpoints ι κ Message) (n : Network ι κ Message)
    (written : ι → List Payload) : Prop where
  accepted : ∀ i, n.accepted i = messages (written i)
  accounts : ∀ k, (n.mailboxes k).Accounts written ((n.removed k).map (·.entry)) (n.lost k)
  obtained : ∀ k, List.Forall₂ (Gives e k) (n.obtained k)
    ((n.removed k).filter (! ·.failed))

section Steps

variable {e : Endpoints ι κ Message} {n n' : Network ι κ Message} {written : ι → List Payload}

omit [DecidableEq κ] in
theorem accounts_write (ordered : Ordered e n written) (i : ι) (p : Payload) (k : κ) :
    ((n.write i p).mailboxes k).Accounts (fun j => written j ++ if i = j then [p] else [])
      ((n.removed k).map (·.entry)) (n.lost k) := (ordered.accounts k).send i p

omit [DecidableEq κ] in
theorem Ordered.published (ordered : Ordered e n written) (i : ι)
    {offered : Option (List UInt8)} {r : Published} (reports : Reports offered r) :
    ∃ written', Ordered e (n.published i offered r) written' := by
  cases payload : r.payload with
  | none =>
    have hidden : ¬ (r.ret = .ok ∧ r.error = none) := by
      rw [← reports.written, payload]
      simp
    refine ⟨written, ?_⟩
    rw [Network.published, if_neg hidden, payload]
    exact ordered
  | some p =>
    have visible : r.ret = .ok ∧ r.error = none := by
      rw [← reports.written, payload]
      rfl
    obtain ⟨valid, same⟩ := reports.payload p payload
    refine ⟨fun j => written j ++ if i = j then [p] else [], ?_⟩
    rw [Network.published, if_pos visible, payload, same]
    refine ⟨fun j => ?_, accounts_write ordered i p, ordered.obtained⟩
    by_cases own : i = j
    · subst own
      simp [messages, ordered.accepted, valid]
    · simp [own, Function.update_of_ne (Ne.symm own), ordered.accepted]

omit [DecidableEq κ] in
theorem Ordered.instanceEnds (ordered : Ordered e n written) (i : ι) {p : Payload}
    (ended : p.validData = false) : ∃ written', Ordered e (n.write i p) written' := by
  refine ⟨_, fun j => ?_, accounts_write ordered i p, ordered.obtained⟩
  by_cases own : i = j
  · simp [own, messages, Network.write, ordered.accepted, ended]
  · simp [own, Network.write, ordered.accepted]

theorem Ordered.arrive (ordered : Ordered e n written) {i : ι} {k : κ} {mailbox : Mailbox ι Payload}
    (arrived : (n.mailboxes k).arrive i = some mailbox) :
    Ordered e { n with mailboxes := Function.update n.mailboxes k mailbox } written := by
  refine ⟨ordered.accepted, fun k' => ?_, ordered.obtained⟩
  by_cases same : k' = k
  · subst same
    simpa using (ordered.accounts k').arrive arrived
  · simpa [same] using ordered.accounts k'

theorem Ordered.dropped (ordered : Ordered e n written) {k : κ}
    {left : Mailbox ι Payload × (ι × Payload)}
    (parts : ∀ i, (left.1.pending i).Sublist ((n.mailboxes k).pending i) ∧
      ((n.mailboxes k).pending i).Perm (left.1.pending i ++ Mailbox.ofSource i [left.2])) :
    Ordered e (n.dropped k left) written := by
  refine ⟨ordered.accepted, fun k' => ?_, ordered.obtained⟩
  by_cases same : k' = k
  · subst same
    simpa [Network.dropped] using (ordered.accounts k').loss parts
  · simpa [Network.dropped, same] using ordered.accounts k'

theorem forall₂_update (ordered : Ordered e n written) (k : κ) {got : Option (Obtained Message)}
    {entries : List (Removal ι)}
    (gives : List.Forall₂ (Gives e k) got.toList (entries.filter (! ·.failed))) (k' : κ) :
    List.Forall₂ (Gives e k') (Function.update n.obtained k (n.obtained k ++ got.toList) k')
      ((Function.update n.removed k (n.removed k ++ entries) k').filter (! ·.failed)) := by
  by_cases same : k' = k
  · subst same
    simpa using List.rel_append (ordered.obtained k') gives
  · simpa [same] using ordered.obtained k'

omit [DecidableEq ι] [DecidableEq κ] in
theorem gives_of_faithful {k : κ} {entry : ι × Payload} {r : TakeResult Message}
    (faithful : Faithful (e.subscriptions k) (some (.sample (Network.sample e k entry))) r) :
    List.Forall₂ (Gives e k) r.obtained.toList
      ([(⟨entry, r.ret ≠ .ok⟩ : Removal ι)].filter (! ·.failed)) := by
  obtain failed | ⟨got, obtained, conveys⟩ := faithful
  · simp [TakeResult.obtained_of_error failed, failed]
  · have given : Gives e k got ⟨entry, false⟩ := conveys
    simpa [obtained, TakeResult.ret_of_obtained obtained] using given

omit [DecidableEq ι] [DecidableEq κ] in
theorem obtained_of_not_reached {k : κ} {c : TakeCall κ Message} {reading : Reading}
    {allocates : Bool} (found : designated c.subscription = some k)
    (shut : ¬ (c.complete ∧ reading = .answers)) {r : TakeResult Message}
    (returned : c.perform e.subscriptions (n.reader e k reading) allocates = some r) :
    r.obtained = none := by
  by_cases complete : c.complete
  · have faithful := perform_faithful e.subscriptions _ allocates c found returned
    cases reading with
    | answers => exact absurd ⟨complete, rfl⟩ shut
    | fails => exact faithful
    | notNarrowed => exact faithful
  · have refused : c.target = none := by simp [TakeCall.target, complete]
    exact TakeResult.obtained_of_error (perform_refused _ _ _ refused returned)

theorem Ordered.taken (ordered : Ordered e n written) {k : κ} {c : TakeCall κ Message}
    (found : designated c.subscription = some k) {reading : Reading} {allocates : Bool}
    {r : TakeResult Message}
    (returned : c.perform e.subscriptions (n.reader e k reading) allocates = some r) :
    Ordered e (n.taken k c reading r) written := by
  unfold Network.taken
  split
  · rename_i reached
    obtain ⟨-, rfl⟩ := reached
    have faithful := perform_faithful e.subscriptions _ allocates c found returned
    refine ⟨ordered.accepted, fun k' => ?_, fun k' => forall₂_update ordered k ?_ k'⟩
    · by_cases same : k' = k
      · subst same
        cases head : (n.mailboxes k').queue.head? with
        | none => simpa [head] using (ordered.accounts k').remove
        | some entry => simpa [head] using (ordered.accounts k').remove
      · simpa [same] using ordered.accounts k'
    · rw [Network.reader] at faithful
      cases head : (n.mailboxes k).queue.head? with
      | none =>
        rw [head] at faithful
        have nothing : r.obtained = none := faithful
        simp [nothing]
      | some entry =>
        rw [head] at faithful
        exact gives_of_faithful faithful
  · rename_i shut
    refine ⟨ordered.accepted, ordered.accounts, fun k' => ?_⟩
    simpa only [obtained_of_not_reached found shut returned, Option.toList_none, List.append_nil,
      Function.update_eq_self] using ordered.obtained k'

theorem Ordered.step (ordered : Ordered e n written) (label : Step ι κ Message)
    (stepped : n.step e label = some n') : ∃ written', Ordered e n' written' := by
  cases label with
  | rmwPublish publisher rosMessage status =>
    obtain ⟨r, returned, rfl⟩ := Option.map_eq_some_iff.mp stepped
    have reports := rmwPublish_reports returned
    cases found : designated publisher with
    | none => exact ⟨written, ordered⟩
    | some i => exact ordered.published i reports
  | rmwPublishSerializedMessage publisher serializedMessage status =>
    obtain ⟨r, returned, rfl⟩ := Option.map_eq_some_iff.mp stepped
    have reports := rmwPublishSerializedMessage_reports returned
    cases found : designated publisher with
    | none => exact ⟨written, ordered⟩
    | some i => exact ordered.published i reports
  | instanceEnds i =>
    obtain rfl := Option.some.inj stepped
    exact ordered.instanceEnds i rfl
  | arrive i k =>
    obtain ⟨mailbox, arrived, rfl⟩ := Option.map_eq_some_iff.mp stepped
    exact ⟨written, ordered.arrive arrived⟩
  | lose i k position =>
    obtain ⟨left, lost, rfl⟩ := Option.map_eq_some_iff.mp stepped
    exact ⟨written, ordered.dropped (Mailbox.pending_lose lost)⟩
  | evict k position =>
    obtain ⟨left, lost, rfl⟩ := Option.map_eq_some_iff.mp stepped
    exact ⟨written, ordered.dropped (Mailbox.pending_evict lost)⟩
  | take c reading allocates =>
    obtain ⟨r, returned, rfl⟩ := Option.map_eq_some_iff.mp stepped
    cases found : designated c.subscription with
    | none => exact ⟨written, ordered⟩
    | some k =>
      rw [found, Option.bind_some] at returned
      exact ⟨written, ordered.taken found returned⟩

end Steps

theorem messages_append (ps qs : List Payload) :
    messages (ps ++ qs) = messages ps ++ messages qs := by
  simp [messages]

/-- Whatever the order of the calls: the messages that a publisher knows to be accepted
are those that left the queue of any one subscription, those that are still on the way to
it and those that DDS lost, once each; without the lost ones they are in the order of the
publisher, and they are all if none is lost. What the taking calls gave to their callers
is, once each and in order, what left the queue without a failing call. -/
theorem exactly_once (e : Endpoints ι κ Message) {n : Network ι κ Message}
    (reach : (machine e).Reachable n) (i : ι) (k : κ) :
    let kept := messages (Mailbox.ofSource i ((n.removed k).map (·.entry))) ++
      messages ((n.mailboxes k).pending i)
    kept.Sublist (n.accepted i) ∧
      (n.accepted i).Perm (kept ++ messages (Mailbox.ofSource i (n.lost k))) ∧
      (Mailbox.ofSource i (n.lost k) = [] → n.accepted i = kept) ∧
      List.Forall₂ (Gives e k) (n.obtained k) ((n.removed k).filter (! ·.failed)) := by
  obtain ⟨written, ordered⟩ : ∃ written, Ordered e n written := by
    refine reach.invariant (machine e) (P := fun n => ∃ written, Ordered e n written) ?_ ?_
    · exact ⟨fun _ => [], ⟨fun _ => rfl, fun _ => .start, fun _ => .nil⟩⟩
    · rintro s label s' ⟨written, ordered⟩ stepped
      exact ordered.step label stepped
  have accounts := ordered.accounts k
  rw [ordered.accepted]
  simp only [← messages_append]
  refine ⟨?_, ?_, fun none => ?_, ordered.obtained k⟩
  · exact ((accounts.ordered i).filter _).map _
  · exact ((accounts.complete i).filter _).map _
  · exact congrArg messages (accounts.eq_of_kept none)

def single : Endpoints Unit Unit (List UInt8) where
  publishers _ := ⟨⟨fun m _ => (.returned true, ⟨some m, m.length, m.length⟩),
    bytesOnly.toMessage⟩, true⟩
  subscriptions _ := bytesOnly
  publicationHandle _ _ := 7

def publishing (m : List UInt8) : Step Unit Unit (List UInt8) :=
  .rmwPublish (some ⟨.opendds, some ()⟩) (some m) .ok

/-- Of four messages the second is lost, the first and the third are taken, and the last
is still on its way. -/
def fourSent : List (Step Unit Unit (List UInt8)) :=
  [publishing [1, 2], .arrive () (), publishing [3], publishing [4], .lose () () 0, .arrive () (),
    publishing [5],
    .take (.rmwTake (some ⟨.opendds, some ()⟩) (some []) (some false)) .answers true,
    .take (.rmwTake (some ⟨.opendds, some ()⟩) (some []) (some false)) .answers true]

theorem exactly_once_fourSent :
    ∃ n, (machine single).run fourSent = some n ∧
      n.accepted () = [[1, 2], [3], [4], [5]] ∧
      (n.obtained ()).map (·.rosMessage) = [some [1, 2], some [4]] ∧
      (messages (Mailbox.ofSource () ((n.removed ()).map (·.entry))) ++
        messages ((n.mailboxes ()).pending ())).Sublist (n.accepted ()) ∧
      (n.accepted ()).Perm (messages (Mailbox.ofSource () ((n.removed ()).map (·.entry))) ++
        messages ((n.mailboxes ()).pending ()) ++ messages (Mailbox.ofSource () (n.lost ()))) ∧
      List.Forall₂ (Gives single ()) (n.obtained ()) ((n.removed ()).filter (! ·.failed)) := by
  have taken : ((machine single).run fourSent).isSome := by decide
  obtain ⟨n, ran⟩ := Option.isSome_iff_exists.mp taken
  have facts : ((machine single).run fourSent).map
      (fun n => (n.accepted (), (n.obtained ()).map (·.rosMessage))) =
        some ([[1, 2], [3], [4], [5]], [some [1, 2], some [4]]) := by
    decide
  rw [ran, Option.map_some, Option.some.injEq, Prod.mk.injEq] at facts
  obtain ⟨sublist, complete, -, gives⟩ := exactly_once single ⟨fourSent, ran⟩ () ()
  exact ⟨n, ran, facts.1, facts.2, sublist, complete, gives⟩

end RmwOpendds.Messaging
