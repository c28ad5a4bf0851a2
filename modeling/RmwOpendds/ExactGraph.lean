import RmwOpendds.LocalGraph

/-! Exactness of the local graph. A publisher and a subscription are entered under
the handle of their DDS publisher or subscriber, which has no GUID: all of them
share one key, and only the first is entered. Clients and services use the handles
of their writer and reader. -/

namespace RmwOpendds

open Library

namespace Session

variable {GUID : Type} [LinearOrder GUID] {env : Environment GUID} {unknown : GUID}
  {s s' : Session GUID}

theorem perm_cons_eraseIdx {α : Type} {l : List α} {i : ℕ} {a : α} (known : l[i]? = some a) :
    l.Perm (a :: l.eraseIdx i) := by
  have place := (List.getElem?_eq_some_iff.mp known).1
  have same : l[i] = a := (List.getElem?_eq_some_iff.mp known).2
  rw [← same]
  exact (List.getElem_cons_eraseIdx_perm place).symm

def Alone (s : Session GUID) : SessionCall → Prop
  | .topic (.createPublisher _ _) => s.publishers = []
  | .topic (.createSubscription _ _) => s.subscriptions = []
  | _ => True

instance (s : Session GUID) : (call : SessionCall) → Decidable (s.Alone call)
  | .topic (.createPublisher _ _) => inferInstanceAs (Decidable (s.publishers = []))
  | .topic (.createSubscription _ _) => inferInstanceAs (Decidable (s.subscriptions = []))
  | .topic (.destroyPublisher _) => .isTrue trivial
  | .topic (.destroySubscription _) => .isTrue trivial
  | .service _ => .isTrue trivial

theorem createPublisher_succeeds {args : EndpointArguments} {dds : EndpointOutcome DataWriterQos}
    (step : (successfulCalls env).step s (.topic (.createPublisher args dds)) = some s') :
    ∃ pub p, pub.instanceHandle.kind = .publisher ∧
      s.node.participant.nextSerial ≤ p.nextSerial ∧
      s' = { s with
        node := ⟨(s.node.graph.addPub (Node.identities env) Participant.handle pub.instanceHandle
          pub.topicName pub.topicType).node, p⟩
        publishers := pub :: s.publishers } := by
  obtain ⟨pub, p, constructed, -, performed⟩ | ⟨p, -, performed⟩ :=
    createPublisher_cases env s args dds
  · refine ⟨pub, p, ?_, constructed.leaves.nextSerial, ?_⟩
    · have kinds := constructed.kinds
      simp only [DDSPublisher.entities, List.map_cons, List.map_nil, List.cons.injEq] at kinds
      exact kinds.2.1
    · exact (success_of_step env step performed).2.symm
  · exact absurd (success_of_step env step performed).1 Bool.false_ne_true

theorem createSubscription_succeeds {args : EndpointArguments} {dds : SubscriptionOutcome}
    (step : (successfulCalls env).step s (.topic (.createSubscription args dds)) = some s') :
    ∃ sub p, sub.instanceHandle.kind = .subscriber ∧
      s.node.participant.nextSerial ≤ p.nextSerial ∧
      s' = { s with
        node := ⟨(s.node.graph.addSub (Node.identities env) Participant.handle sub.instanceHandle
          sub.topicName sub.topicType).node, p⟩
        subscriptions := sub :: s.subscriptions } := by
  obtain ⟨sub, p, constructed, -, performed⟩ | ⟨p, -, performed⟩ :=
    createSubscription_cases env s args dds
  · refine ⟨sub, p, ?_, constructed.leaves.nextSerial, ?_⟩
    · have kinds := constructed.kinds
      simp only [DDSSubscriber.entities, List.map_cons, List.map_nil, List.cons.injEq] at kinds
      exact kinds.2.2.1
    · exact (success_of_step env step performed).2.symm
  · exact absurd (success_of_step env step performed).1 Bool.false_ne_true

section Step

variable (law : RepoidLaw env unknown) (tracked : s.Tracked env)

include law tracked

theorem tracked_createPublisher {args : EndpointArguments} {dds : EndpointOutcome DataWriterQos}
    (step : (successfulCalls env).step s (.topic (.createPublisher args dds)) = some s')
    (alone : s.publishers = []) : s'.Tracked env := by
  obtain ⟨pub, p, kind, grown, rfl⟩ := createPublisher_succeeds step
  have publications := tracked.publications
  rw [alone] at publications
  have entered := publications.addFactory (e := pub.endpoint) law
    (by simp [DDSPublisher.endpoint, kind]) .publisher
  refine ⟨?_, tracked.subscriptions.mono grown⟩
  rw [alone]
  exact entered.mono grown

theorem alone_of_exact_publisher {args : EndpointArguments} {dds : EndpointOutcome DataWriterQos}
    (step : (successfulCalls env).step s (.topic (.createPublisher args dds)) = some s')
    (exact : s'.Exact) : s.publishers = [] := by
  obtain ⟨pub, p, kind, grown, rfl⟩ := createPublisher_succeeds step
  by_contra another
  have refused := tracked.publications.refuseFactory (e := pub.endpoint) law
    (by simpa using another) (by simp [DDSPublisher.endpoint, kind]) .publisher
  have length := refused.namesAndTypes_perm.symm.trans exact.publications |>.length_eq
  simp [livePublications, serviceEndpoints] at length

theorem tracked_createSubscription {args : EndpointArguments} {dds : SubscriptionOutcome}
    (step : (successfulCalls env).step s (.topic (.createSubscription args dds)) = some s')
    (alone : s.subscriptions = []) : s'.Tracked env := by
  obtain ⟨sub, p, kind, grown, rfl⟩ := createSubscription_succeeds step
  have subscriptions := tracked.subscriptions
  rw [alone] at subscriptions
  have entered := subscriptions.addFactory (e := sub.endpoint) law
    (by simp [DDSSubscriber.endpoint, kind]) .subscriber
  refine ⟨tracked.publications.mono grown, ?_⟩
  rw [alone]
  exact entered.mono grown

theorem alone_of_exact_subscription {args : EndpointArguments} {dds : SubscriptionOutcome}
    (step : (successfulCalls env).step s (.topic (.createSubscription args dds)) = some s')
    (exact : s'.Exact) : s.subscriptions = [] := by
  obtain ⟨sub, p, kind, grown, rfl⟩ := createSubscription_succeeds step
  by_contra another
  have refused := tracked.subscriptions.refuseFactory (e := sub.endpoint) law
    (by simpa using another) (by simp [DDSSubscriber.endpoint, kind]) .subscriber
  have length := refused.namesAndTypes_perm.symm.trans exact.subscriptions |>.length_eq
  simp [liveSubscriptions, serviceEndpoints] at length

omit law in
theorem tracked_destroyPublisher {i : ℕ}
    (step : (successfulCalls env).step s (.topic (.destroyPublisher i)) = some s') :
    s'.Tracked env := by
  cases known : s.publishers[i]? with
  | none => simp [successfulCalls, sessionCall, topicCall, known] at step
  | some pub =>
    obtain ⟨-, rfl⟩ := success_of_step env step (topicCall_destroyPublisher env s known)
    have removed := tracked.publications.removeFactory
      ((perm_cons_eraseIdx known).map DDSPublisher.endpoint) .publisher
    refine ⟨?_, tracked.subscriptions.mono ?_⟩
    · exact removed.mono (Participant.nextSerial_withoutListener _ _).ge
    · exact (Participant.nextSerial_withoutListener _ _).ge

omit law in
theorem tracked_destroySubscription {i : ℕ}
    (step : (successfulCalls env).step s (.topic (.destroySubscription i)) = some s') :
    s'.Tracked env := by
  cases known : s.subscriptions[i]? with
  | none => simp [successfulCalls, sessionCall, topicCall, known] at step
  | some sub =>
    obtain ⟨-, rfl⟩ := success_of_step env step (topicCall_destroySubscription env s known)
    have removed := tracked.subscriptions.removeFactory
      ((perm_cons_eraseIdx known).map DDSSubscriber.endpoint) .subscriber
    refine ⟨tracked.publications.mono ?_, ?_⟩
    · exact (Participant.nextSerial_withoutListener _ _).ge
    · exact removed.mono (Participant.nextSerial_withoutListener _ _).ge

theorem tracked_addService {e : ServiceEndpoint} {p : Participant}
    (reader : Issued s.node.participant p .dataReader e.reader.handle)
    (writer : Issued s.node.participant p .dataWriter e.writer.handle)
    (node : s'.node = ⟨Node.withService env s.node.graph e, p⟩)
    (publishers : s'.publishers = s.publishers) (subscriptions : s'.subscriptions = s.subscriptions)
    (services : s'.serviceEndpoints.Perm (e :: s.serviceEndpoints)) : s'.Tracked env := by
  have publication := tracked.publications.addEndpoint (e := e.publication) law
    (by simp [ServiceEndpoint.publication, writer.kind]) writer.fresh writer.bound .publisher
  have subscription := tracked.subscriptions.addEndpoint (e := e.subscription) law
    (by simp [ServiceEndpoint.subscription, reader.kind]) reader.fresh reader.bound .subscriber
  refine ⟨?_, ?_⟩
  · rw [node, publishers]
    exact publication.perm (List.Perm.refl _) (services.map ServiceEndpoint.publication).symm
  · rw [node, subscriptions]
    exact subscription.perm (List.Perm.refl _) (services.map ServiceEndpoint.subscription).symm

omit law in
theorem tracked_removeService {e : ServiceEndpoint} {p : Participant}
    (node : s'.node = ⟨withoutService env s.node.graph e, p⟩)
    (same : p.nextSerial = s.node.participant.nextSerial)
    (publishers : s'.publishers = s.publishers) (subscriptions : s'.subscriptions = s.subscriptions)
    (services : s.serviceEndpoints.Perm (e :: s'.serviceEndpoints)) : s'.Tracked env := by
  have publication := tracked.publications.removeEndpoint
    (services.map ServiceEndpoint.publication) .publisher
  have subscription := tracked.subscriptions.removeEndpoint
    (services.map ServiceEndpoint.subscription) .subscriber
  refine ⟨?_, ?_⟩
  · rw [node, publishers]
    exact publication.mono same.ge
  · rw [node, subscriptions]
    exact subscription.mono same.ge

theorem tracked_createService {noHandle noObject : String} {dds : ServiceOutcome}
    {construct : EStateM String Participant ServiceEndpoint}
    {clean : EStateM String Participant PUnit} {done : RmwHandle ServiceEndpoint → Session GUID}
    (exits : Exits construct s.node.participant
      (fun e p => Issued s.node.participant p .dataReader e.reader.handle ∧
        Issued s.node.participant p .dataWriter e.writer.handle) (fun _ _ => True))
    (success : (s.perform (Node.createService env noHandle noObject dds construct clean)
      done).success = true)
    (publishers : ∀ handle, (done handle).publishers = s.publishers)
    (subscriptions : ∀ handle, (done handle).subscriptions = s.subscriptions)
    (services : ∀ e, (done ⟨.opendds, some e⟩).serviceEndpoints.Perm (e :: s.serviceEndpoints)) :
    (s.perform (Node.createService env noHandle noObject dds construct clean)
      done).session.Tracked env := by
  have created := Node.createService_exits env s.node noHandle noObject dds clean exits
  obtain ⟨_, n, ⟨e, p, reader, writer, rfl, rfl⟩, performed⟩ | ⟨_, _, _, performed⟩ :=
    perform_cases created done
  · rw [performed]
    exact tracked_addService law tracked reader writer rfl (publishers _) (subscriptions _)
      (services e)
  · rw [performed] at success
    exact absurd success (by simp)

theorem tracked_service (call : ServiceCall)
    (step : (successfulCalls env).step s (.service call) = some s') : s'.Tracked env := by
  cases call with
  | createClient args dds deleted =>
    obtain ⟨success, rfl⟩ := success_of_step env step rfl
    exact tracked_createService law tracked
      (ServiceEndpoint.construct_exits _ _ _ _ env.known args dds deleted) success
      (fun _ => rfl) (fun _ => rfl) fun e => List.Perm.refl _
  | createService args dds deleted =>
    obtain ⟨success, rfl⟩ := success_of_step env step rfl
    exact tracked_createService law tracked
      (ServiceEndpoint.construct_exits _ _ _ _ env.known args dds deleted) success
      (fun _ => rfl) (fun _ => rfl) fun e => List.perm_middle
  | destroyClient i deleted =>
    cases known : s.clients[i]? with
    | none => simp [successfulCalls, sessionCall, serviceCall, known] at step
    | some e =>
      obtain ⟨-, rfl⟩ := success_of_step env step (serviceCall_destroyClient env s deleted known)
      exact tracked_removeService tracked rfl rfl rfl rfl
        ((perm_cons_eraseIdx known).append_right s.services)
  | destroyService i =>
    cases known : s.services[i]? with
    | none => simp [successfulCalls, sessionCall, serviceCall, known] at step
    | some e =>
      obtain ⟨-, rfl⟩ := success_of_step env step (serviceCall_destroyService env s known)
      exact tracked_removeService tracked rfl rfl rfl rfl
        (((perm_cons_eraseIdx known).append_left s.clients).trans List.perm_middle)

end Step

theorem tracked_step (law : RepoidLaw env unknown) (call : SessionCall) (tracked : s.Tracked env)
    (alone : s.Alone call) (step : (successfulCalls env).step s call = some s') :
    s'.Tracked env := by
  cases call with
  | service call => exact tracked_service law tracked call step
  | topic call =>
    cases call with
    | createPublisher args dds => exact tracked_createPublisher law tracked step alone
    | destroyPublisher i => exact tracked_destroyPublisher tracked step
    | createSubscription args dds => exact tracked_createSubscription law tracked step alone
    | destroySubscription i => exact tracked_destroySubscription tracked step

theorem alone_of_exact (law : RepoidLaw env unknown) (call : SessionCall) (tracked : s.Tracked env)
    (step : (successfulCalls env).step s call = some s') (exact : s'.Exact) : s.Alone call := by
  cases call with
  | service call => trivial
  | topic call =>
    cases call with
    | createPublisher args dds => exact alone_of_exact_publisher law tracked step exact
    | createSubscription args dds => exact alone_of_exact_subscription law tracked step exact
    | destroyPublisher i => trivial
    | destroySubscription i => trivial

/-- The local graph is exact throughout a run of successful calls exactly if no
publisher is created beside another, and no subscription beside another. -/
theorem local_graph_iff (law : RepoidLaw env unknown) (calls : List SessionCall)
    (enabled : ((successfulCalls env).run calls).isSome) :
    (successfulCalls env).Throughout Exact create calls ↔
      (successfulCalls env).Along Alone create calls := by
  apply Machine.throughout_iff_along
  · exact fun s call s' tracked alone step => tracked_step law call tracked alone step
  · exact fun s tracked => tracked.exact
  · exact fun s call s' tracked step exact => alone_of_exact law call tracked step exact
  · exact tracked_create
  · exact enabled

/-- Writers and readers are numbered; everything else has the unknown GUID. -/
def sampleRepoid (handle : InstanceHandle) : ℕ :=
  match handle.kind with
  | .dataWriter => 2 * handle.serial + 1
  | .dataReader => 2 * handle.serial + 2
  | _ => 0

def graphEnvironment : Environment ℕ := { sampleEnvironment with getRepoid := sampleRepoid }

theorem graphEnvironment_law : RepoidLaw graphEnvironment 0 where
  endpoint_inj := by
    rintro ⟨kind, serial⟩ ⟨kind', serial'⟩ endpoint endpoint' same
    simp only [List.mem_cons, List.not_mem_nil, or_false] at endpoint endpoint'
    obtain rfl | rfl := endpoint <;> obtain rfl | rfl := endpoint' <;>
      simp [graphEnvironment, sampleRepoid] at same ⊢ <;> omega
  endpoint_known := by
    rintro ⟨kind, serial⟩ endpoint
    simp only [List.mem_cons, List.not_mem_nil, or_false] at endpoint
    obtain rfl | rfl := endpoint <;> simp [graphEnvironment, sampleRepoid]
  factory_unknown := by
    rintro ⟨kind, serial⟩ factory
    simp only [List.mem_cons, List.not_mem_nil, or_false] at factory
    obtain rfl | rfl := factory <;> rfl

def inTurn : List SessionCall :=
  [.topic (samplePublisher "/chatter" "String"),
    .service (.createClient sampleService serviceGranted []),
    .topic (sampleSubscription "/chatter" "String"), .topic (.destroyPublisher 0),
    .topic (samplePublisher "/talker" "String")]

theorem local_graph_iff_inTurn :
    (successfulCalls graphEnvironment).Throughout Exact create inTurn ∧
      ((successfulCalls graphEnvironment).run inTurn).map
          (fun s => (s.livePublications.map (·.topicName), s.liveSubscriptions.map (·.topicName))) =
        some (["rt/talker".toList, "rq/addRequest".toList],
          ["rt/chatter".toList, "rr/addReply".toList]) :=
  ⟨(local_graph_iff graphEnvironment_law inTurn (by decide)).mpr (by decide), by decide⟩

/-- The second of two publishers is not in the publisher cache. -/
theorem second_publisher_missing :
    ¬ ∀ (env : Environment ℕ) (unknown : ℕ), RepoidLaw env unknown →
      ∀ calls : List SessionCall, ((successfulCalls env).run calls).isSome →
        (successfulCalls env).Throughout Exact create calls := by
  intro claim
  let calls : List SessionCall :=
    [.topic (samplePublisher "/chatter" "String"), .topic (samplePublisher "/talker" "String")]
  have enabled : ((successfulCalls graphEnvironment).run calls).isSome := by decide
  have exact := claim graphEnvironment 0 graphEnvironment_law calls enabled
  obtain ⟨t, run⟩ := Option.isSome_iff_exists.mp enabled
  obtain ⟨s, first, rest⟩ := (successfulCalls graphEnvironment).runFrom_cons_eq_some.mp run
  obtain ⟨s', second, -⟩ := (successfulCalls graphEnvironment).runFrom_cons_eq_some.mp rest
  have none : (create : Session ℕ).publishers = [] := rfl
  have tracked := tracked_createPublisher graphEnvironment_law tracked_create first none
  have alone := alone_of_exact_publisher graphEnvironment_law tracked second
    ((exact.2 s first).2 s' second).head
  obtain ⟨pub, p, -, -, rfl⟩ := createPublisher_succeeds first
  exact absurd alone (List.cons_ne_nil _ _)

end Session
end RmwOpendds
