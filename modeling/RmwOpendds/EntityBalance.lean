import RmwOpendds.Session

/-! The balance of DDS entities and rmw handles. Destroying a publisher or a
subscription drops references and destroys the listener, but deletes nothing;
so does a constructor that fails. -/

namespace RmwOpendds

open Library

namespace Session

variable {GUID : Type} [LinearOrder GUID]

def liveEntities (s : Session GUID) : List Entity :=
  s.publishers.flatMap DDSPublisher.entities ++ s.subscriptions.flatMap DDSSubscriber.entities

/-- The participant contains the entities of the live handles and no others, and
every listener that is registered with one of them exists. -/
structure Balanced (s : Session GUID) : Prop where
  contained : s.node.participant.contained.Perm s.liveEntities
  listeners : ∀ e ∈ s.node.participant.contained, ∀ l, e.listener = some l →
    l ∈ s.node.participant.listeners

theorem length_liveEntities (s : Session GUID) :
    s.liveEntities.length = 2 * s.publishers.length + 3 * s.subscriptions.length := by
  simp [liveEntities, List.length_flatMap, DDSPublisher.entities, DDSSubscriber.entities, mul_comm]

theorem balanced_create : (create : Session GUID).Balanced where
  contained := .nil
  listeners := by simp [create, Node.create, Participant.create]

end Session

namespace TopicCall

/-- The call destroys nothing, and if it opens an entity, it gives a handle. -/
def Keeps (known : TypesupportIdentifiers) : TopicCall → Prop
  | .destroyPublisher _ | .destroySubscription _ => False
  | call => call.opens known → call.completes

end TopicCall

namespace Session

variable {GUID : Type} [LinearOrder GUID] {s s' : Session GUID}

theorem listeners_of_leaves {p p' : Participant} {requested : Option (StdString × StdString)}
    {added : List Entity} {new : List ℕ} (leaves : Leaves p p' requested added new)
    (old : ∀ e ∈ p.contained, ∀ l, e.listener = some l → l ∈ p.listeners)
    (fresh : ∀ e ∈ added, ∀ l, e.listener = some l → l ∈ new) :
    ∀ e ∈ p'.contained, ∀ l, e.listener = some l → l ∈ p'.listeners := by
  intro e member l registered
  rw [leaves.listeners, List.mem_append]
  rw [leaves.contained, List.mem_append] at member
  cases member with
  | inl isNew => exact .inl (fresh e isNew l registered)
  | inr isOld => exact .inr (old e isOld l registered)

theorem balanced_of_failed {p : Participant} {requested : Option (StdString × StdString)}
    {opens completes : Bool} (before : s.Balanced)
    (failed : Failed s.node.participant p requested opens completes) :
    Balanced { s with node := s.node.setParticipant p } ↔ (opens → completes) := by
  obtain ⟨added, leaves, some_iff, incomplete⟩ := failed
  have entities : p.contained = added ++ s.node.participant.contained := leaves.contained
  constructor
  · intro after opened
    have length := before.contained.length_eq
    have length' : p.contained.length = s.liveEntities.length := after.contained.length_eq
    rw [entities, List.length_append] at length'
    have nothing : added = [] := List.eq_nil_of_length_eq_zero (by omega)
    exact absurd nothing (some_iff.mpr opened)
  · intro keeps
    have nothing : added = [] := by
      by_contra some
      exact incomplete some (keeps (some_iff.mp some))
    subst nothing
    refine ⟨?_, listeners_of_leaves leaves before.listeners (by simp)⟩
    change p.contained.Perm s.liveEntities
    rw [entities]
    exact before.contained

theorem listeners_of_constructed {p p' : Participant} {requested : Option (StdString × StdString)}
    {kinds : List EntityKind} {topic : DDSTopic} {listener : Option ℕ} {entities : List Entity}
    (constructed : Constructed p p' requested kinds topic listener entities)
    (old : ∀ e ∈ p.contained, ∀ l, e.listener = some l → l ∈ p.listeners) :
    ∀ e ∈ p'.contained, ∀ l, e.listener = some l → l ∈ p'.listeners := by
  apply listeners_of_leaves constructed.leaves old
  intro e member l registered
  have own := constructed.listeners e member
  rw [registered] at own
  simpa [eq_comm] using own

variable (env : Environment GUID)

theorem balanced_createPublisher {args : EndpointArguments} {dds : EndpointOutcome DataWriterQos}
    (before : s.Balanced)
    (step : (topicCalls env).step s (.createPublisher args dds) = some s') :
    s'.Balanced ↔ TopicCall.Keeps env.known (.createPublisher args dds) := by
  obtain ⟨pub, p, constructed, complete, performed⟩ | ⟨p, failed, performed⟩ :=
    createPublisher_cases env s args dds
  · simp only [topicCalls, performed, Option.map_some, Option.some.injEq] at step
    subst step
    refine iff_of_true ⟨?_, listeners_of_constructed constructed before.listeners⟩
      fun _ => complete
    change p.contained.Perm _
    rw [constructed.leaves.contained]
    exact before.contained.append_left pub.entities
  · simp only [topicCalls, performed, Option.map_some, Option.some.injEq] at step
    subst step
    exact balanced_of_failed before failed

theorem balanced_createSubscription {args : EndpointArguments} {dds : SubscriptionOutcome}
    (before : s.Balanced)
    (step : (topicCalls env).step s (.createSubscription args dds) = some s') :
    s'.Balanced ↔ TopicCall.Keeps env.known (.createSubscription args dds) := by
  obtain ⟨sub, p, constructed, complete, performed⟩ | ⟨p, failed, performed⟩ :=
    createSubscription_cases env s args dds
  · simp only [topicCalls, performed, Option.map_some, Option.some.injEq] at step
    subst step
    refine iff_of_true ⟨?_, listeners_of_constructed constructed before.listeners⟩
      fun _ => complete
    change p.contained.Perm _
    rw [constructed.leaves.contained]
    exact (before.contained.append_left sub.entities).trans
      (List.perm_append_comm_assoc _ _ _)
  · simp only [topicCalls, performed, Option.map_some, Option.some.injEq] at step
    subst step
    exact balanced_of_failed before failed

/-- A destroyed handle takes its entities out of the balance, but not out of the participant. -/
theorem not_balanced_destroyPublisher {i : ℕ} (before : s.Balanced)
    (step : (topicCalls env).step s (.destroyPublisher i) = some s') : ¬ s'.Balanced := by
  obtain ⟨pub, known, rfl⟩ := destroyPublisher_of_step env s step
  intro after
  have length := before.contained.length_eq
  have length' := after.contained.length_eq
  have place : i < s.publishers.length := (List.getElem?_eq_some_iff.mp known).1
  rw [length_liveEntities] at length length'
  simp only [Participant.contained_withoutListener, List.length_eraseIdx_of_lt place] at length'
  omega

theorem not_balanced_destroySubscription {i : ℕ} (before : s.Balanced)
    (step : (topicCalls env).step s (.destroySubscription i) = some s') : ¬ s'.Balanced := by
  obtain ⟨sub, known, rfl⟩ := destroySubscription_of_step env s step
  intro after
  have length := before.contained.length_eq
  have length' := after.contained.length_eq
  have place : i < s.subscriptions.length := (List.getElem?_eq_some_iff.mp known).1
  rw [length_liveEntities] at length length'
  simp only [Participant.contained_withoutListener, List.length_eraseIdx_of_lt place] at length'
  omega

theorem balanced_step (call : TopicCall) (before : s.Balanced)
    (step : (topicCalls env).step s call = some s') : s'.Balanced ↔ call.Keeps env.known := by
  cases call with
  | createPublisher args dds => exact balanced_createPublisher env before step
  | createSubscription args dds => exact balanced_createSubscription env before step
  | destroyPublisher i =>
    exact iff_of_false (not_balanced_destroyPublisher env before step) id
  | destroySubscription i =>
    exact iff_of_false (not_balanced_destroySubscription env before step) id

/-- Entities and handles are balanced throughout a run exactly if the run destroys
nothing and each of its creations that opens an entity gives a handle. -/
theorem balanced_iff (calls : List TopicCall) (enabled : ((topicCalls env).run calls).isSome) :
    (topicCalls env).Throughout Balanced create calls ↔
      ∀ call ∈ calls, call.Keeps env.known := by
  rw [← Machine.along_label_iff (m := topicCalls env) enabled]
  apply Machine.throughout_iff_along
  · exact fun s call s' before keeps step => (balanced_step env call before step).mpr keeps
  · exact fun s balanced => balanced
  · exact fun s call s' before step after => (balanced_step env call before step).mp after
  · exact balanced_create
  · exact enabled

def twoOfThree : List TopicCall :=
  [samplePublisher "/chatter" "String", sampleSubscription "/chatter" "String",
    .createPublisher { sampleArguments "/chatter" "String" with topicName := none }
      ⟨true, true, ⟨true, true⟩, true, true, some ⟨sampleEntityQos, ⟨0, 0⟩⟩, true⟩]

/-- They are balanced until one of them is destroyed. -/
theorem balanced_iff_twoOfThree :
    (topicCalls sampleEnvironment).Throughout Balanced create twoOfThree ∧
      ¬ (topicCalls sampleEnvironment).Throughout Balanced create
        (twoOfThree ++ [.destroySubscription 0]) := by
  have enabled : ((topicCalls sampleEnvironment).run
      (twoOfThree ++ [.destroySubscription 0])).isSome := by decide
  refine ⟨(balanced_iff sampleEnvironment twoOfThree (by decide)).mpr ?_, fun balanced => ?_⟩
  · intro call member
    obtain rfl | rfl | rfl : call = _ ∨ call = _ ∨ call = _ := by
      simpa [twoOfThree] using member
    all_goals exact fun _ => by decide
  · exact (balanced_iff sampleEnvironment _ enabled).mp balanced (.destroySubscription 0)
      (List.mem_append_right _ (List.mem_singleton_self _))

/-- A publisher that is created and destroyed leaves its entities behind. -/
theorem destroyed_publisher_stays :
    ¬ ∀ (env : Environment ℕ) (calls : List TopicCall), ((topicCalls env).run calls).isSome →
      (topicCalls env).Throughout Balanced create calls := by
  intro claim
  let calls := [samplePublisher "/chatter" "String", .destroyPublisher 0]
  have enabled : ((topicCalls sampleEnvironment).run calls).isSome := by decide
  have balanced := claim sampleEnvironment calls enabled
  obtain ⟨t, run⟩ := Option.isSome_iff_exists.mp enabled
  obtain ⟨s, created, rest⟩ := (topicCalls sampleEnvironment).runFrom_cons_eq_some.mp run
  obtain ⟨s', destroyed, -⟩ := (topicCalls sampleEnvironment).runFrom_cons_eq_some.mp rest
  have later := balanced.2 s created
  exact not_balanced_destroyPublisher sampleEnvironment later.1 destroyed (later.2 s' destroyed)

end Session
end RmwOpendds
