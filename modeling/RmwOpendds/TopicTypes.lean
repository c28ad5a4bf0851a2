import RmwOpendds.Session

/-! The types of DDS topics. A constructor asks for a topic by name and takes the
one it finds, whatever its type, and a topic stays in the participant when its
endpoint goes: the first call that asks for a name decides the type. -/

namespace RmwOpendds

open Std Library

namespace TopicCall

variable (known : TypesupportIdentifiers)

def Agrees (call call' : TopicCall) : Prop :=
  ∀ name type type', call.requests known = some (name, type) →
    call'.requests known = some (name, type') → type = type'

def Fits (topics : ExtTreeMap StdString StdString) (call : TopicCall) : Prop :=
  ∀ name type, call.requests known = some (name, type) → topics.getD name type = type

def topicsAfter (topics : ExtTreeMap StdString StdString) (call : TopicCall) :
    ExtTreeMap StdString StdString :=
  match call.requests known with
  | none => topics
  | some (name, type) => topics.insertIfNew name type

variable {known} {topics : ExtTreeMap StdString StdString} {call call' : TopicCall}

instance : Decidable (call.Agrees known call') :=
  decidable_of_iff (∀ asked ∈ call.requests known, ∀ asked' ∈ call'.requests known,
    asked.1 = asked'.1 → asked.2 = asked'.2) (by
      constructor
      · exact fun agrees name type type' asked asked' =>
          agrees (name, type) asked (name, type') asked' rfl
      · rintro agrees ⟨name, type⟩ asked ⟨_, type'⟩ asked' rfl
        exact agrees name type type' asked asked')

theorem Agrees.symm (agrees : call.Agrees known call') : call'.Agrees known call :=
  fun name type type' asked asked' => (agrees name type' type asked' asked).symm

theorem agrees_self (call : TopicCall) : call.Agrees known call := by
  intro name type type' asked asked'
  rw [asked] at asked'
  exact (Prod.mk.inj (Option.some.inj asked')).2

theorem agrees_cons {calls : List TopicCall} :
    (∀ c ∈ call :: calls, ∀ c' ∈ call :: calls, c.Agrees known c') ↔
      (∀ c ∈ calls, call.Agrees known c) ∧ ∀ c ∈ calls, ∀ c' ∈ calls, c.Agrees known c' := by
  simp only [List.forall_mem_cons]
  constructor
  · rintro ⟨⟨-, first⟩, rest⟩
    exact ⟨first, fun c member => (rest c member).2⟩
  · rintro ⟨first, rest⟩
    exact ⟨⟨agrees_self call, first⟩, fun c member => ⟨(first c member).symm, rest c member⟩⟩

theorem fits_topicsAfter (fits : call.Fits known topics) :
    call'.Fits known (call.topicsAfter known topics) ↔
      call'.Fits known topics ∧ call.Agrees known call' := by
  unfold topicsAfter
  split
  · rename_i silent
    simp [Agrees, silent]
  · rename_i name type asked
    have own := fits name type asked
    constructor
    · intro after
      have agrees : call.Agrees known call' := by
        intro name' type₁ type₂ asked₁ asked₂
        obtain ⟨rfl, rfl⟩ := Prod.mk.inj (Option.some.inj (asked.symm.trans asked₁))
        have entry := after name type₂ asked₂
        rwa [OrderedMap.getD_insertIfNew, if_pos rfl, own] at entry
      refine ⟨fun name' type' asked' => ?_, agrees⟩
      have entry := after name' type' asked'
      rw [OrderedMap.getD_insertIfNew] at entry
      split at entry
      · rename_i same
        subst same
        rw [← agrees name type type' asked asked', own]
      · exact entry
    · rintro ⟨before, agrees⟩ name' type' asked'
      rw [OrderedMap.getD_insertIfNew]
      split
      · rename_i same
        subst same
        rw [own, agrees name type type' asked asked']
      · exact before name' type' asked'

end TopicCall

namespace Session

variable {GUID : Type} [LinearOrder GUID] (env : Environment GUID)

def made {σ α : Type} (x : EStateM String σ α) (s : σ) : Option α :=
  match x.run s with
  | .ok a _ => some a
  | .error _ _ => none

/-- The `DDSTopic` that a call constructs, whether or not it goes on to succeed. -/
def constructedTopic (s : Session GUID) : TopicCall → Option DDSTopic
  | .createPublisher args dds =>
    if dds.handleAllocated && dds.objectAllocated then
      made (DDSTopic.construct env.known args dds.topic) s.node.participant
    else none
  | .createSubscription args dds =>
    if dds.handleAllocated && dds.objectAllocated then
      made (DDSTopic.construct env.known args dds.topic) s.node.participant
    else none
  | .destroyPublisher _ | .destroySubscription _ => none

def OwnType (s : Session GUID) (call : TopicCall) : Prop :=
  ∀ topic, s.constructedTopic env call = some topic → topic.topic.typeName = topic.type

variable {s s' : Session GUID}

theorem made_construct (p : Participant) (known : TypesupportIdentifiers)
    (args : EndpointArguments) (dds : TopicOutcome) :
    made (DDSTopic.construct known args dds) p =
      (DDSTopic.requested known args dds).map fun asked =>
        ⟨asked.1, asked.2, ⟨asked.1, p.topics.getD asked.1 asked.2⟩⟩ := by
  have exits : Exits (DDSTopic.construct known args dds) p
      (fun topic _ => some topic = (DDSTopic.requested known args dds).map fun asked =>
        ⟨asked.1, asked.2, ⟨asked.1, p.topics.getD asked.1 asked.2⟩⟩)
      (fun _ _ => DDSTopic.requested known args dds = none) := by
    apply DDSTopic.exits_construct
    · exact fun _ none => none
    · intro name type asked
      rw [asked]
      rfl
  unfold made
  split
  · rename_i run
    exact exits.of_ok run
  · rename_i run
    rw [exits.of_error run]
    rfl

theorem constructedTopic_eq (s : Session GUID) (call : TopicCall) :
    s.constructedTopic env call = (call.requests env.known).map fun asked =>
      ⟨asked.1, asked.2, ⟨asked.1, s.node.participant.topics.getD asked.1 asked.2⟩⟩ := by
  cases call <;> simp only [constructedTopic, TopicCall.requests, Option.map_none] <;>
    split <;> simp [made_construct]

theorem ownType_iff (s : Session GUID) (call : TopicCall) :
    s.OwnType env call ↔ call.Fits env.known s.node.participant.topics := by
  simp only [OwnType, constructedTopic_eq, TopicCall.Fits]
  cases call.requests env.known with
  | none => simp
  | some asked => simp [Prod.ext_iff]

theorem topics_step (call : TopicCall) (step : (topicCalls env).step s call = some s') :
    s'.node.participant.topics =
      call.topicsAfter env.known s.node.participant.topics := by
  cases call with
  | createPublisher args dds =>
    obtain ⟨pub, p, constructed, -, performed⟩ | ⟨p, ⟨added, leaves, -⟩, performed⟩ :=
      createPublisher_cases env s args dds <;>
    simp only [topicCalls, performed, Option.map_some, Option.some.injEq] at step <;>
    subst step
    · exact constructed.leaves.topics
    · exact leaves.topics
  | createSubscription args dds =>
    obtain ⟨sub, p, constructed, -, performed⟩ | ⟨p, ⟨added, leaves, -⟩, performed⟩ :=
      createSubscription_cases env s args dds <;>
    simp only [topicCalls, performed, Option.map_some, Option.some.injEq] at step <;>
    subst step
    · exact constructed.leaves.topics
    · exact leaves.topics
  | destroyPublisher i =>
    obtain ⟨pub, -, rfl⟩ := destroyPublisher_of_step env s step
    exact Participant.topics_withoutListener _ _
  | destroySubscription i =>
    obtain ⟨sub, -, rfl⟩ := destroySubscription_of_step env s step
    exact Participant.topics_withoutListener _ _

/-- The invariant of the induction: the topics of the participant fit all calls to come. -/
theorem along_ownType_iff (calls : List TopicCall)
    (enabled : ((topicCalls env).runFrom s calls).isSome) :
    (topicCalls env).Along (OwnType env) s calls ↔
      (∀ call ∈ calls, call.Fits env.known s.node.participant.topics) ∧
        ∀ call ∈ calls, ∀ call' ∈ calls, call.Agrees env.known call' := by
  induction calls generalizing s with
  | nil => simp [Machine.Along]
  | cons call calls ih =>
    obtain ⟨t, run⟩ := Option.isSome_iff_exists.mp enabled
    obtain ⟨s', step, rest⟩ := (topicCalls env).runFrom_cons_eq_some.mp run
    have later := ih (s := s') (rest ▸ rfl)
    rw [topics_step env call step] at later
    simp only [Machine.Along, ownType_iff, step, Option.some.injEq, forall_eq', later]
    rw [TopicCall.agrees_cons, List.forall_mem_cons]
    constructor
    · rintro ⟨fits, after, agree⟩
      have split := fun c member => (TopicCall.fits_topicsAfter fits).mp (after c member)
      exact ⟨⟨fits, fun c member => (split c member).1⟩, fun c member => (split c member).2, agree⟩
    · rintro ⟨⟨fits, before⟩, first, agree⟩
      exact ⟨fits, fun c member =>
        (TopicCall.fits_topicsAfter fits).mpr ⟨before c member, first c member⟩, agree⟩

/-- In a run of creations and destructions, every topic that is constructed uses a
DDS topic of its own type exactly if no two creations ask for one name with two types. -/
theorem own_type_iff (calls : List TopicCall) (enabled : ((topicCalls env).run calls).isSome) :
    (topicCalls env).Along (OwnType env) create calls ↔
      ∀ call ∈ calls, ∀ call' ∈ calls, call.Agrees env.known call' := by
  refine (along_ownType_iff env calls enabled).trans (and_iff_right fun call _ name type _ => ?_)
  rfl

def twoTopics : List TopicCall :=
  [samplePublisher "/chatter" "String", samplePublisher "/count" "Int32", .destroyPublisher 1,
    sampleSubscription "/chatter" "String"]

theorem own_type_iff_twoTopics :
    (topicCalls sampleEnvironment).Along (OwnType sampleEnvironment) create twoTopics ∧
      ((topicCalls sampleEnvironment).run twoTopics).map
          (fun s => (s.publishers.length, s.subscriptions.map (·.topic.topic.typeName))) =
        some (1, ["pkg::msg::dds_::String_".toList]) :=
  ⟨(own_type_iff sampleEnvironment twoTopics (by decide)).mpr (by decide), by decide⟩

/-- The second publisher on a name takes the topic of the first, of another type. -/
theorem other_type_reused :
    ¬ ∀ (env : Environment ℕ) (calls : List TopicCall), ((topicCalls env).run calls).isSome →
      (topicCalls env).Along (OwnType env) create calls := by
  intro claim
  let calls := [samplePublisher "/chatter" "String", samplePublisher "/chatter" "Int32"]
  have enabled : ((topicCalls sampleEnvironment).run calls).isSome := rfl
  have own := (along_ownType_iff sampleEnvironment calls enabled).mp
    (claim sampleEnvironment calls enabled)
  have agrees := own.2 _ (List.mem_cons_self ..) _ (List.mem_cons_of_mem _ (List.mem_cons_self ..))
    "rt/chatter".toList "pkg::msg::dds_::String_".toList "pkg::msg::dds_::Int32_".toList
    (by decide) (by decide)
  exact absurd agrees (by decide)

end Session
end RmwOpendds
